import Mathlib.Data.List.Induction

/-!
# Folds and their history

A fold over a list is a run of a machine that reads the list.  The invariants of such a run speak
of what has been read so far.

* `foldl_history`: an invariant of the part that has been read and of the state.
* `outputs`: what a run says at each of its steps, with `outputs_append`.
-/

namespace PipeBolt
namespace Fold

universe u v w

variable {α : Type u} {β : Type v} {γ : Type w}

/-- **An invariant of a fold**, which may speak of the elements that have been read. -/
theorem foldl_history {f : β → α → β} {start : β} (P : List α → β → Prop) (hstart : P [] start)
    (hstep : ∀ past state a, P past state → P (past ++ [a]) (f state a)) (xs : List α) :
    P xs (xs.foldl f start) := by
  induction xs using List.reverseRecOn with
  | nil => exact hstart
  | append_singleton past a ih =>
    rw [List.foldl_append]
    exact hstep past _ a ih

/-- What a run says at each of its steps. -/
def outputs (f : β → α → β) (g : β → α → γ) : β → List α → List γ
  | _, [] => []
  | state, a :: xs => g state a :: outputs f g (f state a) xs

section Outputs

variable (f : β → α → β) (g : β → α → γ)

@[simp]
theorem length_outputs (xs : List α) (state : β) : (outputs f g state xs).length = xs.length := by
  induction xs generalizing state with
  | nil => rfl
  | cons a xs ih => rw [outputs, List.length_cons, ih, List.length_cons]

/-- A run that goes on says what it has said, and then what it says from there. -/
theorem outputs_append (xs ys : List α) (state : β) :
    outputs f g state (xs ++ ys) = outputs f g state xs ++ outputs f g (xs.foldl f state) ys := by
  induction xs generalizing state with
  | nil => rfl
  | cons a xs ih => rw [List.cons_append, outputs, ih, outputs, List.cons_append, List.foldl_cons]

/-- What is said at a place is told by the state of the run there. -/
theorem getElem?_outputs (before rest : List α) (a : α) (state : β) :
    (outputs f g state (before ++ a :: rest))[before.length]? =
      some (g (before.foldl f state) a) := by
  have hbefore : (outputs f g state before).length ≤ before.length :=
    Nat.le_of_eq (length_outputs f g before state)
  rw [outputs_append, List.getElem?_append_right hbefore, length_outputs, Nat.sub_self]
  rfl

end Outputs

end Fold
end PipeBolt
