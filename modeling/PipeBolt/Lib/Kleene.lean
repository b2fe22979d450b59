import Mathlib.Data.List.Forall2

/-!
# Conditions without a truth value

A condition may be true, false or have no truth value.  The strong connectives of Kleene give a
conjunction and a disjunction their truth values whatever the order of the members: one false
member makes a conjunction false, also where another has no truth value.  An evaluation from left
to right that stops early depends on the order, but only in whether it fails: where it yields a
truth value, that is the one of the connective.

* `all_perm`, `any_perm`, `not_all`, `not_any`: the laws of the connectives.
* `Agrees`: an evaluation that yields no other truth value than the given one.
* `agrees_evalAll`, `agrees_evalAny`: short-circuit evaluation agrees with the connectives.
-/

namespace Kleene

universe u

/-! ## Connectives -/

/-- The conjunction. -/
def all (xs : List (Option Bool)) : Option Bool :=
  if some false ∈ xs then some false else if none ∈ xs then none else some true

/-- The disjunction. -/
def any (xs : List (Option Bool)) : Option Bool :=
  if some true ∈ xs then some true else if none ∈ xs then none else some false

/-- The negation. -/
def not (x : Option Bool) : Option Bool := x.map Bool.not

section Laws

variable {xs ys : List (Option Bool)}

theorem all_eq_false (h : some false ∈ xs) : all xs = some false := if_pos h

theorem any_eq_true (h : some true ∈ xs) : any xs = some true := if_pos h

theorem all_eq_true (h : ∀ x ∈ xs, x = some true) : all xs = some true := by
  have hfalse : some false ∉ xs := fun hmem => nomatch h _ hmem
  have hnone : none ∉ xs := fun hmem => nomatch h _ hmem
  rw [all, if_neg hfalse, if_neg hnone]

theorem any_eq_false (h : ∀ x ∈ xs, x = some false) : any xs = some false := by
  have htrue : some true ∉ xs := fun hmem => nomatch h _ hmem
  have hnone : none ∉ xs := fun hmem => nomatch h _ hmem
  rw [any, if_neg htrue, if_neg hnone]

/-- The order of the members does not matter. -/
theorem all_perm (h : xs.Perm ys) : all xs = all ys := by
  simp only [all, h.mem_iff]

theorem any_perm (h : xs.Perm ys) : any xs = any ys := by
  simp only [any, h.mem_iff]

theorem mem_map_not {b : Bool} : some b ∈ xs.map not ↔ some (!b) ∈ xs := by
  rw [List.mem_map]
  constructor
  · rintro ⟨x, hx, hnot⟩
    obtain ⟨c, rfl, rfl⟩ := Option.map_eq_some_iff.mp hnot
    rwa [Bool.not_not]
  · intro h
    exact ⟨_, h, congrArg some (Bool.not_not b)⟩

theorem none_mem_map_not : none ∈ xs.map not ↔ none ∈ xs := by
  rw [List.mem_map]
  constructor
  · rintro ⟨x, hx, hnot⟩
    rwa [Option.map_eq_none_iff.mp hnot] at hx
  · intro h
    exact ⟨none, h, rfl⟩

/-- De Morgan. -/
theorem not_all : not (all xs) = any (xs.map not) := by
  simp only [all, any, mem_map_not, none_mem_map_not, Bool.not_true]
  by_cases hfalse : some false ∈ xs
  · rw [if_pos hfalse, if_pos hfalse]
    rfl
  · rw [if_neg hfalse, if_neg hfalse]
    by_cases hnone : none ∈ xs
    · rw [if_pos hnone, if_pos hnone]
      rfl
    · rw [if_neg hnone, if_neg hnone]
      rfl

theorem not_any : not (any xs) = all (xs.map not) := by
  simp only [all, any, mem_map_not, none_mem_map_not, Bool.not_false]
  by_cases htrue : some true ∈ xs
  · rw [if_pos htrue, if_pos htrue]
    rfl
  · rw [if_neg htrue, if_neg htrue]
    by_cases hnone : none ∈ xs
    · rw [if_pos hnone, if_pos hnone]
      rfl
    · rw [if_neg hnone, if_neg hnone]
      rfl

end Laws

/-! ## Short-circuit evaluation -/

section Evaluation

variable {ε : Type u}

/-- A conjunction from left to right, up to the first member that is false or fails. -/
def evalAll : List (Except ε Bool) → Except ε Bool
  | [] => .ok true
  | x :: xs => do
    if !(← x) then return false
    else evalAll xs

/-- A disjunction from left to right, up to the first member that is true or fails. -/
def evalAny : List (Except ε Bool) → Except ε Bool
  | [] => .ok false
  | x :: xs => do
    if ← x then return true
    else evalAny xs

/-- An evaluation yields no other truth value than the given one. -/
def Agrees (x : Except ε Bool) (value : Option Bool) : Prop := ∀ b, x = .ok b → value = some b

variable {xs : List (Except ε Bool)} {values : List (Option Bool)}

theorem Agrees.toOption (x : Except ε Bool) : Agrees x x.toOption := by
  rintro b rfl
  rfl

theorem Agrees.not {x : Except ε Bool} {value : Option Bool} (h : Agrees x value) :
    Agrees (do return !(← x)) (Kleene.not value) := by
  intro b hb
  cases x with
  | error e => cases hb
  | ok c =>
    rw [h c rfl, ← Except.ok.inj hb]
    rfl

/-- A conjunction that is evaluated to a truth value has that truth value: where it stopped, a
member is false, and where it did not, all are true. -/
theorem agrees_evalAll (h : List.Forall₂ Agrees xs values) : Agrees (evalAll xs) (all values) := by
  intro b hb
  cases b with
  | false =>
    refine all_eq_false ?_
    induction h with
    | nil => cases hb
    | @cons x value xs values hx _ ih =>
      cases x with
      | error e => cases hb
      | ok c =>
        cases c with
        | false => exact List.mem_cons.mpr (.inl (hx false rfl).symm)
        | true => exact List.mem_cons_of_mem _ (ih hb)
  | true =>
    refine all_eq_true ?_
    induction h with
    | nil => exact fun _ hmem => (nomatch hmem)
    | @cons x value xs values hx _ ih =>
      cases x with
      | error e => cases hb
      | ok c =>
        cases c with
        | false => cases hb
        | true => exact List.forall_mem_cons.mpr ⟨hx true rfl, ih hb⟩

theorem agrees_evalAny (h : List.Forall₂ Agrees xs values) : Agrees (evalAny xs) (any values) := by
  intro b hb
  cases b with
  | true =>
    refine any_eq_true ?_
    induction h with
    | nil => cases hb
    | @cons x value xs values hx _ ih =>
      cases x with
      | error e => cases hb
      | ok c =>
        cases c with
        | true => exact List.mem_cons.mpr (.inl (hx true rfl).symm)
        | false => exact List.mem_cons_of_mem _ (ih hb)
  | false =>
    refine any_eq_false ?_
    induction h with
    | nil => exact fun _ hmem => (nomatch hmem)
    | @cons x value xs values hx _ ih =>
      cases x with
      | error e => cases hb
      | ok c =>
        cases c with
        | true => cases hb
        | false => exact List.forall_mem_cons.mpr ⟨hx false rfl, ih hb⟩

/-- Nothing fails where no member does. -/
theorem evalAll_isOk (h : ∀ x ∈ xs, ∃ b, x = .ok b) : ∃ b, evalAll xs = .ok b := by
  induction xs with
  | nil => exact ⟨true, rfl⟩
  | cons x xs ih =>
    obtain ⟨⟨c, rfl⟩, hrest⟩ := List.forall_mem_cons.mp h
    cases c with
    | false => exact ⟨false, rfl⟩
    | true => exact ih hrest

theorem evalAny_isOk (h : ∀ x ∈ xs, ∃ b, x = .ok b) : ∃ b, evalAny xs = .ok b := by
  induction xs with
  | nil => exact ⟨false, rfl⟩
  | cons x xs ih =>
    obtain ⟨⟨c, rfl⟩, hrest⟩ := List.forall_mem_cons.mp h
    cases c with
    | true => exact ⟨true, rfl⟩
    | false => exact ih hrest

end Evaluation

end Kleene
