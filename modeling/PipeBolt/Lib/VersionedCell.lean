import PipeBolt.Lib.Transition

/-!
# Versioned cells

A cell that is created once, at any version, and then changed only by compare-and-set: an update
names the version it replaces and makes the next one.  The cell keeps every version.

* `Step`: the operations of a cell.
* `run_labels`: the operations of a run are read off the cell it leads to.
* `run_expected`: so the versions the updates name are the versions from the first to the last but
  one, each once and in order.
-/

namespace VersionedCell

open Transition

universe u

variable {α : Type u}

/-- A created cell: its first version, what it held first, and what it held later, oldest first. -/
structure Cell (α : Type u) where
  first : Nat
  initial : α
  later : List α

namespace Cell

/-- The version of a cell. -/
def version (c : Cell α) : Nat := c.first + c.later.length

/-- What the cell holds in version `n`. -/
def at? (c : Cell α) (n : Nat) : Option α :=
  if n < c.first then none else (c.initial :: c.later)[n - c.first]?

/-- The cell with one more version. -/
def push (c : Cell α) (x : α) : Cell α := { c with later := c.later ++ [x] }

@[simp] theorem version_push (c : Cell α) (x : α) : (c.push x).version = c.version + 1 := by
  simp only [version, push, List.length_append, List.length_singleton]
  omega

theorem at?_of_lt {c : Cell α} {n : Nat} (h : n < c.first) : c.at? n = none := if_pos h

theorem at?_first_add (c : Cell α) (k : Nat) :
    c.at? (c.first + k) = (c.initial :: c.later)[k]? := by
  rw [at?, if_neg (by omega), Nat.add_sub_cancel_left]

/-- A new cell holds something in its first version only. -/
theorem at?_new (v : Nat) (x : α) (n : Nat) :
    (⟨v, x, []⟩ : Cell α).at? n = if n = v then some x else none := by
  by_cases hlt : n < v
  · rw [at?_of_lt hlt, if_neg (by omega)]
  · obtain ⟨k, rfl⟩ := Nat.exists_eq_add_of_le (Nat.le_of_not_lt hlt)
    rw [show v + k = (⟨v, x, []⟩ : Cell α).first + k from rfl, at?_first_add]
    cases k with
    | zero => simp
    | succ k => simp

/-- The versions a cell holds something in. -/
theorem at?_isSome_iff (c : Cell α) (n : Nat) :
    (c.at? n).isSome = true ↔ c.first ≤ n ∧ n ≤ c.version := by
  by_cases hn : n < c.first
  · rw [at?_of_lt hn]
    constructor
    · intro h
      exact nomatch h
    · omega
  · obtain ⟨k, rfl⟩ := Nat.exists_eq_add_of_le (Nat.le_of_not_lt hn)
    have hk : (c.initial :: c.later)[k]?.isSome = true ↔ k < c.later.length + 1 := by
      simp only [isSome_getElem?, List.length_cons]
    rw [at?_first_add, hk, version]
    omega

/-- A new version holds what was written, and the others what they held. -/
theorem at?_push (c : Cell α) (x : α) (n : Nat) :
    (c.push x).at? n = if n = c.version + 1 then some x else c.at? n := by
  by_cases hn : n < c.first
  · have hne : n ≠ c.version + 1 := by
      unfold version
      omega
    rw [if_neg hne, at?_of_lt hn, at?_of_lt (c := c.push x) hn]
  · obtain ⟨k, rfl⟩ := Nat.exists_eq_add_of_le (Nat.le_of_not_lt hn)
    have hpush : (c.push x).at? (c.first + k) = (c.initial :: c.later ++ [x])[k]? :=
      at?_first_add (c.push x) k
    rw [hpush, at?_first_add, List.getElem?_append, List.length_cons, version]
    by_cases hold : k < c.later.length + 1
    · rw [if_pos hold, if_neg (by omega)]
    · rw [if_neg hold]
      by_cases hnew : k = c.later.length + 1
      · rw [if_pos (by omega), hnew, Nat.sub_self]
        rfl
      · rw [if_neg (by omega), List.getElem?_eq_none, List.getElem?_eq_none]
        · rw [List.length_cons]
          omega
        · rw [List.length_singleton]
          omega

/-- What a cell has held stays where it is. -/
theorem at?_push_of_eq_some {c : Cell α} {n : Nat} {x : α} (h : c.at? n = some x) (y : α) :
    (c.push y).at? n = some x := by
  have hn := (at?_isSome_iff c n).mp (h ▸ rfl)
  rw [at?_push, if_neg (by omega), h]

/-- The new version holds what was written. -/
theorem at?_push_version (c : Cell α) (x : α) : (c.push x).at? (c.push x).version = some x := by
  rw [at?_push, version_push, if_pos rfl]

end Cell

/-- An operation: the creation of a cell, or an update that names the version it replaces. -/
inductive Op (α : Type u) where
  | create (version : Nat) (x : α)
  | update (expected : Nat) (x : α)

/-- The version an operation expects. -/
def Op.expected? : Op α → Option Nat
  | .create _ _ => none
  | .update expected _ => some expected

/-- The version an operation creates a cell at. -/
def Op.created? : Op α → Option Nat
  | .create version _ => some version
  | .update _ _ => none

/-- The operations that succeed. -/
inductive Step : Option (Cell α) → Op α → Option (Cell α) → Prop
  | create (version : Nat) (x : α) : Step none (.create version x) (some ⟨version, x, []⟩)
  | update (c : Cell α) (x : α) : Step (some c) (.update c.version x) (some (c.push x))

/-- The updates that lead from one cell to another. -/
theorem run_labels_some {c : Cell α} {es : List (Edge (Option (Cell α)) (Op α))}
    {o : Option (Cell α)} (h : Run Step (some c) es o) :
    ∃ xs, o = some { c with later := c.later ++ xs } ∧
      es.map Edge.label = xs.mapIdx fun i x => .update (c.version + i) x := by
  generalize hs : some c = s at h
  induction h generalizing c with
  | nil =>
    refine ⟨[], ?_, rfl⟩
    rw [List.append_nil, hs]
  | cons hstep _ ih =>
    cases hstep with
    | create => exact nomatch hs
    | update c' x =>
      cases hs
      obtain ⟨xs, ho, hlabels⟩ := ih rfl
      refine ⟨x :: xs, ?_, ?_⟩
      · rw [ho, Cell.push, List.append_assoc, List.singleton_append]
      · rw [List.map_cons, hlabels, List.mapIdx_cons, Cell.version_push]
        simp only [Nat.add_zero, Nat.add_assoc, Nat.add_comm 1]

/-- The operations of a run are read off the cell it leads to. -/
theorem run_labels {es : List (Edge (Option (Cell α)) (Op α))} {o : Option (Cell α)}
    (h : Run Step none es o) :
    es.map Edge.label = o.elim [] fun d =>
      .create d.first d.initial :: d.later.mapIdx fun i x => .update (d.first + i) x := by
  cases h with
  | nil => rfl
  | cons hstep hrun =>
    cases hstep with
    | create version x =>
      obtain ⟨xs, rfl, hlabels⟩ := run_labels_some hrun
      rw [List.map_cons, hlabels]
      rfl

/-- The versions the updates of a run name. -/
theorem run_expected {es : List (Edge (Option (Cell α)) (Op α))} {o : Option (Cell α)}
    (h : Run Step none es o) :
    (es.map Edge.label).filterMap Op.expected? =
      o.elim [] fun d => List.range' d.first d.later.length := by
  rw [run_labels h]
  cases o with
  | none => rfl
  | some d =>
    have hmap : ∀ (n : Nat) (xs : List α),
        (xs.mapIdx fun i x => Op.update (n + i) x).filterMap Op.expected? =
          List.range' n xs.length := by
      intro n xs
      induction xs generalizing n with
      | nil => rfl
      | cons x xs ih =>
        have htail := ih (n + 1)
        simp only [Nat.add_assoc, Nat.add_comm 1] at htail
        rw [List.mapIdx_cons, List.filterMap_cons, htail, List.length_cons, List.range'_succ]
        rfl
    exact hmap d.first d.later

/-- A run creates its cell once, at the first version. -/
theorem run_created {es : List (Edge (Option (Cell α)) (Op α))} {o : Option (Cell α)}
    (h : Run Step none es o) :
    (es.map Edge.label).filterMap Op.created? = o.elim [] fun d => [d.first] := by
  rw [run_labels h]
  cases o with
  | none => rfl
  | some d =>
    have hnone : ∀ op ∈ d.later.mapIdx (fun i x => Op.update (d.first + i) x),
        op.created? = none := by
      intro op hop
      obtain ⟨i, hi, rfl⟩ := List.mem_mapIdx.mp hop
      rfl
    rw [Option.elim_some, List.filterMap_cons, List.filterMap_eq_nil_iff.mpr hnone]
    rfl

end VersionedCell
