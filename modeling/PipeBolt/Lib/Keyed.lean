import Mathlib.Data.List.Nodup

/-!
# Lists with keys

Lists whose elements are looked up by a key, and tables: lists in which no two rows have the same
key, by construction.

* `lookup`: the first element with a key.
* `lookup_of_nodup`: where keys are unique, an element is found under its own key.
* `lookup_agrees_iff`: every element finds its own value exactly when equal keys have equal values.
* `countP_le_one`: where keys are unique, a property that determines the key counts one at most.
* `firsts`: the distinct keys of a list in order, and the first of them with a property.
* `Table`: rows with unique keys, with the insertion and the replacement of a row.
-/

namespace Keyed

universe u v w

variable {α : Type u} {β : Type v} {κ : Type w} [DecidableEq κ]

/-! ## Lookup -/

/-- The first element with the key `k`. -/
def lookup (key : α → κ) (k : κ) (xs : List α) : Option α :=
  xs.find? fun x => decide (key x = k)

section Lookup

variable {key : α → κ} {k : κ} {x : α} {xs : List α}

theorem mem_of_lookup (h : lookup key k xs = some x) : x ∈ xs :=
  List.mem_of_find?_eq_some h

theorem key_of_lookup (h : lookup key k xs = some x) : key x = k :=
  of_decide_eq_true (List.find?_some (p := fun x => decide (key x = k)) h)

theorem lookup_eq_none_iff : lookup key k xs = none ↔ ∀ x ∈ xs, key x ≠ k := by
  rw [lookup, List.find?_eq_none]
  simp

/-- Every element has a first element with its key. -/
theorem exists_lookup (key : α → κ) (hx : x ∈ xs) : ∃ y, lookup key (key x) xs = some y := by
  rw [← Option.isSome_iff_exists, Option.isSome_iff_ne_none]
  exact fun h => lookup_eq_none_iff.mp h x hx rfl

/-- Where keys are unique, an element is found under its own key. -/
theorem lookup_of_nodup (hnodup : (xs.map key).Nodup) (hx : x ∈ xs) :
    lookup key (key x) xs = some x := by
  obtain ⟨y, hy⟩ := exists_lookup key hx
  rw [hy, List.inj_on_of_nodup_map hnodup (mem_of_lookup hy) hx (key_of_lookup hy)]

/-- Every element finds its own value exactly when equal keys have equal values. -/
theorem lookup_agrees_iff (val : α → β) :
    (∀ x ∈ xs, (lookup key (key x) xs).map val = some (val x)) ↔
      ∀ x ∈ xs, ∀ y ∈ xs, key x = key y → val x = val y := by
  constructor
  · intro h x hx y hy hkey
    have hval : some (val x) = some (val y) := by
      rw [← h x hx, ← h y hy, hkey]
    exact Option.some.inj hval
  · intro h x hx
    obtain ⟨y, hy⟩ := exists_lookup key hx
    rw [hy, Option.map_some, h y (mem_of_lookup hy) x hx (key_of_lookup hy)]

omit [DecidableEq κ] in
/-- Where keys are unique, a property that determines the key holds of one element at most. -/
theorem countP_le_one {p : α → Bool} (hnodup : (xs.map key).Nodup)
    (hp : ∀ x y, p x = true → p y = true → key x = key y) : xs.countP p ≤ 1 := by
  induction xs with
  | nil => exact Nat.zero_le 1
  | cons x xs ih =>
    rw [List.map_cons, List.nodup_cons] at hnodup
    by_cases hx : p x = true
    -- A second hit would have the key of the first.
    · have hnone : xs.countP p = 0 := by
        rw [List.countP_eq_zero]
        intro y hy hpy
        exact hnodup.1 (List.mem_map.mpr ⟨y, hy, hp y x hpy hx⟩)
      have hone : (x :: xs).countP p = 1 := by
        rw [List.countP_cons_of_pos hx, hnone]
      exact Nat.le_of_eq hone
    · rw [List.countP_cons_of_neg hx]
      exact ih hnodup.2

end Lookup

/-! ## Searches -/

omit [DecidableEq κ] in
theorem findSome?_congr {f g : α → Option β} {xs : List α} (h : ∀ x ∈ xs, f x = g x) :
    xs.findSome? f = xs.findSome? g := by
  induction xs with
  | nil => rfl
  | cons x xs ih =>
    obtain ⟨hx, hxs⟩ := List.forall_mem_cons.mp h
    rw [List.findSome?_cons, List.findSome?_cons, hx, ih hxs]

omit [DecidableEq κ] in
/-- A search that also computes finds its hit where the plain search does. -/
theorem findSome?_eq_bind_find? {γ : Type w} (f : α → Option β) (g : α → β → γ) (xs : List α) :
    (xs.findSome? fun x => (f x).map (g x)) =
      (xs.find? fun x => (f x).isSome).bind fun x => (f x).map (g x) := by
  induction xs with
  | nil => rfl
  | cons x xs ih =>
    rw [List.findSome?_cons, List.find?_cons]
    cases hx : f x with
    | none => simpa using ih
    | some y => simp [hx]

/-! ## Keys in order of their first occurrence -/

section Firsts

variable {p : κ → Bool} {seen keys : List κ}

/-- The keys of a list that have not been seen, each at its first occurrence. -/
def firsts : List κ → List κ → List κ
  | _, [] => []
  | seen, k :: keys => if k ∈ seen then firsts seen keys else k :: firsts (k :: seen) keys

theorem mem_of_mem_firsts {k : κ} (h : k ∈ firsts seen keys) : k ∈ keys := by
  induction keys generalizing seen with
  | nil => exact h
  | cons l keys ih =>
    rw [firsts] at h
    by_cases hl : l ∈ seen
    · rw [if_pos hl] at h
      exact List.mem_cons_of_mem _ (ih h)
    · rw [if_neg hl] at h
      rcases List.mem_cons.mp h with rfl | h
      · exact List.mem_cons_self
      · exact List.mem_cons_of_mem _ (ih h)

/-- Of the distinct keys of a list, the first with a property is the first with it in the whole
list, when none seen before has it. -/
theorem find?_firsts (hseen : ∀ k ∈ seen, p k = false) :
    (firsts seen keys).find? p = keys.find? p := by
  induction keys generalizing seen with
  | nil => rfl
  | cons k keys ih =>
    rw [firsts]
    by_cases hk : k ∈ seen
    · have hneg : ¬ p k = true := by simp [hseen k hk]
      rw [if_pos hk, ih hseen, List.find?_cons_of_neg hneg]
    · rw [if_neg hk]
      cases hp : p k with
      | true => rw [List.find?_cons_of_pos hp, List.find?_cons_of_pos hp]
      | false =>
        have hseen' : ∀ l ∈ k :: seen, p l = false := by
          intro l hl
          rcases List.mem_cons.mp hl with rfl | hl
          · exact hp
          · exact hseen l hl
        have hneg : ¬ p k = true := by simp [hp]
        rw [List.find?_cons_of_neg hneg, List.find?_cons_of_neg hneg, ih hseen']

/-- The first distinct key with a property is the key of the first element whose key has it. -/
theorem find?_firsts_map (key : α → κ) (xs : List α) :
    (firsts [] (xs.map key)).find? p = (xs.find? fun x => p (key x)).map key := by
  have hnone : ∀ k ∈ ([] : List κ), p k = false := fun _ h => absurd h List.not_mem_nil
  rw [find?_firsts hnone, List.find?_map]
  rfl

end Firsts

/-! ## Tables -/

/-- Rows with unique keys. -/
structure Table (key : α → κ) where
  rows : List α
  nodup : (rows.map key).Nodup

namespace Table

variable {key : α → κ}

def empty : Table key := ⟨[], List.nodup_nil⟩

/-- The row with the key `k`. -/
def find? (table : Table key) (k : κ) : Option α := lookup key k table.rows

theorem find?_eq_some_iff {table : Table key} {k : κ} {x : α} :
    table.find? k = some x ↔ x ∈ table.rows ∧ key x = k := by
  constructor
  · exact fun h => ⟨mem_of_lookup h, key_of_lookup h⟩
  · rintro ⟨hx, rfl⟩
    exact lookup_of_nodup table.nodup hx

theorem find?_eq_none_iff {table : Table key} {k : κ} :
    table.find? k = none ↔ ∀ x ∈ table.rows, key x ≠ k :=
  lookup_eq_none_iff

/-- A table with one more row, of a new key. -/
def insert (table : Table key) (x : α) (hfresh : table.find? (key x) = none) : Table key where
  rows := table.rows ++ [x]
  nodup := by
    rw [List.map_append, List.map_singleton, List.nodup_append]
    refine ⟨table.nodup, List.nodup_singleton _, ?_⟩
    rintro k hk _ hx rfl
    obtain ⟨y, hy, hkey⟩ := List.mem_map.mp hk
    exact find?_eq_none_iff.mp hfresh y hy (hkey.trans (List.mem_singleton.mp hx))

@[simp] theorem rows_insert (table : Table key) (x : α)
    (hfresh : table.find? (key x) = none) : (table.insert x hfresh).rows = table.rows ++ [x] := rfl

/-- The table after the row with the key of `x` is replaced by `x`. -/
def replace (table : Table key) (x : α) : Table key where
  rows := table.rows.map fun y => if key y = key x then x else y
  nodup := by
    have hkeys : (table.rows.map fun y => if key y = key x then x else y).map key =
        table.rows.map key := by
      rw [List.map_map]
      refine List.map_congr_left fun y _ => ?_
      by_cases hy : key y = key x
      · simp [hy]
      · simp [hy]
    rw [hkeys]
    exact table.nodup

/-- A new row is found under its key, and the others as before. -/
theorem find?_insert (table : Table key) (x : α) (hfresh : table.find? (key x) = none) (k : κ) :
    (table.insert x hfresh).find? k = if key x = k then some x else table.find? k := by
  by_cases hk : key x = k
  · rw [if_pos hk, find?_eq_some_iff]
    exact ⟨List.mem_append_right _ (List.mem_singleton_self x), hk⟩
  · rw [if_neg hk, find?, lookup, rows_insert, List.find?_append, List.find?_cons_of_neg (by simpa),
      List.find?_nil, Option.or_none]
    rfl

/-- A replaced row is found under its key, and the others as before. -/
theorem find?_replace {table : Table key} {x y : α} (hy : table.find? (key x) = some y) (k : κ) :
    (table.replace x).find? k = if key x = k then some x else table.find? k := by
  obtain ⟨hmem, hkey⟩ := find?_eq_some_iff.mp hy
  by_cases hk : key x = k
  · rw [if_pos hk, find?_eq_some_iff]
    exact ⟨List.mem_map.mpr ⟨y, hmem, if_pos hkey⟩, hk⟩
  · rw [if_neg hk]
    refine Option.ext fun z => ?_
    rw [find?_eq_some_iff, find?_eq_some_iff, replace, List.mem_map]
    constructor
    · rintro ⟨⟨w, hw, rfl⟩, hz⟩
      by_cases hwx : key w = key x
      · rw [if_pos hwx] at hz
        exact absurd hz hk
      · rw [if_neg hwx] at hz ⊢
        exact ⟨hw, hz⟩
    · rintro ⟨hz, rfl⟩
      exact ⟨⟨z, hz, if_neg (Ne.symm hk)⟩, rfl⟩

/-- The table after the row with the key `k` is changed, under the same key. -/
def modify (table : Table key) (k : κ) (f : α → α) (hf : ∀ x, key (f x) = key x) : Table key where
  rows := table.rows.map fun x => if key x = k then f x else x
  nodup := by
    have hkeys : (table.rows.map fun x => if key x = k then f x else x).map key =
        table.rows.map key := by
      rw [List.map_map]
      refine List.map_congr_left fun x _ => ?_
      by_cases hx : key x = k
      · simp [hx, hf]
      · simp [hx]
    rw [hkeys]
    exact table.nodup

/-- The changed row is found under its key, and the others as before. -/
theorem find?_modify (table : Table key) {k : κ} {f : α → α} (hf : ∀ x, key (f x) = key x)
    (l : κ) : (table.modify k f hf).find? l =
      if l = k then (table.find? k).map f else table.find? l := by
  have hlookup : ∀ xs : List α, lookup key l (xs.map fun x => if key x = k then f x else x) =
      if l = k then (lookup key k xs).map f else lookup key l xs := by
    intro xs
    induction xs with
    | nil => by_cases hl : l = k <;> simp [lookup, hl]
    | cons x xs ih =>
      simp only [lookup, List.map_cons, List.find?_cons] at ih ⊢
      by_cases hx : key x = k
      · by_cases hl : l = k
        · simp [hx, hl, hf]
        · have hne : key x ≠ l := fun h => hl (h.symm.trans hx)
          simp [hx, hl, hf, Ne.symm hl, ih]
      · by_cases hl : l = k
        · simpa [hx, hl] using ih
        · by_cases hxl : key x = l
          · simp [hl, hxl]
          · simpa [hx, hl, hxl] using ih
  exact hlookup table.rows

end Table

/-- A search by key finds corresponding elements in two lists whose elements have the same keys one
by one. -/
theorem find?_of_forall₂ {α β : Type*} {r : α → β → Prop} {p : α → Bool} {q : β → Bool}
    (hkey : ∀ x y, r x y → p x = q y) {xs : List α} {ys : List β} (h : List.Forall₂ r xs ys) {x : α}
    (hx : xs.find? p = some x) : ∃ y, ys.find? q = some y ∧ r x y := by
  induction h with
  | nil => cases hx
  | @cons a b as bs hab _ ih =>
    rw [List.find?_cons] at hx
    rw [List.find?_cons, ← hkey a b hab]
    cases hp : p a with
    | true =>
      rw [hp] at hx
      obtain rfl := Option.some.inj hx
      exact ⟨b, rfl, hab⟩
    | false =>
      rw [hp] at hx
      exact ih hx

end Keyed
