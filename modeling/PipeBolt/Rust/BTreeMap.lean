import Mathlib.Data.List.Nodup
import Mathlib.Data.String.Basic
import Mathlib.Order.Bounds.Basic
import PipeBolt.Lib.Fold

/-!
# Ordered maps

`BTreeMap<String, V>` as the list of its entries in key order.
-/

namespace PipeBolt
namespace Rust

/-- `BTreeMap<String, V>`. -/
abbrev BTreeMap (α : Type) := List (String × α)

namespace BTreeMap

variable {α : Type}

/-- `BTreeMap::get`. -/
def get (map : BTreeMap α) (key : String) : Option α :=
  (map.find? fun entry => entry.1 == key).map Prod.snd

/-- `BTreeMap::contains_key`. -/
def containsKey (map : BTreeMap α) (key : String) : Bool := map.any fun entry => entry.1 == key

/-- `BTreeMap::insert`. -/
def insert (key : String) (value : α) : BTreeMap α → BTreeMap α
  | [] => [(key, value)]
  | (k, v) :: entries =>
    if key < k then (key, value) :: (k, v) :: entries
    else if key = k then (key, value) :: entries
    else (k, v) :: insert key value entries

/-- `BTreeMap::extend`. -/
def extend (map entries : BTreeMap α) : BTreeMap α :=
  entries.foldl (fun map entry => map.insert entry.1 entry.2) map

/-- The map after `BTreeMap::remove`. -/
def remove (map : BTreeMap α) (key : String) : BTreeMap α :=
  map.filter fun entry => entry.1 != key

theorem get_remove_self (map : BTreeMap α) (key : String) : (map.remove key).get key = none := by
  rw [get, Option.map_eq_none_iff, List.find?_eq_none]
  intro entry hentry
  have hne := (List.mem_filter.mp hentry).2
  rw [bne_iff_ne] at hne
  rw [beq_iff_eq]
  exact hne

theorem get_remove_of_ne (map : BTreeMap α) {key k : String} (h : k ≠ key) :
    (map.remove key).get k = map.get k := by
  rw [get, get, remove]
  congr 1
  induction map with
  | nil => rfl
  | cons entry entries ih =>
    by_cases hkey : entry.1 = key
    · have hk : (entry.1 == k) = false := beq_eq_false_iff_ne.mpr fun he => h (he ▸ hkey)
      rw [List.filter_cons, if_neg (by simp [hkey]), ih, List.find?_cons, hk]
    · rw [List.filter_cons, if_pos (by simp [hkey]), List.find?_cons, List.find?_cons, ih]

/-- The value of a key is the one that was inserted last. -/
theorem get_insert (map : BTreeMap α) (key : String) (value : α) (k : String) :
    (map.insert key value).get k = if key = k then some value else map.get k := by
  induction map with
  | nil => by_cases hk : key = k <;> simp [insert, get, hk]
  | cons entry entries ih =>
    obtain ⟨l, v⟩ := entry
    rw [get] at ih
    by_cases hlt : key < l
    · rw [insert, if_pos hlt]
      by_cases hk : key = k <;> simp [get, hk]
    · by_cases heq : key = l
      · rw [insert, if_neg hlt, if_pos heq, ← heq]
        by_cases hk : key = k <;> simp [get, hk]
      · rw [insert, if_neg hlt, if_neg heq, get, List.find?_cons]
        by_cases hl : l = k
        · have hk : key ≠ k := fun hk => heq (hk.trans hl.symm)
          simp [get, hl, hk]
        · have hfalse : (l == k) = false := beq_eq_false_iff_ne.mpr hl
          rw [hfalse]
          refine ih.trans ?_
          simp [get, hl]

/-- An insertion adds its key. -/
theorem mem_keys_insert {key : String} {value : α} {map : BTreeMap α} {k : String} :
    k ∈ (map.insert key value).map Prod.fst ↔ k = key ∨ k ∈ map.map Prod.fst := by
  induction map with
  | nil => simp [insert]
  | cons entry entries ih =>
      obtain ⟨l, v⟩ := entry
      rw [insert]
      by_cases hlt : key < l
      · rw [if_pos hlt]
        simp
      · by_cases heq : key = l
        · rw [if_neg hlt, if_pos heq]
          simp [heq]
        · rw [if_neg hlt, if_neg heq, List.map_cons, List.mem_cons, ih, List.map_cons,
            List.mem_cons]
          exact or_left_comm

/-- The value of a key after some insertions is the one that was inserted last. -/
theorem get_foldl_insert (entries : List (String × α)) (map : BTreeMap α) (key : String) :
    (entries.foldl (fun map entry => map.insert entry.1 entry.2) map).get key =
      (entries.reverse.lookup key).or (map.get key) := by
  induction entries generalizing map with
  | nil => rfl
  | cons entry entries ih =>
    obtain ⟨l, v⟩ := entry
    rw [List.foldl_cons, ih, get_insert, List.reverse_cons, List.lookup_append, Option.or_assoc]
    by_cases hkey : l = key
    · simp [hkey]
    · have hfalse : (key == l) = false := beq_eq_false_iff_ne.mpr (Ne.symm hkey)
      simp [List.lookup_cons, hkey, hfalse]

/-- The entries stand in the order of their keys. -/
def Ordered (map : BTreeMap α) : Prop := map.Pairwise fun a b => a.1 < b.1

theorem ordered_nil : Ordered ([] : BTreeMap α) := .nil

/-- An insertion keeps the order. -/
theorem Ordered.insert {map : BTreeMap α} (h : map.Ordered) (key : String) (value : α) :
    (map.insert key value).Ordered := by
  induction map with
  | nil => exact List.pairwise_singleton _ _
  | cons entry entries ih =>
    obtain ⟨l, v⟩ := entry
    obtain ⟨hhead, htail⟩ := List.pairwise_cons.mp h
    by_cases hlt : key < l
    · rw [BTreeMap.insert, if_pos hlt]
      refine List.pairwise_cons.mpr ⟨fun other hother => ?_, h⟩
      rcases List.mem_cons.mp hother with rfl | hmem
      · exact hlt
      · exact lt_trans hlt (hhead other hmem)
    · by_cases heq : key = l
      · rw [BTreeMap.insert, if_neg hlt, if_pos heq]
        exact List.pairwise_cons.mpr ⟨fun other hother => heq ▸ hhead other hother, htail⟩
      · rw [BTreeMap.insert, if_neg hlt, if_neg heq]
        refine List.pairwise_cons.mpr ⟨fun other hother => ?_, ih htail⟩
        have hkey : other.1 ∈ (BTreeMap.insert key value entries).map Prod.fst :=
          List.mem_map_of_mem hother
        rcases mem_keys_insert.mp hkey with hnew | hold
        · rw [hnew]
          exact lt_of_le_of_ne (not_lt.mp hlt) (Ne.symm heq)
        · obtain ⟨old, hmem, hfst⟩ := List.mem_map.mp hold
          rw [← hfst]
          exact hhead old hmem

/-- Insertions keep the order. -/
theorem Ordered.foldl_insert {map : BTreeMap α} (h : map.Ordered) (entries : List (String × α)) :
    (entries.foldl (fun map entry => map.insert entry.1 entry.2) map).Ordered := by
  induction entries generalizing map with
  | nil => exact h
  | cons entry entries ih => exact ih (h.insert entry.1 entry.2)

/-- The keys of an ordered map are distinct. -/
theorem Ordered.nodup_keys {map : BTreeMap α} (h : map.Ordered) : (map.map Prod.fst).Nodup :=
  List.pairwise_map.mpr (h.imp fun hlt => ne_of_lt hlt)

theorem containsKey_iff {map : BTreeMap α} {key : String} :
    map.containsKey key = true ↔ key ∈ map.map Prod.fst := by
  simp [containsKey, List.any_eq_true, List.mem_map]

/-- An insertion adds an entry when its key is new. -/
theorem Ordered.length_insert {map : BTreeMap α} (h : map.Ordered) (key : String) (value : α) :
    (map.insert key value).length =
      if map.containsKey key then map.length else map.length + 1 := by
  induction map with
  | nil => rfl
  | cons entry entries ih =>
    obtain ⟨l, v⟩ := entry
    obtain ⟨hhead, htail⟩ := List.pairwise_cons.mp h
    by_cases hlt : key < l
    · have hnew : ¬ BTreeMap.containsKey ((l, v) :: entries) key = true := by
        rw [containsKey_iff, List.map_cons, List.mem_cons]
        rintro (heq | hmem)
        · exact absurd hlt (heq ▸ lt_irrefl _)
        · obtain ⟨old, hold, rfl⟩ := List.mem_map.mp hmem
          exact lt_asymm hlt (hhead old hold)
      rw [BTreeMap.insert, if_pos hlt, if_neg hnew, List.length_cons]
    · by_cases heq : key = l
      · rw [BTreeMap.insert, if_neg hlt, if_pos heq, if_pos (by simp [containsKey, heq])]
        rfl
      · have hcontains : BTreeMap.containsKey ((l, v) :: entries) key =
            BTreeMap.containsKey entries key := by
          rw [containsKey, List.any_cons, beq_eq_false_iff_ne.mpr (Ne.symm heq), Bool.false_or]
          rfl
        rw [BTreeMap.insert, if_neg hlt, if_neg heq, List.length_cons, ih htail, hcontains,
          List.length_cons]
        split <;> rfl

/-- In an ordered map, reading the entries backwards finds the same values. -/
theorem Ordered.lookup_reverse {map : BTreeMap α} (h : map.Ordered) (key : String) :
    map.reverse.lookup key = map.get key := by
  induction map with
  | nil => rfl
  | cons entry entries ih =>
    obtain ⟨l, v⟩ := entry
    obtain ⟨hhead, htail⟩ := List.pairwise_cons.mp h
    rw [List.reverse_cons, List.lookup_append, ih htail, get, get, List.find?_cons]
    by_cases hkey : l = key
    · have hnone : entries.find? (fun other => other.1 == key) = none := by
        rw [List.find?_eq_none]
        intro other hother
        rw [beq_iff_eq]
        exact fun heq => absurd (hhead other hother) (by rw [heq, hkey]; exact lt_irrefl _)
      simp [hkey, hnone]
    · have hfalse : (l == key) = false := beq_eq_false_iff_ne.mpr hkey
      have hfalse' : (key == l) = false := beq_eq_false_iff_ne.mpr (Ne.symm hkey)
      simp [List.lookup_cons, hfalse, hfalse']

/-- The value of a key after an extension is that of the entries, or the old one. -/
theorem get_extend (map : BTreeMap α) {entries : BTreeMap α} (h : entries.Ordered)
    (key : String) : (map.extend entries).get key = (entries.get key).or (map.get key) := by
  rw [extend, get_foldl_insert, h.lookup_reverse]

/-- In an ordered map, an entry is what is read under its key. -/
theorem Ordered.mem_iff_get {map : BTreeMap α} (h : map.Ordered) {key : String} {value : α} :
    (key, value) ∈ map ↔ map.get key = some value := by
  rw [get, Option.map_eq_some_iff]
  constructor
  · intro hmem
    obtain ⟨entry, hentry⟩ :
        ∃ entry, map.find? (fun other => other.1 == key) = some entry := by
      rw [← Option.isSome_iff_exists, List.find?_isSome]
      exact ⟨_, hmem, beq_self_eq_true key⟩
    have hfound := List.find?_some hentry
    have hkey : entry.1 = key := beq_iff_eq.mp hfound
    have hsame : entry = (key, value) :=
      List.inj_on_of_nodup_map h.nodup_keys (List.mem_of_find?_eq_some hentry) hmem hkey
    exact ⟨entry, hentry, by rw [hsame]⟩
  · rintro ⟨entry, hentry, rfl⟩
    have hfound := List.find?_some hentry
    have hkey : entry.1 = key := beq_iff_eq.mp hfound
    rw [← hkey]
    exact List.mem_of_find?_eq_some hentry

/-- Ordered maps with the same values are equal. -/
theorem Ordered.ext {map map' : BTreeMap α} (h : map.Ordered) (h' : map'.Ordered)
    (hget : ∀ key, map.get key = map'.get key) : map = map' := by
  have hmem : ∀ entry, entry ∈ map ↔ entry ∈ map' := by
    rintro ⟨key, value⟩
    rw [h.mem_iff_get, h'.mem_iff_get, hget]
  have hperm : map.Perm map' :=
    (List.perm_ext_iff_of_nodup (List.Nodup.of_map Prod.fst h.nodup_keys)
      (List.Nodup.of_map Prod.fst h'.nodup_keys)).mpr hmem
  exact hperm.eq_of_pairwise (fun a b _ _ hab hba => absurd hab (lt_asymm hba)) h h'

/-! ## Greatest values -/

section Greatest

variable {β : Type} [LinearOrder α]

/-- What is read is the greatest of some values, and nothing where there are none. -/
inductive Greatest (values : Set α) : Option α → Prop
  | absent : values = ∅ → Greatest values none
  | present {value : α} : IsGreatest values value → Greatest values (some value)

theorem Greatest.unique {values : Set α} {found found' : Option α} (h : Greatest values found)
    (h' : Greatest values found') : found = found' := by
  cases h with
  | absent hempty =>
    cases h' with
    | absent => rfl
    | present hgreatest => exact absurd hgreatest.1 (hempty ▸ Set.notMem_empty _)
  | present hgreatest =>
    cases h' with
    | absent hempty => exact absurd hgreatest.1 (hempty ▸ Set.notMem_empty _)
    | present hgreatest' => rw [hgreatest.unique hgreatest']

theorem Greatest.eq_some_iff {values : Set α} {found : Option α} {value : α}
    (h : Greatest values found) : found = some value ↔ IsGreatest values value :=
  ⟨fun hfound => by cases hfound; cases h; assumption, fun hvalue => h.unique (.present hvalue)⟩

/-- `entry(key).and_modify(max).or_insert(value)`: the greater of the old value and the new. -/
def insertMax (map : BTreeMap α) (key : String) (value : α) : BTreeMap α :=
  match map.get key with
  | some existing => map.insert key (max existing value)
  | none => map.insert key value

theorem Ordered.insertMax {map : BTreeMap α} (h : map.Ordered) (key : String) (value : α) :
    (map.insertMax key value).Ordered := by
  rw [BTreeMap.insertMax]
  split
  · exact h.insert _ _
  · exact h.insert _ _

theorem get_insertMax_of_ne (map : BTreeMap α) {key k : String} (value : α) (h : key ≠ k) :
    (map.insertMax key value).get k = map.get k := by
  rw [insertMax]
  split <;> rw [get_insert, if_neg h]

/-- Under its key, an insertion adds its value to those that the greatest is taken of. -/
theorem Greatest.insertMax {map : BTreeMap α} {key : String} {values : Set α}
    (h : Greatest values (map.get key)) (value : α) :
    Greatest ({value} ∪ values) ((map.insertMax key value).get key) := by
  rw [BTreeMap.insertMax]
  cases hget : map.get key with
  | none =>
    rw [hget] at h
    cases h with
    | absent hempty =>
      dsimp only
      rw [get_insert, if_pos rfl, hempty, Set.union_empty]
      exact .present isGreatest_singleton
  | some existing =>
    rw [hget] at h
    cases h with
    | present hgreatest =>
      dsimp only
      rw [get_insert, if_pos rfl, max_comm]
      exact .present (isGreatest_singleton.union hgreatest)

theorem Ordered.foldl_insertMax {map : BTreeMap α} (h : map.Ordered) (key : β → String)
    (value : β → α) (xs : List β) :
    (xs.foldl (fun map x => map.insertMax (key x) (value x)) map).Ordered := by
  induction xs generalizing map with
  | nil => exact h
  | cons x xs ih => exact ih (h.insertMax (key x) (value x))

/-- After some insertions, the greatest of the values of a key is read under it. -/
theorem greatest_foldl_insertMax (key : β → String) (value : β → α) (xs : List β) (k : String) :
    Greatest {a | ∃ x ∈ xs, key x = k ∧ value x = a}
      (BTreeMap.get (xs.foldl (fun map x => map.insertMax (key x) (value x)) []) k) := by
  refine Fold.foldl_history (fun past map =>
    Greatest {a | ∃ x ∈ past, key x = k ∧ value x = a} (BTreeMap.get map k))
    (.absent (by simp)) (fun past map x hpast => ?_) xs
  by_cases hkey : key x = k
  · have hvalues : {a | ∃ y ∈ past ++ [x], key y = k ∧ value y = a} =
        {value x} ∪ {a | ∃ y ∈ past, key y = k ∧ value y = a} := by
      ext a
      simp only [List.mem_append, List.mem_singleton, Set.mem_ofPred_eq, Set.mem_union,
        Set.mem_singleton_iff]
      constructor
      · rintro ⟨y, hy | rfl, hk, ha⟩
        · exact Or.inr ⟨y, hy, hk, ha⟩
        · exact Or.inl ha.symm
      · rintro (rfl | ⟨y, hy, hk, ha⟩)
        · exact ⟨x, Or.inr rfl, hkey, rfl⟩
        · exact ⟨y, Or.inl hy, hk, ha⟩
    rw [hvalues]
    subst hkey
    exact hpast.insertMax (value x)
  · have hvalues : {a | ∃ y ∈ past ++ [x], key y = k ∧ value y = a} =
        {a | ∃ y ∈ past, key y = k ∧ value y = a} := by
      ext a
      simp only [List.mem_append, List.mem_singleton, Set.mem_ofPred_eq]
      constructor
      · rintro ⟨y, hy | rfl, hk, ha⟩
        · exact ⟨y, hy, hk, ha⟩
        · exact absurd hk hkey
      · rintro ⟨y, hy, hk, ha⟩
        exact ⟨y, Or.inl hy, hk, ha⟩
    rw [hvalues, get_insertMax_of_ne _ _ hkey]
    exact hpast

/-- The order of the insertions does not matter, only what is inserted. -/
theorem foldl_insertMax_eq (key : β → String) (value : β → α) {xs ys : List β}
    (h : ∀ x, x ∈ xs ↔ x ∈ ys) :
    xs.foldl (fun map x => insertMax map (key x) (value x)) [] =
      ys.foldl (fun map x => insertMax map (key x) (value x)) [] := by
  refine (ordered_nil.foldl_insertMax key value xs).ext
    (ordered_nil.foldl_insertMax key value ys) fun k => ?_
  have hys := greatest_foldl_insertMax key value ys k
  simp only [← h] at hys
  exact (greatest_foldl_insertMax key value xs k).unique hys

end Greatest

end BTreeMap
end Rust
end PipeBolt
