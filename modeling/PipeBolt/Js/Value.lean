import PipeBolt.Js.NumberText

/-!
# JavaScript values

The values that JSON has, and the objects that hold them: an object lists its properties in the
order of `Object.keys`.

* `setProperties_eq_self`: properties in order are those of the object that is built from them.
* `inOrder_setProperties`: an object that was built property by property is in order.
-/

namespace PipeBolt
namespace Js

/-- A value of JSON. -/
inductive JsValue where
  | null
  | bool (value : Bool)
  | number (value : JsNumber)
  | string (value : JsString)
  | array (values : List JsValue)
  | object (properties : List (JsString × JsValue))

/-- The properties of an object. -/
abbrev Properties := List (JsString × JsValue)

/-! ## Property keys -/

/-- The text of an array index. -/
def indexText (i : Nat) : JsString := if i = 0 then [unit '0'] else natText i

/-- The array index that a property key is, if it is one. -/
def arrayIndex (key : JsString) : Option Nat :=
  let i := digitsValue key
  if indexText i = key ∧ i < 4294967295 then some i else none

/-- A key comes before another in the order of `Object.keys`: array indices in ascending order,
then the other keys in the order in which they were set. -/
def Before (key key' : JsString) : Prop :=
  match arrayIndex key, arrayIndex key' with
  | some i, some j => i < j
  | some _, none => True
  | none, some _ => False
  | none, none => key ≠ key'

/-- The key of the property is an array index below `i`. -/
def indexBelow (i : Nat) (property : JsString × JsValue) : Bool :=
  (arrayIndex property.1).any (· < i)

/-- The value of an existing property, or a property that is added where its key belongs. -/
def setProperty (properties : Properties) (key : JsString) (value : JsValue) : Properties :=
  if properties.any fun property => property.1 == key then
    properties.map fun property => if property.1 = key then (key, value) else property
  else
    match arrayIndex key with
    | some i =>
      properties.takeWhile (indexBelow i) ++ (key, value) :: properties.dropWhile (indexBelow i)
    | none => properties ++ [(key, value)]

/-- The object whose properties are set one after the other. -/
def setProperties (properties : Properties) : Properties :=
  properties.foldl (fun object property => setProperty object property.1 property.2) []

/-- The properties are in the order of `Object.keys`. -/
def InOrder (properties : Properties) : Prop :=
  properties.Pairwise fun property property' => Before property.1 property'.1

theorem indexText_of_arrayIndex {key : JsString} {i : Nat} (h : arrayIndex key = some i) :
    indexText i = key := by
  rw [arrayIndex] at h
  obtain ⟨⟨htext, -⟩, hi⟩ := Option.ite_none_right_eq_some.mp h
  rwa [Option.some_inj.mp hi] at htext

theorem Before.ne {key key' : JsString} (h : Before key key') : key ≠ key' := by
  rintro rfl
  rw [Before] at h
  cases hindex : arrayIndex key with
  | none =>
    rw [hindex] at h
    exact h rfl
  | some i =>
    rw [hindex] at h
    exact Nat.lt_irrefl i h

/-- A key that comes after all others is added at the end. -/
theorem setProperty_of_before {properties : Properties} {key : JsString} {value : JsValue}
    (h : ∀ property ∈ properties, Before property.1 key) :
    setProperty properties key value = properties ++ [(key, value)] := by
  have hnew : ¬ (properties.any fun property => property.1 == key) = true := by
    rw [List.any_eq_true]
    rintro ⟨property, hmem, hkey⟩
    exact (h property hmem).ne (beq_iff_eq.mp hkey)
  rw [setProperty, if_neg hnew]
  split
  · next i hindex =>
    have hsmaller : ∀ property ∈ properties, indexBelow i property = true := by
      intro property hmem
      have hbefore := h property hmem
      rw [Before, hindex] at hbefore
      rw [indexBelow]
      cases hj : arrayIndex property.1 with
      | none =>
        rw [hj] at hbefore
        exact hbefore.elim
      | some j =>
        rw [hj] at hbefore
        exact decide_eq_true hbefore
    rw [List.takeWhile_eq_self_iff.mpr hsmaller, List.dropWhile_eq_nil_iff.mpr hsmaller]
  · rfl

/-- Properties in order are those of the object that is built from them. -/
theorem setProperties_eq_self {properties : Properties} (h : InOrder properties) :
    setProperties properties = properties := by
  induction properties using List.reverseRecOn with
  | nil => rfl
  | append_singleton properties property ih =>
    obtain ⟨hinit, -, hlast⟩ := List.pairwise_append.mp h
    rw [setProperties, List.foldl_append, ← setProperties, ih hinit]
    exact setProperty_of_before fun p hp => hlast p hp property (List.mem_singleton_self _)

/-- An array index comes before all that comes after a key it comes before. -/
theorem Before.trans_index {key key' key'' : JsString} {i : Nat} (hindex : arrayIndex key = some i)
    (h : Before key key') (h' : Before key' key'') : Before key key'' := by
  rw [Before, hindex] at h ⊢
  rw [Before] at h'
  cases hj : arrayIndex key' with
  | none =>
    cases hk : arrayIndex key'' with
    | none => trivial
    | some k =>
      rw [hj, hk] at h'
      exact h'.elim
  | some j =>
    cases hk : arrayIndex key'' with
    | none => trivial
    | some k =>
      rw [hj] at h
      rw [hj, hk] at h'
      exact Nat.lt_trans h h'

/-- An array index comes before every key that is no smaller index. -/
theorem before_of_not_indexBelow {key : JsString} {i : Nat} (hindex : arrayIndex key = some i)
    {property : JsString × JsValue} (hne : property.1 ≠ key)
    (h : indexBelow i property = false) : Before key property.1 := by
  rw [Before, hindex]
  rw [indexBelow] at h
  cases hj : arrayIndex property.1 with
  | none => trivial
  | some j =>
    rw [hj] at h
    have hij : j ≠ i := by
      rintro rfl
      exact hne ((indexText_of_arrayIndex hj).symm.trans (indexText_of_arrayIndex hindex))
    have hle := of_decide_eq_false h
    show i < j
    omega

/-- A new array index is put between the smaller ones and all other keys. -/
theorem inOrder_insert {properties : Properties} (h : InOrder properties) {key : JsString} {i : Nat}
    (hindex : arrayIndex key = some i) (hfresh : ∀ property ∈ properties, property.1 ≠ key)
    (value : JsValue) :
    InOrder (properties.takeWhile (indexBelow i) ++
      (key, value) :: properties.dropWhile (indexBelow i)) := by
  have hparts := List.pairwise_append.mp
    ((List.takeWhile_append_dropWhile (p := indexBelow i) (l := properties)).symm ▸ h)
  obtain ⟨hsmaller, hothers, hacross⟩ := hparts
  have hkey : ∀ property ∈ properties.dropWhile (indexBelow i), Before key property.1 := by
    cases hrest : properties.dropWhile (indexBelow i) with
    | nil => exact fun _ hp => (nomatch hp)
    | cons first rest =>
      have hfirst : Before key first.1 := by
        refine before_of_not_indexBelow hindex (hfresh first ?_) ?_
        · exact (List.dropWhile_sublist _).mem (hrest ▸ List.mem_cons_self)
        · have hhead := List.head?_dropWhile_not (indexBelow i) properties
          rw [hrest] at hhead
          simpa using hhead
      rw [hrest] at hothers
      intro property hproperty
      rcases List.mem_cons.mp hproperty with rfl | hproperty
      · exact hfirst
      · exact hfirst.trans_index hindex ((List.pairwise_cons.mp hothers).1 property hproperty)
  have hbelow : ∀ property ∈ properties.takeWhile (indexBelow i), Before property.1 key := by
    intro property hproperty
    have hlt := List.mem_takeWhile_imp hproperty
    rw [indexBelow] at hlt
    rw [Before, hindex]
    cases hj : arrayIndex property.1 with
    | none =>
      rw [hj] at hlt
      cases hlt
    | some j =>
      rw [hj] at hlt
      exact of_decide_eq_true hlt
  refine List.pairwise_append.mpr ⟨hsmaller, List.pairwise_cons.mpr ⟨hkey, hothers⟩, ?_⟩
  intro property hproperty other hother
  rcases List.mem_cons.mp hother with rfl | hother
  · exact hbelow property hproperty
  · exact hacross property hproperty other hother

/-- An object stays in order when a property is set. -/
theorem inOrder_setProperty {properties : Properties} (h : InOrder properties) (key : JsString)
    (value : JsValue) : InOrder (setProperty properties key value) := by
  rw [setProperty]
  split
  · -- An existing property keeps its place.
    refine List.pairwise_map.mpr (h.imp ?_)
    rintro ⟨k, v⟩ ⟨l, w⟩ hbefore
    have hkey : ∀ p : JsString × JsValue, (if p.1 = key then (key, value) else p).1 = p.1 := by
      intro p
      split
      · next hp => exact hp.symm
      · rfl
    rw [hkey, hkey]
    exact hbefore
  · next hnew =>
    have hfresh : ∀ property ∈ properties, property.1 ≠ key := by
      intro property hmem hkey
      exact hnew (List.any_eq_true.mpr ⟨property, hmem, beq_iff_eq.mpr hkey⟩)
    split
    · next i hindex => exact inOrder_insert h hindex hfresh value
    · next hindex =>
      refine List.pairwise_append.mpr ⟨h, List.pairwise_singleton _ _, ?_⟩
      intro property hmem last hlast
      rw [List.mem_singleton.mp hlast, Before, hindex]
      split
      · next heq => cases heq
      · trivial
      · next heq => cases heq
      · exact hfresh property hmem

theorem inOrder_setProperties (properties : Properties) : InOrder (setProperties properties) := by
  induction properties using List.reverseRecOn with
  | nil => exact List.Pairwise.nil
  | append_singleton properties property ih =>
    rw [setProperties, List.foldl_append]
    exact inOrder_setProperty ih _ _

/-- A property of an object is one that was set. -/
theorem mem_setProperties {properties : Properties} {property : JsString × JsValue}
    (h : property ∈ setProperties properties) : property ∈ properties := by
  induction properties using List.reverseRecOn with
  | nil => exact h
  | append_singleton properties last ih =>
    rw [setProperties, List.foldl_append] at h
    rw [List.mem_append, List.mem_singleton]
    have hset : property ∈ setProperty (setProperties properties) last.1 last.2 := h
    rw [setProperty] at hset
    split at hset
    · obtain ⟨old, hold, hproperty⟩ := List.mem_map.mp hset
      split at hproperty
      · exact .inr hproperty.symm
      · exact .inl (ih (hproperty ▸ hold))
    · split at hset
      · rcases List.mem_append.mp hset with hbefore | hafter
        · exact .inl (ih ((List.takeWhile_sublist _).mem hbefore))
        · rcases List.mem_cons.mp hafter with hnew | hold
          · exact .inr hnew
          · exact .inl (ih ((List.dropWhile_sublist _).mem hold))
      · rcases List.mem_append.mp hset with hold | hnew
        · exact .inl (ih hold)
        · exact .inr (List.mem_singleton.mp hnew)

/-! ## Equality -/

mutual

/-- Two values are the same. -/
def JsValue.beq : JsValue → JsValue → Bool
  | .null, .null => true
  | .bool a, .bool b => a == b
  | .number a, .number b => decide (a = b)
  | .string a, .string b => a == b
  | .array as, .array bs => beqValues as bs
  | .object as, .object bs => beqProperties as bs
  | _, _ => false

def beqValues : List JsValue → List JsValue → Bool
  | [], [] => true
  | a :: as, b :: bs => a.beq b && beqValues as bs
  | _, _ => false

def beqProperties : List (JsString × JsValue) → List (JsString × JsValue) → Bool
  | [], [] => true
  | (key, a) :: as, (key', b) :: bs => key == key' && a.beq b && beqProperties as bs
  | _, _ => false

end

mutual

theorem JsValue.eq_of_beq : ∀ {a b : JsValue}, a.beq b = true → a = b
  | .null, b, h => by
    cases b <;> first | rfl | exact absurd h Bool.false_ne_true
  | .bool a, b, h => by
    cases b with
    | bool b => rw [eq_of_beq (show (a == b) = true from h)]
    | _ => exact absurd h Bool.false_ne_true
  | .number a, b, h => by
    cases b with
    | number b => rw [of_decide_eq_true (show decide (a = b) = true from h)]
    | _ => exact absurd h Bool.false_ne_true
  | .string a, b, h => by
    cases b with
    | string b => rw [eq_of_beq (show (a == b) = true from h)]
    | _ => exact absurd h Bool.false_ne_true
  | .array as, b, h => by
    cases b with
    | array bs => rw [eq_of_beqValues (show beqValues as bs = true from h)]
    | _ => exact absurd h Bool.false_ne_true
  | .object as, b, h => by
    cases b with
    | object bs => rw [eq_of_beqProperties (show beqProperties as bs = true from h)]
    | _ => exact absurd h Bool.false_ne_true

theorem eq_of_beqValues : ∀ {as bs : List JsValue}, beqValues as bs = true → as = bs
  | [], [], _ => rfl
  | [], _ :: _, h => absurd h Bool.false_ne_true
  | _ :: _, [], h => absurd h Bool.false_ne_true
  | a :: as, b :: bs, h => by
    obtain ⟨ha, has⟩ := Bool.and_eq_true_iff.mp h
    rw [JsValue.eq_of_beq ha, eq_of_beqValues has]

theorem eq_of_beqProperties : ∀ {as bs : List (JsString × JsValue)},
    beqProperties as bs = true → as = bs
  | [], [], _ => rfl
  | [], _ :: _, h => absurd h Bool.false_ne_true
  | _ :: _, [], h => absurd h Bool.false_ne_true
  | (key, a) :: as, (key', b) :: bs, h => by
    obtain ⟨hhead, has⟩ := Bool.and_eq_true_iff.mp h
    obtain ⟨hkey, ha⟩ := Bool.and_eq_true_iff.mp hhead
    rw [eq_of_beq hkey, JsValue.eq_of_beq ha, eq_of_beqProperties has]

end

end Js
end PipeBolt
