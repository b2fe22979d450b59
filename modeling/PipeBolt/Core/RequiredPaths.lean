import PipeBolt.Core.ExtractedFields

/-!
# Payloads with required paths

Which payloads have values of given types at given paths.  When the paths and the types agree, there
is a smallest one: its text is not longer than that of any other.

* `getJsonPath_requirePath_prefix`, `getJsonPath_requirePath_below`, `getJsonPath_requirePath_apart`:
  what a path is set to, and what it leaves.
* `hasPaths_smallest`: the smallest payload has the paths, and nothing else.
* `textLength_smallest_le`: it is the smallest.
-/

namespace PipeBolt
namespace Core
namespace Pipeline

open Domain Rust

/-! ## Types of values -/

/-- A value of a type with the shortest text. -/
def shortest : FieldValueType → Value
  | .string => .string ""
  | .number => .number (.posInt 0)
  | .boolean => .bool true
  | .object => .object []
  | .array => .array []

@[simp]
theorem hasType_shortest (valueType : FieldValueType) :
    hasType valueType (shortest valueType) = true := by
  cases valueType <;> rfl

/-- The type of a value; `null` has none. -/
def typeOf : Value → Option FieldValueType
  | .null => none
  | .bool _ => some .boolean
  | .number _ => some .number
  | .string _ => some .string
  | .array _ => some .array
  | .object _ => some .object

theorem hasType_iff {valueType : FieldValueType} {value : Value} :
    hasType valueType value = true ↔ typeOf value = some valueType := by
  cases valueType <;> cases value <;> simp [hasType, typeOf]

/-- A value has one type. -/
theorem hasType_unique {valueType valueType' : FieldValueType} {value : Value}
    (h : hasType valueType value = true) (h' : hasType valueType' value = true) :
    valueType = valueType' :=
  Option.some.inj ((hasType_iff.mp h).symm.trans (hasType_iff.mp h'))

theorem hasType_object_iff {value : Value} :
    hasType .object value = true ↔ ∃ entries, value = .object entries := by
  cases value <;> simp [hasType]

/-- Only objects have something under a key. -/
theorem hasType_object_of_get {value inner : Value} {key : String}
    (h : value.get key = some inner) : hasType .object value = true := by
  cases value with
  | object entries => rfl
  | null | bool | number | string | array => cases h

/-- Nothing is under a key of a shortest value. -/
theorem get_shortest (valueType : FieldValueType) (key : String) :
    (shortest valueType).get key = none := by
  cases valueType <;> rfl

/-! ## Paths -/

/-- A path that a payload has to have, and the type of the value at its end. -/
structure RequiredPath where
  segments : List String
  valueType : FieldValueType
  nonempty : segments ≠ []

/-- The value at a path of a value that may be absent. -/
def valueAt (value : Option Value) (path : List String) : Option Value :=
  value.bind fun value => getJsonPath value path

@[simp]
theorem valueAt_nil (value : Option Value) : valueAt value [] = value := by
  cases value <;> rfl

theorem valueAt_some (value : Value) (path : List String) :
    valueAt (some value) path = getJsonPath value path := rfl

theorem valueAt_cons (value : Option Value) (segment : String) (path : List String) :
    valueAt value (segment :: path) =
      valueAt (value.bind fun value => value.get segment) path := by
  cases value <;> rfl

theorem getJsonPath_append (value : Value) (path rest : List String) :
    getJsonPath value (path ++ rest) = valueAt (getJsonPath value path) rest := by
  induction path generalizing value with
  | nil => rfl
  | cons segment path ih =>
    rw [List.cons_append, getJsonPath, getJsonPath, valueAt, Option.bind_assoc]
    exact Option.bind_congr fun inner _ => ih inner

/-- Before the end of a path there are objects. -/
theorem hasType_object_of_prefix {value inner : Value} {path rest : List String}
    (h : getJsonPath value (path ++ rest) = some inner) (hrest : rest ≠ []) :
    ∃ outer, getJsonPath value path = some outer ∧ hasType .object outer = true := by
  rw [getJsonPath_append, valueAt, Option.bind_eq_some_iff] at h
  obtain ⟨outer, houter, hinner⟩ := h
  cases rest with
  | nil => exact absurd rfl hrest
  | cons segment rest =>
    obtain ⟨next, hnext, -⟩ := Option.bind_eq_some_iff.mp hinner
    exact ⟨outer, houter, hasType_object_of_get hnext⟩

/-- The entries of an object. -/
def objectEntries : Option Value → ValueMap
  | some (.object entries) => entries
  | none | some .null | some (.bool _) | some (.number _) | some (.string _) | some (.array _) => []

theorem get_objectEntries (value : Option Value) (key : String) :
    BTreeMap.get (objectEntries value) key = value.bind fun value => value.get key := by
  cases value with
  | none => rfl
  | some value => cases value <;> rfl

/-- A value with a value of the type at the path: what is on the way becomes an object. -/
def requirePath (valueType : FieldValueType) : List String → Option Value → Value
  | [], value => (value.filter (hasType valueType)).getD (shortest valueType)
  | segment :: segments, value =>
    .object <| BTreeMap.insert segment
      (requirePath valueType segments (value.bind fun value => value.get segment))
      (objectEntries value)

theorem hasType_requirePath (valueType : FieldValueType) (value : Option Value) :
    hasType valueType (requirePath valueType [] value) = true := by
  rw [requirePath]
  cases hfilter : value.filter (hasType valueType) with
  | none => exact hasType_shortest valueType
  | some kept => exact (Option.filter_eq_some_iff.mp hfilter).2

theorem getJsonPath_requirePath_cons (valueType : FieldValueType) (segment : String)
    (path : List String) (value : Option Value) (key : String) (rest : List String) :
    getJsonPath (requirePath valueType (segment :: path) value) (key :: rest) =
      if segment = key then
        getJsonPath (requirePath valueType path (value.bind fun value => value.get segment)) rest
      else valueAt value (key :: rest) := by
  have hget : (requirePath valueType (segment :: path) value).get key =
      if segment = key then
        some (requirePath valueType path (value.bind fun value => value.get segment))
      else value.bind fun value => value.get key := by
    rw [← get_objectEntries value key]
    exact BTreeMap.get_insert (objectEntries value) segment _ key
  rw [getJsonPath, hget, valueAt_cons]
  split
  · rfl
  · rfl

/-- What stands on the way to the path and at its end. -/
theorem getJsonPath_requirePath_prefix (valueType : FieldValueType) (path rest : List String)
    (value : Option Value) :
    getJsonPath (requirePath valueType (path ++ rest) value) path =
      some (requirePath valueType rest (valueAt value path)) := by
  induction path generalizing value with
  | nil => rw [List.nil_append, valueAt_nil, getJsonPath]
  | cons segment path ih =>
    rw [List.cons_append, getJsonPath_requirePath_cons, if_pos rfl, ih, valueAt_cons]

/-- What stands below the path: what did, if the value at the path was of the type. -/
theorem getJsonPath_requirePath_below (valueType : FieldValueType) (path : List String)
    {rest : List String} (hrest : rest ≠ []) (value : Option Value) :
    getJsonPath (requirePath valueType path value) (path ++ rest) =
      valueAt ((valueAt value path).filter (hasType valueType)) rest := by
  have hpath := getJsonPath_requirePath_prefix valueType path [] value
  rw [List.append_nil] at hpath
  rw [getJsonPath_append, hpath, requirePath]
  cases (valueAt value path).filter (hasType valueType) with
  | some kept => rfl
  | none =>
    cases rest with
    | nil => exact absurd rfl hrest
    | cons segment rest =>
      rw [Option.getD_none, valueAt_cons, Option.bind_some, get_shortest]
      rfl

/-- What stands apart from the path. -/
theorem getJsonPath_requirePath_apart (valueType : FieldValueType) {path other : List String}
    (hother : ¬ other <+: path) (hpath : ¬ path <+: other) (value : Option Value) :
    getJsonPath (requirePath valueType path value) other = valueAt value other := by
  induction path generalizing other value with
  | nil => exact absurd List.nil_prefix hpath
  | cons segment path ih =>
    cases other with
    | nil => exact absurd List.nil_prefix hother
    | cons key other =>
      rw [getJsonPath_requirePath_cons]
      split
      · next hkey =>
        subst hkey
        rw [List.prefix_cons_inj] at hother hpath
        rw [ih hother hpath, valueAt_cons]
      · rfl

/-- A path is an extension of another one, or on the way to it, or apart from it. -/
theorem prefix_cases (path other : List String) :
    (∃ rest, path = other ++ rest) ∨ (∃ rest, rest ≠ [] ∧ other = path ++ rest) ∨
      (¬ other <+: path ∧ ¬ path <+: other) := by
  by_cases hother : other <+: path
  · obtain ⟨rest, rfl⟩ := hother
    exact Or.inl ⟨rest, rfl⟩
  · by_cases hpath : path <+: other
    · obtain ⟨rest, rfl⟩ := hpath
      refine Or.inr (Or.inl ⟨rest, ?_, rfl⟩)
      rintro rfl
      rw [List.append_nil] at hother
      exact hother List.prefix_rfl
    · exact Or.inr (Or.inr ⟨hother, hpath⟩)

/-! ## The smallest payload -/

/-- What stands at a required path and above another one is an object, and two values at one path
have one type. -/
def PathAgrees (path other : RequiredPath) : Prop :=
  path.segments <+: other.segments →
    path.valueType = if path.segments = other.segments then other.valueType else .object

/-- A payload has the required paths, and nothing else. -/
structure HasPaths (required : List RequiredPath) (value : Value) : Prop where
  root : hasType .object value = true
  found : ∀ path ∈ required, ∃ inner, getJsonPath value path.segments = some inner ∧
    hasType path.valueType inner = true
  only : ∀ segments inner, getJsonPath value segments = some inner → segments ≠ [] →
    ∃ path ∈ required, segments <+: path.segments ∧
      hasType (if segments = path.segments then path.valueType else .object) inner = true

/-- The smallest payload with the required paths. -/
def smallest (required : List RequiredPath) : Value :=
  required.foldl (fun value path => requirePath path.valueType path.segments (some value))
    (.object [])

theorem smallest_concat (required : List RequiredPath) (path : RequiredPath) :
    smallest (required ++ [path]) =
      requirePath path.valueType path.segments (some (smallest required)) := by
  rw [smallest, List.foldl_concat, smallest]

/-- A path that agrees with the others is added to them. -/
theorem HasPaths.require {required : List RequiredPath} {value : Value}
    (h : HasPaths required value) {path : RequiredPath}
    (hagree : ∀ other ∈ required, PathAgrees path other ∧ PathAgrees other path) :
    HasPaths (required ++ [path])
      (requirePath path.valueType path.segments (some value)) where
  root := by
    obtain ⟨segments, valueType, hnonempty⟩ := path
    cases segments with
    | nil => exact absurd rfl hnonempty
    | cons segment segments => rfl
  found other hmem := by
    rcases List.mem_append.mp hmem with hother | hother
    · obtain ⟨inner, hinner, htype⟩ := h.found other hother
      obtain ⟨hpath, hother⟩ := hagree other hother
      rcases prefix_cases path.segments other.segments with
        ⟨rest, hrest⟩ | ⟨rest, hne, hrest⟩ | ⟨hapart, hapart'⟩
      · rw [hrest, getJsonPath_requirePath_prefix]
        refine ⟨_, rfl, ?_⟩
        have hvalueType := hother ⟨rest, hrest.symm⟩
        cases rest with
        | nil =>
          rw [List.append_nil] at hrest
          rw [if_pos hrest.symm] at hvalueType
          rw [hvalueType]
          exact hasType_requirePath path.valueType _
        | cons segment rest =>
          have hne : other.segments ≠ path.segments := by
            rw [hrest]
            simp
          rw [if_neg hne] at hvalueType
          rw [hvalueType]
          rfl
      · -- The path leads to an object, which is kept.
        obtain ⟨outer, houter, hobject⟩ := hasType_object_of_prefix (hrest ▸ hinner) hne
        have hne' : path.segments ≠ other.segments := by
          rw [hrest]
          simpa using hne
        have hvalueType := hpath ⟨rest, hrest.symm⟩
        rw [if_neg hne'] at hvalueType
        rw [hrest, getJsonPath_append, houter] at hinner
        refine ⟨inner, ?_, htype⟩
        rw [hrest, getJsonPath_requirePath_below _ _ hne, valueAt_some, houter, Option.filter_some,
          if_pos (hvalueType ▸ hobject)]
        exact hinner
      · refine ⟨inner, ?_, htype⟩
        rw [getJsonPath_requirePath_apart _ hapart hapart']
        exact hinner
    · obtain rfl := List.mem_singleton.mp hother
      have hself := getJsonPath_requirePath_prefix other.valueType other.segments [] (some value)
      rw [List.append_nil] at hself
      exact ⟨_, hself, hasType_requirePath other.valueType _⟩
  only segments inner hinner hne := by
    rcases prefix_cases path.segments segments with
      ⟨rest, hrest⟩ | ⟨rest, hrest', hrest⟩ | ⟨hapart, hapart'⟩
    · refine ⟨path, List.mem_append_right _ (List.mem_singleton_self _), ⟨rest, hrest.symm⟩, ?_⟩
      rw [hrest, getJsonPath_requirePath_prefix] at hinner
      obtain rfl := Option.some.inj hinner
      cases rest with
      | nil =>
        rw [List.append_nil] at hrest
        rw [if_pos hrest.symm]
        exact hasType_requirePath path.valueType _
      | cons segment rest =>
        have hne : segments ≠ path.segments := by
          rw [hrest]
          simp
        rw [if_neg hne]
        rfl
    · rw [hrest, getJsonPath_requirePath_below _ _ hrest', valueAt,
        Option.bind_eq_some_iff] at hinner
      obtain ⟨outer, houter, hinner⟩ := hinner
      have hold : getJsonPath value segments = some inner := by
        rw [hrest, getJsonPath_append]
        have hkept := (Option.filter_eq_some_iff.mp houter).1
        rw [valueAt_some] at hkept
        rw [hkept]
        exact hinner
      obtain ⟨other, hother, hprefix⟩ := h.only segments inner hold hne
      exact ⟨other, List.mem_append_left _ hother, hprefix⟩
    · rw [getJsonPath_requirePath_apart _ hapart hapart'] at hinner
      obtain ⟨other, hother, hprefix⟩ := h.only segments inner hinner hne
      exact ⟨other, List.mem_append_left _ hother, hprefix⟩

/-- The smallest payload has paths that agree, and nothing else. -/
theorem hasPaths_smallest {required : List RequiredPath}
    (hagree : ∀ path ∈ required, ∀ other ∈ required, PathAgrees path other) :
    HasPaths required (smallest required) := by
  induction required using List.reverseRecOn with
  | nil =>
    refine ⟨rfl, fun _ hmem => absurd hmem List.not_mem_nil, fun segments inner hinner hne => ?_⟩
    cases segments with
    | nil => exact absurd rfl hne
    | cons segment segments => cases hinner
  | append_singleton required path ih =>
    have hmem : path ∈ required ++ [path] := List.mem_append_right _ (List.mem_singleton_self _)
    have hold : ∀ other ∈ required, other ∈ required ++ [path] :=
      fun other hother => List.mem_append_left _ hother
    rw [smallest_concat]
    refine (ih fun other hother other' hother' =>
      hagree other (hold other hother) other' (hold other' hother')).require fun other hother => ?_
    exact ⟨hagree path hmem other (hold other hother), hagree other (hold other hother) path hmem⟩

/-! ## Lengths of texts -/

/-- The bytes that a character takes in a JSON string at least. -/
def charLength (c : Char) : Nat :=
  if c = '"' ∨ c = '\\' then 2
  else if c.toNat < 0x20 then
    if c.toNat = 0x08 ∨ c.toNat = 0x09 ∨ c.toNat = 0x0a ∨ c.toNat = 0x0c ∨ c.toNat = 0x0d then 2
    else 6
  else c.utf8Size

/-- The characters of a JSON string. -/
def charsLength : List Char → Nat
  | [] => 0
  | c :: chars => charLength c + charsLength chars

mutual

/-- The bytes that a JSON text of a value has at least: a number has one digit at least. -/
def textLength : Value → Nat
  | .null => 4
  | .bool value => if value then 4 else 5
  | .number _ => 1
  | .string value => charsLength value.toList + 2
  | .array values => 1 + max 1 (itemsLength values)
  | .object entries => 1 + max 1 (membersLength entries)

/-- The elements of an array, each with a comma or the bracket. -/
def itemsLength : List Value → Nat
  | [] => 0
  | value :: values => textLength value + 1 + itemsLength values

/-- The members of an object, each with its quotes, its colon and a comma or the brace. -/
def membersLength : List (String × Value) → Nat
  | [] => 0
  | (key, value) :: entries =>
    charsLength key.toList + 3 + (textLength value + 1) + membersLength entries

end

/-- No value of the type has a shorter text. -/
theorem textLength_shortest_le {valueType : FieldValueType} {value : Value}
    (h : hasType valueType value = true) : textLength (shortest valueType) ≤ textLength value := by
  have htype := hasType_iff.mp h
  cases value with
  | null => cases htype
  | bool value =>
    obtain rfl := Option.some.inj htype
    cases value with
    | true => exact Nat.le_refl 4
    | false => exact Nat.le_succ 4
  | number value =>
    obtain rfl := Option.some.inj htype
    exact Nat.le_refl 1
  | string value =>
    obtain rfl := Option.some.inj htype
    exact Nat.le_add_left 2 _
  | array values =>
    obtain rfl := Option.some.inj htype
    exact Nat.add_le_add_left (Nat.le_max_left 1 _) 1
  | object entries =>
    obtain rfl := Option.some.inj htype
    exact Nat.add_le_add_left (Nat.le_max_left 1 _) 1

/-- A member and the others. -/
theorem membersLength_remove {entries : ValueMap} {key : String} {value : Value}
    (h : BTreeMap.get entries key = some value) :
    charsLength key.toList + 3 + (textLength value + 1) +
      membersLength (BTreeMap.remove entries key) ≤ membersLength entries := by
  have hremove : ∀ entries : ValueMap,
      membersLength (BTreeMap.remove entries key) ≤ membersLength entries := by
    intro entries
    induction entries with
    | nil => exact Nat.le_refl _
    | cons entry entries ih =>
      obtain ⟨k, v⟩ := entry
      rw [BTreeMap.remove] at ih ⊢
      rw [List.filter_cons, membersLength]
      split
      · rw [membersLength]
        omega
      · omega
  induction entries with
  | nil => cases h
  | cons entry entries ih =>
    obtain ⟨k, v⟩ := entry
    rw [BTreeMap.get, List.find?_cons] at h
    by_cases hkey : k = key
    · subst hkey
      simp only [beq_self_eq_true, Option.map_some, Option.some_inj] at h
      subst h
      have hrest := hremove entries
      rw [BTreeMap.remove] at hrest
      rw [BTreeMap.remove, List.filter_cons, if_neg (by simp), membersLength]
      omega
    · have hfalse : (k == key) = false := beq_eq_false_iff_ne.mpr hkey
      rw [hfalse] at h
      have hrest := ih h
      rw [BTreeMap.remove] at hrest
      rw [BTreeMap.remove, List.filter_cons, if_pos (by simp [hkey]), membersLength, membersLength]
      omega

/-! ## The payload is the smallest -/

/-- A value that stands at a path of the smallest payload, and one that stands there in another. -/
def Within (value other : Value) : Prop :=
  (hasType .object value = true ∧ hasType .object other = true) ∨
    ∃ valueType, value = shortest valueType ∧ hasType valueType other = true

/-- A payload has all paths of another one. -/
def PartOf (value other : Value) : Prop :=
  ∀ path inner, getJsonPath value path = some inner →
    ∃ inner', getJsonPath other path = some inner' ∧ Within inner inner'

theorem Within.hasType {value other : Value} (h : Within value other) {valueType : FieldValueType}
    (htype : hasType valueType value = true) : hasType valueType other = true := by
  rcases h with ⟨hvalue, hother⟩ | ⟨valueType', rfl, hother⟩
  · obtain rfl := hasType_unique htype hvalue
    exact hother
  · obtain rfl := hasType_unique htype (hasType_shortest valueType')
    exact hother

/-- What a part has under a key is a part of what the whole has there. -/
theorem PartOf.get {entries : ValueMap} {other : Value} (h : PartOf (.object entries) other)
    {key : String} {value : Value} (hvalue : (Value.object entries).get key = some value) :
    ∃ value', other.get key = some value' ∧ PartOf value value' := by
  have hpath : ∀ path, getJsonPath (.object entries) (key :: path) = getJsonPath value path := by
    intro path
    rw [getJsonPath, hvalue, Option.bind_some]
  obtain ⟨value', hvalue', -⟩ := h [key] value (hpath [])
  rw [getJsonPath, Option.bind_eq_some_iff] at hvalue'
  obtain ⟨found, hfound, hsame⟩ := hvalue'
  obtain rfl := Option.some.inj hsame
  refine ⟨found, hfound, fun path inner hinner => ?_⟩
  obtain ⟨inner', hinner', hwithin⟩ := h (key :: path) inner ((hpath path).trans hinner)
  rw [getJsonPath, hfound, Option.bind_some] at hinner'
  exact ⟨inner', hinner', hwithin⟩

mutual

/-- The keys of every object are in order. -/
def OrderedKeys : Value → Prop
  | .object entries => BTreeMap.Ordered entries ∧ OrderedKeysEntries entries
  | .null | .bool _ | .number _ | .string _ | .array _ => True

/-- The keys of the objects among the values of some entries are. -/
def OrderedKeysEntries : List (String × Value) → Prop
  | [] => True
  | (_, value) :: entries => OrderedKeys value ∧ OrderedKeysEntries entries

end

mutual

/-- A part has no longer text than the whole. -/
theorem textLength_le : ∀ {value other : Value}, OrderedKeys value → PartOf value other →
    textLength value ≤ textLength other
  | .object entries, other, hordered, hpart => by
    obtain ⟨other', hother', hwithin⟩ := hpart [] _ rfl
    obtain rfl := Option.some.inj hother'
    obtain ⟨entries', rfl⟩ := hasType_object_iff.mp (hwithin.hasType rfl)
    have hmembers : membersLength entries ≤ membersLength entries' :=
      membersLength_le hordered.1.nodup_keys hordered.2 fun key value hvalue => hpart.get hvalue
    rw [textLength, textLength]
    omega
  | .null, other, _, hpart | .bool _, other, _, hpart | .number _, other, _, hpart
  | .string _, other, _, hpart | .array _, other, _, hpart => by
    obtain ⟨other', hother', hwithin⟩ := hpart [] _ rfl
    obtain rfl := Option.some.inj hother'
    rcases hwithin with ⟨hobject, -⟩ | ⟨valueType, hvalue, htype⟩
    · cases hobject
    · rw [hvalue]
      exact textLength_shortest_le htype

/-- The members of a part have no longer texts than those of the whole. -/
theorem membersLength_le : ∀ {entries entries' : ValueMap}, (entries.map Prod.fst).Nodup →
    OrderedKeysEntries entries →
    (∀ key value, (Value.object entries).get key = some value →
      ∃ value', (Value.object entries').get key = some value' ∧ PartOf value value') →
    membersLength entries ≤ membersLength entries'
  | [], entries', _, _, _ => Nat.zero_le _
  | (key, value) :: entries, entries', hnodup, hordered, hparts => by
    obtain ⟨hkey, hnodup⟩ := List.nodup_cons.mp hnodup
    have hhead : (Value.object ((key, value) :: entries)).get key = some value := by
      simp [Value.get]
    obtain ⟨value', hvalue', hpart⟩ := hparts key value hhead
    have hvalueLength := textLength_le hordered.1 hpart
    have hrest : membersLength entries ≤ membersLength (BTreeMap.remove entries' key) := by
      refine membersLength_le hnodup hordered.2 fun k v hv => ?_
      have hne : k ≠ key := by
        rintro rfl
        obtain ⟨entry, hentry, -⟩ := Option.map_eq_some_iff.mp hv
        have hsame := List.find?_some hentry
        rw [beq_iff_eq] at hsame
        have hmem := List.mem_map_of_mem (f := Prod.fst) (List.mem_of_find?_eq_some hentry)
        exact hkey (hsame ▸ hmem)
      have htail : (Value.object ((key, value) :: entries)).get k = some v := by
        have hfalse : (key == k) = false := beq_eq_false_iff_ne.mpr hne.symm
        rw [Value.get, List.find?_cons, hfalse]
        exact hv
      obtain ⟨v', hv', hpart'⟩ := hparts k v htail
      exact ⟨v', (BTreeMap.get_remove_of_ne entries' hne).trans hv', hpart'⟩
    have hremove := membersLength_remove hvalue'
    rw [membersLength]
    omega

end

/-- The value at a path that is in the whole is made a part of it. -/
theorem PartOf.require {value other inner : Value} (h : PartOf value other) {path : RequiredPath}
    (hinner : getJsonPath other path.segments = some inner)
    (htype : hasType path.valueType inner = true) :
    PartOf (requirePath path.valueType path.segments (some value)) other := by
  intro segments found hfound
  rcases prefix_cases path.segments segments with
    ⟨rest, hrest⟩ | ⟨rest, hne, hrest⟩ | ⟨hapart, hapart'⟩
  · rw [hrest, getJsonPath_requirePath_prefix, valueAt_some] at hfound
    obtain rfl := Option.some.inj hfound
    cases rest with
    | nil =>
      rw [List.append_nil] at hrest
      refine ⟨inner, hrest ▸ hinner, ?_⟩
      rw [requirePath]
      cases hkept : (getJsonPath value segments).filter (hasType path.valueType) with
      | none => exact Or.inr ⟨path.valueType, rfl, htype⟩
      | some kept =>
        obtain ⟨inner', hinner', hwithin⟩ :=
          h segments kept (Option.filter_eq_some_iff.mp hkept).1
        obtain rfl := Option.some.inj ((hrest ▸ hinner).symm.trans hinner')
        exact hwithin
    | cons segment rest =>
      rw [hrest] at hinner
      obtain ⟨outer, houter, hobject⟩ :=
        hasType_object_of_prefix hinner (List.cons_ne_nil segment rest)
      exact ⟨outer, houter, Or.inl ⟨rfl, hobject⟩⟩
  · rw [hrest, getJsonPath_requirePath_below _ _ hne, valueAt, Option.bind_eq_some_iff] at hfound
    obtain ⟨outer, houter, hfound⟩ := hfound
    have hkept := (Option.filter_eq_some_iff.mp houter).1
    rw [valueAt_some] at hkept
    refine h segments found ?_
    rw [hrest, getJsonPath_append, hkept]
    exact hfound
  · rw [getJsonPath_requirePath_apart _ hapart hapart'] at hfound
    exact h segments found hfound

/-- The smallest payload is a part of every object with the required paths. -/
theorem partOf_smallest {required : List RequiredPath} {other : Value}
    (hobject : hasType .object other = true)
    (hfound : ∀ path ∈ required, ∃ inner, getJsonPath other path.segments = some inner ∧
      hasType path.valueType inner = true) : PartOf (smallest required) other := by
  induction required using List.reverseRecOn with
  | nil =>
    intro segments inner hinner
    cases segments with
    | nil =>
      obtain rfl := Option.some.inj hinner
      exact ⟨other, rfl, Or.inl ⟨rfl, hobject⟩⟩
    | cons segment segments => cases hinner
  | append_singleton required path ih =>
    rw [smallest_concat]
    obtain ⟨inner, hinner, htype⟩ :=
      hfound path (List.mem_append_right _ (List.mem_singleton_self _))
    exact (ih fun path hpath => hfound path (List.mem_append_left _ hpath)).require hinner htype

/-! ## Keys and depth of the smallest payload -/

theorem orderedKeys_shortest (valueType : FieldValueType) : OrderedKeys (shortest valueType) := by
  cases valueType with
  | object => exact ⟨BTreeMap.ordered_nil, trivial⟩
  | string | number | boolean | array => exact trivial

theorem OrderedKeysEntries.of_mem {entries : ValueMap} (h : OrderedKeysEntries entries)
    {entry : String × Value} (hmem : entry ∈ entries) : OrderedKeys entry.2 := by
  induction entries with
  | nil => cases hmem
  | cons head entries ih =>
    rcases List.mem_cons.mp hmem with rfl | hmem
    · exact h.1
    · exact ih h.2 hmem

theorem OrderedKeysEntries.insert {entries : ValueMap} (h : OrderedKeysEntries entries)
    (key : String) {value : Value} (hvalue : OrderedKeys value) :
    OrderedKeysEntries (BTreeMap.insert key value entries) := by
  induction entries with
  | nil => exact ⟨hvalue, trivial⟩
  | cons entry entries ih =>
    obtain ⟨k, v⟩ := entry
    rw [BTreeMap.insert]
    split
    · exact ⟨hvalue, h⟩
    · split
      · exact ⟨hvalue, h.2⟩
      · exact ⟨h.1, ih h.2⟩

/-- The entries of a value, and what it has under a key. -/
theorem OrderedKeys.entries {value : Value} (h : OrderedKeys value) :
    BTreeMap.Ordered (objectEntries (some value)) ∧
      OrderedKeysEntries (objectEntries (some value)) := by
  cases value with
  | object entries => exact h
  | null | bool | number | string | array => exact ⟨BTreeMap.ordered_nil, trivial⟩

theorem orderedKeys_requirePath (valueType : FieldValueType) (path : List String)
    {value : Option Value} (h : ∀ inner, value = some inner → OrderedKeys inner) :
    OrderedKeys (requirePath valueType path value) := by
  induction path generalizing value with
  | nil =>
    rw [requirePath]
    cases hkept : value.filter (hasType valueType) with
    | none => exact orderedKeys_shortest valueType
    | some kept => exact h kept (Option.filter_eq_some_iff.mp hkept).1
  | cons segment path ih =>
    have hentries : BTreeMap.Ordered (objectEntries value) ∧
        OrderedKeysEntries (objectEntries value) := by
      cases value with
      | none => exact ⟨BTreeMap.ordered_nil, trivial⟩
      | some inner => exact (h inner rfl).entries
    refine ⟨hentries.1.insert segment _, hentries.2.insert segment (ih fun inner hinner => ?_)⟩
    rw [← get_objectEntries, BTreeMap.get, Option.map_eq_some_iff] at hinner
    obtain ⟨entry, hentry, rfl⟩ := hinner
    exact hentries.2.of_mem (List.mem_of_find?_eq_some hentry)

theorem orderedKeys_smallest (required : List RequiredPath) : OrderedKeys (smallest required) := by
  induction required using List.reverseRecOn with
  | nil => exact orderedKeys_shortest .object
  | append_singleton required path ih =>
    rw [smallest_concat]
    refine orderedKeys_requirePath path.valueType path.segments fun inner hinner => ?_
    exact Option.some.inj hinner ▸ ih

/-- The smallest payload has no longer text than any with the required paths. -/
theorem textLength_smallest_le {required : List RequiredPath} {other : Value}
    (hobject : hasType .object other = true)
    (hfound : ∀ path ∈ required, ∃ inner, getJsonPath other path.segments = some inner ∧
      hasType path.valueType inner = true) :
    textLength (smallest required) ≤ textLength other :=
  textLength_le (orderedKeys_smallest required) (partOf_smallest hobject hfound)

theorem one_le_jsonDepth (value : Value) : 1 ≤ jsonDepth value := by
  cases value <;> simp [jsonDepth]

theorem jsonDepth_le_of_mem {entries : ValueMap} {entry : String × Value} (h : entry ∈ entries) :
    jsonDepth entry.2 ≤ jsonDepthObject entries := by
  induction entries with
  | nil => cases h
  | cons head entries ih =>
    obtain ⟨key, value⟩ := head
    rw [jsonDepthObject]
    rcases List.mem_cons.mp h with rfl | h
    · exact Nat.le_max_left _ _
    · exact Nat.le_trans (ih h) (Nat.le_max_right _ _)

/-- A value is less deep than the object that it is in. -/
theorem jsonDepth_lt_of_get {value inner : Value} {key : String}
    (h : value.get key = some inner) : jsonDepth inner < jsonDepth value := by
  cases value with
  | object entries =>
    obtain ⟨entry, hentry, rfl⟩ := Option.map_eq_some_iff.mp h
    rw [jsonDepth]
    exact Nat.lt_succ_of_le (jsonDepth_le_of_mem (List.mem_of_find?_eq_some hentry))
  | null | bool | number | string | array => cases h

/-- A payload is as deep as its paths are long. -/
theorem length_add_jsonDepth_le {value inner : Value} {path : List String}
    (h : getJsonPath value path = some inner) :
    path.length + jsonDepth inner ≤ jsonDepth value := by
  induction path generalizing value with
  | nil =>
    obtain rfl := Option.some.inj h
    exact Nat.le_of_eq (Nat.zero_add _)
  | cons segment path ih =>
    obtain ⟨next, hnext, hinner⟩ := Option.bind_eq_some_iff.mp h
    have hlt := jsonDepth_lt_of_get hnext
    have hle := ih hinner
    rw [List.length_cons]
    omega

theorem jsonDepthObject_insert_le (key : String) (value : Value) (entries : ValueMap) :
    jsonDepthObject (BTreeMap.insert key value entries) ≤
      max (jsonDepth value) (jsonDepthObject entries) := by
  induction entries with
  | nil => exact Nat.le_refl _
  | cons entry entries ih =>
    obtain ⟨k, v⟩ := entry
    rw [BTreeMap.insert]
    split
    · exact Nat.le_refl _
    · split
      · rw [jsonDepthObject, jsonDepthObject]
        omega
      · rw [jsonDepthObject, jsonDepthObject]
        omega

/-- A path makes a value no deeper than the path is long. -/
theorem jsonDepth_requirePath_le (valueType : FieldValueType) (path : List String)
    (value : Option Value) {n : Nat} (hpath : path.length < n)
    (hvalue : ∀ inner, value = some inner → jsonDepth inner ≤ n) :
    jsonDepth (requirePath valueType path value) ≤ n := by
  induction path generalizing value n with
  | nil =>
    rw [requirePath]
    cases hkept : value.filter (hasType valueType) with
    | none =>
      have hone : jsonDepth (shortest valueType) = 1 := by cases valueType <;> rfl
      rw [Option.getD_none, hone]
      exact hpath
    | some kept => exact hvalue kept (Option.filter_eq_some_iff.mp hkept).1
  | cons segment path ih =>
    obtain ⟨m, rfl⟩ : ∃ m, n = m + 1 := Nat.exists_eq_add_one_of_ne_zero (by omega)
    rw [List.length_cons] at hpath
    have hentries : jsonDepthObject (objectEntries value) ≤ m := by
      cases value with
      | none => exact Nat.zero_le m
      | some inner =>
        have hinner := hvalue inner rfl
        cases inner with
        | object entries => exact Nat.le_of_succ_le_succ hinner
        | null | bool | number | string | array => exact Nat.zero_le m
    have hnext := ih (value.bind fun value => value.get segment) (n := m) (by omega) ?_
    · have hinsert := jsonDepthObject_insert_le segment
        (requirePath valueType path (value.bind fun value => value.get segment))
        (objectEntries value)
      rw [requirePath, jsonDepth]
      omega
    · intro inner hinner
      obtain ⟨outer, rfl, hget⟩ := Option.bind_eq_some_iff.mp hinner
      have hlt := jsonDepth_lt_of_get hget
      have hle := hvalue outer rfl
      omega

theorem jsonDepth_smallest_le {required : List RequiredPath} {n : Nat} (hn : 0 < n)
    (h : ∀ path ∈ required, path.segments.length < n) : jsonDepth (smallest required) ≤ n := by
  induction required using List.reverseRecOn with
  | nil => exact hn
  | append_singleton required path ih =>
    rw [smallest_concat]
    refine jsonDepth_requirePath_le path.valueType path.segments _
      (h path (List.mem_append_right _ (List.mem_singleton_self _))) fun inner hinner => ?_
    rw [← Option.some.inj hinner]
    exact ih fun other hother => h other (List.mem_append_left _ hother)

end Pipeline
end Core
end PipeBolt
