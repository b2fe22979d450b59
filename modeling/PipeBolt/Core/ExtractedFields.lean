import PipeBolt.Core.Normalizer

/-!
# The fields of an event

`extract_fields` reads the entries of a mapping in order and inserts what they find under their
targets.

* `Satisfiable`: an entry that can be read from a payload.
* `extractFields_exact`: when the fields are extracted, which error is reported otherwise, and under
  which names fields are found.
* `extractFields_optional_iff`: what an entry without a value needs of its default.
* `extractFields_values_iff`: when every value that is found is kept.
-/

namespace PipeBolt
namespace Core
namespace Pipeline

open Domain Rust Fallible

/-! ## Entries -/

section Entry

variable (payload : Value) (field : FieldMapping)

/-- The value at the source of an entry. -/
def sourceValue : Option Value := getJsonPath payload field.source.segments

/-- The value that an entry takes: the one at its source, else its default. -/
def takenValue : Option Value := (sourceValue payload field).or field.default

/-- The entry can be read: what it takes has the declared type, and a required one has a source. -/
def Satisfiable : Prop :=
  (∀ value, sourceValue payload field = some value → hasType field.valueType value = true) ∧
    (sourceValue payload field = none → field.required = false ∧
      ∀ default, field.default = some default → hasType field.valueType default = true)

/-- The error of an entry that cannot be read. -/
def entryError : MqttEngineError :=
  .pipeline <|
    if (sourceValue payload field).isNone ∧ field.required = true then
      .missingRequiredField field.target field.source.raw
    else
      .typeMismatch field.target (fieldValueTypeName field.valueType)
        (((takenValue payload field).map jsonTypeName).getD "null")

/-- What an entry inserts. -/
def takenEntry : Option (String × FieldValue) :=
  (takenValue payload field).map fun value => (field.target, .fromJson value)

/-- The round of an entry that can be read. -/
def insertTaken (fields : BTreeMap FieldValue) : BTreeMap FieldValue :=
  match takenEntry payload field with
  | some entry => fields.insert entry.1 entry.2
  | none => fields

end Entry

section Entry

variable {payload : Value} {field : FieldMapping}

theorem coerceFieldValue_of_type {target : String} {value : Value} {expected : FieldValueType}
    (h : hasType expected value = true) :
    coerceFieldValue target value expected = .ok (.fromJson value) := if_pos h

theorem coerceFieldValue_of_not_type {target : String} {value : Value} {expected : FieldValueType}
    (h : ¬ hasType expected value = true) :
    coerceFieldValue target value expected = .error (.pipeline
      (.typeMismatch target (fieldValueTypeName expected) (jsonTypeName value))) :=
  if_neg h

/-- An entry that can be read inserts what it takes. -/
theorem extractField_of_satisfiable (h : Satisfiable payload field)
    (fields : BTreeMap FieldValue) :
    extractField payload fields field = .ok (insertTaken payload field fields) := by
  rw [extractField, insertTaken, takenEntry, takenValue]
  cases hsource : sourceValue payload field with
  | some value =>
    rw [show getJsonPath payload field.source.segments = some value from hsource]
    dsimp only
    rw [coerceFieldValue_of_type (h.1 value hsource)]
    rfl
  | none =>
    obtain ⟨hrequired, hdefault⟩ := h.2 hsource
    rw [show getJsonPath payload field.source.segments = none from hsource]
    dsimp only
    rw [hrequired]
    cases hsome : field.default with
    | none => rfl
    | some default =>
      dsimp only
      rw [if_neg Bool.false_ne_true, coerceFieldValue_of_type (hdefault default hsome)]
      rfl

/-- An entry that cannot be read fails, and the error names its target. -/
theorem extractField_of_not_satisfiable (h : ¬ Satisfiable payload field)
    (fields : BTreeMap FieldValue) :
    extractField payload fields field = .error (entryError payload field) := by
  rw [extractField, entryError, takenValue]
  cases hsource : sourceValue payload field with
  | some value =>
    have htype : ¬ hasType field.valueType value = true := by
      intro htype
      refine h ⟨fun value' hvalue' => ?_, fun hnone => ?_⟩
      · rw [hsource] at hvalue'
        rwa [← Option.some.inj hvalue']
      · rw [hsource] at hnone
        cases hnone
    rw [show getJsonPath payload field.source.segments = some value from hsource]
    dsimp only
    rw [coerceFieldValue_of_not_type htype]
    rfl
  | none =>
    rw [show getJsonPath payload field.source.segments = none from hsource]
    dsimp only
    by_cases hrequired : field.required = true
    · rw [if_pos hrequired, if_pos ⟨rfl, hrequired⟩]
    · rw [if_neg hrequired, if_neg fun hboth => hrequired hboth.2]
      cases hsome : field.default with
      | none =>
        refine absurd ⟨fun value hvalue => ?_, fun _ => ⟨?_, fun default hdefault => ?_⟩⟩ h
        · rw [hsource] at hvalue
          cases hvalue
        · exact Bool.eq_false_iff.mpr hrequired
        · rw [hsome] at hdefault
          cases hdefault
      | some default =>
        have htype : ¬ hasType field.valueType default = true := by
          intro htype
          refine h ⟨fun value hvalue => ?_, fun _ => ⟨?_, fun default' hdefault' => ?_⟩⟩
          · rw [hsource] at hvalue
            cases hvalue
          · exact Bool.eq_false_iff.mpr hrequired
          · rw [hsome] at hdefault'
            rwa [← Option.some.inj hdefault']
        dsimp only
        rw [coerceFieldValue_of_not_type htype]
        rfl

/-- The error of an entry is about its target. -/
theorem entryError_target :
    (∃ path, entryError payload field = .pipeline (.missingRequiredField field.target path)) ∨
      ∃ expected actual,
        entryError payload field = .pipeline (.typeMismatch field.target expected actual) := by
  rw [entryError]
  split
  · exact Or.inl ⟨_, rfl⟩
  · exact Or.inr ⟨_, _, rfl⟩

end Entry

/-! ## Mappings -/

/-- The value of the last entry of a target that takes one. -/
def lastValue (payload : Value) (fields : List FieldMapping) (target : String) : Option Value :=
  fields.reverse.findSome? fun field =>
    if field.target = target then takenValue payload field else none

section Mapping

variable {payload : Value} {entries : ValueMap} {mapping : PayloadSchemaMapping}
  {maxExtractedFields : Nat}

/-- The entries of a valid mapping within the limit are read in order. -/
theorem extractFields_eq (hvalid : mapping.validate = .ok ())
    (hlimit : mapping.fields.length ≤ maxExtractedFields) :
    extractFields (some mapping) (.json (.object entries)) maxExtractedFields =
      mapping.fields.foldlM (extractField (.object entries)) [] := by
  rw [extractFields, hvalid]
  exact if_neg (Nat.not_lt.mpr hlimit)

/-- A mapping that is read is valid and within the limit. -/
theorem extractFields_eq_ok {fields : BTreeMap FieldValue}
    (h : extractFields (some mapping) (.json (.object entries)) maxExtractedFields = .ok fields) :
    mapping.validate = .ok () ∧ mapping.fields.length ≤ maxExtractedFields := by
  obtain ⟨hvalid, h⟩ := check_eq_ok_iff.mp h
  obtain ⟨hlimit, -⟩ := guard_eq_ok_iff.mp h
  exact ⟨mapError_eq_ok_iff.mp hvalid, Nat.not_lt.mp hlimit⟩

/-- What the entries insert, one after the other. -/
theorem foldl_insertTaken (fields : List FieldMapping) (map : BTreeMap FieldValue) :
    fields.foldl (fun map field => insertTaken payload field map) map =
      (fields.filterMap (takenEntry payload)).foldl (fun map entry => map.insert entry.1 entry.2)
        map := by
  induction fields generalizing map with
  | nil => rfl
  | cons field fields ih =>
    rw [List.foldl_cons, ih, insertTaken]
    cases htaken : takenEntry payload field with
    | none => rw [List.filterMap_cons_none htaken]
    | some entry => rw [List.filterMap_cons_some htaken, List.foldl_cons]

/-- The first entry of a key in what some entries insert. -/
theorem lookup_takenEntry (fields : List FieldMapping) (key : String) :
    (fields.filterMap (takenEntry payload)).lookup key =
      (fields.findSome? fun field =>
        if field.target = key then takenValue payload field else none).map FieldValue.fromJson := by
  induction fields with
  | nil => rfl
  | cons field fields ih =>
    rw [List.findSome?_cons]
    cases htaken : takenValue payload field with
    | none =>
      have hentry : takenEntry payload field = none := by rw [takenEntry, htaken, Option.map_none]
      rw [List.filterMap_cons_none hentry, ite_self, ih]
    | some value =>
      have hentry : takenEntry payload field = some (field.target, .fromJson value) := by
        rw [takenEntry, htaken, Option.map_some]
      rw [List.filterMap_cons_some hentry]
      by_cases hkey : field.target = key
      · simp [hkey]
      · have hfalse : (key == field.target) = false := beq_eq_false_iff_ne.mpr (Ne.symm hkey)
        rw [List.lookup_cons, hfalse, if_neg hkey, ih]

/-- What is read under a key is the last value that was taken for it. -/
theorem get_foldl_insertTaken (fields : List FieldMapping) (key : String) :
    BTreeMap.get (fields.foldl (fun map field => insertTaken payload field map) []) key =
      (lastValue payload fields key).map FieldValue.fromJson := by
  rw [foldl_insertTaken, BTreeMap.get_foldl_insert, ← List.filterMap_reverse, lookup_takenEntry]
  exact Option.or_none

/-- Some value is taken for a target exactly when one of its entries has a source or a default. -/
theorem lastValue_isSome_iff {fields : List FieldMapping} {key : String} :
    (∃ value, lastValue payload fields key = some value) ↔
      ∃ field ∈ fields, field.target = key ∧
        ((sourceValue payload field).isSome = true ∨ field.default.isSome = true) := by
  rw [← Option.isSome_iff_exists, lastValue, List.isSome_findSome?]
  simp only [List.any_reverse, List.any_eq_true]
  refine exists_congr fun field => and_congr_right fun _ => ?_
  by_cases hkey : field.target = key
  · simp [hkey, takenValue, Option.isSome_or]
  · simp [hkey]

theorem FieldValue.fromJson_injective : Function.Injective FieldValue.fromJson := by
  intro value value' h
  cases value <;> cases value' <;> simp_all [FieldValue.fromJson]

/-- Entries that can all be read insert what they take. -/
theorem extractFields_of_satisfiable (hvalid : mapping.validate = .ok ())
    (hlimit : mapping.fields.length ≤ maxExtractedFields)
    (h : ∀ field ∈ mapping.fields, Satisfiable (.object entries) field) :
    extractFields (some mapping) (.json (.object entries)) maxExtractedFields =
      .ok (mapping.fields.foldl
        (fun map field => insertTaken (.object entries) field map) []) := by
  rw [extractFields_eq hvalid hlimit]
  exact foldlM_eq_ok_foldl
    (fun field hfield fields => extractField_of_satisfiable (h field hfield) fields) []

/-- The first entry that cannot be read is reported. -/
theorem extractFields_of_not_satisfiable {before after : List FieldMapping} {field : FieldMapping}
    (hvalid : mapping.validate = .ok ()) (hlimit : mapping.fields.length ≤ maxExtractedFields)
    (hsplit : mapping.fields = before ++ field :: after)
    (hbefore : ∀ other ∈ before, Satisfiable (.object entries) other)
    (hfield : ¬ Satisfiable (.object entries) field) :
    extractFields (some mapping) (.json (.object entries)) maxExtractedFields =
      .error (entryError (.object entries) field) := by
  rw [extractFields_eq hvalid hlimit, hsplit]
  exact foldlM_eq_error
    (fun other hother fields => ⟨_, extractField_of_satisfiable (hbefore other hother) fields⟩)
    (extractField_of_not_satisfiable hfield) []

theorem extractFields_isOk_iff (hvalid : mapping.validate = .ok ())
    (hlimit : mapping.fields.length ≤ maxExtractedFields) :
    (∃ fields, extractFields (some mapping) (.json (.object entries)) maxExtractedFields =
        .ok fields) ↔ ∀ field ∈ mapping.fields, Satisfiable (.object entries) field := by
  constructor
  · rintro ⟨fields, hfields⟩
    rcases forall_or_exists_first_not (p := Satisfiable (.object entries)) mapping.fields with
        hall | ⟨before, field, after, hsplit, hbefore, hfield⟩
    · exact hall
    · rw [extractFields_of_not_satisfiable hvalid hlimit hsplit hbefore hfield] at hfields
      cases hfields
  · exact fun hall => ⟨_, extractFields_of_satisfiable hvalid hlimit hall⟩

/-- What is extracted is, under each key, the last value that was taken for it. -/
theorem extractFields_get {fields : BTreeMap FieldValue}
    (h : extractFields (some mapping) (.json (.object entries)) maxExtractedFields = .ok fields)
    (key : String) :
    fields.get key =
      (lastValue (.object entries) mapping.fields key).map FieldValue.fromJson := by
  obtain ⟨hvalid, hlimit⟩ := extractFields_eq_ok h
  have hall := (extractFields_isOk_iff hvalid hlimit).mp ⟨fields, h⟩
  rw [extractFields_of_satisfiable hvalid hlimit hall] at h
  rw [← Except.ok.inj h, get_foldl_insertTaken]

/-- The fields are extracted exactly when every entry can be read; otherwise the first entry that
cannot is reported; and the names of the fields are the targets with a value. -/
theorem extractFields_exact (mapping : PayloadSchemaMapping) (entries : ValueMap)
    (maxExtractedFields : Nat) (hvalid : mapping.validate = .ok ())
    (hlimit : mapping.fields.length ≤ maxExtractedFields) :
    ((∃ fields, extractFields (some mapping) (.json (.object entries)) maxExtractedFields =
        .ok fields) ↔ ∀ field ∈ mapping.fields, Satisfiable (.object entries) field) ∧
    (∀ error, extractFields (some mapping) (.json (.object entries)) maxExtractedFields =
        .error error →
      ∃ before field after, mapping.fields = before ++ field :: after ∧
        (∀ other ∈ before, Satisfiable (.object entries) other) ∧
        ¬ Satisfiable (.object entries) field ∧ error = entryError (.object entries) field ∧
        ((∃ path, error = .pipeline (.missingRequiredField field.target path)) ∨
          ∃ expected actual, error = .pipeline (.typeMismatch field.target expected actual))) ∧
    ∀ fields, extractFields (some mapping) (.json (.object entries)) maxExtractedFields =
        .ok fields →
      ∀ key, (∃ value, fields.get key = some value) ↔
        ∃ field ∈ mapping.fields, field.target = key ∧
          ((sourceValue (.object entries) field).isSome = true ∨
            field.default.isSome = true) := by
  refine ⟨extractFields_isOk_iff hvalid hlimit, ?_, ?_⟩
  · intro error herror
    rcases forall_or_exists_first_not (p := Satisfiable (.object entries)) mapping.fields with
        hall | ⟨before, field, after, hsplit, hbefore, hfield⟩
    · rw [extractFields_of_satisfiable hvalid hlimit hall] at herror
      cases herror
    · rw [extractFields_of_not_satisfiable hvalid hlimit hsplit hbefore hfield] at herror
      obtain rfl := Except.error.inj herror
      exact ⟨before, field, after, hsplit, hbefore, hfield, rfl, entryError_target⟩
  · intro fields hfields key
    rw [extractFields_get hfields, ← lastValue_isSome_iff]
    simp

/-- The optional entry `temperature`, a number, with a default. -/
def temperatureField (default : Option Value) : FieldMapping where
  source := ⟨"temperature"⟩
  target := "temperature"
  valueType := .number
  required := false
  default := default

/-- A mapping of readings. -/
def readings (fields : List FieldMapping) : PayloadSchemaMapping := ⟨⟨"readings"⟩, "Readings", fields⟩

/-- The payload `{"humidity":70}`. -/
def humidityEntries : ValueMap := [("humidity", .number (.posInt 70))]

/-- The payload `{"temperature":35}`. -/
def temperatureEntries : ValueMap := [("temperature", .number (.posInt 35))]

/-- A required reading, an optional one with a default and an optional one without. -/
def plantReadings : PayloadSchemaMapping :=
  readings
    [{ temperatureField none with required := true },
      { temperatureField (some (.number (.posInt 1))) with
        source := ⟨"pressure"⟩, target := "pressure" },
      { temperatureField none with source := ⟨"level"⟩, target := "level" }]

theorem plantReadings_temperature :
    extractFields (some plantReadings) (.json (.object temperatureEntries)) 128 =
      .ok [("pressure", .number (.posInt 1)), ("temperature", .number (.posInt 35))] := by
  rfl

theorem plantReadings_humidity :
    extractFields (some plantReadings) (.json (.object humidityEntries)) 128 =
      .error (.pipeline (.missingRequiredField "temperature" "temperature")) := by
  rfl

/-- The mapping on a payload that it reads and on one that it does not. -/
theorem extractFields_exact_readings :
    (∀ field ∈ plantReadings.fields, Satisfiable (.object temperatureEntries) field) ∧
      (∀ key, (∃ field ∈ plantReadings.fields, field.target = key ∧
          ((sourceValue (.object temperatureEntries) field).isSome = true ∨
            field.default.isSome = true)) ↔ key = "temperature" ∨ key = "pressure") ∧
      ∃ before field after, plantReadings.fields = before ++ field :: after ∧
        (∀ other ∈ before, Satisfiable (.object humidityEntries) other) ∧
        ¬ Satisfiable (.object humidityEntries) field ∧
        entryError (.object humidityEntries) field =
          .pipeline (.missingRequiredField "temperature" "temperature") := by
  have hvalid : plantReadings.validate = .ok () := by decide +kernel
  obtain ⟨hread, -, hkeys⟩ :=
    extractFields_exact plantReadings temperatureEntries 128 hvalid (by decide)
  refine ⟨hread.mp ⟨_, plantReadings_temperature⟩, fun key => ?_, ?_⟩
  · rw [← hkeys _ plantReadings_temperature key, ← Option.isSome_iff_exists, BTreeMap.get,
      Option.isSome_map, List.find?_isSome]
    simp [eq_comm (b := key), or_comm]
  · obtain ⟨before, field, after, hsplit, hbefore, hfield, herror, -⟩ :=
      (extractFields_exact plantReadings humidityEntries 128 hvalid (by decide)).2.1 _
        plantReadings_humidity
    exact ⟨before, field, after, hsplit, hbefore, hfield, herror.symm⟩

/-- Where only optional entries are absent and what is present has its type, the fields are
extracted exactly when the defaults of the absent entries have their types as well. -/
theorem extractFields_optional_iff (mapping : PayloadSchemaMapping) (entries : ValueMap)
    (maxExtractedFields : Nat) (hvalid : mapping.validate = .ok ())
    (hlimit : mapping.fields.length ≤ maxExtractedFields)
    (habsent : ∀ field ∈ mapping.fields, sourceValue (.object entries) field = none →
      field.required = false)
    (hpresent : ∀ field ∈ mapping.fields, ∀ value,
      sourceValue (.object entries) field = some value → hasType field.valueType value = true) :
    (∃ fields, extractFields (some mapping) (.json (.object entries)) maxExtractedFields =
        .ok fields) ↔
      ∀ field ∈ mapping.fields, sourceValue (.object entries) field = none →
        ∀ default, field.default = some default → hasType field.valueType default = true := by
  rw [extractFields_isOk_iff hvalid hlimit]
  refine forall₂_congr fun field hfield => ?_
  constructor
  · exact fun hread hsource => (hread.2 hsource).2
  · exact fun hdefault =>
      ⟨hpresent field hfield, fun hsource => ⟨habsent field hfield hsource, hdefault hsource⟩⟩

theorem extractFields_optional_iff_readings :
    (readings [temperatureField (some (.number (.posInt 20)))]).validate = .ok () ∧
      ∃ fields, extractFields (some (readings [temperatureField (some (.number (.posInt 20)))]))
        (.json (.object humidityEntries)) 128 = .ok fields := by
  have hvalid : (readings [temperatureField (some (.number (.posInt 20)))]).validate = .ok () := by
    decide +kernel
  have hsource : sourceValue (.object humidityEntries)
      (temperatureField (some (.number (.posInt 20)))) = none := by decide +kernel
  refine ⟨hvalid, (extractFields_optional_iff _ humidityEntries 128 hvalid (by decide) ?_ ?_).mpr
    ?_⟩
  · intro field hfield _
    obtain rfl := List.mem_singleton.mp hfield
    rfl
  · intro field hfield value hvalue
    obtain rfl := List.mem_singleton.mp hfield
    rw [hsource] at hvalue
    cases hvalue
  · intro field hfield _ default hdefault
    obtain rfl := List.mem_singleton.mp hfield
    obtain rfl := Option.some.inj hdefault
    rfl

example : (readings [temperatureField (some (.string "n/a"))]).validate = .ok () := by
  decide +kernel

/-- A message without an optional field is rejected for the default of the field: `"n/a"` is no
number, and `validate` does not look at defaults. -/
theorem default_rejects_message :
    (readings [temperatureField (some (.string "n/a"))]).validate = .ok () ∧
      (∀ field ∈ (readings [temperatureField (some (.string "n/a"))]).fields,
        field.required = false ∧ sourceValue (.object humidityEntries) field = none) ∧
      extractFields (some (readings [temperatureField (some (.string "n/a"))]))
        (.json (.object humidityEntries)) 128 =
          .error (.pipeline (.typeMismatch "temperature" "number" "string")) := by
  have hsource : sourceValue (.object humidityEntries)
      (temperatureField (some (.string "n/a"))) = none := by decide +kernel
  have hvalid : (readings [temperatureField (some (.string "n/a"))]).validate = .ok () := by
    decide +kernel
  refine ⟨hvalid, ?_, ?_⟩
  · intro field hfield
    obtain rfl := List.mem_singleton.mp hfield
    exact ⟨rfl, hsource⟩
  · have hread : ¬ Satisfiable (.object humidityEntries)
        (temperatureField (some (.string "n/a"))) := by
      intro hread
      exact Bool.false_ne_true ((hread.2 hsource).2 (.string "n/a") rfl)
    rw [extractFields_of_not_satisfiable hvalid (by decide)
      (show _ = [] ++ temperatureField (some (.string "n/a")) :: [] from rfl)
      (fun other hother => absurd hother List.not_mem_nil) hread, entryError, takenValue, hsource]
    rfl

/-- The value at every source is kept under the target of its entry exactly when no later entry of
the same target takes another value. -/
theorem extractFields_values_iff (mapping : PayloadSchemaMapping) (entries : ValueMap)
    (maxExtractedFields : Nat) (fields : BTreeMap FieldValue)
    (h : extractFields (some mapping) (.json (.object entries)) maxExtractedFields = .ok fields) :
    (∀ field ∈ mapping.fields, ∀ value, sourceValue (.object entries) field = some value →
        fields.get field.target = some (.fromJson value) ∧ hasType field.valueType value = true) ↔
      ∀ field ∈ mapping.fields, ∀ value, sourceValue (.object entries) field = some value →
        lastValue (.object entries) mapping.fields field.target = some value := by
  obtain ⟨hvalid, hlimit⟩ := extractFields_eq_ok h
  have hall := (extractFields_isOk_iff hvalid hlimit).mp ⟨fields, h⟩
  refine forall₂_congr fun field hfield => forall₂_congr fun value hvalue => ?_
  rw [extractFields_get h, ← Option.map_some,
    (Option.map_injective FieldValue.fromJson_injective).eq_iff]
  exact and_iff_left ((hall field hfield).1 value hvalue)

/-- The entry that reads `temp` under the name `temperature`. -/
def tempField : FieldMapping :=
  { temperatureField (some (.number (.posInt 20))) with source := ⟨"temp"⟩ }

theorem sourceValue_temperatureField (default : Option Value) :
    sourceValue (.object temperatureEntries) (temperatureField default) =
      some (.number (.posInt 35)) := by
  have hsegments : (FieldPath.mk "temperature").segments = ["temperature"] := by decide +kernel
  rw [sourceValue, temperatureField, hsegments]
  rfl

theorem sourceValue_tempField : sourceValue (.object temperatureEntries) tempField = none := by
  decide +kernel

example : (readings [tempField, temperatureField none]).validate = .ok () := by decide +kernel

/-- What the two entries take from the payload, in either order. -/
theorem extractFields_temperature {first second : FieldMapping}
    (hvalid : (readings [first, second]).validate = .ok ())
    (hfirst : Satisfiable (.object temperatureEntries) first)
    (hsecond : Satisfiable (.object temperatureEntries) second) :
    extractFields (some (readings [first, second])) (.json (.object temperatureEntries)) 128 =
      .ok (insertTaken (.object temperatureEntries) second
        (insertTaken (.object temperatureEntries) first [])) := by
  refine extractFields_of_satisfiable hvalid (show 2 ≤ 128 by decide) fun field hfield => ?_
  rcases List.mem_cons.mp hfield with rfl | hfield
  · exact hfirst
  · obtain rfl := List.mem_singleton.mp hfield
    exact hsecond

theorem satisfiable_temperatureField (default : Option Value) :
    Satisfiable (.object temperatureEntries) (temperatureField default) := by
  refine ⟨fun value hvalue => ?_, fun hsource => ?_⟩
  · rw [sourceValue_temperatureField] at hvalue
    obtain rfl := Option.some.inj hvalue
    rfl
  · rw [sourceValue_temperatureField] at hsource
    cases hsource

theorem satisfiable_tempField : Satisfiable (.object temperatureEntries) tempField := by
  refine ⟨fun value hvalue => ?_, fun _ => ⟨rfl, fun default hdefault => ?_⟩⟩
  · rw [sourceValue_tempField] at hvalue
    cases hvalue
  · obtain rfl := Option.some.inj hdefault
    rfl

theorem insertTaken_temperatureField (default : Option Value) (fields : BTreeMap FieldValue) :
    insertTaken (.object temperatureEntries) (temperatureField default) fields =
      fields.insert "temperature" (.number (.posInt 35)) := by
  rw [insertTaken, takenEntry, takenValue, sourceValue_temperatureField]
  rfl

theorem insertTaken_tempField (fields : BTreeMap FieldValue) :
    insertTaken (.object temperatureEntries) tempField fields =
      fields.insert "temperature" (.number (.posInt 20)) := by
  rw [insertTaken, takenEntry, takenValue, sourceValue_tempField]
  rfl

theorem extractFields_values_iff_readings :
    ∃ fields, extractFields (some (readings [tempField, temperatureField none]))
        (.json (.object temperatureEntries)) 128 = .ok fields ∧
      fields.get "temperature" = some (.number (.posInt 35)) := by
  have h := extractFields_temperature (by decide +kernel) satisfiable_tempField
    (satisfiable_temperatureField none)
  refine ⟨_, h, ((extractFields_values_iff _ temperatureEntries 128 _ h).mpr ?_
    (temperatureField none) (by simp [readings]) _ (sourceValue_temperatureField none)).1⟩
  intro field hfield value hvalue
  rcases List.mem_cons.mp hfield with rfl | hfield
  · rw [sourceValue_tempField] at hvalue
    cases hvalue
  · obtain rfl := List.mem_singleton.mp hfield
    rw [sourceValue_temperatureField] at hvalue
    obtain rfl := Option.some.inj hvalue
    simp [lastValue, readings, takenValue, sourceValue_temperatureField]

/-- The default of an entry replaces the value that another entry of the same target found. -/
theorem default_replaces_value :
    (readings [temperatureField none, tempField]).validate = .ok () ∧
      sourceValue (.object temperatureEntries) (temperatureField none) =
        some (.number (.posInt 35)) ∧
      extractFields (some (readings [temperatureField none, tempField]))
        (.json (.object temperatureEntries)) 128 =
          .ok [("temperature", .number (.posInt 20))] := by
  have hvalid : (readings [temperatureField none, tempField]).validate = .ok () := by
    decide +kernel
  refine ⟨hvalid, sourceValue_temperatureField none, ?_⟩
  rw [extractFields_temperature hvalid (satisfiable_temperatureField none) satisfiable_tempField,
    insertTaken_temperatureField, insertTaken_tempField]
  rfl

/-- An entry whose target is its own has the last value of the target. -/
theorem lastValue_of_nodup {fields : List FieldMapping} {field : FieldMapping} {value : Value}
    (hnodup : (fields.map FieldMapping.target).Nodup) (hfield : field ∈ fields)
    (hvalue : sourceValue payload field = some value) :
    lastValue payload fields field.target = some value := by
  have htaken : takenValue payload field = some value := by rw [takenValue, hvalue, Option.some_or]
  induction fields with
  | nil => cases hfield
  | cons head fields ih =>
    obtain ⟨hhead, hnodup⟩ := List.nodup_cons.mp hnodup
    rw [lastValue, List.reverse_cons, List.findSome?_append]
    rcases List.mem_cons.mp hfield with rfl | hfield
    · have hnone : lastValue payload fields field.target = none := by
        rw [lastValue, List.findSome?_eq_none_iff]
        intro other hother
        refine if_neg fun htarget => hhead ?_
        rw [← htarget]
        exact List.mem_map_of_mem (List.mem_reverse.mp hother)
      rw [lastValue] at hnone
      rw [hnone, Option.none_or, List.findSome?_singleton, if_pos rfl, htaken]
    · have hlast := ih hnodup hfield
      rw [lastValue] at hlast
      rw [hlast, Option.some_or]

end Mapping

end Pipeline
end Core
end PipeBolt
