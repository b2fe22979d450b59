import PipeBolt.Lib.Fallible
import PipeBolt.Rust.Text

/-!
# Identifiers and text checks

`pipe_bolt_domain::id` and `pipe_bolt_domain::error`: the text and identifier checks, and the
identifier types.  Every identifier type of the crate comes from one macro, so here they are one
type indexed by the field name that the macro passes to the checks.

The constructor `Identifier.new` runs the check.  The derived `Deserialize` does not: it builds
`⟨value⟩` from any string.
-/

namespace PipeBolt
namespace Domain

open Rust

/-- `DomainError`. -/
inductive DomainError where
  | emptyField (field : String)
  | fieldTooLong (field : String) (max : Nat)
  | invalidControlCharacters (field : String)
  | invalidTopicFilter (reason : String)
  | invalidTopicName (reason : String)
  | invalidFieldPath (reason : String)
  | invalidBrokerPort
  | invalidKeepAlive
  deriving DecidableEq, Repr

/-- The text of a `DomainError`. -/
def DomainError.display : DomainError → String
  | .emptyField field => s!"{field} must not be empty"
  | .fieldTooLong field max => s!"{field} is too long: max {max} bytes"
  | .invalidControlCharacters field => s!"{field} contains invalid control characters"
  | .invalidTopicFilter reason => s!"MQTT topic filter is invalid: {reason}"
  | .invalidTopicName reason => s!"MQTT topic name is invalid: {reason}"
  | .invalidFieldPath reason => s!"field path is invalid: {reason}"
  | .invalidBrokerPort => "broker port must not be zero"
  | .invalidKeepAlive => "keep alive must be at least 5 seconds"

def MAX_ID_BYTES : Nat := 128

/-- `validate_text`. -/
def validateText (field value : String) (maxBytes : Nat) : Except DomainError Unit :=
  if (trim value).isEmpty then .error (.emptyField field)
  else if maxBytes < len value then .error (.fieldTooLong field maxBytes)
  else if value.toList.any isControl then .error (.invalidControlCharacters field)
  else .ok ()

/-- What `validate_text` accepts. -/
structure IsText (value : String) (maxBytes : Nat) : Prop where
  nonblank : (trim value).isEmpty = false
  short : len value ≤ maxBytes
  printable : ∀ c ∈ value.toList, isControl c = false

theorem validateText_eq_ok_iff {field value : String} {maxBytes : Nat} :
    validateText field value maxBytes = .ok () ↔ IsText value maxBytes := by
  rw [validateText, Fallible.guard_eq_ok_iff, Fallible.guard_eq_ok_iff, Fallible.guard_eq_ok_iff]
  constructor
  · rintro ⟨hblank, hlen, hctl, -⟩
    refine ⟨Bool.eq_false_iff.mpr hblank, Nat.le_of_not_lt hlen, fun c hc => ?_⟩
    exact Bool.eq_false_iff.mpr fun h => hctl (List.any_eq_true.mpr ⟨c, hc, h⟩)
  · rintro ⟨hblank, hlen, hctl⟩
    refine ⟨Bool.eq_false_iff.mp hblank, Nat.not_lt_of_le hlen, fun h => ?_, rfl⟩
    obtain ⟨c, hc, h⟩ := List.any_eq_true.mp h
    exact Bool.eq_false_iff.mp (hctl c hc) h

/-- The characters an identifier may hold. -/
def isIdentifierChar (c : Char) : Bool :=
  c.isAlphanum || c == '-' || c == '_' || c == '.' || c == ':'

/-- `validate_identifier`. -/
def validateIdentifier (field value : String) : Except DomainError Unit := do
  validateText field value MAX_ID_BYTES
  if !value.toList.all isIdentifierChar then .error (.invalidControlCharacters field)
  else .ok ()

/-- What `validate_identifier` accepts. -/
structure IsIdentifier (value : String) : Prop where
  nonempty : value ≠ ""
  short : len value ≤ MAX_ID_BYTES
  chars : ∀ c ∈ value.toList, isIdentifierChar c = true

theorem isIdentifierChar_range {c : Char} (h : isIdentifierChar c = true) :
    0x2d ≤ c.toNat ∧ c.toNat ≤ 0x7a := by
  have hcases : c.isAlphanum = true ∨ c = '-' ∨ c = '_' ∨ c = '.' ∨ c = ':' := by
    simpa [isIdentifierChar, or_assoc] using h
  rcases hcases with halnum | rfl | rfl | rfl | rfl
  · have hclass : ((decide (c.val ≥ 65 ∧ c.val ≤ 90) ||
        decide (c.val ≥ 97) && decide (c.val ≤ 122)) ||
        decide (c.val ≥ 48) && decide (c.val ≤ 57)) = true := halnum
    simp only [Bool.or_eq_true, Bool.and_eq_true, decide_eq_true_eq, ge_iff_le,
      UInt32.le_iff_toNat_le] at hclass
    change ((65 ≤ c.toNat ∧ c.toNat ≤ 90) ∨ (97 ≤ c.toNat ∧ c.toNat ≤ 122)) ∨
      (48 ≤ c.toNat ∧ c.toNat ≤ 57) at hclass
    omega
  · decide
  · decide
  · decide
  · decide

/-- A nonempty text of characters that are no blanks and no controls is a text. -/
theorem isText_of_chars {value : String} {maxBytes : Nat} {p : Char → Bool} (hne : value ≠ "")
    (hshort : len value ≤ maxBytes) (hchars : ∀ c ∈ value.toList, p c = true)
    (hp : ∀ c, p c = true → 0x2d ≤ c.toNat ∧ c.toNat ≤ 0x7a) : IsText value maxBytes := by
  refine ⟨?_, hshort, ?_⟩
  · rw [Bool.eq_false_iff]
    intro hblank
    obtain ⟨c, hc⟩ := List.exists_mem_of_ne_nil _ fun h => hne (String.toList_eq_nil_iff.mp h)
    have hspace := trim_isEmpty_iff.mp hblank c hc
    have hrange := hp c (hchars c hc)
    simp only [isWhitespace, Bool.or_eq_true, Bool.and_eq_true, decide_eq_true_eq, beq_iff_eq]
      at hspace
    omega
  · intro c hc
    have hrange := hp c (hchars c hc)
    rw [Bool.eq_false_iff]
    intro hcontrol
    simp only [isControl, Bool.or_eq_true, Bool.and_eq_true, decide_eq_true_eq] at hcontrol
    omega

theorem validateIdentifier_eq_ok_iff {field value : String} :
    validateIdentifier field value = .ok () ↔ IsIdentifier value := by
  have hall : (!value.toList.all isIdentifierChar) = true ↔
      ¬ ∀ c ∈ value.toList, isIdentifierChar c = true := by
    rw [Bool.not_eq_true', ← Bool.not_eq_true, List.all_eq_true]
  rw [validateIdentifier, Fallible.check_eq_ok_iff, Fallible.guard_eq_ok_iff, hall, not_not,
    validateText_eq_ok_iff]
  constructor
  · rintro ⟨htext, hchars, -⟩
    refine ⟨?_, htext.short, hchars⟩
    rintro rfl
    have hblank := htext.nonblank
    exact absurd hblank (by decide)
  · intro h
    exact ⟨isText_of_chars h.nonempty h.short h.chars fun _ => isIdentifierChar_range, h.chars, rfl⟩

/-- An identifier type of the crate, indexed by the field name its checks report. -/
structure Identifier (field : String) where
  raw : String
  deriving DecidableEq, Repr

/-- `new`, the validating constructor. -/
def Identifier.new {field : String} (value : String) : Except DomainError (Identifier field) := do
  validateIdentifier field value
  return ⟨value⟩

abbrev TenantId := Identifier "tenant_id"
abbrev UserId := Identifier "user_id"
abbrev ProjectId := Identifier "project_id"
abbrev BrokerId := Identifier "broker_id"
abbrev RouteId := Identifier "route_id"
abbrev SchemaMappingId := Identifier "schema_mapping_id"
abbrev RuleId := Identifier "rule_id"
abbrev SinkId := Identifier "sink_id"
abbrev CommandTemplateId := Identifier "command_template_id"
abbrev CommandExecutionId := Identifier "command_execution_id"
abbrev EventId := Identifier "event_id"

/-- The characters a segment of a field path may hold. -/
def isFieldPathChar (c : Char) : Bool :=
  c.isAlphanum || c == '_' || c == '-'

/-- `validate_field_path`. -/
def validateFieldPath (path : String) : Except DomainError Unit := do
  validateText "field_path" path 256
  if startsWith path "." || endsWith path "." || containsStr path ".." then
    .error (.invalidFieldPath "path must contain non-empty dot-separated segments")
  else if !(split path '.').all (fun segment => segment.toList.all isFieldPathChar) then
    .error (.invalidFieldPath "path segment contains unsupported characters")
  else .ok ()

/-- `FieldPath`, as the derived `Deserialize` builds it. -/
structure FieldPath where
  raw : String
  deriving DecidableEq, Repr

/-- `FieldPath::segments`. -/
def FieldPath.segments (path : FieldPath) : List String := split path.raw '.'

end Domain
end PipeBolt
