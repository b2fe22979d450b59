import PipeBolt.Lib.Separated
import PipeBolt.Storage.Secret

/-!
# The associated data of stored secrets

`broker_password_aad` and `sink_header_aad` of `pipe_bolt_storage::project_config_codec`.  Both
join identifiers and keywords with `':'`, and an identifier may hold `':'` itself, so the question
is when two slots share their associated data.

* `SecretSlot`: a place for a secret, with the associated data that binds a ciphertext to it.
* `Shifted`: the segments of one slot read as those of the other when a boundary moves.
* `aad_eq_iff`: two slots share their associated data when they are one slot or shifted.
* `aad_binds_iff`: the associated data of two slots keeps them apart exactly when neither is a
  shift of the other.
-/

namespace PipeBolt
namespace Storage

open Domain Rust

/-- `broker_password_aad`. -/
def brokerPasswordAad (projectId : ProjectId) (brokerId : BrokerId) : String :=
  s!"project:{projectId.raw}:broker:{brokerId.raw}:mqtt_password"

/-- `sink_header_aad`. -/
def sinkHeaderAad (projectId : ProjectId) (sinkId : SinkId) (headerName : String) : String :=
  s!"project:{projectId.raw}:sink:{sinkId.raw}:header:{headerName}"

/-- The places where the codec keeps a secret. -/
inductive SecretSlot where
  | mqttPassword (project : ProjectId) (broker : BrokerId)
  | sinkHeader (project : ProjectId) (sink : SinkId) (header : String)
  deriving DecidableEq, Repr

namespace SecretSlot

/-- The associated data of a slot. -/
def aad : SecretSlot → String
  | .mqttPassword project broker => brokerPasswordAad project broker
  | .sinkHeader project sink header => sinkHeaderAad project sink header

def project : SecretSlot → ProjectId
  | .mqttPassword project _ => project
  | .sinkHeader project _ _ => project

/-- The keyword that follows the project. -/
def keyword : SecretSlot → String
  | .mqttPassword _ _ => "broker"
  | .sinkHeader _ _ _ => "sink"

/-- The segments that follow the keyword. -/
def rest : SecretSlot → List String
  | .mqttPassword _ broker => split broker.raw ':' ++ ["mqtt_password"]
  | .sinkHeader _ sink header => split sink.raw ':' ++ "header" :: split header ':'

/-- The segments of the associated data. -/
theorem split_aad (slot : SecretSlot) :
    split slot.aad ':' =
      "project" :: (split slot.project.raw ':' ++ slot.keyword :: slot.rest) := by
  cases slot with
  | mqttPassword project broker =>
    have haad : (mqttPassword project broker).aad = "project" ++ ":" ++ (project.raw ++ ":" ++
        ("broker" ++ ":" ++ (broker.raw ++ ":" ++ "mqtt_password"))) := by
      simp only [aad, brokerPasswordAad, String.append_assoc]
      rfl
    rw [haad, split_join rfl, split_join rfl, split_join rfl, split_join rfl]
    rfl
  | sinkHeader project sink header =>
    have haad : (sinkHeader project sink header).aad = "project" ++ ":" ++ (project.raw ++ ":" ++
        ("sink" ++ ":" ++ (sink.raw ++ ":" ++ ("header" ++ ":" ++ header)))) := by
      simp only [aad, sinkHeaderAad, String.append_assoc]
      rfl
    rw [haad, split_join rfl, split_join rfl, split_join rfl, split_join rfl, split_join rfl]
    rfl

/-! ## Shifted slots -/

/-- The project of `other` is the project of `slot` run on over its keyword, and what is left of
`slot` starts again at the keyword of `other`. -/
def ProjectShift (slot other : SecretSlot) : Prop :=
  ∃ m, split other.project.raw ':' = split slot.project.raw ':' ++ slot.keyword :: m ∧
    slot.rest = m ++ other.keyword :: other.rest

/-- Within one project, the sink of `other` is the sink of `slot` run on over `header`, and what
is left of the header of `slot` starts again at `header`. -/
def HeaderShift : SecretSlot → SecretSlot → Prop
  | .sinkHeader project sink header, .sinkHeader project' sink' header' =>
    project = project' ∧ ∃ m, split sink'.raw ':' = split sink.raw ':' ++ "header" :: m ∧
      split header ':' = m ++ "header" :: split header' ':'
  | _, _ => False

/-- A boundary between the parts of one slot moves to give the other. -/
def Shifted (slot other : SecretSlot) : Prop :=
  ProjectShift slot other ∨ ProjectShift other slot ∨ HeaderShift slot other ∨
    HeaderShift other slot

/-! ## When two slots share their associated data -/

theorem identifier_ext {field : String} {i j : Identifier field}
    (h : split i.raw ':' = split j.raw ':') :
    i = j := by
  cases i
  cases j
  exact congrArg Identifier.mk (split_injective ':' h)

theorem aad_eq_iff_segments {slot other : SecretSlot} :
    slot.aad = other.aad ↔
      split slot.project.raw ':' ++ slot.keyword :: slot.rest =
        split other.project.raw ':' ++ other.keyword :: other.rest := by
  constructor
  · intro h
    have hsplit : split slot.aad ':' = split other.aad ':' := congrArg (split · ':') h
    rw [split_aad, split_aad] at hsplit
    exact (List.cons.inj hsplit).2
  · intro h
    apply split_injective ':'
    show split slot.aad ':' = split other.aad ':'
    rw [split_aad, split_aad, h]

/-- The parts after the keyword agree for slots of one kind when the slots agree in them, or when
a header boundary moves. -/
theorem rest_eq_iff {slot other : SecretSlot} (hproject : slot.project = other.project)
    (hkeyword : slot.keyword = other.keyword) :
    slot.rest = other.rest ↔ slot = other ∨ HeaderShift slot other ∨ HeaderShift other slot := by
  cases slot with
  | mqttPassword project broker =>
    cases other with
    | mqttPassword project' broker' =>
      have hproject : project = project' := hproject
      subst hproject
      have hrest : (mqttPassword project broker).rest = (mqttPassword project broker').rest ↔
          split broker.raw ':' = split broker'.raw ':' := List.append_left_inj _
      rw [hrest]
      constructor
      · intro h
        exact Or.inl (congrArg (mqttPassword project) (identifier_ext h))
      · rintro (h | h | h)
        · rw [(SecretSlot.mqttPassword.inj h).2]
        · exact h.elim
        · exact h.elim
    | sinkHeader => exact absurd hkeyword (show "broker" ≠ "sink" by decide)
  | sinkHeader project sink header =>
    cases other with
    | mqttPassword => exact absurd hkeyword (show "sink" ≠ "broker" by decide)
    | sinkHeader project' sink' header' =>
      have hproject : project = project' := hproject
      subst hproject
      have hmarks : (sinkHeader project sink header).rest =
          (sinkHeader project sink' header').rest ↔ _ :=
        Separated.append_cons_eq_append_cons_iff
      rw [hmarks]
      constructor
      · rintro (⟨hsink, -, hheader⟩ | ⟨m, hsink, hheader⟩ | ⟨m, hsink, hheader⟩)
        · left
          rw [identifier_ext hsink, split_injective ':' hheader]
        · exact Or.inr (Or.inl ⟨rfl, m, hsink, hheader⟩)
        · exact Or.inr (Or.inr ⟨rfl, m, hsink, hheader⟩)
      · rintro (h | ⟨-, m, hsink, hheader⟩ | ⟨-, m, hsink, hheader⟩)
        · obtain ⟨-, hsink, hheader⟩ := SecretSlot.sinkHeader.inj h
          exact Or.inl ⟨by rw [hsink], rfl, by rw [hheader]⟩
        · exact Or.inr (Or.inl ⟨m, hsink, hheader⟩)
        · exact Or.inr (Or.inr ⟨m, hsink, hheader⟩)

theorem HeaderShift.project_eq {slot other : SecretSlot} (h : HeaderShift slot other) :
    slot.project = other.project ∧ slot.keyword = other.keyword := by
  cases slot with
  | mqttPassword => exact h.elim
  | sinkHeader project sink header =>
    cases other with
    | mqttPassword => exact h.elim
    | sinkHeader project' sink' header' => exact ⟨h.1, rfl⟩

/-- Two slots share their associated data when they are one slot or shifted. -/
theorem aad_eq_iff {slot other : SecretSlot} :
    slot.aad = other.aad ↔ slot = other ∨ Shifted slot other := by
  rw [aad_eq_iff_segments, Separated.append_cons_eq_append_cons_iff]
  constructor
  -- The keywords stand at one place, or one of them stands inside the other's project.
  · rintro (⟨hproject, hkeyword, hrest⟩ | hshift | hshift)
    · rcases (rest_eq_iff (identifier_ext hproject) hkeyword).mp hrest with h | h | h
      · exact Or.inl h
      · exact Or.inr (Or.inr (Or.inr (Or.inl h)))
      · exact Or.inr (Or.inr (Or.inr (Or.inr h)))
    · exact Or.inr (Or.inl hshift)
    · exact Or.inr (Or.inr (Or.inl hshift))
  · rintro (h | hshift | hshift | hshift | hshift)
    · rw [h]
      exact Or.inl ⟨rfl, rfl, rfl⟩
    · exact Or.inr (Or.inl hshift)
    · exact Or.inr (Or.inr hshift)
    · obtain ⟨hproject, hkeyword⟩ := hshift.project_eq
      exact Or.inl ⟨by rw [hproject], hkeyword,
        (rest_eq_iff hproject hkeyword).mpr (Or.inr (Or.inl hshift))⟩
    · obtain ⟨hproject, hkeyword⟩ := hshift.project_eq
      exact Or.inl ⟨by rw [hproject], hkeyword.symm,
        (rest_eq_iff hproject.symm hkeyword.symm).mpr (Or.inr (Or.inr hshift))⟩

/-- A shift moves the project or the sink, so shifted slots differ. -/
theorem Shifted.ne {slot other : SecretSlot} (h : Shifted slot other) : slot ≠ other := by
  have hlonger : ∀ (xs : List String) (k : String) (m : List String), xs ≠ xs ++ k :: m := by
    intro xs k m hxs
    have hlen := congrArg List.length hxs
    rw [List.length_append, List.length_cons] at hlen
    omega
  rintro rfl
  have hheader : ¬ HeaderShift slot slot := by
    intro h
    cases slot with
    | mqttPassword => exact h
    | sinkHeader =>
      obtain ⟨-, m, hsink, -⟩ := h
      exact hlonger _ _ _ hsink
  rcases h with ⟨m, hproject, -⟩ | ⟨m, hproject, -⟩ | h | h
  · exact hlonger _ _ _ hproject
  · exact hlonger _ _ _ hproject
  · exact hheader h
  · exact hheader h

/-! ## Separation of the slots -/

/-- The associated data of two slots keeps them apart exactly when neither is a shift of the
other, and so does an ideal cipher. -/
theorem aad_binds_iff (slot other : SecretSlot) :
    ((slot.aad = other.aad → slot = other) ↔ ¬ Shifted slot other) ∧
    ∀ {ρ : Type} (cipher : SecretCipher ρ), cipher.Lawful → cipher.Ideal →
      ∀ plaintext encrypted,
        Fallible.Yields (cipher.encrypt plaintext slot.aad.toUTF8) encrypted →
          (((∃ opened, cipher.decrypt encrypted other.aad.toUTF8 = .ok opened) → slot = other) ↔
            ¬ Shifted slot other) := by
  have hpair : (slot.aad = other.aad → slot = other) ↔ ¬ Shifted slot other := by
    rw [aad_eq_iff]
    constructor
    · exact fun h hshift => hshift.ne (h (Or.inr hshift))
    · exact fun h heq => heq.resolve_right h
  refine ⟨hpair, fun cipher hlawful hideal plaintext encrypted hyield => ?_⟩
  have hopen : (∃ opened, cipher.decrypt encrypted other.aad.toUTF8 = .ok opened) ↔
      slot.aad = other.aad := by
    constructor
    · rintro ⟨opened, h⟩
      exact String.toByteArray_inj.mp (hideal _ _ _ hyield _ _ h).symm
    · intro h
      rw [← h]
      exact ⟨plaintext, hlawful.decrypt_encrypt _ _ _ hyield⟩
  rw [hopen]
  exact hpair

/-- Two brokers of one project, under the tagging cipher. -/
theorem aad_binds_iff_tagCipher :
    ((∃ opened, tagCipher.decrypt ⟨"AES-256-GCM", "tag",
        byteText (mqttPassword ⟨"a"⟩ ⟨"b"⟩).aad.toUTF8, "secret"⟩
        (mqttPassword ⟨"a"⟩ ⟨"c"⟩).aad.toUTF8 = .ok opened) →
      mqttPassword ⟨"a"⟩ ⟨"b"⟩ = mqttPassword ⟨"a"⟩ ⟨"c"⟩) ↔
    ¬ Shifted (mqttPassword ⟨"a"⟩ ⟨"b"⟩) (mqttPassword ⟨"a"⟩ ⟨"c"⟩) :=
  (aad_binds_iff (mqttPassword ⟨"a"⟩ ⟨"b"⟩) (mqttPassword ⟨"a"⟩ ⟨"c"⟩)).2 tagCipher
    tagCipher_lawful tagCipher_ideal "secret" _ ⟨(), (), rfl⟩

/-- Identifiers the constructors accept, in two slots of two projects with one associated data. -/
theorem aad_collision :
    (Identifier.new "a" : Except DomainError ProjectId) = .ok ⟨"a"⟩ ∧
    (Identifier.new "b:broker:c" : Except DomainError BrokerId) = .ok ⟨"b:broker:c"⟩ ∧
    (Identifier.new "a:broker:b" : Except DomainError ProjectId) = .ok ⟨"a:broker:b"⟩ ∧
    (Identifier.new "c" : Except DomainError BrokerId) = .ok ⟨"c"⟩ ∧
    ¬ ((mqttPassword ⟨"a"⟩ ⟨"b:broker:c"⟩).aad = (mqttPassword ⟨"a:broker:b"⟩ ⟨"c"⟩).aad →
      mqttPassword ⟨"a"⟩ ⟨"b:broker:c"⟩ = mqttPassword ⟨"a:broker:b"⟩ ⟨"c"⟩) := by
  refine ⟨rfl, rfl, rfl, rfl, fun h => ?_⟩
  exact absurd (h (by decide)) (by decide)

end SecretSlot
end Storage
end PipeBolt
