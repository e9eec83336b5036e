import AeadEnvelope.Proofs.TagLength.LegacyLayout
import AeadEnvelope.Proofs.VarintFrame.Layout

/-!
# A wire is inspected as it is opened

Whatever is read of a wire has a context with a canonical text, also where a mask and a description
were joined, so what keeps a wire from being summarized is only its structure
(`Summary.ofWire_eq_error_iff`, `Summary.ofWire_varint_eq_error_iff`) and a context that was read
agrees at least with itself (`TagLength.decode_own_context`). Main statement: the summary of a wire
and both ways of opening it tell dialects apart alike, find the same faults but for a mismatch
whatever is expected, and where a wire is opened its summary is that of what was opened
(`Summary.ofWire_agrees_decode`).
-/
namespace AeadEnvelope

namespace TagLength

variable {wire : Bytes} {packet : Packet}

/-- The context of a wire that is read has a canonical text. -/
theorem exists_canonical_of_parse (read : parse wire = .ok packet) {context : Context}
    (held : packet.envelope.context = some context) : ∃ text, context.canonical = .ok text := by
  rcases layout_of_parse read with ⟨layout, -, -, found, stands, rfl⟩ | ⟨layout, -, -, holds⟩
  · exact stands.exists_canonical held
  · obtain ⟨found, given, rfl⟩ := Current.Layout.packet_eq_ok_iff.mp holds
    rcases Outcome.mapM_eq_ok_iff.mp given with ⟨-, rfl⟩ | ⟨text, parsed, -, rfl, accepted⟩
    · cases held
    · obtain rfl := Option.some.inj held
      exact Context.exists_canonical_of_parse accepted

/-- The wire of a packet starts with the version of its dialect, which is a tag/length one. -/
theorem head?_of_parse (read : parse wire = .ok packet) :
    packet.dialect ≠ .varint ∧ wire.head? = some packet.dialect.versionByte := by
  rcases layout_of_parse read with ⟨layout, -, rfl, _, -, rfl⟩ | ⟨layout, -, rfl, holds⟩
  · exact ⟨nofun, rfl⟩
  · obtain ⟨_, -, rfl⟩ := Current.Layout.packet_eq_ok_iff.mp holds
    exact ⟨nofun, rfl⟩

/-- Keys that a mask names are placeholders of the context. -/
theorem name_mem_placeholders (read : parse wire = .ok packet) {key : MaskKey}
    (named : key ∈ packet.keys) :
    key.name ∈ (packet.envelope.context.map Context.placeholders).getD [] := by
  rcases layout_of_parse read with ⟨layout, -, -, found, stands, rfl⟩ | ⟨layout, -, -, holds⟩
  · have set : MaskKey.Named layout.mask key.name := ⟨key, MaskKey.mem_named_iff.mp named, rfl⟩
    cases stands with
    | unmasked zero _ => exact absurd (zero ▸ set) (Legacy.Layout.not_named_zero _)
    | @masked _ context _ _ described =>
      have vacant : context.values.find? key.name = some none :=
        (described.found _ _).mpr (.inl ⟨set, rfl⟩)
      have listed := Dictionary.find?_eq_some_iff.mp vacant
      exact List.mem_map.mpr ⟨_, List.mem_filter.mpr ⟨listed, rfl⟩, rfl⟩
  · obtain ⟨_, -, rfl⟩ := Current.Layout.packet_eq_ok_iff.mp holds
    cases named

/-- A wire that is read is opened under its own context. -/
theorem decode_own_context (read : parse wire = .ok packet) :
    (decode wire packet.envelope.context).outcome = .ok packet.envelope := by
  have verified := Context.verify_self fun _ held => exists_canonical_of_parse read held
  exact decode_outcome_eq_ok_iff.mpr ⟨packet, read, rfl, verified⟩

/-- No structure of a wire is refused for a mismatch. -/
theorem parse_ne_mismatch (wire : Bytes) : parse wire ≠ .error .contextMismatch := by
  intro failed
  cases wire with
  | nil => cases failed
  | cons version body =>
    by_cases legacy : version = Dialect.legacy.versionByte
    · obtain ⟨cause, impossible⟩ := Legacy.parse_malformed (legacy ▸ failed)
      cases impossible
    · by_cases current : version = Dialect.current.versionByte
      · obtain ⟨cause, impossible⟩ := parse_current_malformed (current ▸ failed)
        cases impossible
      · rw [parse_unsupported legacy current body] at failed
        cases failed

/-- A tag/length wire that is read is refused for nothing but a mismatch. -/
theorem eq_mismatch_of_decode {wire : Bytes} {packet : Packet} (read : parse wire = .ok packet)
    {expected : Option Context} {fault : Fault}
    (refused : (decode wire expected).outcome = .error fault) : fault = .contextMismatch := by
  rcases decode_outcome_of_parse_ok read expected with ⟨-, opened⟩ | ⟨-, mismatch⟩
  · cases opened.symm.trans refused
  · exact Except.error.inj (refused.symm.trans mismatch)

end TagLength

namespace VarintFrame

/-- A wire whose structure is refused is not refused for a mismatch. -/
theorem parse_ne_mismatch (wire : Bytes) : parse wire ≠ .error .contextMismatch := by
  intro failed
  cases parse_eq_error_iff.mp failed

/-- A varint wire that is read is refused for nothing but a mismatch. -/
theorem eq_mismatch_of_decode {wire : Bytes} {frame : VarintFrame} (read : parse wire = .ok frame)
    {limits : AssociatedData.Limits} {expected : Option (List (String × String))} {fault : Fault}
    (refused : (decode limits wire expected).outcome = .error fault) :
    fault = .contextMismatch := by
  rcases decode_outcome_of_parse_ok limits expected read with ⟨-, opened⟩ | ⟨-, mismatch⟩
  · cases opened.symm.trans refused
  · exact Except.error.inj (refused.symm.trans mismatch)

end VarintFrame

section Structure

variable {β γ : Type} {opened : Except Fault β} {parsed : Except Fault γ} {fault : Fault}

/-- What is no mismatch is a fault of the structure, where nothing but a mismatch is found in a
structure without fault. -/
theorem parsed_of_ne_mismatch
    (passed : ∀ early, parsed = .error early → opened = .error early)
    (compared : ∀ found, parsed = .ok found → ∀ late, opened = .error late →
      late = .contextMismatch)
    (other : fault ≠ .contextMismatch) (failed : opened = .error fault) :
    parsed = .error fault := by
  cases structural : parsed with
  | ok found => exact absurd (compared found structural fault failed) other
  | error early =>
    have again := (passed early structural).symm.trans failed
    exact congrArg Except.error (Except.error.inj again)

/-- A mismatch is found only in a structure without fault, where that of a structure is passed on
and is no mismatch. -/
theorem exists_parsed_of_mismatch
    (passed : ∀ early, parsed = .error early → opened = .error early)
    (sound : parsed ≠ .error .contextMismatch) (failed : opened = .error .contextMismatch) :
    ∃ found, parsed = .ok found := by
  cases structural : parsed with
  | ok found => exact ⟨found, rfl⟩
  | error early =>
    have same := (passed early structural).symm.trans failed
    exact absurd (structural.trans (congrArg Except.error (Except.error.inj same))) sound

end Structure

/-- Faults other than a mismatch are those of an inspection, under one expectation as under every
one. -/
def SameFaults {α β ε : Type} (inspected : Except Fault α) (opened : ε → Except Fault β) : Prop :=
  ∀ fault, fault ≠ .contextMismatch →
    (inspected = .error fault ↔ ∃ expected, opened expected = .error fault) ∧
    (inspected = .error fault ↔ ∀ expected, opened expected = .error fault)

/-- Faults are the same where those of one structure are passed on, and nothing but a mismatch is
found where there are none. -/
theorem sameFaults_of_structure {α β γ ε : Type} [Nonempty ε] {inspected : Except Fault α}
    {opened : ε → Except Fault β} {parsed : Except Fault γ}
    (inspection : ∀ fault, inspected = .error fault ↔ parsed = .error fault)
    (passed : ∀ fault, parsed = .error fault → ∀ expected, opened expected = .error fault)
    (compared : ∀ found, parsed = .ok found → ∀ expected fault,
      opened expected = .error fault → fault = .contextMismatch) :
    SameFaults inspected opened := by
  intro fault other
  obtain ⟨any⟩ : Nonempty ε := inferInstance
  -- A fault that is no mismatch cannot come from the comparison, so it is one of the structure.
  have back : ∀ expected, opened expected = .error fault → parsed = .error fault := by
    intro expected failed
    have passedOn : ∀ early, parsed = .error early → opened expected = .error early :=
      fun early structural => passed early structural expected
    exact parsed_of_ne_mismatch passedOn (fun found read => compared found read expected) other
      failed
  rw [inspection]
  constructor
  · constructor
    · exact fun failed => ⟨any, passed fault failed any⟩
    · rintro ⟨expected, failed⟩
      exact back expected failed
  · constructor
    · exact passed fault
    · exact fun failed => back any (failed any)

namespace Summary

variable {wire : Bytes} {fault : Fault}

/-- A wire of another version has no summary. -/
theorem ofWire_unsupported {version : UInt8} (notLegacy : version ≠ 0x01)
    (notCurrent : version ≠ 0x02) (notVarint : version ≠ 0xEE) (body : Bytes) :
    ofWire (version :: body) = .error (.unsupportedVersion version) := by
  have refused : Dialect.detect (version :: body) = .error (.unsupportedVersion version) := by
    have legacy : version ≠ Dialect.legacy.versionByte := notLegacy
    have current : version ≠ Dialect.current.versionByte := notCurrent
    have varint : version ≠ Dialect.varint.versionByte := notVarint
    rw [Dialect.detect, Dialect.ofByte, if_neg legacy, if_neg current, if_neg varint]
  rw [ofWire, refused]
  rfl

/-- The summary of a varint wire is that of the frame that is read of it. -/
theorem ofWire_varint (body : Bytes) :
    ofWire (0xEE :: body) = (VarintFrame.parse (0xEE :: body)).map fun frame =>
      ofFrame frame (0xEE :: body).length := by
  have detected : Dialect.detect (0xEE :: body) = .ok .varint :=
    Dialect.ofByte_versionByte .varint
  rw [ofWire, detected]
  cases VarintFrame.parse (0xEE :: body) <;> rfl

/-- What a summary tells of a wire that an envelope was opened from. -/
structure Describes (summary : Summary) (wire : Bytes) (envelope : Envelope) : Prop where
  /-- The wire starts with the version of the dialect. -/
  dialect : wire.head? = some summary.dialect.versionByte
  /-- The version is that of the dialect. -/
  version : summary.version = summary.dialect.versionByte
  /-- There is a context exactly if the envelope has one. -/
  context : summary.hasContext = envelope.context.isSome
  /-- The fingerprint is that of the canonical text of the context, which there is. -/
  fingerprint : ∃ text, envelope.context.mapM Context.canonical = .ok text ∧
    summary.fingerprint = text.map fun canonical => AeadEnvelope.fingerprint (utf8 canonical)
  /-- The placeholders are those of the context. -/
  placeholders : summary.placeholders = (envelope.context.map Context.placeholders).getD []
  /-- Every key that a mask names is a placeholder. -/
  keys : ∀ key ∈ summary.keys, key.name ∈ summary.placeholders
  /-- The ciphertext is as long as it is said to be. -/
  ciphertextLength : summary.ciphertextLength = envelope.ciphertext.length
  /-- The wire is as long as it is said to be. -/
  totalLength : summary.totalLength = wire.length

/-- What a summary tells of a wire that a frame was opened from. -/
structure DescribesFrame (summary : Summary) (wire : Bytes) (frame : VarintFrame) : Prop where
  /-- The wire starts with the version of the dialect. -/
  dialect : wire.head? = some summary.dialect.versionByte
  /-- The version is that of the dialect. -/
  version : summary.version = summary.dialect.versionByte
  /-- There is a context exactly if the frame has associated data. -/
  context : summary.hasContext = frame.associated.isSome
  /-- The fingerprint is that of the associated data. -/
  fingerprint : summary.fingerprint = frame.associated.map AeadEnvelope.fingerprint
  /-- No key is named by a mask or left without a value. -/
  keys : summary.keys = [] ∧ summary.placeholders = []
  /-- The ciphertext is as long as it is said to be. -/
  ciphertextLength : summary.ciphertextLength = frame.ciphertext.length
  /-- The wire is as long as it is said to be. -/
  totalLength : summary.totalLength = wire.length

/-- A tag/length wire that is read has a summary, which describes its envelope. -/
theorem exists_describes {packet : TagLength.Packet} (read : TagLength.parse wire = .ok packet) :
    ∃ summary, ofWire wire = .ok summary ∧ summary.Describes wire packet.envelope := by
  obtain ⟨text, written⟩ := Outcome.exists_mapM fun _ held =>
    TagLength.exists_canonical_of_parse read held
  rw [ofWire_of_parse read]
  refine ⟨_, ofPacket_eq_ok_iff.mpr ⟨text, written, rfl⟩, ?_⟩
  constructor
  · exact (TagLength.head?_of_parse read).2
  · rfl
  · rfl
  · exact ⟨text, written, rfl⟩
  · rfl
  · exact fun key named => TagLength.name_mem_placeholders read named
  · rfl
  · rfl

/-- A tag/length wire has no summary exactly for the fault of its structure. -/
theorem ofWire_eq_error_iff {dialect : Dialect} (tagged : dialect ≠ .varint) {body : Bytes} :
    ofWire (dialect.versionByte :: body) = .error fault ↔
      TagLength.parse (dialect.versionByte :: body) = .error fault := by
  cases read : TagLength.parse (dialect.versionByte :: body) with
  | error cause =>
    rw [ofWire_eq_bind tagged, read]
    simp [Except.bind]
  | ok packet =>
    obtain ⟨summary, made, -⟩ := exists_describes read
    rw [made]
    exact ⟨nofun, nofun⟩

/-- A varint wire has no summary exactly for the fault of its structure. -/
theorem ofWire_varint_eq_error_iff {body : Bytes} :
    ofWire (0xEE :: body) = .error fault ↔ VarintFrame.parse (0xEE :: body) = .error fault := by
  rw [ofWire_varint]
  cases VarintFrame.parse (0xEE :: body) <;> simp [Except.map]

/-- A wire of a tag/length version starts with the version of such a dialect. -/
theorem exists_tagged_of_head? (version : wire.head? = some 0x01 ∨ wire.head? = some 0x02) :
    ∃ dialect body, dialect ≠ Dialect.varint ∧ wire = Dialect.versionByte dialect :: body := by
  rcases version with legacy | current
  · obtain ⟨body, rfl⟩ := List.head?_eq_some_iff.mp legacy
    exact ⟨.legacy, body, by decide, rfl⟩
  · obtain ⟨body, rfl⟩ := List.head?_eq_some_iff.mp current
    exact ⟨.current, body, by decide, rfl⟩

/-- An inspection of a tag/length wire finds the faults that opening it does. -/
theorem sameFaults_tagged (version : wire.head? = some 0x01 ∨ wire.head? = some 0x02) :
    SameFaults (ofWire wire) fun expected => (TagLength.decode wire expected).outcome := by
  obtain ⟨dialect, body, tagged, rfl⟩ := exists_tagged_of_head? version
  apply sameFaults_of_structure
  · exact fun fault => ofWire_eq_error_iff tagged
  · exact fun fault failed expected => TagLength.decode_outcome_of_parse_error failed expected
  · exact fun packet read expected fault failed => TagLength.eq_mismatch_of_decode read failed

/-- An inspection of a varint wire finds the faults that opening it does. -/
theorem sameFaults_varint (version : wire.head? = some 0xEE) (limits : AssociatedData.Limits) :
    SameFaults (ofWire wire) fun expected => (VarintFrame.decode limits wire expected).outcome := by
  obtain ⟨body, rfl⟩ := List.head?_eq_some_iff.mp version
  apply sameFaults_of_structure
  · exact fun fault => ofWire_varint_eq_error_iff
  · intro fault failed expected
    exact VarintFrame.decode_outcome_of_parse_error limits expected failed
  · exact fun frame read expected fault failed => VarintFrame.eq_mismatch_of_decode read failed

/-- An inspection never fails for a mismatch. -/
theorem ofWire_ne_mismatch (wire : Bytes) : ofWire wire ≠ .error .contextMismatch := by
  intro failed
  cases wire with
  | nil => cases failed
  | cons version body =>
    by_cases legacy : version = 0x01
    · subst legacy
      have tagged : Dialect.legacy ≠ .varint := nofun
      exact TagLength.parse_ne_mismatch _ ((ofWire_eq_error_iff tagged).mp failed)
    · by_cases current : version = 0x02
      · subst current
        have tagged : Dialect.current ≠ .varint := nofun
        exact TagLength.parse_ne_mismatch _ ((ofWire_eq_error_iff tagged).mp failed)
      · by_cases varint : version = 0xEE
        · subst varint
          exact VarintFrame.parse_ne_mismatch _ (ofWire_varint_eq_error_iff.mp failed)
        · rw [ofWire_unsupported legacy current varint] at failed
          cases failed

/-- The summary of a varint wire that is read is that of its frame. -/
theorem ofWire_of_frame {frame : VarintFrame} (read : VarintFrame.parse wire = .ok frame) :
    ofWire wire = .ok (ofFrame frame wire.length) := by
  obtain ⟨layout, -, rfl, -⟩ := VarintFrame.parse_eq_ok_iff_layout.mp read
  have made := ofWire_varint (layout.form ++ layout.associated ++ layout.ciphertext)
  have shape : layout.wire = 0xEE :: (layout.form ++ layout.associated ++ layout.ciphertext) := rfl
  rw [← shape, read] at made
  exact made

/-- A varint wire that is read has a summary, which describes its frame. -/
theorem exists_describesFrame {frame : VarintFrame} (read : VarintFrame.parse wire = .ok frame) :
    ∃ summary, ofWire wire = .ok summary ∧ summary.DescribesFrame wire frame := by
  have made := ofWire_of_frame read
  obtain ⟨layout, -, rfl, -⟩ := VarintFrame.parse_eq_ok_iff_layout.mp read
  exact ⟨_, made, rfl, rfl, rfl, rfl, ⟨rfl, rfl⟩, rfl, rfl⟩

/-- Ways of opening a wire refuse the versions that are not theirs. -/
theorem unsupported_of_head? {version : UInt8} (starts : wire.head? = some version) :
    (version ≠ 0x01 → version ≠ 0x02 →
      TagLength.parse wire = .error (.unsupportedVersion version)) ∧
    (version ≠ 0xEE → VarintFrame.parse wire = .error (.unsupportedVersion version)) := by
  obtain ⟨body, rfl⟩ := List.head?_eq_some_iff.mp starts
  exact ⟨fun legacy current => TagLength.parse_unsupported legacy current body,
    fun foreign => VarintFrame.parse_of_refused (.version foreign)⟩

/-- No wire is read in both ways. -/
theorem not_read_twice {packet : TagLength.Packet} (read : TagLength.parse wire = .ok packet)
    (frame : VarintFrame) : VarintFrame.parse wire ≠ .ok frame := by
  obtain ⟨tagged, starts⟩ := TagLength.head?_of_parse read
  have foreign : packet.dialect.versionByte ≠ 0xEE := by
    cases dialect : packet.dialect with
    | varint => exact absurd dialect tagged
    | legacy => decide
    | current => decide
  rw [(unsupported_of_head? starts).2 foreign]
  exact nofun

/-- An inspection and both ways of opening a wire agree. They refuse a wire without a version or of
an unknown one alike, and no wire is opened in both ways. Of a wire of their own dialects they find
the same faults but for a mismatch, whatever is expected, and an inspection never finds a mismatch.
A tag/length wire that is inspected is opened under some context, and of whatever is opened the
summary tells the context, its placeholders and the lengths. -/
theorem ofWire_agrees_decode (wire : Bytes) :
    (wire = [] →
      (∃ cause, ofWire wire = .error (.malformed cause)) ∧
      (∀ expected, ∃ cause,
        (TagLength.decode wire expected).outcome = .error (.malformed cause)) ∧
      ∀ limits expected, ∃ cause,
        (VarintFrame.decode limits wire expected).outcome = .error (.malformed cause)) ∧
    (∀ version, wire.head? = some version →
      (version ≠ 0x01 → version ≠ 0x02 → version ≠ 0xEE →
        ofWire wire = .error (.unsupportedVersion version)) ∧
      (version ≠ 0x01 → version ≠ 0x02 → ∀ expected,
        (TagLength.decode wire expected).outcome = .error (.unsupportedVersion version)) ∧
      (version ≠ 0xEE → ∀ limits expected,
        (VarintFrame.decode limits wire expected).outcome =
          .error (.unsupportedVersion version))) ∧
    (∀ context envelope limits pairs frame,
      (TagLength.decode wire context).outcome = .ok envelope →
        (VarintFrame.decode limits wire pairs).outcome ≠ .ok frame) ∧
    (wire.head? = some 0x01 ∨ wire.head? = some 0x02 →
      SameFaults (ofWire wire) fun expected => (TagLength.decode wire expected).outcome) ∧
    (wire.head? = some 0xEE → ∀ limits,
      SameFaults (ofWire wire) fun expected => (VarintFrame.decode limits wire expected).outcome) ∧
    ofWire wire ≠ .error .contextMismatch ∧
    (wire.head? = some 0x01 ∨ wire.head? = some 0x02 → ∀ summary, ofWire wire = .ok summary →
      ∃ expected envelope, (TagLength.decode wire expected).outcome = .ok envelope) ∧
    (∀ expected envelope, (TagLength.decode wire expected).outcome = .ok envelope →
      ∃ summary, ofWire wire = .ok summary ∧ summary.Describes wire envelope) ∧
    (∀ limits expected frame, (VarintFrame.decode limits wire expected).outcome = .ok frame →
      ∃ summary, ofWire wire = .ok summary ∧ summary.DescribesFrame wire frame) := by
  refine ⟨?_, ?_, ?_, sameFaults_tagged, sameFaults_varint, ofWire_ne_mismatch wire, ?_, ?_, ?_⟩
  · rintro rfl
    exact ⟨⟨_, rfl⟩, fun _ => ⟨_, rfl⟩, fun _ _ => ⟨_, rfl⟩⟩
  · intro version starts
    obtain ⟨tagLength, varint⟩ := unsupported_of_head? starts
    refine ⟨fun notLegacy notCurrent notVarint => ?_, fun notLegacy notCurrent expected => ?_,
      fun notVarint limits expected => ?_⟩
    · obtain ⟨body, rfl⟩ := List.head?_eq_some_iff.mp starts
      exact ofWire_unsupported notLegacy notCurrent notVarint body
    · exact TagLength.decode_outcome_of_parse_error (tagLength notLegacy notCurrent) expected
    · exact VarintFrame.decode_outcome_of_parse_error limits expected (varint notVarint)
  · intro context envelope limits pairs frame opened openedToo
    obtain ⟨packet, read, -, -⟩ := TagLength.decode_outcome_eq_ok_iff.mp opened
    obtain ⟨readToo, -⟩ := VarintFrame.decode_outcome_eq_ok_iff.mp openedToo
    exact not_read_twice read frame readToo
  · intro version summary made
    obtain ⟨dialect, body, tagged, rfl⟩ := exists_tagged_of_head? version
    cases read : TagLength.parse (dialect.versionByte :: body) with
    | error fault => cases made.symm.trans ((ofWire_eq_error_iff tagged).mpr read)
    | ok packet => exact ⟨_, _, TagLength.decode_own_context read⟩
  · intro expected envelope opened
    obtain ⟨packet, read, rfl, -⟩ := TagLength.decode_outcome_eq_ok_iff.mp opened
    exact exists_describes read
  · intro limits expected frame opened
    obtain ⟨read, -⟩ := VarintFrame.decode_outcome_eq_ok_iff.mp opened
    exact exists_describesFrame read

/-- A legacy wire with a masked key, and with a further one in capitals beside the mask. -/
def joinedWire : Bytes := [1, 0, 0, 0, 2, 1, 0, 3, 66, 61, 120, 3, 7]

/-- The context of that wire. -/
def joinedContext : Context where
  values := ⟨[("b", some "x"), ("table_name", none)], by decide⟩
  named := by decide +kernel

/-- A context with a value under the masked key of that wire. -/
def joinedExpected : Context where
  values := ⟨[("b", some "x"), ("table_name", some "t")], by decide⟩
  named := by decide +kernel

/-- The summary of that wire tells of the masked key, and a wire with an unknown bit is malformed
under every context. -/
theorem ofWire_agrees_decode_joined :
    (∃ summary, ofWire joinedWire = .ok summary ∧ summary.hasContext = true ∧
      summary.placeholders = ["table_name"] ∧ summary.ciphertextLength = 1 ∧
      summary.totalLength = 13) ∧
    ∀ expected, (TagLength.decode [1, 0, 0, 0, 1] expected).outcome =
      .error (.malformed .unknownKeyBit) := by
  have opened : (TagLength.decode joinedWire (some joinedExpected)).outcome =
      .ok ⟨some joinedContext, [7]⟩ := by decide +kernel
  have refused : ofWire [1, 0, 0, 0, 1] = .error (.malformed .unknownKeyBit) := by decide +kernel
  obtain ⟨-, -, -, -, -, -, -, describes, -⟩ := ofWire_agrees_decode joinedWire
  obtain ⟨-, -, -, sameFaults, -⟩ := ofWire_agrees_decode [1, 0, 0, 0, 1]
  obtain ⟨summary, made, told⟩ := describes _ _ opened
  refine ⟨⟨summary, made, told.context, told.placeholders, told.ciphertextLength,
    told.totalLength⟩, ?_⟩
  have structural : Fault.malformed .unknownKeyBit ≠ .contextMismatch := nofun
  exact (sameFaults (.inl rfl) _ structural).2.mp refused

end Summary

end AeadEnvelope
