import AeadEnvelope.Proofs.Inspection

/-!
# What opening a wire leaves in the audit trail

A refusal is recorded as a note, and a mismatch as a warning that shows the fingerprint from the
summary of the wire (`Event.IsNote`, `Event.IsWarning`). A warning of a wire shows no fingerprint
exactly where the wire has no context (`Summary.Describes.contextText_eq_none_iff`). Main
statements: for a tag/length wire every mismatch ends with such a warning, in front of which a note
names the expected keys whose entries keep the contexts from being compared, so that the trail
depends on nothing else of an expected context (`TagLength.decode_events`); for a varint wire a
mismatch leaves a warning exactly if the expected pairs can be bound (`VarintFrame.decode_warns`).
-/
namespace AeadEnvelope

/-- The event is a note of a fault, with further details. -/
structure Event.IsNote (event : Event) (fault : Fault) (further : List (String × Detail)) :
    Prop where
  /-- It is of interest where the cause of a failure is looked for. -/
  severity : event.severity = .debug
  /-- It gives the words for the fault. -/
  fields : event.fields = ("error", .text fault.message) :: further

/-- The event is a warning that the wire of a summary was refused for a mismatch, with further
details. -/
structure Event.IsWarning (event : Event) (summary : Summary) (expected : Bool)
    (further : List (String × Detail)) : Prop where
  /-- It is of interest where attacks are watched for. -/
  severity : event.severity = .warn
  /-- It shows the dialect and the fingerprint of the wire and whether anything was expected. -/
  fields : event.fields =
    ("dialect", .text summary.dialect.name) :: ("packet_context", .text summary.contextText) ::
      ("expected_present", .flag expected) :: further

/-- The further details of a wire that is refused for its structure: its first byte, if it has one,
and its length. -/
def structureDetails (wire : Bytes) : List (String × Detail) :=
  [("version", .text (Event.versionText wire.head?)), ("len", .number wire.length)]

/-- A fingerprint is written in digits, so it is not the word for the lack of one. -/
theorem fingerprint_ne_none (bytes : Bytes) : fingerprint bytes ≠ "none" := by
  intro same
  have digits : ofHex? (fingerprint bytes) = some ((Sha256.digest bytes).take 8) :=
    ofHex?_toHex _
  have word : ofHex? "none" = none := by decide
  rw [same, word] at digits
  cases digits

namespace Summary

variable {summary : Summary} {wire : Bytes}

/-- A summary shows no fingerprint exactly if the envelope has no context. -/
theorem Describes.contextText_eq_none_iff {envelope : Envelope}
    (told : summary.Describes wire envelope) :
    summary.contextText = "none" ↔ envelope.context = none := by
  obtain ⟨text, written, shown⟩ := told.fingerprint
  have both := Outcome.isSome_of_mapM written
  unfold contextText
  rw [shown]
  cases text with
  | none =>
    have absent : envelope.context = none := Option.not_isSome_iff_eq_none.mp (by simp [← both])
    simp [absent]
  | some canonical =>
    have different := fingerprint_ne_none (utf8 canonical)
    have present : envelope.context ≠ none := Option.isSome_iff_ne_none.mp both.symm
    simp [different, present]

end Summary

namespace Context

variable {packet expected : Context} {entry : String × Option String}

/-- An expected entry has a separator that is seen where it is compared with a packet: in its key,
or in a value that is not left out at a placeholder of the packet. -/
def Exposes (packet : Context) (entry : String × Option String) : Prop :=
  hasSeparator entry.1 = true ∨
    packet.values.find? entry.1 ≠ some none ∧
      ∃ value, entry.2 = some value ∧ hasSeparator value = true

/-- An entry that has a place in every canonical text is not exposed. -/
theorem not_exposes_of_placed (placed : offends entry = false) : ¬ packet.Exposes entry := by
  intro exposed
  have offending : offends entry = true := by
    rw [offends_eq_true_iff]
    exact exposed.imp_right And.right
  rw [placed] at offending
  cases offending

/-- A key is at fault in a context whose values are left out at the placeholders of a packet exactly
if its entry is exposed to the packet. -/
theorem mem_offenders_shapedLike_iff {key : String} :
    key ∈ (expected.shapedLike packet).offenders ↔
      ∃ value, expected.values.find? key = some value ∧ packet.Exposes (key, value) := by
  have listed : ∀ value, (key, value) ∈ (expected.shapedLike packet).ordered ↔
      ∃ given, expected.values.find? key = some given ∧
        (if packet.values.find? key = some none then none else given) = value := by
    intro value
    rw [(ordered_perm _).mem_iff, entries, ← Dictionary.find?_eq_some_iff, find?_shapedLike,
      Option.map_eq_some_iff]
  have offending : ∀ given,
      offends (key, if packet.values.find? key = some none then none else given) = true ↔
        packet.Exposes (key, given) := by
    intro given
    rw [offends_eq_true_iff, Exposes]
    by_cases vacant : packet.values.find? key = some none <;> simp [vacant]
  simp only [offenders, List.mem_map, List.mem_filter, Prod.exists, exists_and_right,
    exists_eq_right, listed]
  constructor
  · intro found
    obtain ⟨value, ⟨given, held, rfl⟩, offends⟩ := found
    exact ⟨given, held, (offending given).mp offends⟩
  · intro found
    obtain ⟨given, held, exposed⟩ := found
    exact ⟨_, ⟨given, held, rfl⟩, (offending given).mpr exposed⟩

/-- Where the context of a packet has a canonical text, a comparison is recorded exactly if keys of
the other one are at fault, with these keys. -/
theorem compare_events {text : String} (written : packet.canonical = .ok text)
    (expected : Context) : (packet.compare expected).events =
      if (expected.shapedLike packet).offenders = [] then []
      else [.incomparable (.forbiddenCharacter (expected.shapedLike packet).offenders)] := by
  rw [compare, written]
  cases shaped : (expected.shapedLike packet).canonical with
  | ok other =>
    have placed : (expected.shapedLike packet).offenders = [] :=
      offenders_eq_nil_iff.mpr (canonical_eq_ok_iff.mp shaped).1
    simp only [if_pos placed]
  | error fault =>
    obtain ⟨faulty, rfl⟩ := canonical_eq_error_iff.mp shaped
    simp only [if_neg faulty]

/-- Both contexts are there, and an entry of the expected one is exposed to the packet. -/
def Incomparable (held wanted : Option Context) : Prop :=
  ∃ packet expected, held = some packet ∧ wanted = some expected ∧
    ∃ entry ∈ expected.entries, packet.Exposes entry

/-- An entry is exposed exactly if there is a key at fault once values were left out. -/
theorem exists_exposes_iff :
    (∃ entry ∈ expected.entries, packet.Exposes entry) ↔
      (expected.shapedLike packet).offenders ≠ [] := by
  constructor
  · intro found
    obtain ⟨⟨key, value⟩, listed, exposed⟩ := found
    have held := Dictionary.find?_eq_some_iff.mpr listed
    exact List.ne_nil_of_mem (mem_offenders_shapedLike_iff.mpr ⟨value, held, exposed⟩)
  · intro faulty
    obtain ⟨key, offending⟩ := List.exists_mem_of_ne_nil _ faulty
    obtain ⟨value, held, exposed⟩ := mem_offenders_shapedLike_iff.mp offending
    exact ⟨(key, value), Dictionary.find?_eq_some_iff.mp held, exposed⟩

section Verification

variable {held wanted : Option Context}

/-- Contexts that can be compared leave no event. -/
theorem verify_events_of_comparable
    (written : ∀ context, held = some context → ∃ text, context.canonical = .ok text)
    (comparable : ¬ Incomparable held wanted) : (verify held wanted).events = [] := by
  cases held with
  | none => cases wanted <;> rfl
  | some packet =>
    cases wanted with
    | none => rfl
    | some expected =>
      obtain ⟨text, canonical⟩ := written packet rfl
      have placed : (expected.shapedLike packet).offenders = [] := by
        apply Decidable.byContradiction
        intro faulty
        exact comparable ⟨packet, expected, rfl, rfl, exists_exposes_iff.mpr faulty⟩
      have recorded := compare_events canonical expected
      rw [if_pos placed] at recorded
      exact recorded

/-- Where an entry is exposed the keys at fault are recorded. -/
theorem verify_events_of_exposes {text : String} (written : packet.canonical = .ok text)
    (exposed : ∃ entry ∈ expected.entries, packet.Exposes entry) :
    (verify (some packet) (some expected)).events =
      [.incomparable (.forbiddenCharacter (expected.shapedLike packet).offenders)] := by
  have recorded := compare_events written expected
  rw [if_neg (exists_exposes_iff.mp exposed)] at recorded
  exact recorded

/-- Contexts that agree leave no event. -/
theorem verify_events_of_ok (accepted : (verify held wanted).outcome = .ok ()) :
    (verify held wanted).events = [] := by
  have both := (verify_outcome_eq_ok_iff held wanted).1.mp accepted
  rcases both with ⟨rfl, rfl⟩ | ⟨packet, expected, rfl, rfl, agreed⟩
  · rfl
  · obtain ⟨⟨text, written⟩, same⟩ := agrees_iff_shapedLike_eq.mp agreed
    have placed : (expected.shapedLike packet).offenders = [] := by
      rw [same]
      exact offenders_eq_nil_iff.mpr (canonical_eq_ok_iff.mp written).1
    have recorded := compare_events written expected
    rw [if_pos placed] at recorded
    exact recorded

end Verification

end Context

namespace TagLength

variable {wire : Bytes} {packet : Packet} {expected : Option Context} {fault : Fault}

/-- A wire that is read and refused leaves what the comparison does and then a warning. -/
theorem decode_of_mismatch (read : parse wire = .ok packet)
    (refused : (decode wire expected).outcome = .error fault) :
    decode wire expected =
      ⟨.error .contextMismatch, (Context.verify packet.envelope.context expected).events ++
        [.tagLengthMismatch packet.dialect (contextFingerprint packet.envelope.context)
          expected.isSome .contextMismatch]⟩ := by
  rw [decode, read] at refused ⊢
  rcases Context.verify_outcome_cases packet.envelope.context expected with agreed | mismatch
  · simp only [agreed] at refused
    cases refused
  · simp only [mismatch]

/-- The fingerprint that is recorded of a context is that of its canonical text. -/
theorem contextFingerprint_of_mapM {context : Option Context} {text : Option String}
    (written : context.mapM Context.canonical = .ok text) :
    contextFingerprint context = text.map fun canonical => fingerprint (utf8 canonical) := by
  rcases Outcome.mapM_eq_ok_iff.mp written with ⟨rfl, rfl⟩ | ⟨found, canonical, rfl, rfl, made⟩
  · rfl
  · simp only [contextFingerprint, Option.bind_some, made]
    rfl

/-- A wire that is read has a summary with its dialect and the fingerprint that is recorded of its
context. -/
theorem exists_summary_of_parse (read : parse wire = .ok packet) :
    ∃ summary, Summary.ofWire wire = .ok summary ∧ summary.dialect = packet.dialect ∧
      summary.fingerprint = contextFingerprint packet.envelope.context ∧
      (summary.contextText = "none" ↔ packet.envelope.context = none) := by
  obtain ⟨summary, made, told⟩ := Summary.exists_describes read
  have same := made
  rw [Summary.ofWire_of_parse read, Summary.ofPacket_eq_ok_iff] at same
  obtain ⟨text, written, rfl⟩ := same
  exact ⟨_, made, rfl, (contextFingerprint_of_mapM written).symm, told.contextText_eq_none_iff⟩

/-- A wire that is refused for its structure leaves a note of that. -/
theorem decode_of_parse_error (failed : parse wire = .error fault) (expected : Option Context) :
    decode wire expected = ⟨.error fault, [.tagLengthRejected fault wire.head? wire.length]⟩ := by
  rw [decode, failed]

/-- What is no mismatch is a fault of the structure. -/
theorem parse_error_of_decode (refused : (decode wire expected).outcome = .error fault)
    (structural : fault ≠ .contextMismatch) : parse wire = .error fault := by
  apply parsed_of_ne_mismatch _ _ structural refused
  · exact fun early failed => decode_outcome_of_parse_error failed expected
  · exact fun packet read late failed => eq_mismatch_of_decode read failed

/-- A wire that is refused for a mismatch is read. -/
theorem exists_parse_of_mismatch
    (refused : (decode wire expected).outcome = .error .contextMismatch) :
    ∃ packet, parse wire = .ok packet := by
  apply exists_parsed_of_mismatch _ (parse_ne_mismatch wire) refused
  exact fun early failed => decode_outcome_of_parse_error failed expected

/-- An expected context without separators that is refused leaves a warning in which nothing of it
is found. -/
theorem decode_of_plain (read : parse wire = .ok packet) {wanted : Context}
    (plain : ∀ entry ∈ wanted.entries, Context.offends entry = false)
    (refused : ∀ envelope, (decode wire (some wanted)).outcome ≠ .ok envelope) :
    decode wire (some wanted) =
      ⟨.error .contextMismatch, [.tagLengthMismatch packet.dialect
        (contextFingerprint packet.envelope.context) true .contextMismatch]⟩ := by
  have comparable : ¬ Context.Incomparable packet.envelope.context (some wanted) := by
    intro clash
    obtain ⟨context, _, -, ⟨⟩, entry, listed, exposed⟩ := clash
    exact Context.not_exposes_of_placed (plain entry listed) exposed
  have silent := Context.verify_events_of_comparable
    (fun _ held => exists_canonical_of_parse read held) comparable
  cases outcome : (decode wire (some wanted)).outcome with
  | ok envelope => exact absurd outcome (refused envelope)
  | error fault =>
    rw [decode_of_mismatch read outcome, silent]
    rfl

/-- The trail of a wire that is read and refused ends with a warning of its summary, and in front of
it stands what was recorded of comparing the contexts. -/
theorem events_of_mismatch (read : parse wire = .ok packet)
    (refused : (decode wire expected).outcome = .error fault) :
    ∃ summary earlier warning, Summary.ofWire wire = .ok summary ∧
      (summary.contextText = "none" ↔ packet.envelope.context = none) ∧
      (decode wire expected).events = earlier ++ [warning] ∧
      warning.IsWarning summary expected.isSome
        [("error", .text Fault.contextMismatch.message)] ∧
      earlier = (Context.verify packet.envelope.context expected).events := by
  obtain ⟨summary, made, dialect, fingerprint, shown⟩ := exists_summary_of_parse read
  have whole := decode_of_mismatch read refused
  refine ⟨summary, _, _, made, shown, congrArg Audited.events whole, ⟨rfl, ?_⟩, rfl⟩
  rw [Summary.contextText, fingerprint, dialect]
  rfl

/-- The trail of a tag/length wire. Nothing is recorded of a wire that is opened, and one note of
the fault, the first byte and the length of one that is refused for its structure. The trail of a
mismatch ends with a warning that shows the fingerprint from the summary of the wire, or that it has
no context, and whether a context was expected. Before the warning there is a note exactly if both
contexts are there and an expected entry is exposed to the one of the wire; it names the keys of
such entries and nothing else of a context. So of expected contexts without separators that are
refused, every one leaves the same outcome and the same trail. -/
theorem decode_events (wire : Bytes) :
    (∀ expected envelope, (decode wire expected).outcome = .ok envelope →
      (decode wire expected).events = []) ∧
    (∀ expected fault, (decode wire expected).outcome = .error fault →
      fault ≠ .contextMismatch →
      ∃ note, (decode wire expected).events = [note] ∧ note.IsNote fault (structureDetails wire)) ∧
    (∀ expected, (decode wire expected).outcome = .error .contextMismatch →
      ∃ packet summary earlier warning, parse wire = .ok packet ∧
        Summary.ofWire wire = .ok summary ∧
        (decode wire expected).events = earlier ++ [warning] ∧
        warning.IsWarning summary expected.isSome
          [("error", .text Fault.contextMismatch.message)] ∧
        (summary.contextText = "none" ↔ packet.envelope.context = none) ∧
        (¬ Context.Incomparable packet.envelope.context expected → earlier = []) ∧
        (∀ context wanted, packet.envelope.context = some context → expected = some wanted →
          (∃ entry ∈ wanted.entries, context.Exposes entry) →
          ∃ note keys, earlier = [note] ∧ note.IsNote (.forbiddenCharacter keys) [] ∧
            keys.Nodup ∧ ∀ key, key ∈ keys ↔
              ∃ value, (key, value) ∈ wanted.entries ∧ context.Exposes (key, value))) ∧
    (∀ first second : Context,
      (∀ entry ∈ first.entries, Context.offends entry = false) →
      (∀ entry ∈ second.entries, Context.offends entry = false) →
      (∀ envelope, (decode wire (some first)).outcome ≠ .ok envelope) →
      (∀ envelope, (decode wire (some second)).outcome ≠ .ok envelope) →
      decode wire (some first) = decode wire (some second)) := by
  refine ⟨?_, ?_, ?_, ?_⟩
  · intro expected envelope opened
    obtain ⟨packet, read, rfl, accepted⟩ := decode_outcome_eq_ok_iff.mp opened
    have silent := Context.verify_events_of_ok accepted
    rw [decode, read]
    simp only [accepted, silent]
  · intro expected fault refused structural
    have failed := parse_error_of_decode refused structural
    rw [decode_of_parse_error failed]
    exact ⟨_, rfl, rfl, rfl⟩
  · intro expected refused
    obtain ⟨packet, read⟩ := exists_parse_of_mismatch refused
    obtain ⟨summary, earlier, warning, made, shown, whole, warns, rfl⟩ :=
      events_of_mismatch read refused
    have written : ∀ context, packet.envelope.context = some context →
        ∃ text, context.canonical = .ok text :=
      fun context held => exists_canonical_of_parse read held
    refine ⟨packet, summary, _, warning, read, made, whole, warns, shown, ?_, ?_⟩
    · exact Context.verify_events_of_comparable written
    · intro context wanted held given exposed
      obtain ⟨text, canonical⟩ := written context held
      have recorded := Context.verify_events_of_exposes canonical exposed
      refine ⟨_, _, by rw [held, given, recorded], ⟨rfl, rfl⟩, Context.nodup_offenders _, ?_⟩
      intro key
      rw [Context.mem_offenders_shapedLike_iff]
      simp only [Dictionary.find?_eq_some_iff]
      rfl
  · intro first second firstPlain secondPlain firstRefused secondRefused
    cases read : parse wire with
    | error fault => rw [decode_of_parse_error read, decode_of_parse_error read]
    | ok packet =>
      rw [decode_of_plain read firstPlain firstRefused,
        decode_of_plain read secondPlain secondRefused]

/-- The wire of a context with one value. -/
def valuedWire : Bytes := [2, 0, 0, 0, 0, 2, 0, 0, 0, 3, 107, 61, 118, 4, 0, 0, 0, 0]

/-- A context can have the key of that wire. -/
theorem isKey_valuedWire : IsKey "k" := by decide +kernel

/-- A context in which another value is expected under the key of that wire. -/
def wantedContext (value : String) : Context := .single "k" (some value) isKey_valuedWire

/-- An expected value with a separator leaves a note of its key in front of the warning, and
expected values without one leave the same trail. -/
theorem decode_events_exposed :
    (∃ note warning, (decode valuedWire (some (wantedContext "v|x"))).events = [note, warning] ∧
      note.IsNote (.forbiddenCharacter ["k"]) [] ∧ warning.severity = .warn) ∧
    decode valuedWire (some (wantedContext "")) = decode valuedWire (some (wantedContext "w")) := by
  obtain ⟨-, -, mismatches, indistinct⟩ := decode_events valuedWire
  constructor
  · have refused : (decode valuedWire (some (wantedContext "v|x"))).outcome =
        .error .contextMismatch := by decide +kernel
    obtain ⟨packet, summary, earlier, warning, read, -, whole, warns, -, -, noted⟩ :=
      mismatches _ refused
    have held : parse valuedWire = .ok ⟨.current, [], ⟨some (wantedContext "v"), []⟩⟩ := by
      decide +kernel
    obtain rfl := Except.ok.inj (held.symm.trans read)
    have exposed : (wantedContext "v").Exposes ("k", some "v|x") :=
      .inr ⟨by decide +kernel, "v|x", rfl, by decide⟩
    obtain ⟨note, keys, rfl, notes, distinct, named⟩ :=
      noted _ _ rfl rfl ⟨("k", some "v|x"), List.mem_cons_self, exposed⟩
    have alone : keys.Perm ["k"] := by
      apply (List.perm_ext_iff_of_nodup distinct (List.nodup_singleton _)).mpr
      intro key
      rw [named, List.mem_singleton]
      constructor
      · intro found
        obtain ⟨value, listed, -⟩ := found
        exact congrArg Prod.fst (List.mem_singleton.mp listed)
      · intro same
        exact ⟨some "v|x", by rw [same]; exact List.mem_cons_self, same ▸ exposed⟩
    rw [List.perm_singleton.mp alone] at notes
    exact ⟨note, warning, whole, notes, warns.severity⟩
  · have plain : ∀ value, Context.hasSeparator value = false →
        ∀ entry ∈ (wantedContext value).entries, Context.offends entry = false := by
      intro value separated entry listed
      have key : Context.hasSeparator "k" = false := by decide
      rw [List.mem_singleton.mp listed]
      simp only [Context.offends, key, Option.any_some, separated, Bool.or_self]
    have first : (decode valuedWire (some (wantedContext ""))).outcome =
        .error .contextMismatch := by decide +kernel
    have second : (decode valuedWire (some (wantedContext "w"))).outcome =
        .error .contextMismatch := by decide +kernel
    apply indistinct _ _ (plain "" (by decide)) (plain "w" (by decide))
    · rw [first]
      exact nofun
    · rw [second]
      exact nofun

end TagLength

namespace VarintFrame

variable {limits : AssociatedData.Limits} {wire : Bytes} {frame : VarintFrame}
  {expected : Option (List (String × String))} {fault : Fault}

/-- Nothing is recorded of a wire that is opened. -/
theorem events_of_ok (opened : (decode limits wire expected).outcome = .ok frame) :
    (decode limits wire expected).events = [] := by
  obtain ⟨read, binds⟩ := decode_outcome_eq_ok_iff.mp opened
  rw [decode, read]
  simp only [binds, if_true]

/-- What is no mismatch is a fault of the structure, and a note of it is all that is recorded. -/
theorem events_of_structural (refused : (decode limits wire expected).outcome = .error fault)
    (structural : fault ≠ .contextMismatch) :
    (decode limits wire expected).events = [.varintRejected fault wire.head? wire.length] := by
  have failed : parse wire = .error fault := by
    apply parsed_of_ne_mismatch _ _ structural refused
    · exact fun early failed => decode_outcome_of_parse_error limits expected failed
    · exact fun frame read late failed => eq_mismatch_of_decode read failed
  rw [decode, failed]

/-- A wire that is refused for a mismatch is read. -/
theorem exists_parse_of_mismatch
    (refused : (decode limits wire expected).outcome = .error .contextMismatch) :
    ∃ frame, parse wire = .ok frame := by
  apply exists_parsed_of_mismatch _ (parse_ne_mismatch wire) refused
  exact fun early failed => decode_outcome_of_parse_error limits expected failed

/-- A mismatch under pairs that can be bound leaves a warning. -/
theorem events_of_bound {bound : Option Bytes} (read : parse wire = .ok frame)
    (binds : AssociatedData.canonicalize limits expected = .ok bound)
    (refused : (decode limits wire expected).outcome = .error .contextMismatch) :
    (decode limits wire expected).events =
      [.varintMismatch (frame.associated.map fingerprint) bound.isSome] := by
  rw [decode, read] at refused ⊢
  simp only [binds] at refused ⊢
  split at refused
  · cases refused
  · next apart => rw [if_neg apart]

/-- Pairs that cannot be bound leave a note of what keeps them from it. -/
theorem events_of_unbound {cause : Fault} (read : parse wire = .ok frame)
    (unbound : AssociatedData.canonicalize limits expected = .error cause) :
    (decode limits wire expected).events = [.unusableExpectation cause] := by
  rw [decode, read]
  simp only [unbound]

/-- Associated data are there exactly if there is a pair. -/
theorem isSome_of_canonicalize {bound : Option Bytes}
    (binds : AssociatedData.canonicalize limits expected = .ok bound) :
    bound.isSome = decide (expected.getD [] ≠ []) := by
  obtain ⟨-, rfl⟩ := AssociatedData.canonicalize_eq_ok_iff.mp binds
  rw [Bool.eq_iff_iff, Option.isSome_iff_ne_none, decide_eq_true_iff]
  exact not_congr AssociatedData.boundBytes_eq_none_iff

/-- Count of the warnings among events. -/
def warnings (events : List Event) : Nat :=
  events.countP fun event => decide (event.severity = .warn)

/-- There is one warning exactly for a mismatch under pairs that can be bound. -/
theorem warnings_eq_one_iff :
    warnings (decode limits wire expected).events = 1 ↔
      (decode limits wire expected).outcome = .error .contextMismatch ∧
        ∃ bound, AssociatedData.canonicalize limits expected = .ok bound := by
  constructor
  · intro one
    cases outcome : (decode limits wire expected).outcome with
    | ok frame =>
      rw [events_of_ok outcome] at one
      cases one
    | error fault =>
      by_cases mismatch : fault = .contextMismatch
      · subst mismatch
        obtain ⟨frame, read⟩ := exists_parse_of_mismatch outcome
        cases binds : AssociatedData.canonicalize limits expected with
        | error cause =>
          rw [events_of_unbound read binds] at one
          cases one
        | ok bound => exact ⟨rfl, bound, rfl⟩
      · rw [events_of_structural outcome mismatch] at one
        cases one
  · intro both
    obtain ⟨refused, bound, binds⟩ := both
    obtain ⟨frame, read⟩ := exists_parse_of_mismatch refused
    rw [events_of_bound read binds refused]
    rfl

/-- The trail of a varint wire. There is a warning, and then one alone, exactly for a mismatch under
pairs that can be bound; it shows the fingerprint from the summary of the wire, or that there is
none, and whether there was a pair. A mismatch under pairs that cannot be bound leaves no warning
but a note of what keeps them from it. Nothing is recorded of a wire that is opened, and one note of
the fault, the first byte and the length of one that is refused for its structure. -/
theorem decode_warns (limits : AssociatedData.Limits) (wire : Bytes)
    (expected : Option (List (String × String))) :
    (warnings (decode limits wire expected).events = 1 ↔
      (decode limits wire expected).outcome = .error .contextMismatch ∧
        ∃ bound, AssociatedData.canonicalize limits expected = .ok bound) ∧
    (∀ bound, (decode limits wire expected).outcome = .error .contextMismatch →
      AssociatedData.canonicalize limits expected = .ok bound →
      ∃ summary warning, Summary.ofWire wire = .ok summary ∧
        (decode limits wire expected).events = [warning] ∧
        warning.IsWarning summary (decide (expected.getD [] ≠ [])) []) ∧
    (∀ cause, (decode limits wire expected).outcome = .error .contextMismatch →
      AssociatedData.canonicalize limits expected = .error cause →
      ∃ note, (decode limits wire expected).events = [note] ∧ note.IsNote cause []) ∧
    (∀ frame, (decode limits wire expected).outcome = .ok frame →
      (decode limits wire expected).events = []) ∧
    (∀ fault, (decode limits wire expected).outcome = .error fault → fault ≠ .contextMismatch →
      ∃ note, (decode limits wire expected).events = [note] ∧
        note.IsNote fault (structureDetails wire)) := by
  refine ⟨warnings_eq_one_iff, ?_, ?_, fun frame => events_of_ok, ?_⟩
  · intro bound refused binds
    obtain ⟨frame, read⟩ := exists_parse_of_mismatch refused
    have whole := events_of_bound read binds refused
    rw [isSome_of_canonicalize binds] at whole
    exact ⟨_, _, Summary.ofWire_of_frame read, whole, rfl, rfl⟩
  · intro cause refused unbound
    obtain ⟨frame, read⟩ := exists_parse_of_mismatch refused
    exact ⟨_, events_of_unbound read unbound, rfl, rfl⟩
  · intro fault refused structural
    exact ⟨_, events_of_structural refused structural, rfl, rfl⟩

/-- The wire of a ciphertext bound to one pair. -/
def boundWire : Bytes := [0xEE, 5, 1, 1, 107, 1, 118, 7]

/-- Another value than the bound one leaves a warning, and an empty one a note. -/
theorem decode_warns_valued :
    (∃ summary warning, Summary.ofWire boundWire = .ok summary ∧
      (decode .standard boundWire (some [("k", "w")])).events = [warning] ∧
      warning.IsWarning summary true []) ∧
    ∃ note, (decode .standard boundWire (some [("k", "")])).events = [note] ∧
      note.IsNote (.emptyEntry "k") [] := by
  constructor
  · have refused : (decode .standard boundWire
        (some [("k", "w")])).outcome = .error .contextMismatch := by decide +kernel
    have binds : AssociatedData.canonicalize .standard (some [("k", "w")]) =
        .ok (some [1, 1, 107, 1, 119]) := by decide +kernel
    obtain ⟨-, warned, -⟩ := decode_warns .standard boundWire
      (some [("k", "w")])
    exact warned _ refused binds
  · have refused : (decode .standard boundWire
        (some [("k", "")])).outcome = .error .contextMismatch := by decide +kernel
    have unbound : AssociatedData.canonicalize .standard (some [("k", "")]) =
        .error (.emptyEntry "k") := by decide +kernel
    obtain ⟨-, -, noted, -⟩ := decode_warns .standard boundWire
      (some [("k", "")])
    exact noted _ refused unbound

/-- A mismatch under a pair that cannot be bound leaves no warning. -/
theorem decode_unbound_silent :
    (decode .standard [0xEE, 0] (some [("k", "")])).outcome = .error .contextMismatch ∧
      warnings (decode .standard [0xEE, 0] (some [("k", "")])).events = 0 := by
  constructor
  · decide +kernel
  · decide +kernel

end VarintFrame

end AeadEnvelope
