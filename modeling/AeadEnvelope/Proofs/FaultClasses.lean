import AeadEnvelope.Proofs.Context.Filling
import AeadEnvelope.Proofs.Inspection

/-!
# Which operations have decode failures

A fault is a decode failure or it is none, and every operation has faults of one of the two classes
only (`FailsAs`). That is kept by steps one after the other, so it is shown for each step. Main
statement: whatever keeps a wire from being opened or inspected is a decode failure, and nothing
that keeps a context from being built, written or completed is one
(`isDecodeFailure_of_operation`).
-/
namespace AeadEnvelope

variable {α β : Type} {decoding : Bool}

/-- Every fault of an outcome is a decode failure, or none is. -/
def FailsAs (decoding : Bool) (outcome : Except Fault α) : Prop :=
  ∀ fault, outcome = .error fault → fault.isDecodeFailure = decoding

/-- An outcome with a value has no fault. -/
theorem failsAs_ok (value : α) : FailsAs decoding (.ok value) := nofun

/-- An outcome with a fault of the class. -/
theorem failsAs_error {fault : Fault} (classed : fault.isDecodeFailure = decoding) :
    FailsAs decoding (.error fault : Except Fault α) := by
  intro other same
  rw [← Except.error.inj same, classed]

/-- Two steps with faults of one class have no others together. -/
theorem FailsAs.bind {outcome : Except Fault α} {next : α → Except Fault β}
    (first : FailsAs decoding outcome) (second : ∀ value, FailsAs decoding (next value)) :
    FailsAs decoding (outcome >>= next) := by
  cases outcome with
  | error fault => exact failsAs_error (first fault rfl)
  | ok value => exact second value

/-- A value that is changed afterwards has the faults it had before. -/
theorem FailsAs.map {outcome : Except Fault α} (first : FailsAs decoding outcome)
    (change : α → β) : FailsAs decoding (outcome.map change) := by
  cases outcome with
  | error fault => exact failsAs_error (first fault rfl)
  | ok value => exact failsAs_ok (change value)

/-- A step on a value that may be absent has the faults of the step. -/
theorem failsAs_mapM {step : α → Except Fault β} (each : ∀ value, FailsAs decoding (step value))
    (item : Option α) : FailsAs decoding (item.mapM step) := by
  cases item with
  | none => exact failsAs_ok none
  | some value => exact (each value).map some

/-- A step that is repeated for every item of a list has the faults of the step. -/
theorem failsAs_foldlM {step : β → α → Except Fault β}
    (each : ∀ state item, FailsAs decoding (step state item)) (items : List α) (start : β) :
    FailsAs decoding (items.foldlM step start) := by
  induction items generalizing start with
  | nil => exact failsAs_ok start
  | cons item later induction =>
    rw [List.foldlM_cons]
    exact (each start item).bind induction

namespace Context

/-- A key that is not added is no matter of decoding. -/
theorem failsAs_add (context : Context) (key : String) (value : Option String) :
    FailsAs false (context.add key value) := by
  unfold add
  split
  · exact failsAs_error rfl
  · split
    · exact failsAs_error rfl
    · exact failsAs_ok _

/-- Entries that make no context are no matter of decoding. -/
theorem failsAs_ofEntries (entries : List (String × Option String)) :
    FailsAs false (ofEntries entries) := by
  unfold ofEntries
  exact failsAs_foldlM (fun context entry => failsAs_add context entry.1 entry.2) entries empty

/-- A segment that is not added is no matter of decoding. -/
theorem failsAs_addSegment (context : Context) (segment : List Char) :
    FailsAs false (context.addSegment segment) := by
  unfold addSegment
  dsimp only
  split
  · exact failsAs_add context _ none
  · split
    · exact failsAs_error rfl
    · exact failsAs_add context _ _

/-- A text that is not read is no matter of decoding. -/
theorem failsAs_parse (text : String) : FailsAs false (parse text) := by
  rw [parse_eq_foldlM]
  exact failsAs_foldlM failsAs_addSegment _ empty

/-- The lack of a canonical text is no matter of decoding. -/
theorem failsAs_canonical (context : Context) : FailsAs false context.canonical := by
  unfold canonical
  split
  · exact failsAs_ok _
  · exact failsAs_error rfl

/-- What keeps a context from being completed is no matter of decoding. -/
theorem failsAs_fill (base additional : Context) : FailsAs false (base.fill additional) := by
  intro fault failed
  obtain ⟨key, obstructed, -⟩ := fill_eq_error_iff.mp failed
  cases obstructed with
  | missing => rfl
  | conflicting => rfl

/-- What keeps a context from being completed and written is no matter of decoding. -/
theorem failsAs_canonicalWith (base additional : Context) :
    FailsAs false (base.canonicalWith additional) :=
  (failsAs_fill base additional).bind failsAs_canonical

/-- The lack of associated data is no matter of decoding. -/
theorem failsAs_associatedData (context additional : Option Context) :
    FailsAs false (associatedData context additional) := by
  cases context with
  | none => exact failsAs_ok none
  | some base => exact (failsAs_canonicalWith base _).bind fun _ => failsAs_ok _

end Context

namespace AssociatedData

/-- A pair that is not admitted is no matter of decoding. -/
theorem failsAs_admitPair (limits : Limits) (admitted : Dictionary (String × String))
    (pair : String × String) : FailsAs false (admitPair limits admitted pair) := by
  unfold admitPair
  dsimp only
  split
  · exact failsAs_error rfl
  · split
    · exact failsAs_error rfl
    · split
      · exact failsAs_error rfl
      · split
        · exact failsAs_error rfl
        · exact failsAs_ok _

/-- Pairs that cannot be bound are no matter of decoding. -/
theorem failsAs_canonicalize (limits : Limits) (pairs : Option (List (String × String))) :
    FailsAs false (canonicalize limits pairs) := by
  have admits : FailsAs false (admitted limits (pairs.getD [])) :=
    (failsAs_foldlM (failsAs_admitPair limits) _ .empty).bind fun _ => failsAs_ok _
  refine admits.bind fun found => ?_
  split
  · exact failsAs_ok none
  · split
    · exact failsAs_error rfl
    · exact failsAs_ok _

end AssociatedData

namespace TagLength

/-- What keeps an envelope from being written is no matter of decoding. -/
theorem Current.failsAs_encode (envelope : Envelope) : FailsAs false (encode envelope) := by
  have texts : FailsAs false (envelope.context.mapM Context.canonical) :=
    failsAs_mapM Context.failsAs_canonical _
  have lasts : FailsAs false (ciphertextSection envelope.ciphertext) := by
    unfold ciphertextSection
    split
    · exact failsAs_error rfl
    · exact failsAs_ok _
  have firsts : ∀ text, FailsAs false (contextSection text) := by
    intro text
    cases text with
    | none => exact failsAs_ok []
    | some text =>
      unfold contextSection
      dsimp only
      split
      · exact failsAs_error rfl
      · exact failsAs_ok _
  exact texts.bind fun text => lasts.bind fun _ => (firsts text).bind fun _ => failsAs_ok _

/-- What keeps a tag/length wire from being read is a decode failure. -/
theorem failsAs_parse (wire : Bytes) : FailsAs true (parse wire) := by
  intro fault failed
  cases wire with
  | nil =>
    cases failed
    rfl
  | cons version body =>
    by_cases legacy : version = Dialect.legacy.versionByte
    · obtain ⟨cause, rfl⟩ := Legacy.parse_malformed (legacy ▸ failed)
      rfl
    · by_cases current : version = Dialect.current.versionByte
      · obtain ⟨cause, rfl⟩ := parse_current_malformed (current ▸ failed)
        rfl
      · rw [parse_unsupported legacy current body] at failed
        rw [← Except.error.inj failed]
        rfl

/-- What keeps a tag/length wire from being opened is a decode failure. -/
theorem failsAs_decode (wire : Bytes) (expected : Option Context) :
    FailsAs true (decode wire expected).outcome := by
  intro fault refused
  cases read : parse wire with
  | error early =>
    have same := (decode_outcome_of_parse_error read expected).symm.trans refused
    exact failsAs_parse wire fault (Except.error.inj same ▸ read)
  | ok packet =>
    rw [eq_mismatch_of_decode read refused]
    rfl

end TagLength

namespace VarintFrame

/-- What keeps a varint wire from being read is a decode failure. -/
theorem failsAs_parse (wire : Bytes) : FailsAs true (parse wire) := by
  intro fault failed
  cases parse_eq_error_iff.mp failed <;> rfl

/-- Expected pairs that cannot be bound are a mismatch with every wire that is read. -/
theorem decode_of_unbound {wire : Bytes} {frame : VarintFrame} (read : parse wire = .ok frame)
    {limits : AssociatedData.Limits} {expected : Option (List (String × String))} {cause : Fault}
    (unbound : AssociatedData.canonicalize limits expected = .error cause) :
    (decode limits wire expected).outcome = .error .contextMismatch := by
  rw [decode, read]
  simp only [unbound]

/-- What keeps a varint wire from being opened is a decode failure. -/
theorem failsAs_decode (limits : AssociatedData.Limits) (wire : Bytes)
    (expected : Option (List (String × String))) :
    FailsAs true (decode limits wire expected).outcome := by
  intro fault refused
  cases read : parse wire with
  | error early =>
    have same := (decode_outcome_of_parse_error limits expected read).symm.trans refused
    exact failsAs_parse wire fault (Except.error.inj same ▸ read)
  | ok frame =>
    rw [eq_mismatch_of_decode read refused]
    rfl

end VarintFrame

/-- What keeps a wire from being inspected is a decode failure. -/
theorem Summary.failsAs_ofWire (wire : Bytes) : FailsAs true (ofWire wire) := by
  intro fault failed
  cases wire with
  | nil =>
    cases failed
    rfl
  | cons version body =>
    by_cases tagged : version = 0x01 ∨ version = 0x02
    · have starts : (version :: body).head? = some 0x01 ∨ (version :: body).head? = some 0x02 := by
        simpa using tagged
      obtain ⟨dialect, rest, notVarint, same⟩ := exists_tagged_of_head? starts
      rw [same] at failed
      exact TagLength.failsAs_parse _ fault ((ofWire_eq_error_iff notVarint).mp failed)
    · obtain ⟨notLegacy, notCurrent⟩ := not_or.mp tagged
      by_cases varint : version = 0xEE
      · subst varint
        exact VarintFrame.failsAs_parse _ fault (ofWire_varint_eq_error_iff.mp failed)
      · rw [ofWire_unsupported notLegacy notCurrent varint] at failed
        rw [← Except.error.inj failed]
        rfl

/-- Whatever keeps a wire from being opened or inspected is a decode failure. In particular keys
that a mask names always make a context, the context of a wire that is read has a canonical text,
and what is expected, whether it can be written or not, is found in a refusal only as a mismatch.
Nothing that keeps a context from being built, read, written or completed, pairs from being bound
or an envelope from being written is a decode failure. -/
theorem isDecodeFailure_of_operation :
    (∀ wire expected, FailsAs true (TagLength.decode wire expected).outcome) ∧
    (∀ limits wire expected, FailsAs true (VarintFrame.decode limits wire expected).outcome) ∧
    (∀ wire, FailsAs true (Summary.ofWire wire)) ∧
    (∀ mask keys, MaskKey.ofMask mask = .ok keys →
      ∃ context, Context.ofEntries (TagLength.Legacy.placeholderEntries keys) = .ok context) ∧
    (∀ wire packet context, TagLength.parse wire = .ok packet →
      packet.envelope.context = some context → ∃ text, context.canonical = .ok text) ∧
    (∀ wire expected fault, (TagLength.decode wire expected).outcome = .error fault →
      TagLength.parse wire = .error fault ∨ fault = .contextMismatch) ∧
    (∀ limits wire frame expected cause, VarintFrame.parse wire = .ok frame →
      AssociatedData.canonicalize limits expected = .error cause →
      (VarintFrame.decode limits wire expected).outcome = .error .contextMismatch) ∧
    (∀ entries, FailsAs false (Context.ofEntries entries)) ∧
    (∀ pairs, FailsAs false (Context.ofPairs pairs)) ∧
    (∀ text, FailsAs false (Context.parse text)) ∧
    (∀ text : Option String, FailsAs false (text.mapM Context.parse)) ∧
    (∀ context : Context, FailsAs false context.canonical) ∧
    (∀ base additional : Context, FailsAs false (base.canonicalWith additional)) ∧
    (∀ base additional : Context, FailsAs false (base.fill additional)) ∧
    (∀ limits pairs, FailsAs false (AssociatedData.canonicalize limits pairs)) ∧
    (∀ envelope, FailsAs false (TagLength.Current.encode envelope)) ∧
    (∀ context additional, FailsAs false (Context.associatedData context additional)) := by
  refine ⟨TagLength.failsAs_decode, VarintFrame.failsAs_decode, Summary.failsAs_ofWire, ?_, ?_, ?_,
    ?_, Context.failsAs_ofEntries, ?_, Context.failsAs_parse, failsAs_mapM Context.failsAs_parse,
    Context.failsAs_canonical, Context.failsAs_canonicalWith, Context.failsAs_fill,
    AssociatedData.failsAs_canonicalize, TagLength.Current.failsAs_encode,
    Context.failsAs_associatedData⟩
  · intro mask keys resolved
    obtain ⟨-, rfl⟩ := MaskKey.ofMask_eq_ok_iff.mp resolved
    exact TagLength.Legacy.exists_ofEntries_placeholderEntries mask
  · exact fun wire packet context read held => TagLength.exists_canonical_of_parse read held
  · intro wire expected fault refused
    cases read : TagLength.parse wire with
    | error early =>
      have same := (TagLength.decode_outcome_of_parse_error read expected).symm.trans refused
      exact .inl (congrArg Except.error (Except.error.inj same))
    | ok packet => exact .inr (TagLength.eq_mismatch_of_decode read refused)
  · exact fun limits wire frame expected cause read unbound =>
      VarintFrame.decode_of_unbound read unbound
  · exact fun pairs => Context.failsAs_ofEntries _

/-- An unknown bit of a mask is a decode failure, and so is a pair without a key that is expected of
a frame; a context with that pair is none. The keys of a mask make a context, and the context of a
mask with a description has a canonical text. -/
theorem isDecodeFailure_of_operation_unknownBit :
    (TagLength.decode [1, 0, 0, 0, 1] none).outcome = .error (.malformed .unknownKeyBit) ∧
    (Fault.malformed .unknownKeyBit).isDecodeFailure = true ∧
    (VarintFrame.decode .standard [0xEE, 0, 7] (some [("", "v")])).outcome =
      .error .contextMismatch ∧
    (Fault.emptyEntry "").isDecodeFailure = false ∧
    (∃ context, Context.ofEntries
      (TagLength.Legacy.placeholderEntries [.tableName, .databaseName]) = .ok context) ∧
    ∃ text, Summary.joinedContext.canonical = .ok text := by
  have refused : (TagLength.decode [1, 0, 0, 0, 1] none).outcome =
      .error (.malformed .unknownKeyBit) := by decide +kernel
  have resolved : MaskKey.ofMask 6 = .ok [.tableName, .databaseName] := by decide
  have framed : VarintFrame.parse [0xEE, 0, 7] = .ok ⟨[7], none⟩ := by decide
  have unbound : AssociatedData.canonicalize .standard (some [("", "v")]) =
      .error (.emptyEntry "") := by decide +kernel
  have joined : TagLength.parse Summary.joinedWire =
      .ok ⟨.legacy, [.tableName], ⟨some Summary.joinedContext, [7]⟩⟩ := by decide +kernel
  have unkeyed : Context.ofPairs [("", "v")] = .error (.emptyEntry "") := by decide
  obtain ⟨decoding, -, -, masks, written, -, unboundIs, -, pairs, -⟩ := isDecodeFailure_of_operation
  exact ⟨refused, decoding _ _ _ refused, unboundIs _ _ _ _ _ framed unbound,
    pairs _ _ unkeyed, masks _ _ resolved, written _ _ _ joined rfl⟩

end AeadEnvelope
