import AeadEnvelope.Proofs.TagLength.Structure

/-!
# Reading back what was written

A wire is written exactly when its context, if there is one, has a canonical text and both parts
fit their length fields (`Current.encode_eq_ok_iff`), and it is read as the envelope that it was
written from (`parse_encode`). Main statement: the wire of an envelope gives back that envelope or
a mismatch under every expected context, and the envelope under its own context, so no wire is
written for two envelopes (`decode_encode`).
-/
namespace AeadEnvelope

/-- Both parts of an envelope fit the length field of a section. -/
structure Envelope.Fits (envelope : Envelope) : Prop where
  /-- The ciphertext fits. -/
  ciphertext : envelope.ciphertext.length < capacity TagLength.Current.lengthWidth
  /-- The canonical text of the context fits, if there are both. -/
  text : ∀ context text, envelope.context = some context → context.canonical = .ok text →
    (utf8 text).length < capacity TagLength.Current.lengthWidth

/-- A length field has four bytes. -/
example : capacity TagLength.Current.lengthWidth = 4294967296 := by decide

namespace TagLength

namespace Current

/-- The section that is written for a context, or for the lack of one. -/
inductive WrittenSection : Option Context → Bytes → Prop where
  /-- Nothing is written. -/
  | absent : WrittenSection none []
  /-- The canonical text is written. -/
  | present {context : Context} {text : String} (written : context.canonical = .ok text)
    (fits : (utf8 text).length < capacity lengthWidth) :
    WrittenSection (some context) (sectionBytes contextTag (utf8 text))

/-- What is written for a context is read as it. -/
theorem WrittenSection.contextSection {context : Option Context} {front : Bytes}
    (written : WrittenSection context front) : ContextSection front context := by
  cases written with
  | absent => exact .absent
  | present written fits => exact .present fits (Context.parse_canonical written)

/-- The header with the section of a context and the section of a ciphertext. -/
def wireFrom (first last : Bytes) : Bytes :=
  Dialect.current.versionByte :: (List.replicate reservedLength 0 ++ first ++ last)

/-- A ciphertext has a section exactly when it fits. -/
theorem ciphertextSection_eq_ok_iff {ciphertext last : Bytes} :
    ciphertextSection ciphertext = .ok last ↔
      ciphertext.length < capacity lengthWidth ∧
        last = sectionBytes sizedCiphertextTag ciphertext := by
  unfold ciphertextSection
  split
  · next large => simp [Nat.not_lt.mpr large]
  · next small => simp [Nat.not_le.mp small, eq_comm]

/-- A canonical text has a section exactly when it fits. -/
theorem contextSection_eq_ok_iff {text : String} {first : Bytes} :
    contextSection (some text) = .ok first ↔
      (utf8 text).length < capacity lengthWidth ∧
        first = sectionBytes contextTag (utf8 text) := by
  simp only [contextSection]
  split
  · next large => simp [Nat.not_lt.mpr large]
  · next small => simp [Nat.not_le.mp small, eq_comm]

/-- Without a context only the ciphertext is written. -/
theorem encode_none (ciphertext : Bytes) :
    encode ⟨none, ciphertext⟩ = (ciphertextSection ciphertext).map (wireFrom []) := by
  cases last : ciphertextSection ciphertext <;>
    simp [encode, last, contextSection, wireFrom, bind, Except.bind, pure, Except.pure, Except.map]

/-- With a context its canonical text is found first, and then both sections are written. -/
theorem encode_some (context : Context) (ciphertext : Bytes) :
    encode ⟨some context, ciphertext⟩ = context.canonical.bind fun text =>
      (ciphertextSection ciphertext).bind fun last =>
        (contextSection (some text)).map fun first => wireFrom first last := by
  cases written : context.canonical with
  | error fault => simp [encode, written, bind, Except.bind, Functor.map, Except.map]
  | ok text =>
    cases last : ciphertextSection ciphertext <;> cases first : contextSection (some text) <;>
      simp [encode, written, last, first, wireFrom, bind, Except.bind, pure, Except.pure,
        Functor.map, Except.map]

/-- An envelope is written exactly when its context can be and its ciphertext fits. -/
theorem encode_eq_ok_iff {envelope : Envelope} {wire : Bytes} :
    encode envelope = .ok wire ↔
      ∃ front, WrittenSection envelope.context front ∧
        envelope.ciphertext.length < capacity lengthWidth ∧
        wire = wireFrom front (sectionBytes sizedCiphertextTag envelope.ciphertext) := by
  obtain ⟨context, ciphertext⟩ := envelope
  cases context with
  | none =>
    rw [encode_none]
    constructor
    · intro done
      cases second : ciphertextSection ciphertext with
      | error fault => simp [second, Except.map] at done
      | ok last =>
        obtain ⟨small, rfl⟩ := ciphertextSection_eq_ok_iff.mp second
        simp only [second, Except.map, Except.ok.injEq] at done
        exact ⟨[], .absent, small, done.symm⟩
    · rintro ⟨_, ⟨⟩, small, rfl⟩
      rw [ciphertextSection_eq_ok_iff.mpr ⟨small, rfl⟩]
      rfl
  | some context =>
    rw [encode_some]
    constructor
    · intro done
      cases written : context.canonical with
      | error fault => simp [written, Except.bind] at done
      | ok text =>
        cases second : ciphertextSection ciphertext with
        | error fault => simp [written, second, Except.bind] at done
        | ok last =>
          cases first : contextSection (some text) with
          | error fault => simp [written, second, first, Except.bind, Except.map] at done
          | ok front =>
            obtain ⟨small, rfl⟩ := ciphertextSection_eq_ok_iff.mp second
            obtain ⟨fits, rfl⟩ := contextSection_eq_ok_iff.mp first
            simp only [written, second, first, Except.bind, Except.map,
              Except.ok.injEq] at done
            exact ⟨_, .present written fits, small, done.symm⟩
    · rintro ⟨_, _ | ⟨written, fits⟩, small, rfl⟩
      rw [written, ciphertextSection_eq_ok_iff.mpr ⟨small, rfl⟩]
      simp only [Except.bind]
      rw [contextSection_eq_ok_iff.mpr ⟨fits, rfl⟩]
      rfl

/-- An envelope whose parts fit is written if its context, if there is one, has a canonical
text. -/
theorem exists_encode {envelope : Envelope} (fits : envelope.Fits)
    (written : ∀ context, envelope.context = some context → ∃ text, context.canonical = .ok text) :
    ∃ wire, encode envelope = .ok wire := by
  obtain ⟨context, ciphertext⟩ := envelope
  cases context with
  | none => exact ⟨_, encode_eq_ok_iff.mpr ⟨_, .absent, fits.ciphertext, rfl⟩⟩
  | some context =>
    obtain ⟨text, found⟩ := written context rfl
    exact ⟨_, encode_eq_ok_iff.mpr
      ⟨_, .present found (fits.text context text rfl found), fits.ciphertext, rfl⟩⟩

/-- An envelope whose parts fit is refused exactly when its context has no canonical text, and for
the same cause. -/
theorem encode_eq_error_iff {envelope : Envelope} (fits : envelope.Fits) {fault : Fault} :
    encode envelope = .error fault ↔
      ∃ context, envelope.context = some context ∧ context.canonical = .error fault := by
  constructor
  · intro refused
    obtain ⟨context, ciphertext⟩ := envelope
    cases context with
    | none =>
      obtain ⟨wire, written⟩ := exists_encode fits fun context held => by cases held
      rw [written] at refused
      cases refused
    | some context =>
      cases written : context.canonical with
      | error other =>
        rw [encode_some, written] at refused
        cases refused
        exact ⟨context, rfl, written⟩
      | ok text =>
        obtain ⟨wire, done⟩ := exists_encode fits fun _ held => by
          cases held
          exact ⟨text, written⟩
        rw [done] at refused
        cases refused
  · rintro ⟨context, held, failed⟩
    obtain ⟨_, ciphertext⟩ := envelope
    cases held
    rw [encode_some, failed]
    rfl

end Current

/-- A wire is read as the envelope that it was written from. -/
theorem parse_encode {envelope : Envelope} {wire : Bytes}
    (written : Current.encode envelope = .ok wire) : parse wire = .ok ⟨.current, [], envelope⟩ := by
  obtain ⟨front, given, fits, rfl⟩ := Current.encode_eq_ok_iff.mp written
  exact parse_current_eq_ok_iff.mpr ⟨_, front, _, _, List.length_replicate, given.contextSection,
    fits, rfl, rfl⟩

/-- The context of an envelope that was written agrees with itself. -/
theorem verify_self_of_encode {envelope : Envelope} {wire : Bytes}
    (written : Current.encode envelope = .ok wire) :
    (Context.verify envelope.context envelope.context).outcome = .ok () := by
  obtain ⟨front, given, -, -⟩ := Current.encode_eq_ok_iff.mp written
  apply Context.verify_self
  intro context held
  rw [held] at given
  obtain _ | ⟨found, -⟩ := given
  exact ⟨_, found⟩

/-- A context whose value has the bytes of the section of an empty ciphertext. -/
def taggedContext : Context := .single "k" (some "\x04\x00\x00\x00\x00") (by decide +kernel)

/-- An envelope of that context whose ciphertext has those bytes too. -/
def taggedEnvelope : Envelope := ⟨some taggedContext, [4, 0, 0, 0, 0]⟩

/-- The wire of that envelope. -/
def taggedWire : Bytes :=
  [2, 0, 0, 0, 0, 2, 0, 0, 0, 7, 107, 61, 4, 0, 0, 0, 0, 4, 0, 0, 0, 5, 4, 0, 0, 0, 0]

/-- The canonical text of that context. -/
theorem canonical_taggedContext : taggedContext.canonical = .ok "k=\x04\x00\x00\x00\x00" :=
  Context.canonical_single (by decide +kernel) (by decide)

/-- The parts of that envelope fit. -/
theorem fits_taggedEnvelope : taggedEnvelope.Fits := by
  refine ⟨by decide, fun context text held found => ?_⟩
  cases held
  obtain rfl := Except.ok.inj (canonical_taggedContext.symm.trans found)
  decide

/-- That envelope is written as that wire. -/
theorem encode_taggedEnvelope : Current.encode taggedEnvelope = .ok taggedWire := by
  rw [taggedEnvelope, Current.encode_some, canonical_taggedContext]
  decide

/-- The round trip of an envelope whose parts fit their length fields. Writing fails exactly when
its context has no canonical text, and for that cause. Else there is a wire, which gives back the
envelope or a mismatch under every expected context, gives it back under its own context, and is
written for no other envelope. -/
theorem decode_encode (envelope : Envelope) (fits : envelope.Fits) :
    (∀ fault, Current.encode envelope = .error fault ↔
      ∃ context, envelope.context = some context ∧ context.canonical = .error fault) ∧
    ((∀ context, envelope.context = some context → ∃ text, context.canonical = .ok text) →
      ∃ wire, Current.encode envelope = .ok wire ∧
        (∀ expected, (decode wire expected).outcome = .ok envelope ∨
          (decode wire expected).outcome = .error .contextMismatch) ∧
        (decode wire envelope.context).outcome = .ok envelope ∧
        ∀ other, Current.encode other = .ok wire → other = envelope) := by
  refine ⟨fun fault => Current.encode_eq_error_iff fits, fun found => ?_⟩
  obtain ⟨wire, written⟩ := Current.exists_encode fits found
  have read := parse_encode written
  refine ⟨wire, written, fun expected => ?_, ?_, fun other again => ?_⟩
  · rcases decode_outcome_of_parse_ok read expected with ⟨-, opened⟩ | ⟨-, closed⟩
    · exact .inl opened
    · exact .inr closed
  · exact decode_outcome_eq_ok_iff.mpr ⟨_, read, rfl, verify_self_of_encode written⟩
  · have same := (parse_encode again).symm.trans read
    exact congrArg Packet.envelope (Except.ok.inj same)

/-- The round trip of an envelope with the bytes of a section in its context and its ciphertext. -/
theorem decode_encode_tagged : taggedEnvelope.Fits ∧
    ∃ wire, Current.encode taggedEnvelope = .ok wire ∧
      (decode wire (some taggedContext)).outcome = .ok taggedEnvelope := by
  refine ⟨fits_taggedEnvelope, ?_⟩
  obtain ⟨wire, written, -, opened, -⟩ := (decode_encode taggedEnvelope fits_taggedEnvelope).2
    fun context held => by
      cases held
      exact ⟨_, canonical_taggedContext⟩
  exact ⟨wire, written, opened⟩

end TagLength

end AeadEnvelope
