import AeadEnvelope.Proofs.Context.Extension
import AeadEnvelope.Proofs.TagLength.Layout
import AeadEnvelope.Proofs.TagLength.RoundTrip

/-!
# Wires with an altered length

Where a section ends is known from the bytes before it (`Current.ContextSection.append_inj`), so
an altered length of the ciphertext leaves bytes over or lacks some. An altered length of the
context may still give a wire that is read: values may hold the bytes of tags and of lengths. But
one of the two texts then goes on where the other one is followed by a tag, and so does not agree
with what the other one agrees with. Main statement: a wire with an altered length is not opened
under a context that opens the wire that was written (`decode_setLength`).
-/
namespace AeadEnvelope.TagLength

/-- The wire with another number in the length field at a position, all other bytes as they are. -/
def setLength (position value : Nat) (wire : Bytes) : Bytes :=
  wire.take position ++ bigEndian Current.lengthWidth value ++
    wire.drop (position + Current.lengthWidth)

/-- Only the length field is altered. -/
theorem setLength_append {position : Nat} {before after : Bytes} (old value : Nat)
    (behind : before.length = position) :
    setLength position value (before ++ (bigEndian Current.lengthWidth old ++ after)) =
      before ++ (bigEndian Current.lengthWidth value ++ after) := by
  subst behind
  rw [setLength, List.take_left, ← List.drop_drop, List.drop_left,
    List.drop_left' (length_bigEndian _ old), List.append_assoc]

namespace Current

/-- The end of a context is known from the bytes before it: where two sections are led by the same
bytes up to the tag of the ciphertext, they are the same section. -/
theorem ContextSection.append_inj {front other : Bytes} {left right : Option Context}
    {later rest : Bytes} (first : ContextSection front left) (second : ContextSection other right)
    (same : front ++ sizedCiphertextTag :: later = other ++ sizedCiphertextTag :: rest) :
    front = other ∧ later = rest := by
  obtain ⟨text, fits, rfl, -⟩ := Layout.contextSection_iff.mp first
  obtain ⟨otherText, otherFits, rfl, -⟩ := Layout.contextSection_iff.mp second
  obtain ⟨texts, rest⟩ := Layout.textBytes_append_inj fits otherFits same
  exact ⟨congrArg Layout.textBytes texts, rest⟩

/-- The wire of an envelope with another number for the length of the ciphertext. -/
theorem setLength_ciphertext (front ciphertext : Bytes) (value : Nat) :
    setLength ((wireFrom front (sectionBytes sizedCiphertextTag ciphertext)).length -
        ciphertext.length - lengthWidth) value
        (wireFrom front (sectionBytes sizedCiphertextTag ciphertext)) =
      Dialect.current.versionByte :: (List.replicate reservedLength 0 ++ (front ++
        sizedCiphertextTag :: (bigEndian lengthWidth value ++ ciphertext))) := by
  let before := Dialect.current.versionByte ::
    (List.replicate reservedLength 0 ++ front ++ [sizedCiphertextTag])
  have wire : wireFrom front (sectionBytes sizedCiphertextTag ciphertext) =
      before ++ (bigEndian lengthWidth ciphertext.length ++ ciphertext) := by
    simp [wireFrom, sectionBytes, before]
  rw [wire, setLength_append]
  · simp [before]
  · simp only [List.length_append, length_bigEndian]
    omega

/-- The wire of an envelope with another number for the length of the context. -/
theorem setLength_context (content last : Bytes) (value : Nat) :
    setLength (headerLength + 1) value (wireFrom (sectionBytes contextTag content) last) =
      Dialect.current.versionByte :: (List.replicate reservedLength 0 ++ contextTag ::
        (bigEndian lengthWidth value ++ (content ++ last))) := by
  let before := Dialect.current.versionByte :: (List.replicate reservedLength 0 ++ [contextTag])
  have wire : wireFrom (sectionBytes contextTag content) last =
      before ++ (bigEndian lengthWidth content.length ++ (content ++ last)) := by
    simp [wireFrom, sectionBytes, before]
  rw [wire, setLength_append]
  · simp [before]
  · rfl

end Current

/-- No expected context agrees with two texts of which one goes on where the other one is followed
by the tag of the ciphertext. -/
theorem not_agrees_of_utf8 {front text : String} {rest : Bytes} {left right expected : Context}
    (starts : utf8 text = utf8 front ++ sizedCiphertextTag :: rest)
    (first : Context.parse front = .ok left) (second : Context.parse text = .ok right)
    (agreed : left.Agrees expected) : ¬ right.Agrees expected := by
  obtain ⟨back, rfl, behind⟩ := exists_append_of_utf8 starts
  have mark : utf8 "\x04" = [sizedCiphertextTag] := by decide
  rw [← List.singleton_append, ← mark] at behind
  obtain ⟨more, rfl, -⟩ := exists_append_of_utf8 behind
  have begins : ("\x04" ++ more).toList = '\x04' :: more.toList := String.toList_append
  exact Context.not_agrees_append first second begins (by decide) agreed

/-- What stands before a mark, where a mark stands as well, is nothing or begins with the mark. -/
theorem eq_nil_or_cons_of_append {gap later rest : Bytes} {mark : UInt8}
    (same : mark :: later = gap ++ mark :: rest) : gap = [] ∨ ∃ tail, gap = mark :: tail := by
  cases gap with
  | nil => exact .inl rfl
  | cons head tail =>
    have first : mark = head := (List.cons.inj same).1
    exact .inr ⟨tail, by rw [first]⟩

/-- Behind the section of a context, a ciphertext is not read under a length that is not its
own. -/
theorem parse_altered_ciphertext {reserved front ciphertext : Bytes} {context : Option Context}
    {packet : Packet} {value : Nat} (four : reserved.length = Current.reservedLength)
    (given : Current.ContextSection front context) (fits : value < capacity Current.lengthWidth)
    (changed : value ≠ ciphertext.length) :
    parse (Dialect.current.versionByte :: (reserved ++ (front ++ sizedCiphertextTag ::
      (bigEndian Current.lengthWidth value ++ ciphertext)))) ≠ .ok packet := by
  intro read
  obtain ⟨other, found, seen, rest, otherFour, otherGiven, restFits, bytes, -⟩ :=
    parse_current_eq_ok_iff.mp read
  rw [List.append_assoc] at bytes
  obtain ⟨-, sections⟩ := List.append_inj bytes (four.trans otherFour.symm)
  obtain ⟨-, last⟩ := given.append_inj otherGiven sections
  obtain ⟨lengths, rfl⟩ := bigEndian_append_inj fits restFits last
  exact changed lengths

/-- A context that is read under a length that is not its own has a text that goes on with the tag
of the ciphertext where the text that was written ends, or ends where that one goes on with it. -/
theorem parse_altered_context {reserved later : Bytes} {text : String} {packet : Packet}
    {value : Nat} (four : reserved.length = Current.reservedLength)
    (fits : value < capacity Current.lengthWidth) (changed : value ≠ (utf8 text).length)
    (read : parse (Dialect.current.versionByte :: (reserved ++ contextTag ::
      (bigEndian Current.lengthWidth value ++ (utf8 text ++ sizedCiphertextTag :: later)))) =
        .ok packet) :
    ∃ other seen rest, packet.envelope.context = some seen ∧ Context.parse other = .ok seen ∧
      (utf8 text = utf8 other ++ sizedCiphertextTag :: rest ∨
        utf8 other = utf8 text ++ sizedCiphertextTag :: rest) := by
  obtain ⟨zeros, front, context, ciphertext, otherFour, given, -, bytes, rfl⟩ :=
    parse_current_eq_ok_iff.mp read
  rw [List.append_assoc] at bytes
  obtain ⟨-, sections⟩ := List.append_inj bytes (four.trans otherFour.symm)
  cases given with
  | absent => exact absurd (List.cons.inj sections).1 (by decide)
  | @present other seen otherFits otherRead =>
    simp only [Current.sectionBytes, List.cons_append, List.append_assoc, List.cons.injEq,
      true_and] at sections
    obtain ⟨rfl, contents⟩ := bigEndian_append_inj fits otherFits sections
    rcases List.append_eq_append_iff.mp contents with ⟨gap, longer, behind⟩ | ⟨gap, shorter, behind⟩
    · rcases eq_nil_or_cons_of_append behind with rfl | ⟨rest, rfl⟩
      · have same : utf8 other = utf8 text := by rw [longer, List.append_nil]
        exact absurd (congrArg List.length same) changed
      · exact ⟨other, seen, rest, rfl, otherRead, .inr longer⟩
    · rcases eq_nil_or_cons_of_append behind with rfl | ⟨rest, rfl⟩
      · have same : utf8 text = utf8 other := by rw [shorter, List.append_nil]
        exact absurd (congrArg List.length same.symm) changed
      · exact ⟨other, seen, rest, rfl, otherRead, .inl shorter⟩

/-- Under a context that agrees with the one that was written, a wire with an altered length of the
context is malformed or a mismatch. -/
theorem decode_altered_context {reserved later : Bytes} {context theirs : Context} {text : String}
    {value : Nat} (four : reserved.length = Current.reservedLength)
    (fits : value < capacity Current.lengthWidth) (changed : value ≠ (utf8 text).length)
    (found : context.canonical = .ok text) (agreed : context.Agrees theirs) {wire : Bytes}
    (altered : wire = Dialect.current.versionByte :: (reserved ++ contextTag ::
      (bigEndian Current.lengthWidth value ++ (utf8 text ++ sizedCiphertextTag :: later)))) :
    (∃ cause, (decode wire (some theirs)).outcome = .error (.malformed cause)) ∨
      (decode wire (some theirs)).outcome = .error .contextMismatch := by
  cases read : parse wire with
  | error fault =>
    obtain ⟨cause, rfl⟩ := parse_current_malformed (altered ▸ read)
    exact .inl ⟨cause, decode_outcome_of_parse_error read _⟩
  | ok packet =>
    rcases decode_outcome_of_parse_ok read (some theirs) with ⟨accepted, -⟩ | ⟨-, refused⟩
    · obtain ⟨other, seen, rest, held, otherRead, goesOn⟩ :=
        parse_altered_context four fits changed (altered ▸ read)
      rw [held] at accepted
      have whole := Context.parse_canonical found
      have alsoAgreed := Context.compare_outcome_eq_ok_iff.mp accepted
      rcases goesOn with shorter | longer
      · exact absurd agreed (not_agrees_of_utf8 shorter otherRead whole alsoAgreed)
      · exact absurd alsoAgreed (not_agrees_of_utf8 longer whole otherRead agreed)
    · exact .inr refused

/-- A wire with an altered length, opened under a context that opens the wire that was written. An
altered length of the ciphertext is malformed, and an altered length of the context is malformed
or a mismatch. -/
theorem decode_setLength {envelope : Envelope} {wire : Bytes}
    (written : Current.encode envelope = .ok wire) {expected : Option Context}
    {opened : Envelope} (accepted : (decode wire expected).outcome = .ok opened) {value : Nat}
    (fits : value < capacity Current.lengthWidth) :
    (value ≠ envelope.ciphertext.length → ∃ cause,
      (decode (setLength (wire.length - envelope.ciphertext.length - Current.lengthWidth) value wire)
        expected).outcome = .error (.malformed cause)) ∧
    (∀ context text, envelope.context = some context → context.canonical = .ok text →
      value ≠ (utf8 text).length →
      (∃ cause, (decode (setLength (Current.headerLength + 1) value wire) expected).outcome =
          .error (.malformed cause)) ∨
        (decode (setLength (Current.headerLength + 1) value wire) expected).outcome =
          .error .contextMismatch) := by
  obtain ⟨front, given, small, rfl⟩ := Current.encode_eq_ok_iff.mp written
  obtain ⟨packet, read, rfl, agreed⟩ := decode_outcome_eq_ok_iff.mp accepted
  obtain rfl := Except.ok.inj ((parse_encode written).symm.trans read)
  refine ⟨fun changed => ?_, fun context text held found changed => ?_⟩
  · rw [Current.setLength_ciphertext]
    apply decode_current_malformed
    intro packet
    exact parse_altered_ciphertext List.length_replicate given.contextSection fits changed
  · rw [held] at given agreed
    obtain _ | ⟨again, -⟩ := given
    obtain rfl := Except.ok.inj (found.symm.trans again)
    cases expected with
    | none => simp [Context.verify] at agreed
    | some theirs =>
      have agrees : context.Agrees theirs := Context.compare_outcome_eq_ok_iff.mp agreed
      have altered := Current.setLength_context (utf8 text)
        (Current.sectionBytes sizedCiphertextTag envelope.ciphertext) value
      exact decode_altered_context List.length_replicate fits changed found agrees altered

/-- A wire whose context holds the bytes of a section, with either length cut down to two, so that
the context ends where that section begins. -/
theorem decode_setLength_tagged : Current.encode taggedEnvelope = .ok taggedWire ∧
    (decode taggedWire (some taggedContext)).outcome = .ok taggedEnvelope ∧
    2 < capacity Current.lengthWidth ∧
    (∃ cause, (decode (setLength 18 2 taggedWire) (some taggedContext)).outcome =
      .error (.malformed cause)) ∧
    ((∃ cause, (decode (setLength 6 2 taggedWire) (some taggedContext)).outcome =
        .error (.malformed cause)) ∨
      (decode (setLength 6 2 taggedWire) (some taggedContext)).outcome =
        .error .contextMismatch) := by
  have opened := decode_outcome_eq_ok_iff.mpr
    ⟨_, parse_encode encode_taggedEnvelope, rfl, verify_self_of_encode encode_taggedEnvelope⟩
  have small : 2 < capacity Current.lengthWidth := by decide
  have cut : 2 ≠ taggedEnvelope.ciphertext.length := by decide
  have cutText : 2 ≠ (utf8 "k=\x04\x00\x00\x00\x00").length := by decide
  obtain ⟨ciphertext, context⟩ := decode_setLength encode_taggedEnvelope opened small
  exact ⟨encode_taggedEnvelope, opened, small, ciphertext cut,
    context taggedContext _ rfl canonical_taggedContext cutText⟩

end AeadEnvelope.TagLength
