import AeadEnvelope.Proofs.TagLength.RoundTrip

/-!
# Wires with an altered version

Under any version byte but that of the legacy dialect a wire is not supported. Under that one the
reserved bytes are an empty mask, and the length of the context is split: its upper half is the
length of a text, and its lower half starts that text (`Misread`). Main statement: such a wire is
opened under the context it was written with exactly when the text that is read in this way agrees
with it, which takes a canonical text that does not fit the length field of the legacy dialect
(`decode_set_version`).
-/
namespace AeadEnvelope.TagLength

/-- How the legacy dialect reads the length and the text of a current context: as a shorter text,
followed by the tag of a ciphertext that begins with a tail of the text. -/
structure Misread (text shorter : String) (tail : Bytes) : Prop where
  /-- The upper half of the length is the length of the shorter text. -/
  upper : (utf8 text).length / capacity Legacy.lengthWidth = (utf8 shorter).length
  /-- The shorter text starts with the lower half of the length. -/
  lower : bigEndian Legacy.lengthWidth (utf8 text).length ++ utf8 text =
    utf8 shorter ++ ciphertextTag :: tail

/-- A length field of the current dialect is two of the legacy one. -/
theorem bigEndian_split (length : Nat) :
    bigEndian Current.lengthWidth length =
      bigEndian Legacy.lengthWidth (length / capacity Legacy.lengthWidth) ++
        bigEndian Legacy.lengthWidth length :=
  bigEndian_add Legacy.lengthWidth Legacy.lengthWidth length

/-- A length and a text are followed by other bytes as the legacy dialect reads them exactly when
they are misread, since the shorter text ends before the text does. -/
theorem misread_iff {text shorter : String} {last ciphertext : Bytes}
    (fits : (utf8 text).length < capacity Current.lengthWidth) :
    ((utf8 shorter).length < capacity Legacy.lengthWidth ∧
      bigEndian Current.lengthWidth (utf8 text).length ++ (utf8 text ++ last) =
        bigEndian Legacy.lengthWidth (utf8 shorter).length ++
          (utf8 shorter ++ ciphertextTag :: ciphertext)) ↔
      ∃ tail, Misread text shorter tail ∧ ciphertext = tail ++ last := by
  have half : (utf8 text).length / capacity Legacy.lengthWidth < capacity Legacy.lengthWidth :=
    Nat.div_lt_of_lt_mul fits
  rw [bigEndian_split, List.append_assoc]
  constructor
  · rintro ⟨shorterFits, bytes⟩
    obtain ⟨upper, contents⟩ := bigEndian_append_inj half shorterFits bytes
    have ends : (utf8 shorter).length <
        (bigEndian Legacy.lengthWidth (utf8 text).length ++ utf8 text).length := by
      have half := Nat.div_le_self (utf8 text).length (capacity Legacy.lengthWidth)
      rw [upper] at half
      rw [List.length_append, length_bigEndian, Legacy.lengthWidth]
      omega
    rw [← List.append_assoc] at contents
    rcases List.append_eq_append_iff.mp contents with ⟨gap, beyond, -⟩ | ⟨gap, within, behind⟩
    · rw [beyond, List.length_append] at ends
      omega
    · cases gap with
      | nil =>
        rw [within, List.append_nil] at ends
        omega
      | cons tag tail =>
        obtain ⟨rfl, rest⟩ := List.cons.inj behind
        exact ⟨tail, ⟨upper, within⟩, rest⟩
  · rintro ⟨tail, ⟨upper, lower⟩, rfl⟩
    refine ⟨upper ▸ half, ?_⟩
    rw [upper, ← List.append_assoc (bigEndian _ _) (utf8 text), lower]
    simp

/-- Under an empty mask there is no context, or there is a whole one. -/
theorem Legacy.contextSection_nil_iff {front : Bytes} {context : Option Context} :
    Legacy.ContextSection [] front context ↔
      (front = [] ∧ context = none) ∨
        ∃ text seen, (utf8 text).length < capacity Legacy.lengthWidth ∧
          Context.parse text = .ok seen ∧
          front = sectionOf Legacy.lengthWidth contextTag (utf8 text) ∧ context = some seen := by
  constructor
  · intro given
    cases given with
    | absent => exact .inl ⟨rfl, rfl⟩
    | named named built => exact absurd rfl named
    | described named fits read built => exact absurd rfl named
    | whole unnamed fits read => exact .inr ⟨_, _, fits, read, rfl, rfl⟩
  · intro given
    rcases given with ⟨rfl, rfl⟩ | ⟨text, seen, fits, read, rfl, rfl⟩
    · exact .absent rfl
    · exact .whole rfl fits read

/-- Reserved bytes are an empty mask. Behind it the legacy dialect reads a context, if there is
one, and the tag of the ciphertext before all the rest. -/
theorem parse_legacy_reserved {body : Bytes} {packet : Packet} :
    parse (Dialect.legacy.versionByte :: (List.replicate Current.reservedLength 0 ++ body)) =
        .ok packet ↔
      ∃ front context ciphertext, Legacy.ContextSection [] front context ∧
        body = front ++ ciphertextTag :: ciphertext ∧
        packet = ⟨.legacy, [], ⟨context, ciphertext⟩⟩ := by
  have zero : List.replicate Current.reservedLength 0 = bigEndian Legacy.maskWidth 0 := rfl
  have zeroFits : 0 < capacity Legacy.maskWidth := by decide
  have unnamed : MaskKey.ofMask 0 = .ok [] := rfl
  rw [parse_legacy_eq_ok_iff, zero]
  constructor
  · rintro ⟨mask, keys, front, context, ciphertext, fits, found, given, bytes, rfl⟩
    rw [List.append_assoc] at bytes
    obtain ⟨empty, rest⟩ := bigEndian_append_inj zeroFits fits bytes
    rw [← empty, unnamed] at found
    cases found
    exact ⟨front, context, ciphertext, given, rest, rfl⟩
  · rintro ⟨front, context, ciphertext, given, rfl, rfl⟩
    have bytes := (List.append_assoc (bigEndian Legacy.maskWidth 0) front
      (ciphertextTag :: ciphertext)).symm
    exact ⟨0, [], front, context, ciphertext, zeroFits, unnamed, given, bytes, rfl⟩

/-- The section of a current ciphertext starts neither a legacy context nor a legacy ciphertext. -/
theorem parse_legacy_sized_ne_ok {content : Bytes} {packet : Packet} :
    parse (Dialect.legacy.versionByte :: (List.replicate Current.reservedLength 0 ++
      Current.sectionBytes sizedCiphertextTag content)) ≠ .ok packet := by
  intro read
  obtain ⟨front, context, ciphertext, given, bytes, -⟩ := parse_legacy_reserved.mp read
  rcases Legacy.contextSection_nil_iff.mp given with ⟨rfl, -⟩ | ⟨text, seen, -, -, rfl, -⟩
  · have tags : sizedCiphertextTag = ciphertextTag := (List.cons.inj bytes).1
    exact absurd tags (by decide)
  · have tags : sizedCiphertextTag = contextTag := (List.cons.inj bytes).1
    exact absurd tags (by decide)

/-- The section of a current context is read by the legacy dialect exactly as it is misread. -/
theorem parse_legacy_context_eq_ok_iff {text : String} {last : Bytes} {packet : Packet}
    (fits : (utf8 text).length < capacity Current.lengthWidth) :
    parse (Dialect.legacy.versionByte :: (List.replicate Current.reservedLength 0 ++
        (Current.sectionBytes contextTag (utf8 text) ++ last))) = .ok packet ↔
      ∃ shorter seen tail, Misread text shorter tail ∧ Context.parse shorter = .ok seen ∧
        packet = ⟨.legacy, [], ⟨some seen, tail ++ last⟩⟩ := by
  rw [parse_legacy_reserved]
  constructor
  · rintro ⟨front, context, ciphertext, given, bytes, rfl⟩
    rcases Legacy.contextSection_nil_iff.mp given with
      ⟨rfl, -⟩ | ⟨shorter, seen, shorterFits, read, rfl, rfl⟩
    · have tags : contextTag = ciphertextTag := (List.cons.inj bytes).1
      exact absurd tags (by decide)
    · simp only [Current.sectionBytes, sectionOf, List.cons_append, List.append_assoc,
        List.cons.injEq, true_and] at bytes
      obtain ⟨tail, misread, rfl⟩ := (misread_iff fits).mp ⟨shorterFits, bytes⟩
      exact ⟨shorter, seen, tail, misread, read, rfl⟩
  · rintro ⟨shorter, seen, tail, misread, read, rfl⟩
    obtain ⟨shorterFits, bytes⟩ := (misread_iff fits).mpr ⟨tail, misread, rfl⟩
    have given : Legacy.ContextSection [] _ (some seen) := .whole rfl shorterFits read
    refine ⟨_, some seen, tail ++ last, given, ?_, rfl⟩
    simp only [Current.sectionBytes, sectionOf, List.cons_append, List.append_assoc,
      List.cons.injEq, true_and]
    exact bytes

/-- What the legacy dialect reads of a current wire: nothing without a context, and else a context
whose text is misread, before a ciphertext that begins within the text. -/
theorem parse_set_legacy_eq_ok_iff {envelope : Envelope} {wire : Bytes} {packet : Packet}
    (written : Current.encode envelope = .ok wire) :
    parse (wire.set 0 Dialect.legacy.versionByte) = .ok packet ↔
      ∃ context text shorter seen tail, envelope.context = some context ∧
        context.canonical = .ok text ∧ Misread text shorter tail ∧
        Context.parse shorter = .ok seen ∧
        packet = ⟨.legacy, [], ⟨some seen,
          tail ++ Current.sectionBytes sizedCiphertextTag envelope.ciphertext⟩⟩ := by
  obtain ⟨front, given, -, rfl⟩ := Current.encode_eq_ok_iff.mp written
  obtain ⟨held, ciphertext⟩ := envelope
  rw [Current.wireFrom, List.set_cons_zero, List.append_assoc]
  cases given with
  | absent =>
    constructor
    · intro read
      exact absurd read parse_legacy_sized_ne_ok
    · rintro ⟨_, _, _, _, _, impossible, -⟩
      cases impossible
  | @present context text found fits =>
    rw [parse_legacy_context_eq_ok_iff fits]
    constructor
    · rintro ⟨shorter, seen, tail, misread, read, rfl⟩
      exact ⟨context, text, shorter, seen, tail, rfl, found, misread, read, rfl⟩
    · rintro ⟨_, _, shorter, seen, tail, same, again, misread, read, rfl⟩
      cases same
      obtain rfl := Except.ok.inj (found.symm.trans again)
      exact ⟨shorter, seen, tail, misread, read, rfl⟩

/-- A text that is misread as one that agrees with it does not fit a length field of the legacy
dialect: else nothing would be read of it. -/
theorem Misread.long {text shorter : String} {tail : Bytes} {context seen : Context}
    (misread : Misread text shorter tail) (written : context.canonical = .ok text)
    (read : Context.parse shorter = .ok seen) (agreed : seen.Agrees context) :
    capacity Legacy.lengthWidth ≤ (utf8 text).length := by
  refine Nat.le_of_not_lt fun short => ?_
  have upper := misread.upper
  rw [Nat.div_eq_of_lt short, eq_comm, List.length_eq_zero_iff] at upper
  obtain rfl : shorter = "" := utf8_injective upper
  obtain rfl : Context.empty = seen := Except.ok.inj read
  have keys : context.keys = [] := List.eq_nil_iff_forall_not_mem.mpr fun key held =>
    List.not_mem_nil ((agreed.sameKeys key).mpr held)
  have entries : context.entries = Context.empty.entries := List.map_eq_nil_iff.mp keys
  obtain rfl : context = Context.empty := Context.ext_perm (.of_eq entries)
  obtain rfl : "" = text := Except.ok.inj written
  have lower := misread.lower
  cases lower

/-- A wire with an altered version. Under a byte of neither dialect it is not supported, whatever
is expected. Under the byte of the legacy dialect, and the context it was written with, it is
opened exactly when the canonical text does not fit a length field of that dialect and is misread
as a text that is read as a context that agrees with it; what it then gives is that context, and
for the ciphertext a tail of the text and the section of the ciphertext. -/
theorem decode_set_version {envelope : Envelope} {wire : Bytes}
    (written : Current.encode envelope = .ok wire) {version : UInt8}
    (altered : version ≠ Dialect.current.versionByte) :
    (version ≠ Dialect.legacy.versionByte → ∀ expected,
      (decode (wire.set 0 version) expected).outcome = .error (.unsupportedVersion version)) ∧
    (version = Dialect.legacy.versionByte → ∀ opened,
      (decode (wire.set 0 version) envelope.context).outcome = .ok opened ↔
        ∃ context text shorter seen tail, envelope.context = some context ∧
          context.canonical = .ok text ∧ capacity Legacy.lengthWidth ≤ (utf8 text).length ∧
          Misread text shorter tail ∧ Context.parse shorter = .ok seen ∧ seen.Agrees context ∧
          opened = ⟨some seen,
            tail ++ Current.sectionBytes sizedCiphertextTag envelope.ciphertext⟩) := by
  constructor
  · intro notLegacy expected
    obtain ⟨_, -, -, rfl⟩ := Current.encode_eq_ok_iff.mp written
    exact decode_outcome_of_parse_error (parse_unsupported notLegacy altered _) expected
  · rintro rfl opened
    simp only [decode_outcome_eq_ok_iff, parse_set_legacy_eq_ok_iff written]
    constructor
    · rintro ⟨_, ⟨context, text, shorter, seen, tail, held, found, misread, read, rfl⟩, rfl,
        accepted⟩
      rw [held] at accepted
      have agreed := Context.compare_outcome_eq_ok_iff.mp accepted
      exact ⟨context, text, shorter, seen, tail, held, found, misread.long found read agreed,
        misread, read, agreed, rfl⟩
    · rintro ⟨context, text, shorter, seen, tail, held, found, -, misread, read, agreed, rfl⟩
      refine ⟨_, ⟨context, text, shorter, seen, tail, held, found, misread, read, rfl⟩, rfl, ?_⟩
      rw [held]
      exact Context.compare_outcome_eq_ok_iff.mpr agreed

/-- A wire with a short context is not opened under any other version. -/
theorem decode_set_version_tagged : Current.encode taggedEnvelope = .ok taggedWire ∧
    (∀ expected, (decode (taggedWire.set 0 0xEE) expected).outcome =
      .error (.unsupportedVersion 0xEE)) ∧
    ∀ opened, (decode (taggedWire.set 0 0x01) (some taggedContext)).outcome ≠ .ok opened := by
  refine ⟨encode_taggedEnvelope, ?_, fun opened accepted => ?_⟩
  · exact (decode_set_version encode_taggedEnvelope (by decide)).1 (by decide)
  · obtain ⟨context, text, _, _, _, held, found, long, -⟩ :=
      ((decode_set_version encode_taggedEnvelope (by decide)).2 rfl opened).mp accepted
    cases held
    obtain rfl := Except.ok.inj (canonical_taggedContext.symm.trans found)
    exact absurd long (by decide)

/-- As many letters have as many bytes. -/
theorem length_utf8_replicate (count : Nat) :
    (utf8 (String.ofList (List.replicate count 'v'))).length = count := by
  induction count with
  | zero => rfl
  | succ count step =>
    rw [List.replicate_succ, ← List.singleton_append, String.ofList_append, utf8_append,
      List.length_append, step, Nat.add_comm]
    rfl

/-- A text of 0x00016103 bytes: the upper half of that length counts one byte, and the lower half
stands for a key of one letter and the tag of a legacy ciphertext. -/
def longText : String :=
  Context.entryText ("a", some (String.ofList (List.replicate 90369 'v')))

/-- The context of that text. -/
def longContext : Context :=
  .single "a" (some (String.ofList (List.replicate 90369 'v'))) (by decide +kernel)

/-- That text is the canonical text of that context. -/
theorem canonical_longContext : longContext.canonical = .ok longText := by
  refine Context.canonical_single _ (Context.offends_eq_false_iff.mpr ⟨by decide, ?_⟩)
  rintro value given
  obtain rfl := Option.some.inj given
  rw [Context.hasSeparator_eq_false_iff, String.toList_ofList]
  constructor
  · intro listed
    exact absurd (List.eq_of_mem_replicate listed) (by decide)
  · intro listed
    exact absurd (List.eq_of_mem_replicate listed) (by decide)

/-- Length of that text. -/
theorem length_longText : (utf8 longText).length = 0x00016103 := by
  rw [longText, Context.entryText, utf8_append, utf8_append, List.length_append,
    List.length_append, length_utf8_replicate]
  rfl

/-- That text is misread as its key alone. -/
theorem misread_longText : Misread longText "a" (utf8 longText) := by
  have key : utf8 "a" = [0x61] := by decide
  have lower : bigEndian Legacy.lengthWidth 0x00016103 = [0x61, ciphertextTag] := by decide
  constructor
  · rw [length_longText, key]
    decide
  · rw [length_longText, key, lower]
    rfl

/-- Under the version of the legacy dialect a wire can be opened with the very context it was
written with: its key alone is a placeholder, which agrees with every value. -/
theorem decode_set_legacy_longContext : ∃ wire,
    Current.encode ⟨some longContext, []⟩ = .ok wire ∧
      (decode (wire.set 0 0x01) (some longContext)).outcome =
        .ok ⟨some (.single "a" none (by decide +kernel)), utf8 longText ++ [4, 0, 0, 0, 0]⟩ := by
  have fits : (utf8 longText).length < capacity Current.lengthWidth := by
    rw [length_longText]
    decide
  have written : Current.encode ⟨some longContext, []⟩ = .ok _ :=
    Current.encode_eq_ok_iff.mpr ⟨_, .present canonical_longContext fits, by decide, rfl⟩
  have read : Context.parse "a" = .ok (.single "a" none (by decide +kernel)) :=
    Context.parse_canonical (Context.canonical_single _ (by decide))
  refine ⟨_, written, decode_outcome_eq_ok_iff.mpr ⟨_, (parse_set_legacy_eq_ok_iff written).mpr
    ⟨longContext, longText, "a", _, _, rfl, canonical_longContext, misread_longText, read, rfl⟩,
    rfl, ?_⟩⟩
  exact Context.compare_outcome_eq_ok_iff.mpr (Context.agrees_placeholder _ _ (by decide))

end AeadEnvelope.TagLength
