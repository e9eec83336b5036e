import AeadEnvelope.Proofs.Context.Agreement
import AeadEnvelope.Proofs.Reading
import AeadEnvelope.TagLength.Opening

/-!
# The structure of tag/length wires

What may stand where a wire gives a context is a relation between bytes and contexts, one for each
dialect (`Current.ContextSection`, `Legacy.ContextSection`). Main statements: behind its version
byte a current wire is read exactly when it is four reserved bytes, such a section and a ciphertext
behind its length (`parse_current_eq_ok_iff`), every other current wire is malformed
(`parse_current_malformed`), a legacy wire is read exactly when it is a mask, such a section and the
tag of a ciphertext before all the rest (`parse_legacy_eq_ok_iff`), and a wire is opened exactly
when it is read and its context agrees with the expected one (`decode_outcome_eq_ok_iff`).
-/
namespace AeadEnvelope.TagLength

open Reader

/-- Cursors with the same bytes left at the same position are the same. -/
theorem cursor_ext {left right : Cursor} (rest : left.rest = right.rest)
    (position : left.position = right.position) : left = right := by
  cases left
  cases right
  cases rest
  cases position
  rfl

/-- Bytes stand for a context exactly when they are the UTF-8 form of a text that is read as it. -/
theorem contextOfBytes_eq_ok_iff {bytes : Bytes} {context : Context} :
    contextOfBytes bytes = .ok context ↔
      ∃ text, utf8 text = bytes ∧ Context.parse text = .ok context := by
  unfold contextOfBytes
  cases decoded : textOfUtf8? bytes with
  | none =>
    simp only [reduceCtorEq, false_iff, not_exists, not_and]
    intro text same
    rw [textOfUtf8?_eq_some_iff.mpr same] at decoded
    cases decoded
  | some text =>
    have same := textOfUtf8?_eq_some_iff.mp decoded
    constructor
    · intro read
      refine ⟨text, same, ?_⟩
      cases parsed : Context.parse text with
      | error fault => simp [parsed, Except.mapError] at read
      | ok found => simpa [parsed, Except.mapError] using read
    · rintro ⟨other, written, parsed⟩
      rw [utf8_injective (same.trans written.symm)]
      simp [parsed, Except.mapError]

/-- Bytes that stand for no context are malformed. -/
theorem contextOfBytes_malformed {bytes : Bytes} {fault : Fault}
    (failed : contextOfBytes bytes = .error fault) : ∃ cause, fault = .malformed cause := by
  unfold contextOfBytes at failed
  split at failed
  · cases failed
    exact ⟨_, rfl⟩
  · next text _ =>
    cases parsed : Context.parse text with
    | error other =>
      simp only [parsed, Except.mapError, Except.error.injEq] at failed
      exact ⟨_, failed.symm⟩
    | ok found => simp [parsed, Except.mapError] at failed

/-- A section of either dialect: its tag, its length in as many bytes as the dialect has for it, and
its content. -/
def sectionOf (width : Nat) (tag : UInt8) (content : Bytes) : Bytes :=
  tag :: bigEndian width content.length ++ content

/-- Length of a section. -/
theorem length_sectionOf (width : Nat) (tag : UInt8) (content : Bytes) :
    (sectionOf width tag content).length = 1 + width + content.length := by
  simp only [sectionOf, List.cons_append, List.length_cons, List.length_append, length_bigEndian]
  omega

/-- The section of a text, or nothing where there is none. -/
def optionalSection (width : Nat) (tag : UInt8) : Option String → Bytes
  | none => []
  | some text => sectionOf width tag (utf8 text)

/-- A text behind its length is found again before a tag other than its own, as is the lack of
one. -/
theorem optionalSection_append_inj {width : Nat} {tag next : UInt8} (apart : tag ≠ next)
    {left right : Option String} {later rest : Bytes}
    (leftFits : ∀ text, left = some text → (utf8 text).length < capacity width)
    (rightFits : ∀ text, right = some text → (utf8 text).length < capacity width)
    (same : optionalSection width tag left ++ next :: later =
      optionalSection width tag right ++ next :: rest) : left = right ∧ later = rest := by
  cases left with
  | none =>
    cases right with
    | none => exact ⟨rfl, (List.cons.inj same).2⟩
    | some other => exact absurd (List.cons.inj same).1.symm apart
  | some text =>
    cases right with
    | none => exact absurd (List.cons.inj same).1 apart
    | some other =>
      simp only [optionalSection, sectionOf, List.cons_append, List.append_assoc, List.cons.injEq,
        true_and] at same
      obtain ⟨texts, behind⟩ := sized_append_inj (leftFits text rfl) (rightFits other rfl) same
      exact ⟨congrArg some (utf8_injective texts), (List.cons.inj behind).2⟩

/-- Behind its tag, the section of a context is read up to its end. -/
theorem contextText_eq_ok_iff {β : Type} {width : Nat} {truncated exceeding : Malformation}
    {next : Context → Reader β} {cursor later : Cursor} {value : β} (tag : UInt8) :
    (do
      let length ← number width truncated
      let content ← take length exceeding
      let context ← ofOutcome (contextOfBytes content)
      next context : Reader β) cursor = (.ok value, later) ↔
      ∃ text context middle, (utf8 text).length < capacity width ∧
        Context.parse text = .ok context ∧
        tag :: cursor.rest = sectionOf width tag (utf8 text) ++ middle.rest ∧
        middle.position + 1 = cursor.position + (sectionOf width tag (utf8 text)).length ∧
        next context middle = (.ok value, later) := by
  simp only [bind_eq_ok_iff, number_eq_ok_iff, take_eq_ok_iff, ofOutcome_eq_ok_iff,
    contextOfBytes_eq_ok_iff, length_sectionOf]
  constructor
  · rintro ⟨_, behindLength, ⟨fits, lengthRead, lengthMoved⟩, _, middle, ⟨rfl, contentRead,
      contentMoved⟩, context, _, ⟨⟨text, rfl, read⟩, rfl⟩, ending⟩
    have bytes : tag :: cursor.rest = sectionOf width tag (utf8 text) ++ middle.rest := by
      rw [lengthRead, contentRead, sectionOf, List.cons_append, List.cons_append,
        List.append_assoc]
    exact ⟨text, context, middle, fits, read, bytes, by omega, ending⟩
  · rintro ⟨text, context, middle, fits, read, bytes, moved, ending⟩
    rw [sectionOf, List.cons_append, List.cons_append, List.append_assoc] at bytes
    have lengthRead := (List.cons.inj bytes).2
    have contentMoved : middle.position = cursor.position + width + (utf8 text).length := by omega
    exact ⟨_, ⟨cursor.position + width, _⟩, ⟨fits, lengthRead, rfl⟩, _, middle,
      ⟨rfl, rfl, contentMoved⟩, context, middle, ⟨⟨text, rfl, read⟩, rfl⟩, ending⟩

/-- The section of a context that stands before a mark is read, and then whatever reads the mark. -/
theorem contextText_of_sectionOf {β : Type} {width : Nat} {truncated exceeding : Malformation}
    {next : Context → Reader β} {cursor later : Cursor} {value : β} {tag mark : UInt8}
    {text : String} {context : Context} (fits : (utf8 text).length < capacity width)
    (read : Context.parse text = .ok context)
    (bytes : tag :: cursor.rest = sectionOf width tag (utf8 text) ++ mark :: later.rest)
    (moved : later.position = cursor.position + (sectionOf width tag (utf8 text)).length)
    (ending : ∀ middle : Cursor, middle.rest = mark :: later.rest →
      later.position = middle.position + 1 → next context middle = (.ok value, later)) :
    (do
      let length ← number width truncated
      let content ← take length exceeding
      let context ← ofOutcome (contextOfBytes content)
      next context : Reader β) cursor = (.ok value, later) := by
  have some : 0 < (sectionOf width tag (utf8 text)).length := by
    rw [length_sectionOf]
    omega
  have back : later.position - 1 + 1 = later.position := by omega
  let middle : Cursor := ⟨later.position - 1, mark :: later.rest⟩
  have goesOn : next context middle = (.ok value, later) := ending middle rfl back.symm
  exact (contextText_eq_ok_iff tag).mpr
    ⟨text, context, middle, fits, read, bytes, back.trans moved, goesOn⟩

/-- The text of a context behind its length fails for its structure alone if what follows does. -/
theorem malforming_contextText {β : Type} {width : Nat} {truncated exceeding : Malformation}
    {next : Context → Reader β} (malforming : ∀ context, (next context).Malforming) :
    (do
      let length ← number width truncated
      let content ← take length exceeding
      let context ← ofOutcome (contextOfBytes content)
      next context : Reader β).Malforming :=
  (malforming_number _ _).bind fun _ => (malforming_take _ _).bind fun _ =>
    (malforming_ofOutcome fun _ => contextOfBytes_malformed).bind malforming

namespace Current

/-- The bytes in which a wire may give a context, or the lack of one. -/
inductive ContextSection : Bytes → Option Context → Prop where
  /-- There is no context. -/
  | absent : ContextSection [] none
  /-- The UTF-8 form of a text that is read as the context. -/
  | present {text : String} {context : Context} (fits : (utf8 text).length < capacity lengthWidth)
    (read : Context.parse text = .ok context) :
    ContextSection (sectionBytes contextTag (utf8 text)) (some context)

/-- Length of a section. -/
theorem length_sectionBytes (tag : UInt8) (content : Bytes) :
    (sectionBytes tag content).length = 1 + lengthWidth + content.length :=
  length_sectionOf lengthWidth tag content

/-- The section of a context is read up to the tag of the ciphertext. -/
theorem ContextSection.contextReader_eq {tag : UInt8} {front : Bytes} {cursor later : Cursor}
    {context : Option Context} (given : ContextSection front context)
    (bytes : tag :: cursor.rest = front ++ sizedCiphertextTag :: later.rest)
    (moved : later.position = cursor.position + front.length) :
    contextReader tag cursor = (.ok context, later) := by
  cases given with
  | absent =>
    have announced : tag = sizedCiphertextTag := (List.cons.inj bytes).1
    have stays : cursor = later := cursor_ext (List.cons.inj bytes).2 moved.symm
    rw [announced, contextReader, if_neg (by decide), if_pos rfl]
    exact pure_eq_ok_iff.mpr ⟨rfl, stays⟩
  | @present text context fits read =>
    have announced : tag = contextTag := (List.cons.inj bytes).1
    rw [announced] at bytes
    rw [announced, contextReader, if_pos rfl]
    refine contextText_of_sectionOf fits read bytes moved fun middle marked behind => ?_
    rw [bind_eq_ok_iff]
    refine ⟨sizedCiphertextTag, later, byte_eq_ok_iff.mpr ⟨marked, behind⟩, ?_⟩
    rw [if_pos rfl]
    exact pure_eq_ok_iff.mpr ⟨rfl, rfl⟩

/-- Whatever is read for a context has a section that stands there. -/
theorem contextReader_sound {tag : UInt8} {cursor later : Cursor} {context : Option Context}
    (found : contextReader tag cursor = (.ok context, later)) :
    ∃ front, ContextSection front context ∧
      tag :: cursor.rest = front ++ sizedCiphertextTag :: later.rest ∧
      later.position = cursor.position + front.length := by
  unfold contextReader at found
  split at found
  · next announced =>
    rw [contextText_eq_ok_iff contextTag] at found
    simp only [bind_eq_ok_iff, byte_eq_ok_iff] at found
    obtain ⟨text, held, middle, fits, read, textRead, textMoved, next, behind,
      ⟨tagRead, tagMoved⟩, ending⟩ := found
    split at ending
    · next sized =>
      obtain ⟨rfl, rfl⟩ := pure_eq_ok_iff.mp ending
      rw [tagRead, sized] at textRead
      exact ⟨_, .present fits read, announced ▸ textRead, tagMoved.trans textMoved⟩
    · exact absurd ending malformed_ne_ok
  · split at found
    · next sized =>
      obtain ⟨rfl, rfl⟩ := pure_eq_ok_iff.mp found
      exact ⟨[], .absent, by rw [sized, List.nil_append], rfl⟩
    · exact absurd found malformed_ne_ok

/-- The section of a context fails for its structure alone. -/
theorem malforming_contextReader (tag : UInt8) : (contextReader tag).Malforming := by
  unfold contextReader
  split
  · refine malforming_contextText fun context => (malforming_byte _).bind fun next => ?_
    split
    · exact malforming_pure _
    · exact malforming_malformed _
  · split
    · exact malforming_pure _
    · exact malforming_malformed _

/-- Behind its version byte a wire is read exactly when it is reserved bytes, the section of a
context and a ciphertext behind its length. -/
theorem reader_eq_ok_iff {cursor later : Cursor} {packet : Packet} :
    reader cursor = (.ok packet, later) ↔
      ∃ reserved front context ciphertext, reserved.length = reservedLength ∧
        ContextSection front context ∧ ciphertext.length < capacity lengthWidth ∧
        cursor.rest = reserved ++ front ++ sectionBytes sizedCiphertextTag ciphertext ∧
        packet = ⟨.current, [], ⟨context, ciphertext⟩⟩ ∧
        later = ⟨cursor.position + cursor.rest.length, []⟩ := by
  constructor
  · intro found
    simp only [reader, bind_eq_ok_iff, take_eq_ok_iff, byte_eq_ok_iff, number_eq_ok_iff,
      finish_eq_ok_iff, pure_eq_ok_iff] at found
    obtain ⟨reserved, _, ⟨four, reservedRead, reservedMoved⟩, tag, _, ⟨tagRead, tagMoved⟩,
      context, _, contextFound, _, _, ⟨fits, lengthRead, lengthMoved⟩, ciphertext, last,
      ⟨rfl, ciphertextRead, ciphertextMoved⟩, _, _, ⟨ended, rfl⟩, rfl, rfl⟩ := found
    obtain ⟨front, given, frontRead, frontMoved⟩ := contextReader_sound contextFound
    have whole : cursor.rest = reserved ++ front ++ sectionBytes sizedCiphertextTag ciphertext := by
      rw [reservedRead, tagRead, frontRead, lengthRead, ciphertextRead, ended, sectionBytes]
      simp
    have passed : last.position = cursor.position + cursor.rest.length := by
      rw [whole, List.length_append, List.length_append, length_sectionBytes]
      omega
    exact ⟨reserved, front, context, ciphertext, four, given, fits, whole, rfl,
      cursor_ext ended passed⟩
  · rintro ⟨reserved, front, context, ciphertext, four, given, fits, whole, rfl, rfl⟩
    obtain ⟨tag, behind, split⟩ : ∃ tag behind,
        front ++ sectionBytes sizedCiphertextTag ciphertext = tag :: behind := by
      cases front <;> exact ⟨_, _, rfl⟩
    -- The cursors between the steps.
    let atTag : Cursor := ⟨cursor.position + reservedLength, tag :: behind⟩
    let atContext : Cursor := ⟨atTag.position + 1, behind⟩
    let atLength : Cursor :=
      ⟨atContext.position + front.length, bigEndian lengthWidth ciphertext.length ++ ciphertext⟩
    let atCiphertext : Cursor := ⟨atLength.position + lengthWidth, ciphertext⟩
    let atEnd : Cursor := ⟨atCiphertext.position + ciphertext.length, []⟩
    have reservedTaken : take reservedLength .truncatedReserved cursor = (.ok reserved, atTag) :=
      take_eq_ok_iff.mpr ⟨four, by rw [whole, List.append_assoc, split], rfl⟩
    have tagTaken : byte .missingEntryTag atTag = (.ok tag, atContext) :=
      byte_eq_ok_iff.mpr ⟨rfl, rfl⟩
    have contextTaken : contextReader tag atContext = (.ok context, atLength) :=
      given.contextReader_eq (by rw [← split]; rfl) rfl
    have lengthTaken : number lengthWidth .truncatedCiphertextLength atLength =
        (.ok ciphertext.length, atCiphertext) :=
      number_eq_ok_iff.mpr ⟨fits, rfl, rfl⟩
    have ciphertextTaken : take ciphertext.length .ciphertextExceedsPacket atCiphertext =
        (.ok ciphertext, atEnd) :=
      take_eq_ok_iff.mpr ⟨rfl, (List.append_nil ciphertext).symm, rfl⟩
    have passed : atEnd.position = cursor.position + cursor.rest.length := by
      rw [whole, List.length_append, List.length_append, length_sectionBytes, four]
      change cursor.position + reservedLength + 1 + front.length + lengthWidth + ciphertext.length = _
      omega
    have ended : finish atEnd = (.ok (), atEnd) := finish_eq_ok_iff.mpr ⟨rfl, rfl⟩
    rw [reader, bind_ok reservedTaken, bind_ok tagTaken, bind_ok contextTaken, bind_ok lengthTaken,
      bind_ok ciphertextTaken, bind_ok ended]
    exact pure_eq_ok_iff.mpr ⟨rfl, cursor_ext rfl passed⟩

/-- Behind its version byte a wire fails for its structure alone. -/
theorem malforming_reader : reader.Malforming :=
  (malforming_take _ _).bind fun _ => (malforming_byte _).bind fun tag =>
    (malforming_contextReader tag).bind fun _ => (malforming_number _ _).bind fun _ =>
    (malforming_take _ _).bind fun _ => malforming_finish.bind fun _ => malforming_pure _

end Current

namespace Legacy

/-- The bytes in which a wire may give a context beside the keys that its mask names. -/
inductive ContextSection (keys : List MaskKey) : Bytes → Option Context → Prop where
  /-- There is no context. -/
  | absent (unnamed : keys = []) : ContextSection keys [] none
  /-- The keys of the mask are the context. -/
  | named {context : Context} (named : keys ≠ [])
    (built : Context.ofEntries (placeholderEntries keys) = .ok context) :
    ContextSection keys [] (some context)
  /-- A text adds entries to the keys of the mask. -/
  | described {text : String} {further context : Context} (named : keys ≠ [])
    (fits : (utf8 text).length < capacity lengthWidth) (read : Context.parse text = .ok further)
    (built : describedContext keys further = .ok context) :
    ContextSection keys (sectionOf lengthWidth descriptionTag (utf8 text)) (some context)
  /-- The UTF-8 form of a text is read as the context. -/
  | whole {text : String} {context : Context} (unnamed : keys = [])
    (fits : (utf8 text).length < capacity lengthWidth) (read : Context.parse text = .ok context) :
    ContextSection keys (sectionOf lengthWidth contextTag (utf8 text)) (some context)

/-- The section of a context is read up to the tag of the ciphertext. -/
theorem ContextSection.contextReader_eq {keys : List MaskKey} {tag : UInt8} {front : Bytes}
    {cursor later : Cursor} {context : Option Context} (given : ContextSection keys front context)
    (bytes : tag :: cursor.rest = front ++ ciphertextTag :: later.rest)
    (moved : later.position = cursor.position + front.length) :
    contextReader keys tag cursor = (.ok (context, ciphertextTag), later) := by
  cases given with
  | absent unnamed =>
    have announced : tag = ciphertextTag := (List.cons.inj bytes).1
    have stays : cursor = later := cursor_ext (List.cons.inj bytes).2 moved.symm
    rw [announced, contextReader, if_neg (by decide), if_neg (by decide), if_pos unnamed]
    exact pure_eq_ok_iff.mpr ⟨rfl, stays⟩
  | @named context named built =>
    have announced : tag = ciphertextTag := (List.cons.inj bytes).1
    have stays : cursor = later := cursor_ext (List.cons.inj bytes).2 moved.symm
    rw [announced, contextReader, if_neg (by decide), if_neg (by decide), if_neg named,
      bind_eq_ok_iff]
    exact ⟨context, cursor, ofOutcome_eq_ok_iff.mpr ⟨built, rfl⟩, pure_eq_ok_iff.mpr ⟨rfl, stays⟩⟩
  | @described text further context named fits read built =>
    have announced : tag = descriptionTag := (List.cons.inj bytes).1
    rw [announced] at bytes
    rw [announced, contextReader, if_pos rfl, if_neg named]
    refine contextText_of_sectionOf fits read bytes moved fun middle marked behind => ?_
    have joined : ofOutcome (describedContext keys further) middle = (.ok context, middle) :=
      ofOutcome_eq_ok_iff.mpr ⟨built, rfl⟩
    have passed : byte .missingCiphertextTag middle = (.ok ciphertextTag, later) :=
      byte_eq_ok_iff.mpr ⟨marked, behind⟩
    rw [bind_ok joined, bind_ok passed]
    rfl
  | @whole text context unnamed fits read =>
    have announced : tag = contextTag := (List.cons.inj bytes).1
    rw [announced] at bytes
    rw [announced, contextReader, if_neg (by decide), if_pos rfl, if_pos unnamed]
    refine contextText_of_sectionOf fits read bytes moved fun middle marked behind => ?_
    have passed : byte .missingCiphertextTag middle = (.ok ciphertextTag, later) :=
      byte_eq_ok_iff.mpr ⟨marked, behind⟩
    rw [bind_ok passed]
    rfl

/-- Whatever is read for a context before the tag of a ciphertext has a section that stands
there. -/
theorem contextReader_sound {keys : List MaskKey} {tag : UInt8} {cursor later : Cursor}
    {context : Option Context}
    (found : contextReader keys tag cursor = (.ok (context, ciphertextTag), later)) :
    ∃ front, ContextSection keys front context ∧
      tag :: cursor.rest = front ++ ciphertextTag :: later.rest ∧
      later.position = cursor.position + front.length := by
  unfold contextReader at found
  split at found
  · next announced =>
    split at found
    · exact absurd found malformed_ne_ok
    · next named =>
      rw [contextText_eq_ok_iff descriptionTag] at found
      simp only [bind_eq_ok_iff, ofOutcome_eq_ok_iff, byte_eq_ok_iff, pure_eq_ok_iff,
        Prod.mk.injEq] at found
      obtain ⟨text, further, _, fits, read, textRead, textMoved, joined, _, ⟨built, rfl⟩, _, _,
        ⟨tagRead, tagMoved⟩, ⟨rfl, rfl⟩, rfl⟩ := found
      rw [tagRead] at textRead
      exact ⟨_, .described named fits read built, announced ▸ textRead, tagMoved.trans textMoved⟩
  · split at found
    · next announced =>
      split at found
      · next unnamed =>
        rw [contextText_eq_ok_iff contextTag] at found
        simp only [bind_eq_ok_iff, byte_eq_ok_iff, pure_eq_ok_iff, Prod.mk.injEq] at found
        obtain ⟨text, held, middle, fits, read, textRead, textMoved, _, _,
          ⟨tagRead, tagMoved⟩, ⟨rfl, rfl⟩, rfl⟩ := found
        rw [tagRead] at textRead
        exact ⟨_, .whole unnamed fits read, announced ▸ textRead, tagMoved.trans textMoved⟩
      · exact absurd found malformed_ne_ok
    · split at found
      · next unnamed =>
        simp only [pure_eq_ok_iff, Prod.mk.injEq] at found
        obtain ⟨⟨rfl, rfl⟩, rfl⟩ := found
        exact ⟨[], .absent unnamed, rfl, rfl⟩
      · next named =>
        simp only [bind_eq_ok_iff, ofOutcome_eq_ok_iff, pure_eq_ok_iff, Prod.mk.injEq] at found
        obtain ⟨held, _, ⟨built, rfl⟩, ⟨rfl, rfl⟩, rfl⟩ := found
        exact ⟨[], .named named built, rfl, rfl⟩

/-- Behind its version byte a wire is read exactly when it is a mask, the section of a context
beside the keys of the mask, and the tag of the ciphertext before all the rest. -/
theorem reader_eq_ok_iff {cursor later : Cursor} {packet : Packet} :
    reader cursor = (.ok packet, later) ↔
      ∃ mask keys front context ciphertext, mask < capacity maskWidth ∧
        MaskKey.ofMask mask = .ok keys ∧ ContextSection keys front context ∧
        cursor.rest = bigEndian maskWidth mask ++ front ++ ciphertextTag :: ciphertext ∧
        packet = ⟨.legacy, keys, ⟨context, ciphertext⟩⟩ ∧
        later = ⟨cursor.position + cursor.rest.length, []⟩ := by
  constructor
  · intro found
    simp only [reader, bind_eq_ok_iff, number_eq_ok_iff, ofOutcome_eq_ok_iff, byte_eq_ok_iff,
      Prod.exists] at found
    obtain ⟨mask, _, ⟨fits, maskRead, maskMoved⟩, keys, _, ⟨named, rfl⟩, tag, _,
      ⟨tagRead, tagMoved⟩, context, next, last, contextFound, ending⟩ := found
    split at ending
    · next marked =>
      subst marked
      simp only [bind_eq_ok_iff, rest_eq_ok_iff, pure_eq_ok_iff] at ending
      obtain ⟨ciphertext, _, ⟨rfl, rfl⟩, rfl, rfl⟩ := ending
      obtain ⟨front, given, frontRead, frontMoved⟩ := contextReader_sound contextFound
      have whole : cursor.rest =
          bigEndian maskWidth mask ++ front ++ ciphertextTag :: last.rest := by
        rw [maskRead, tagRead, frontRead, List.append_assoc]
      have passed : last.position + last.rest.length = cursor.position + cursor.rest.length := by
        rw [whole, List.length_append, List.length_append, List.length_cons, length_bigEndian]
        omega
      exact ⟨mask, keys, front, context, last.rest, fits, named, given, whole, rfl,
        cursor_ext rfl passed⟩
    · exact absurd ending malformed_ne_ok
  · rintro ⟨mask, keys, front, context, ciphertext, fits, named, given, whole, rfl, rfl⟩
    obtain ⟨tag, behind, split⟩ : ∃ tag behind,
        front ++ ciphertextTag :: ciphertext = tag :: behind := by
      cases front <;> exact ⟨_, _, rfl⟩
    -- The cursors between the steps.
    let atTag : Cursor := ⟨cursor.position + maskWidth, tag :: behind⟩
    let atContext : Cursor := ⟨atTag.position + 1, behind⟩
    let atCiphertext : Cursor := ⟨atContext.position + front.length, ciphertext⟩
    have maskTaken : number maskWidth .truncatedKeyMask cursor = (.ok mask, atTag) :=
      number_eq_ok_iff.mpr ⟨fits, by rw [whole, List.append_assoc, split], rfl⟩
    have keysFound : ofOutcome (MaskKey.ofMask mask) atTag = (.ok keys, atTag) :=
      ofOutcome_eq_ok_iff.mpr ⟨named, rfl⟩
    have tagTaken : byte .missingEntryTag atTag = (.ok tag, atContext) :=
      byte_eq_ok_iff.mpr ⟨rfl, rfl⟩
    have contextTaken : contextReader keys tag atContext =
        (.ok (context, ciphertextTag), atCiphertext) :=
      given.contextReader_eq split.symm rfl
    have passed : atCiphertext.position + ciphertext.length =
        cursor.position + cursor.rest.length := by
      rw [whole, List.length_append, List.length_append, List.length_cons, length_bigEndian]
      change cursor.position + maskWidth + 1 + front.length + ciphertext.length = _
      omega
    have restTaken : rest atCiphertext =
        (.ok ciphertext, ⟨cursor.position + cursor.rest.length, []⟩) :=
      rest_eq_ok_iff.mpr ⟨rfl, cursor_ext rfl passed⟩
    rw [reader, bind_ok maskTaken, bind_ok keysFound, bind_ok tagTaken, bind_ok contextTaken]
    simp only [if_true]
    rw [bind_ok restTaken]
    rfl

end Legacy

/-- A current wire is read exactly when it is reserved bytes, the section of a context and a
ciphertext behind its length. -/
theorem parse_current_eq_ok_iff {body : Bytes} {packet : Packet} :
    parse (Dialect.current.versionByte :: body) = .ok packet ↔
      ∃ reserved front context ciphertext, reserved.length = Current.reservedLength ∧
        Current.ContextSection front context ∧
        ciphertext.length < capacity Current.lengthWidth ∧
        body = reserved ++ front ++ Current.sectionBytes sizedCiphertextTag ciphertext ∧
        packet = ⟨.current, [], ⟨context, ciphertext⟩⟩ := by
  have dispatched : reader (.start (Dialect.current.versionByte :: body)) =
      Current.reader ⟨1, body⟩ := rfl
  rw [parse, run_eq_ok_iff, dispatched]
  simp only [Current.reader_eq_ok_iff]
  constructor
  · rintro ⟨_, reserved, front, context, ciphertext, four, given, fits, bytes, rfl, -⟩
    exact ⟨reserved, front, context, ciphertext, four, given, fits, bytes, rfl⟩
  · rintro ⟨reserved, front, context, ciphertext, four, given, fits, bytes, rfl⟩
    exact ⟨_, reserved, front, context, ciphertext, four, given, fits, bytes, rfl, rfl⟩

/-- A current wire that is not read is malformed. -/
theorem parse_current_malformed {body : Bytes} {fault : Fault}
    (failed : parse (Dialect.current.versionByte :: body) = .error fault) :
    ∃ cause, fault = .malformed cause :=
  Current.malforming_reader ⟨1, body⟩ fault failed

/-- A legacy wire is read exactly when it is a mask, the section of a context beside the keys of
the mask, and the tag of the ciphertext before all the rest. -/
theorem parse_legacy_eq_ok_iff {body : Bytes} {packet : Packet} :
    parse (Dialect.legacy.versionByte :: body) = .ok packet ↔
      ∃ mask keys front context ciphertext, mask < capacity Legacy.maskWidth ∧
        MaskKey.ofMask mask = .ok keys ∧ Legacy.ContextSection keys front context ∧
        body = bigEndian Legacy.maskWidth mask ++ front ++ ciphertextTag :: ciphertext ∧
        packet = ⟨.legacy, keys, ⟨context, ciphertext⟩⟩ := by
  have dispatched : reader (.start (Dialect.legacy.versionByte :: body)) =
      Legacy.reader ⟨1, body⟩ := rfl
  rw [parse, run_eq_ok_iff, dispatched]
  simp only [Legacy.reader_eq_ok_iff]
  constructor
  · rintro ⟨_, mask, keys, front, context, ciphertext, fits, found, given, bytes, rfl, -⟩
    exact ⟨mask, keys, front, context, ciphertext, fits, found, given, bytes, rfl⟩
  · rintro ⟨mask, keys, front, context, ciphertext, fits, found, given, bytes, rfl⟩
    exact ⟨_, mask, keys, front, context, ciphertext, fits, found, given, bytes, rfl, rfl⟩

/-- A wire of any other version is not supported. -/
theorem parse_unsupported {version : UInt8} (notLegacy : version ≠ Dialect.legacy.versionByte)
    (notCurrent : version ≠ Dialect.current.versionByte) (body : Bytes) :
    parse (version :: body) = .error (.unsupportedVersion version) := by
  have started : byte .missingVersion (.start (version :: body)) = (.ok version, ⟨1, body⟩) := rfl
  rw [parse, run, reader, bind_ok started]
  by_cases varint : version = Dialect.varint.versionByte
  · have chosen : ofOutcome (Dialect.ofByte version) ⟨1, body⟩ = (.ok .varint, ⟨1, body⟩) := by
      rw [varint, Dialect.ofByte_versionByte]
      rfl
    rw [bind_ok chosen]
    rfl
  · have refused : ofOutcome (Dialect.ofByte version) ⟨1, body⟩ =
        (.error (.unsupportedVersion version), ⟨1, body⟩) := by
      rw [Dialect.ofByte, if_neg notLegacy, if_neg notCurrent, if_neg varint]
      rfl
    rw [bind_error refused]

/-- A wire that is not read is refused for that, whatever is expected. -/
theorem decode_outcome_of_parse_error {wire : Bytes} {fault : Fault}
    (failed : parse wire = .error fault) (expected : Option Context) :
    (decode wire expected).outcome = .error fault := by
  rw [decode, failed]

/-- A current wire that cannot be read is refused as malformed, whatever is expected. -/
theorem decode_current_malformed {body : Bytes}
    (unread : ∀ packet, parse (Dialect.current.versionByte :: body) ≠ .ok packet)
    (expected : Option Context) :
    ∃ cause, (decode (Dialect.current.versionByte :: body) expected).outcome =
      .error (.malformed cause) := by
  cases read : parse (Dialect.current.versionByte :: body) with
  | error fault =>
    obtain ⟨cause, rfl⟩ := parse_current_malformed read
    exact ⟨cause, decode_outcome_of_parse_error read expected⟩
  | ok packet => exact absurd read (unread packet)

/-- What is opened is the envelope of the packet that is read, if its context is accepted. -/
theorem decode_outcome_eq_map {packet : Packet} (read : parse wire = .ok packet)
    (expected : Option Context) :
    (decode wire expected).outcome =
      (Context.verify packet.envelope.context expected).outcome.map fun _ => packet.envelope := by
  rw [decode, read]
  dsimp only
  cases (Context.verify packet.envelope.context expected).outcome <;> rfl

/-- A wire that is read is opened if its context agrees with the expected one, and is refused for
a mismatch if not. -/
theorem decode_outcome_of_parse_ok {wire : Bytes} {packet : Packet}
    (read : parse wire = .ok packet) (expected : Option Context) :
    ((Context.verify packet.envelope.context expected).outcome = .ok () ∧
        (decode wire expected).outcome = .ok packet.envelope) ∨
      ((Context.verify packet.envelope.context expected).outcome ≠ .ok () ∧
        (decode wire expected).outcome = .error .contextMismatch) := by
  rw [decode_outcome_eq_map read]
  rcases Context.verify_outcome_cases packet.envelope.context expected with agreed | refused
  · simp [agreed, Except.map]
  · simp [refused, Except.map]

/-- A wire is opened exactly when it is read and its context agrees with the expected one. -/
theorem decode_outcome_eq_ok_iff {wire : Bytes} {expected : Option Context}
    {envelope : Envelope} :
    (decode wire expected).outcome = .ok envelope ↔
      ∃ packet, parse wire = .ok packet ∧ packet.envelope = envelope ∧
        (Context.verify envelope.context expected).outcome = .ok () := by
  cases read : parse wire with
  | error fault => simp [decode_outcome_of_parse_error read]
  | ok packet =>
    rcases decode_outcome_of_parse_ok read expected with ⟨agreed, opened⟩ | ⟨refused, closed⟩
    · rw [opened]
      constructor
      · intro same
        cases same
        exact ⟨packet, rfl, rfl, agreed⟩
      · rintro ⟨_, same, rfl, -⟩
        cases same
        rfl
    · rw [closed]
      constructor
      · intro impossible
        cases impossible
      · rintro ⟨_, same, rfl, agreed⟩
        cases same
        exact absurd agreed refused

end AeadEnvelope.TagLength
