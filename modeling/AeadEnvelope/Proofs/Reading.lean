import AeadEnvelope.Binary.Cursor
import AeadEnvelope.Proofs.Base128

/-!
# What readers accept

A reader succeeds exactly when the bytes at its cursor begin with a form of the value that it
returns, and leaves the bytes behind that form: so for a count of bytes (`take_eq_ok_iff`), one byte
(`byte_eq_ok_iff`), a number (`number_eq_ok_iff`), a number in base 128 (`varint_eq_ok_iff`) and one
reader after another (`bind_eq_ok_iff`). Bytes behind their length are read, or there is one of two
causes why they are not (`unprefixed_or_prefixed`). A reader that is made of such steps fails for no
other cause than the structure of the bytes (`Malforming`).
-/
namespace AeadEnvelope

/-- A number of two widths is written as its upper part in the one and its lower in the other. -/
theorem bigEndian_add (upper lower value : Nat) :
    bigEndian (upper + lower) value =
      bigEndian upper (value / capacity lower) ++ bigEndian lower value := by
  induction lower generalizing value with
  | zero => simp [capacity, bigEndian]
  | succ lower step =>
    rw [← Nat.add_assoc, bigEndian, bigEndian, step, capacity, Nat.div_div_eq_div_mul,
      List.append_assoc]

/-- A number that fits its width is found again, whatever follows it. -/
theorem bigEndian_append_inj {width left right : Nat} {later rest : Bytes}
    (leftFits : left < capacity width) (rightFits : right < capacity width)
    (same : bigEndian width left ++ later = bigEndian width right ++ rest) :
    left = right ∧ later = rest := by
  have widths : (bigEndian width left).length = (bigEndian width right).length := by
    simp only [length_bigEndian]
  obtain ⟨numbers, behind⟩ := List.append_inj same widths
  have equal : left = right := by
    rw [← ofBigEndian_bigEndian leftFits, numbers, ofBigEndian_bigEndian rightFits]
  exact ⟨equal, behind⟩

/-- Bytes behind their length are found again, whatever follows them. -/
theorem sized_append_inj {width : Nat} {left right later rest : Bytes}
    (leftFits : left.length < capacity width) (rightFits : right.length < capacity width)
    (same : bigEndian width left.length ++ (left ++ later) =
      bigEndian width right.length ++ (right ++ rest)) : left = right ∧ later = rest := by
  obtain ⟨lengths, contents⟩ := bigEndian_append_inj leftFits rightFits same
  exact List.append_inj contents lengths

namespace Reader

variable {α β : Type}

/-- Two steps succeed exactly when the first one does and the second one does behind it. -/
theorem bind_eq_ok_iff {reader : Reader α} {next : α → Reader β} {cursor later : Cursor}
    {value : β} :
    (reader >>= next) cursor = (.ok value, later) ↔
      ∃ found middle, reader cursor = (.ok found, middle) ∧
        next found middle = (.ok value, later) := by
  rcases first : reader cursor with ⟨_ | found, middle⟩
  · rw [bind_error first]
    simp
  · rw [bind_ok first]
    simp only [Prod.mk.injEq, Except.ok.injEq]
    constructor
    · exact fun second => ⟨found, middle, ⟨rfl, rfl⟩, second⟩
    · rintro ⟨_, _, ⟨rfl, rfl⟩, second⟩
      exact second

/-- A value that is ready takes nothing. -/
theorem pure_eq_ok_iff {value read : α} {cursor later : Cursor} :
    (pure value : Reader α) cursor = (.ok read, later) ↔ value = read ∧ cursor = later := by
  change (Except.ok value, cursor) = _ ↔ _
  simp

/-- A count of bytes is taken exactly when the bytes left begin with them. -/
theorem take_eq_ok_iff {count : Nat} {otherwise : Malformation} {cursor later : Cursor}
    {taken : Bytes} :
    take count otherwise cursor = (.ok taken, later) ↔
      taken.length = count ∧ cursor.rest = taken ++ later.rest ∧
        later.position = cursor.position + count := by
  obtain ⟨position, bytes⟩ := cursor
  obtain ⟨next, rest⟩ := later
  constructor
  · intro read
    simp only [take] at read
    split at read
    · cases read
    · next enough =>
      simp only [Prod.mk.injEq, Except.ok.injEq, Cursor.mk.injEq] at read
      obtain ⟨rfl, rfl, rfl⟩ := read
      refine ⟨?_, (List.take_append_drop count bytes).symm, rfl⟩
      have := List.length_take_le count bytes
      omega
  · rintro ⟨rfl, front, moved⟩
    simp only at front moved
    rw [front, moved, take_append]

/-- One byte is taken exactly when it is the first of the bytes left. -/
theorem byte_eq_ok_iff {otherwise : Malformation} {cursor later : Cursor} {first : UInt8} :
    byte otherwise cursor = (.ok first, later) ↔
      cursor.rest = first :: later.rest ∧ later.position = cursor.position + 1 := by
  obtain ⟨position, bytes⟩ := cursor
  obtain ⟨next, rest⟩ := later
  cases bytes with
  | nil => simp [byte]
  | cons head tail =>
    simp only [byte, Prod.mk.injEq, Except.ok.injEq, Cursor.mk.injEq, List.cons.injEq]
    constructor
    · rintro ⟨rfl, rfl, rfl⟩
      exact ⟨⟨rfl, rfl⟩, rfl⟩
    · rintro ⟨⟨rfl, rfl⟩, rfl⟩
      exact ⟨rfl, rfl, rfl⟩

/-- A number is taken exactly when it fits its width and the bytes left begin with it. -/
theorem number_eq_ok_iff {width : Nat} {otherwise : Malformation} {cursor later : Cursor}
    {value : Nat} :
    number width otherwise cursor = (.ok value, later) ↔
      value < capacity width ∧ cursor.rest = bigEndian width value ++ later.rest ∧
        later.position = cursor.position + width := by
  simp only [number, bind_eq_ok_iff, pure_eq_ok_iff, take_eq_ok_iff]
  constructor
  · rintro ⟨taken, middle, ⟨rfl, bytes, moved⟩, rfl, rfl⟩
    exact ⟨ofBigEndian_lt taken, by rw [bigEndian_ofBigEndian, bytes], moved⟩
  · rintro ⟨fits, bytes, moved⟩
    exact ⟨_, later, ⟨length_bigEndian width value, bytes, moved⟩, ofBigEndian_bigEndian fits, rfl⟩

/-- A number in base 128 is taken exactly when the bytes left begin with a form of it. -/
theorem varint_eq_ok_iff {cursor later : Cursor} {value : Nat} :
    varint cursor = (.ok value, later) ↔
      ∃ form, Base128.Consumed form value ∧ cursor.rest = form ++ later.rest ∧
        later.position = cursor.position + form.length := by
  obtain ⟨position, bytes⟩ := cursor
  obtain ⟨next, rest⟩ := later
  rcases decoded : Base128.decode bytes with ⟨outcome, count⟩
  have taken : varint ⟨position, bytes⟩ =
      (outcome.mapError Fault.malformed, ⟨position + count, bytes.drop count⟩) := by
    simp only [varint, decoded]
  rw [taken]
  constructor
  · intro read
    obtain ⟨succeeded, moved⟩ := Prod.mk.inj read
    obtain ⟨rfl, rfl⟩ := Cursor.mk.inj moved
    cases outcome with
    | error cause => cases succeeded
    | ok found =>
      have same : found = value := Except.ok.inj succeeded
      obtain ⟨form, behind, rfl, rfl, consumed⟩ := Base128.decode_eq_ok_iff.mp decoded
      refine ⟨form, same ▸ consumed, ?_, rfl⟩
      rw [List.drop_left]
  · rintro ⟨form, consumed, split, moved⟩
    dsimp only at split moved
    have again := Base128.decode_eq_ok_iff.mpr ⟨form, rest, split, rfl, consumed⟩
    obtain ⟨rfl, rfl⟩ := Prod.mk.inj (decoded.symm.trans again)
    rw [moved, split, List.drop_left]
    rfl

/-- Where no number in base 128 is found, none is taken. -/
theorem varint_of_error {bytes : Bytes} {cause : Malformation} {read : Nat}
    (failed : Base128.decode bytes = (.error cause, read)) (position : Nat) :
    varint ⟨position, bytes⟩ =
      (.error (.malformed cause), ⟨position + read, bytes.drop read⟩) := by
  simp only [varint, failed]
  rfl

/-- Bytes behind their length in base 128 are taken exactly when the bytes left begin with a form of
their length and with them. -/
theorem varintPrefixed_eq_ok_iff {otherwise : Malformation} {cursor later : Cursor}
    {taken : Bytes} :
    varintPrefixed otherwise cursor = (.ok taken, later) ↔
      ∃ form, Base128.Consumed form taken.length ∧ cursor.rest = form ++ (taken ++ later.rest) ∧
        later.position = cursor.position + form.length + taken.length := by
  unfold varintPrefixed
  simp only [bind_eq_ok_iff, varint_eq_ok_iff, take_eq_ok_iff]
  constructor
  · rintro ⟨_, middle, ⟨form, consumed, front, moved⟩, rfl, behind, passed⟩
    refine ⟨form, consumed, ?_, ?_⟩
    · rw [front, behind]
    · rw [passed, moved]
  · rintro ⟨form, consumed, front, passed⟩
    let middle : Cursor := ⟨cursor.position + form.length, taken ++ later.rest⟩
    exact ⟨taken.length, middle, ⟨form, consumed, front, rfl⟩, rfl, rfl, passed⟩

/-- Why bytes do not begin with some behind their length in base 128. -/
inductive Unprefixed (otherwise : Malformation) : Bytes → Malformation → Prop where
  /-- The length is cut off, too long, or beyond 64 bits. -/
  | number {bytes : Bytes} {cause : Malformation} {count : Nat}
    (failed : Base128.decode bytes = (.error cause, count)) : Unprefixed otherwise bytes cause
  /-- There are fewer bytes than the length says. -/
  | length {form later : Bytes} {length : Nat} (consumed : Base128.Consumed form length)
    (few : later.length < length) : Unprefixed otherwise (form ++ later) otherwise

/-- Bytes begin with some behind their length, or there is a cause for which they do not. -/
theorem unprefixed_or_prefixed (otherwise : Malformation) (bytes : Bytes) :
    (∃ cause, Unprefixed otherwise bytes cause) ∨
      ∃ form taken later, Base128.Consumed form taken.length ∧
        bytes = form ++ (taken ++ later) := by
  rcases decoded : Base128.decode bytes with ⟨cause | length, count⟩
  · exact .inl ⟨cause, .number decoded⟩
  · obtain ⟨form, later, rfl, -, consumed⟩ := Base128.decode_eq_ok_iff.mp decoded
    by_cases few : later.length < length
    · exact .inl ⟨otherwise, .length consumed few⟩
    · right
      have enough : (later.take length).length = length :=
        List.length_take_of_le (Nat.le_of_not_lt few)
      refine ⟨form, later.take length, later.drop length, ?_, ?_⟩
      · rw [enough]
        exact consumed
      · rw [List.take_append_drop]

/-- Where there is a cause for which bytes do not begin with some behind their length, none are
taken. -/
theorem varintPrefixed_of_unprefixed {otherwise cause : Malformation} {bytes : Bytes}
    (refused : Unprefixed otherwise bytes cause) (position : Nat) :
    ∃ stopped, varintPrefixed otherwise ⟨position, bytes⟩ =
      (.error (.malformed cause), stopped) := by
  cases refused with
  | number failed => exact ⟨_, bind_error (varint_of_error failed position)⟩
  | @length form later length consumed few =>
    let middle : Cursor := ⟨position + form.length, later⟩
    have counted : varint ⟨position, form ++ later⟩ = (.ok length, middle) :=
      varint_eq_ok_iff.mpr ⟨form, consumed, rfl, rfl⟩
    have fewer : middle.rest.length < length := few
    refine ⟨middle, ?_⟩
    rw [varintPrefixed, bind_ok counted, take_of_length_lt fewer]

/-- An outcome that takes nothing is passed on. -/
theorem ofOutcome_eq_ok_iff {outcome : Except Fault α} {cursor later : Cursor} {value : α} :
    ofOutcome outcome cursor = (.ok value, later) ↔ outcome = .ok value ∧ cursor = later := by
  simp [ofOutcome]

/-- A refusal for the structure of the bytes is no success. -/
theorem malformed_ne_ok {cause : Malformation} {cursor later : Cursor} {value : α} :
    (malformed cause : Reader α) cursor ≠ (.ok value, later) := by
  simp [malformed, fail]

/-- All that is left is taken. -/
theorem rest_eq_ok_iff {cursor later : Cursor} {taken : Bytes} :
    rest cursor = (.ok taken, later) ↔
      cursor.rest = taken ∧ (⟨cursor.position + cursor.rest.length, []⟩ : Cursor) = later := by
  simp [rest]

/-- An end is found exactly where nothing is left. -/
theorem finish_eq_ok_iff {cursor later : Cursor} {found : Unit} :
    finish cursor = (.ok found, later) ↔ cursor.rest = [] ∧ cursor = later := by
  rcases cursor with ⟨position, _ | ⟨head, tail⟩⟩ <;> simp [finish]

/-- A buffer is read exactly when its reader succeeds at the start. -/
theorem run_eq_ok_iff {reader : Reader α} {buffer : Bytes} {value : α} :
    reader.run buffer = .ok value ↔ ∃ later, reader (.start buffer) = (.ok value, later) := by
  rcases outcome : reader (.start buffer) with ⟨read, stopped⟩
  simp [run, outcome]

/-- A reader that fails for no other cause than the structure of the bytes. -/
def Malforming (reader : Reader α) : Prop :=
  ∀ cursor fault, (reader cursor).1 = .error fault → ∃ cause, fault = .malformed cause

/-- Two steps that fail for the structure alone fail together for it alone. -/
theorem Malforming.bind {reader : Reader α} {next : α → Reader β} (first : reader.Malforming)
    (second : ∀ value, (next value).Malforming) : (reader >>= next).Malforming := by
  intro cursor fault failed
  rcases read : reader cursor with ⟨early | found, middle⟩
  · rw [bind_error read] at failed
    exact first cursor fault (by rw [read, Except.error.inj failed])
  · rw [bind_ok read] at failed
    exact second found middle fault failed

/-- A value that is ready does not fail. -/
theorem malforming_pure (value : α) : (pure value : Reader α).Malforming := by
  intro cursor fault failed
  cases failed

/-- A refusal for the structure fails for the structure. -/
theorem malforming_malformed (cause : Malformation) :
    (malformed cause : Reader α).Malforming := by
  intro cursor fault failed
  cases failed
  exact ⟨cause, rfl⟩

/-- Too few bytes are a matter of the structure. -/
theorem malforming_take (count : Nat) (otherwise : Malformation) :
    (take count otherwise).Malforming := by
  intro cursor fault failed
  simp only [take] at failed
  split at failed
  · cases failed
    exact ⟨otherwise, rfl⟩
  · cases failed

/-- A missing byte is a matter of the structure. -/
theorem malforming_byte (otherwise : Malformation) : (byte otherwise).Malforming := by
  rintro ⟨position, _ | ⟨head, tail⟩⟩ fault failed
  · cases failed
    exact ⟨otherwise, rfl⟩
  · cases failed

/-- Too few bytes for a number are a matter of the structure. -/
theorem malforming_number (width : Nat) (otherwise : Malformation) :
    (number width otherwise).Malforming :=
  (malforming_take width otherwise).bind fun _ => malforming_pure _

/-- What takes all that is left does not fail. -/
theorem malforming_rest : rest.Malforming := by
  intro cursor fault failed
  cases failed

/-- Bytes left over are a matter of the structure. -/
theorem malforming_finish : finish.Malforming := by
  rintro ⟨position, _ | ⟨head, tail⟩⟩ fault failed
  · cases failed
  · cases failed
    exact ⟨.trailingBytes, rfl⟩

/-- An outcome that fails for the structure alone is passed on. -/
theorem malforming_ofOutcome {outcome : Except Fault α}
    (malforming : ∀ fault, outcome = .error fault → ∃ cause, fault = .malformed cause) :
    (ofOutcome outcome).Malforming :=
  fun _ fault failed => malforming fault failed

/-- An outcome that fails for the structure alone may be followed by a step that does so for the
value of the outcome. -/
theorem malforming_ofOutcome_bind {outcome : Except Fault α} {next : α → Reader β}
    (malforming : ∀ fault, outcome = .error fault → ∃ cause, fault = .malformed cause)
    (second : ∀ value, outcome = .ok value → (next value).Malforming) :
    (ofOutcome outcome >>= next).Malforming := by
  intro cursor fault failed
  cases outcome with
  | error early =>
    have same : early = fault := Except.error.inj failed
    exact malforming fault (congrArg Except.error same)
  | ok value => exact second value rfl cursor fault failed

end Reader

end AeadEnvelope
