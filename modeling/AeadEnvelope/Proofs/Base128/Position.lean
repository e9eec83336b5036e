import AeadEnvelope.Proofs.Base128
import Mathlib.Algebra.BigOperators.Ring.Finset
import Mathlib.Data.List.GetD

/-!
# Where a reader of numbers in base 128 stops

Bytes begin with a form of a number (`Begins`), or end inside one that could go on (`Unfinished`),
or neither of both. No number overflows before its tenth byte, since nine digits leave a bit of the
word clear (`decodeFrom_of_error`). Main statement: a reader that starts anywhere takes a form that is
there, stops at the end of the buffer inside one that goes on, and else stops behind the tenth byte
(`decodeAt_position`).
-/
namespace AeadEnvelope.Base128

variable {bytes form rest : Bytes} {value count index : Nat} {cause : Malformation}

/-- Bytes begin with a form of a number, which takes a count of them. -/
structure Begins (bytes : Bytes) (value count : Nat) : Prop where
  /-- The form has a last byte. -/
  nonempty : 1 ≤ count
  /-- It has ten bytes at most. -/
  within : count ≤ 10
  /-- All of its bytes are there. -/
  enough : count ≤ bytes.length
  /-- The bytes before the last one have the high bit. -/
  going : ∀ index, index + 1 < count → 128 ≤ (bytes.getD index 0).toNat
  /-- The last one lacks it. -/
  ending : (bytes.getD (count - 1) 0).toNat < 128
  /-- The lower bits of the bytes are the digits of the number. -/
  digits : ∑ index ∈ Finset.range count, (bytes.getD index 0).toNat % 128 * 128 ^ index = value
  /-- The number fits in 64 bits. -/
  fits : value < 2 ^ 64

/-- Bytes end inside a form that could go on. -/
structure Unfinished (bytes : Bytes) : Prop where
  /-- They are fewer than ten. -/
  short : bytes.length < 10
  /-- All of them have the high bit. -/
  going : ∀ byte ∈ bytes, 128 ≤ byte.toNat

/-- The number of the digits of bytes is their sum, each at its place. -/
theorem valueOf_eq_sum (bytes : Bytes) :
    valueOf bytes =
      ∑ index ∈ Finset.range bytes.length, (bytes.getD index 0).toNat % 128 * 128 ^ index := by
  induction bytes with
  | nil => rfl
  | cons byte later step =>
    have place : ∀ digit index : Nat, digit * 128 ^ (index + 1) = 128 * (digit * 128 ^ index) := by
      intro digit index
      rw [pow_succ', Nat.mul_left_comm]
    rw [valueOf, step, List.length_cons, Finset.sum_range_succ', Finset.mul_sum, Nat.add_comm]
    simp only [List.getD_cons_succ, List.getD_cons_zero, place, pow_zero, Nat.mul_one]

/-- Bytes are terminated exactly if there is a last one, which lacks the high bit, and all before it
have it. -/
theorem terminated_iff :
    Terminated form ↔ 1 ≤ form.length ∧
      (∀ index, index + 1 < form.length → 128 ≤ (form.getD index 0).toNat) ∧
        (form.getD (form.length - 1) 0).toNat < 128 := by
  constructor
  · intro terminated
    refine ⟨terminated.length_pos, ?_⟩
    induction terminated with
    | last low => exact ⟨fun index before => by simp at before, low⟩
    | @more byte later high following step =>
      obtain ⟨going, ending⟩ := step
      have nonempty := following.length_pos
      constructor
      · intro index before
        cases index with
        | zero => exact high
        | succ index => exact going index (by simpa using before)
      · have shifted : (byte :: later).length - 1 = later.length - 1 + 1 := by
          rw [List.length_cons]
          omega
        rw [shifted, List.getD_cons_succ]
        exact ending
  · rintro ⟨nonempty, going, ending⟩
    induction form with
    | nil => simp at nonempty
    | cons byte later step =>
      cases later with
      | nil => exact .last ending
      | cons next behind =>
        have high : 128 ≤ byte.toNat := going 0 (by simp)
        refine .more high (step (by simp) (fun index before => ?_) ending)
        exact going (index + 1) (by simpa using before)

/-- Bytes begin with a form of a number exactly if a reader takes this form entirely. -/
theorem begins_append_iff :
    Begins (form ++ rest) value form.length ↔ Consumed form value := by
  have kept : ∀ index, index < form.length → (form ++ rest).getD index 0 = form.getD index 0 :=
    fun index before => List.getD_append form rest 0 index before
  have sums : ∑ index ∈ Finset.range form.length,
        ((form ++ rest).getD index 0).toNat % 128 * 128 ^ index = valueOf form := by
    rw [valueOf_eq_sum]
    refine Finset.sum_congr rfl fun index listed => ?_
    rw [kept index (Finset.mem_range.mp listed)]
  rw [consumed_iff, terminated_iff]
  constructor
  · rintro ⟨nonempty, within, -, going, ending, digits, fits⟩
    refine ⟨⟨nonempty, fun index before => ?_, ?_⟩, within, sums.symm.trans digits, fits⟩
    · rw [← kept index (by omega)]
      exact going index before
    · rw [← kept _ (by omega)]
      exact ending
  · rintro ⟨⟨nonempty, going, ending⟩, within, digits, fits⟩
    refine ⟨nonempty, within, by simp, fun index before => ?_, ?_, sums.trans digits, fits⟩
    · rw [kept index (by omega)]
      exact going index before
    · rw [kept _ (by omega)]
      exact ending

/-- A number is read exactly where bytes begin with a form of it, and all of its bytes are. -/
theorem decode_eq_ok_iff_begins :
    decode bytes = (.ok value, count) ↔ Begins bytes value count := by
  rw [decode_eq_ok_iff]
  constructor
  · rintro ⟨form, rest, rfl, rfl, consumed⟩
    exact begins_append_iff.mpr consumed
  · intro begins
    have length : (bytes.take count).length = count := List.length_take_of_le begins.enough
    have joined : Begins (bytes.take count ++ bytes.drop count) value (bytes.take count).length := by
      rw [List.take_append_drop, length]
      exact begins
    exact ⟨bytes.take count, bytes.drop count, (List.take_append_drop count bytes).symm,
      length.symm, begins_append_iff.mp joined⟩

/-- Behind the first digits no number is read either because all bytes have the high bit and there
is room for more than them, or behind the tenth byte. -/
theorem decodeFrom_of_error {result : UInt64} (begun : Begun index result)
    (failed : decodeFrom index result bytes = (.error cause, count)) :
    cause = .truncatedVarint ∧ index + bytes.length < 10 ∧ (∀ byte ∈ bytes, 128 ≤ byte.toNat) ∧
        count = index + bytes.length ∨
      cause = .varintOverflow ∧ count = 10 := by
  have ten : maxLength = 10 := rfl
  have room := begun.room
  induction bytes generalizing index result with
  | nil =>
    cases failed
    exact .inl ⟨rfl, room, by simp, rfl⟩
  | cons byte later step =>
    cases begun.decodeFrom_cons byte later with
    | beyond excess same =>
      -- Only at the tenth byte can a number need more than 64 bits.
      cases same.symm.trans failed
      obtain ⟨last, -⟩ := (begun.beyond_iff byte).mpr excess
      exact .inr ⟨rfl, by omega⟩
    | last _ _ same => cases same.symm.trans failed
    | endless _ full same =>
      cases same.symm.trans failed
      exact .inr ⟨rfl, by omega⟩
    | more _ high begun same =>
      rcases step begun (same.symm.trans failed) begun.room with
        ⟨rfl, short, going, rfl⟩ | overflow
      · have longer : (byte :: later).length = later.length + 1 := List.length_cons
        exact .inl ⟨rfl, by omega, List.forall_mem_cons.mpr ⟨high, going⟩, by omega⟩
      · exact .inr overflow

/-- No number is read of bytes that end inside a form, or behind the tenth byte of others. -/
theorem decode_of_error (failed : decode bytes = (.error cause, count)) :
    cause = .truncatedVarint ∧ Unfinished bytes ∧ count = bytes.length ∨
      cause = .varintOverflow ∧ ¬ Unfinished bytes ∧ count = 10 := by
  rcases decodeFrom_of_error .start (decode_eq_error_iff.mp failed) with
    ⟨rfl, short, going, rfl⟩ | ⟨rfl, rfl⟩
  · rw [Nat.zero_add] at short ⊢
    exact .inl ⟨rfl, ⟨short, going⟩, rfl⟩
  · have taken := decode_count_le bytes
    rw [failed] at taken
    exact .inr ⟨rfl, fun unfinished => absurd taken (Nat.not_le.mpr unfinished.short), rfl⟩

/-- A reader takes a form of a number that bytes begin with, or stops at their end inside one that
could go on, or else stops behind the tenth byte. -/
theorem decode_determined (bytes : Bytes) :
    (∀ value count, decode bytes = (.ok value, count) ↔ Begins bytes value count) ∧
      (∀ count, decode bytes = (.error .truncatedVarint, count) ↔
        Unfinished bytes ∧ count = bytes.length) ∧
      ∀ count, decode bytes = (.error .varintOverflow, count) ↔
        (∀ value length, ¬ Begins bytes value length) ∧ ¬ Unfinished bytes ∧ count = 10 := by
  refine ⟨fun value count => decode_eq_ok_iff_begins, ?_⟩
  simp only [← decode_eq_ok_iff_begins]
  rcases decoded : decode bytes with ⟨cause | value, length⟩
  · rcases decode_of_error decoded with ⟨rfl, unfinished, rfl⟩ | ⟨rfl, finished, rfl⟩
    · simp [unfinished, eq_comm]
    · simp [finished, eq_comm]
  · have finished : ¬ Unfinished bytes := by
      rintro ⟨-, going⟩
      obtain ⟨nonempty, -, enough, -, ending, -, -⟩ := decode_eq_ok_iff_begins.mp decoded
      -- The last byte of the form lacks the high bit.
      have last : length - 1 < bytes.length := by omega
      rw [List.getD_eq_getElem bytes 0 last] at ending
      exact absurd (going _ (List.getElem_mem last)) (Nat.not_le.mpr ending)
    simp [finished]

/-- Where a reader stops, whatever the buffer and wherever it starts. It reads a number exactly if
the bytes from there on begin with a form of it, of one to ten bytes of which only the last one lacks
the high bit and whose lower bits are the digits of the number, which fits in 64 bits; and it stops
behind this form. It finds a number cut off exactly if there are fewer than ten bytes and all of them
have the high bit, and then stops at the end of the buffer, or stays where it is past the end. In
every other case it finds an overflow and stops ten bytes further. -/
theorem decodeAt_position (buffer : Bytes) (position : Nat) :
    (∀ value next, decodeAt buffer position = (.ok value, next) ↔
      ∃ count, Begins (buffer.drop position) value count ∧ next = position + count) ∧
    (∀ next, decodeAt buffer position = (.error .truncatedVarint, next) ↔
      Unfinished (buffer.drop position) ∧ next = max position buffer.length) ∧
    (∀ next, decodeAt buffer position = (.error .varintOverflow, next) ↔
      (∀ value count, ¬ Begins (buffer.drop position) value count) ∧
        ¬ Unfinished (buffer.drop position) ∧ next = position + 10) ∧
    Malformation.truncatedVarint.description = "truncated varint" ∧
    Malformation.varintOverflow.description = "varint overflow" := by
  obtain ⟨taken, truncated, overflowed⟩ := decode_determined (buffer.drop position)
  have moved : ∀ outcome next, decodeAt buffer position = (outcome, next) ↔
      ∃ count, decode (buffer.drop position) = (outcome, count) ∧ next = position + count := by
    intro outcome next
    rcases decoded : decode (buffer.drop position) with ⟨found, count⟩
    simp [decodeAt, decoded, eq_comm]
  have reached : position + (buffer.drop position).length = max position buffer.length := by
    rw [List.length_drop]
    omega
  refine ⟨fun value next => ?_, fun next => ?_, fun next => ?_, rfl, rfl⟩
  · simp only [moved, taken]
  · simp only [moved, truncated, ← reached]
    constructor
    · rintro ⟨_, ⟨unfinished, rfl⟩, rfl⟩
      exact ⟨unfinished, rfl⟩
    · rintro ⟨unfinished, rfl⟩
      exact ⟨_, ⟨unfinished, rfl⟩, rfl⟩
  · simp only [moved, overflowed]
    constructor
    · rintro ⟨_, ⟨none, finished, rfl⟩, rfl⟩
      exact ⟨none, finished, rfl⟩
    · rintro ⟨none, finished, rfl⟩
      exact ⟨_, ⟨none, finished, rfl⟩, rfl⟩

/-- Behind one byte, nine digits of ones in front of another byte. -/
def tenthBytes (last : UInt8) : Bytes := 0x07 :: List.replicate 9 0xFF ++ [last]

/-- The largest number of 64 bits is read up to its tenth byte, one more in that byte is an overflow
behind it, and without that byte, or past the end, a number is cut off. -/
theorem decodeAt_position_tenth :
    (∃ count, Begins ((tenthBytes 0x01).drop 1) (2 ^ 64 - 1) count ∧ 11 = 1 + count) ∧
    (∀ value count, ¬ Begins ((tenthBytes 0x02).drop 1) value count) ∧
    Unfinished ((tenthBytes 0x80).drop 2) ∧
    decodeAt (tenthBytes 0x01) 14 = (.error .truncatedVarint, 14) := by
  obtain ⟨taken, -⟩ := decodeAt_position (tenthBytes 0x01) 1
  obtain ⟨-, -, overflowed, -⟩ := decodeAt_position (tenthBytes 0x02) 1
  obtain ⟨-, truncated, -⟩ := decodeAt_position (tenthBytes 0x80) 2
  obtain ⟨-, outside, -⟩ := decodeAt_position (tenthBytes 0x01) 14
  have nothing : Unfinished ((tenthBytes 0x01).drop 14) :=
    ⟨by decide, fun _ listed => absurd listed List.not_mem_nil⟩
  refine ⟨(taken _ 11).mp (by decide), ((overflowed 11).mp (by decide)).1,
    ((truncated 11).mp (by decide)).1, (outside 14).mpr ⟨nothing, rfl⟩⟩

end AeadEnvelope.Base128
