import AeadEnvelope.Fault
import AeadEnvelope.Binary.Bytes

/-!
# Numbers in base 128

A number is written as its digits in base 128, the lowest first, with the high bit set on every
byte but the last. A reader shifts the digits to their places in a word of 64 bits. It accepts any
such form of at most ten bytes whose number fits in the word, also one with zeros at its high end,
and says how many bytes it has read even where it fails. Main statements: the reader refuses a
digit exactly where the number would not fit, and else loses no bit of it (`Begun.decodeFrom_cons`);
a number read takes at least one byte (`lt_of_decodeAt_ok`), and a reader never reads more than
there is (`decode_count_le`).
-/
namespace AeadEnvelope.Base128

/-- Bytes in the longest form that a reader accepts. -/
def maxLength : Nat := 10

/-- Digits of a number in base 128, the lowest first, all but the last marked by the high bit. -/
def encode (value : Nat) : Bytes :=
  if value < 128 then [UInt8.ofNat value]
  else UInt8.ofNat (value % 128 + 128) :: encode (value / 128)
termination_by value
decreasing_by omega

/-- Count of the bits of a number up to its highest one. -/
def significantBits (value : Nat) : Nat := if value = 0 then 0 else value.log2 + 1

/-- Count of the digits of a number in base 128, seven bits each. Zero has a digit, too. -/
def encodedLength (value : Nat) : Nat := (max (significantBits value) 1 + 6) / 7

/-- The lower seven bits of a byte. -/
def payload (byte : UInt8) : UInt64 := (byte &&& 0x7F).toUInt64

/-- Read the digits that follow the first `index` ones, which fill the lower bits of `result`. The
answer is the number and the count of all bytes read. -/
def decodeFrom (index : Nat) (result : UInt64) : Bytes → Except Malformation UInt64 × Nat
  | [] => (.error .truncatedVarint, index)
  | byte :: later =>
    let shift := 7 * index
    if 63 ≤ shift ∧ 1 < payload byte then (.error .varintOverflow, index + 1)
    else
      let total := result ||| payload byte <<< UInt64.ofNat shift
      if byte &&& 0x80 = 0 then (.ok total, index + 1)
      else if maxLength ≤ index + 1 then (.error .varintOverflow, index + 1)
      else decodeFrom (index + 1) total later

/-- Read the number at the front of the bytes, with the count of bytes read. -/
def decode (bytes : Bytes) : Except Malformation Nat × Nat :=
  let (outcome, count) := decodeFrom 0 0 bytes
  (outcome.map UInt64.toNat, count)

/-- Read the number at a position of a buffer, with the position after the bytes read. A
position past the end is left where it is. -/
def decodeAt (buffer : Bytes) (position : Nat) : Except Malformation Nat × Nat :=
  let (outcome, count) := decode (buffer.drop position)
  (outcome, position + count)

variable {index position number count next : Nat} {result : UInt64} {bytes buffer : Bytes}

/-- The lower seven bits of a byte are its remainder. -/
theorem payload_exact (byte : UInt8) : (payload byte).toNat = byte.toNat % 128 := by
  change byte.toNat &&& (2 ^ 7 - 1) = _
  exact Nat.and_two_pow_sub_one_eq_mod _ _

/-- A byte lacks the high bit exactly if it is less than 128. -/
theorem and_high_eq_zero_iff (byte : UInt8) : byte &&& 0x80 = 0 ↔ byte.toNat < 128 := by
  have bits : ∀ value : Fin 256, value.val &&& 128 = 0 ↔ value.val < 128 := by decide +kernel
  have high : (byte &&& 0x80).toNat = byte.toNat &&& 128 := UInt8.toNat_and _ _
  rw [← UInt8.toNat_inj, high]
  exact bits ⟨byte.toNat, byte.toNat_lt⟩

/-- The first `index` digits are read and another one may follow: there is room for its byte, and
the bits of the word from its place on are clear. -/
structure Begun (index : Nat) (result : UInt64) : Prop where
  /-- A reader accepts more digits. -/
  room : index < maxLength
  /-- The bits above the digits are clear. -/
  small : result.toNat < 1 <<< (7 * index)

namespace Begun

/-- No digit is read at first. -/
theorem start : Begun 0 0 := ⟨by decide, by decide⟩

/-- Another digit does not reach beyond its place. -/
theorem total_lt (begun : Begun index result) (byte : UInt8) :
    result.toNat + (byte.toNat % 128) <<< (7 * index) < 1 <<< (7 * (index + 1)) := by
  have small := begun.small
  have place : 2 ^ (7 * (index + 1)) = 128 * 2 ^ (7 * index) := by
    rw [Nat.mul_succ, Nat.pow_add, Nat.mul_comm]
  have digit : byte.toNat % 128 ≤ 127 := by omega
  have most := Nat.mul_le_mul_right (2 ^ (7 * index)) digit
  rw [Nat.one_shiftLeft] at small ⊢
  rw [Nat.shiftLeft_eq, place]
  omega

/-- A digit is refused exactly if the number would have more than 64 bits with it. -/
theorem beyond_iff (begun : Begun index result) (byte : UInt8) :
    63 ≤ 7 * index ∧ 1 < payload byte ↔
      UInt64.size ≤ result.toNat + (byte.toNat % 128) <<< (7 * index) := by
  have room : index < 10 := begun.room
  have size : UInt64.size = 2 * 2 ^ 63 := by decide
  have digit : 1 < payload byte ↔ 1 < byte.toNat % 128 := by
    rw [UInt64.lt_iff_toNat_lt, payload_exact]
    rfl
  rw [digit]
  by_cases last : index = 9
  · -- The tenth digit has place for one bit.
    have small := begun.small
    rw [Nat.one_shiftLeft] at small
    rw [Nat.shiftLeft_eq]
    subst last
    omega
  · -- Nine digits have 63 bits, so the number fits.
    have fits := begun.total_lt byte
    have bound : 2 ^ (7 * (index + 1)) ≤ 2 ^ 63 := Nat.pow_le_pow_right (by decide) (by omega)
    rw [Nat.one_shiftLeft] at fits
    omega

/-- The bits of another digit are set beside those that are there, and none is lost. -/
theorem total_exact (begun : Begun index result) {byte : UInt8}
    (fits : result.toNat + (byte.toNat % 128) <<< (7 * index) < UInt64.size) :
    (result ||| payload byte <<< UInt64.ofNat (7 * index)).toNat =
      result.toNat + (byte.toNat % 128) <<< (7 * index) := by
  have room : index < 10 := begun.room
  have small := begun.small
  have shift : (UInt64.ofNat (7 * index)).toNat % 64 = 7 * index := by
    rw [UInt64.toNat_ofNat']
    omega
  have kept : (byte.toNat % 128) <<< (7 * index) < 2 ^ 64 := by
    have size : UInt64.size = 2 ^ 64 := rfl
    omega
  rw [Nat.one_shiftLeft] at small
  rw [UInt64.toNat_or, UInt64.toNat_shiftLeft, payload_exact, shift, Nat.mod_eq_of_lt kept,
    Nat.or_comm, Nat.shiftLeft_eq, Nat.mul_comm, ← Nat.two_pow_add_eq_or_of_lt small, Nat.add_comm]

end Begun

/-- What a reader answers to one more byte, which makes a total of the digits so far. -/
inductive ByteRead (index total : Nat) (byte : UInt8) (later : Bytes)
    (answer : Except Malformation UInt64 × Nat) : Prop where
  /-- The total is beyond 64 bits. -/
  | beyond (excess : UInt64.size ≤ total) (same : answer = (.error .varintOverflow, index + 1))
  /-- The byte is the last one. -/
  | last {sum : UInt64} (whole : sum.toNat = total) (low : byte.toNat < 128)
    (same : answer = (.ok sum, index + 1))
  /-- The byte would have to be the last one, and is not. -/
  | endless (high : 128 ≤ byte.toNat) (full : maxLength ≤ index + 1)
    (same : answer = (.error .varintOverflow, index + 1))
  /-- The reader goes on behind the byte. -/
  | more {sum : UInt64} (whole : sum.toNat = total) (high : 128 ≤ byte.toNat)
    (begun : Begun (index + 1) sum) (same : answer = decodeFrom (index + 1) sum later)

/-- One of four things becomes of one more byte. -/
theorem Begun.decodeFrom_cons (begun : Begun index result) (byte : UInt8) (later : Bytes) :
    ByteRead index (result.toNat + (byte.toNat % 128) <<< (7 * index)) byte later
      (decodeFrom index result (byte :: later)) := by
  simp only [decodeFrom, begun.beyond_iff, and_high_eq_zero_iff]
  split
  · next excess => exact .beyond excess rfl
  · next fits =>
    have whole := begun.total_exact (Nat.lt_of_not_le fits)
    split
    · next low => exact .last whole low rfl
    · next high =>
      split
      · next full => exact .endless (Nat.le_of_not_lt high) full rfl
      · next room =>
        have small := begun.total_lt byte
        rw [← whole] at small
        exact .more whole (Nat.le_of_not_lt high) ⟨Nat.lt_of_not_le room, small⟩ rfl

/-- A number read takes at least one more byte. -/
theorem lt_of_decodeFrom_ok {value : UInt64} (begun : Begun index result)
    (read : decodeFrom index result bytes = (.ok value, count)) : index < count := by
  induction bytes generalizing index result with
  | nil => cases read
  | cons byte later step =>
    cases begun.decodeFrom_cons byte later with
    | beyond _ same => cases same.symm.trans read
    | last _ _ same =>
      cases same.symm.trans read
      exact Nat.lt_succ_self index
    | endless _ _ same => cases same.symm.trans read
    | more _ _ begun same =>
      have further := step begun (same.symm.trans read)
      omega

/-- A reader never reads more than there is. -/
theorem decodeFrom_count_le (begun : Begun index result) (bytes : Bytes) :
    (decodeFrom index result bytes).2 ≤ index + bytes.length := by
  induction bytes generalizing index result with
  | nil => exact Nat.le_refl index
  | cons byte later step =>
    rw [List.length_cons]
    cases begun.decodeFrom_cons byte later with
    | beyond _ same | last _ _ same | endless _ _ same =>
      rw [same]
      omega
    | more _ _ begun same =>
      have rest := step begun
      rw [same]
      omega

/-- A number is read where the word of a reader stands for it. -/
theorem decode_eq_ok_iff_toNat :
    decode bytes = (.ok number, count) ↔
      ∃ value : UInt64, decodeFrom 0 0 bytes = (.ok value, count) ∧ value.toNat = number := by
  rcases read : decodeFrom 0 0 bytes with ⟨cause | value, length⟩
  · simp [decode, read, Except.map]
  · simp only [decode, read, Except.map, Prod.mk.injEq, Except.ok.injEq]
    constructor
    · rintro ⟨rfl, rfl⟩
      exact ⟨value, ⟨rfl, rfl⟩, rfl⟩
    · rintro ⟨_, ⟨rfl, rfl⟩, rfl⟩
      exact ⟨rfl, rfl⟩

/-- No number is read where a reader fails. -/
theorem decode_eq_error_iff {cause : Malformation} :
    decode bytes = (.error cause, count) ↔ decodeFrom 0 0 bytes = (.error cause, count) := by
  rcases read : decodeFrom 0 0 bytes with ⟨cause | value, length⟩
  · simp [decode, read, Except.map]
  · simp [decode, read, Except.map]

/-- A number read moves the position on. -/
theorem lt_of_decodeAt_ok (read : decodeAt buffer position = (.ok number, next)) :
    position < next := by
  rcases found : decode (buffer.drop position) with ⟨outcome, count⟩
  simp only [decodeAt, found, Prod.mk.injEq] at read
  obtain ⟨rfl, rfl⟩ := read
  obtain ⟨value, decoded, -⟩ := decode_eq_ok_iff_toNat.mp found
  have := lt_of_decodeFrom_ok .start decoded
  omega

/-- Read one number after the other from a position, up to the end of the buffer or the first
failure. One number is read, or fails to be, even where nothing is left. -/
def decodeAll (buffer : Bytes) (position : Nat) : List (Except Malformation Nat × Nat) :=
  match _found : decodeAt buffer position with
  | (.error cause, next) => [(.error cause, next)]
  | (.ok number, next) =>
    (.ok number, next) :: if next < buffer.length then decodeAll buffer next else []
termination_by buffer.length - position
decreasing_by
  have := lt_of_decodeAt_ok _found
  omega

/-- A reader never reads more than there is. -/
theorem decode_count_le (bytes : Bytes) : (decode bytes).2 ≤ bytes.length := by
  simpa [decode] using decodeFrom_count_le .start bytes

/-- A reader that starts in a buffer does not go back and stops in it, whether it fails or not. -/
theorem decodeAt_within (within : position ≤ buffer.length) :
    position ≤ (decodeAt buffer position).2 ∧ (decodeAt buffer position).2 ≤ buffer.length := by
  have taken := decode_count_le (buffer.drop position)
  have left : (buffer.drop position).length = buffer.length - position := List.length_drop
  simp only [decodeAt]
  omega

end AeadEnvelope.Base128
