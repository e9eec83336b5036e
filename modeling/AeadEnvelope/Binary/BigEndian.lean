import AeadEnvelope.Binary.Bytes

/-!
# Big-endian numbers of a fixed width

A number is written in a fixed count of bytes, the highest byte first. Main statements: reading
inverts writing for every number that fits (`ofBigEndian_bigEndian`), and writing inverts
reading for every list of bytes of that width (`bigEndian_ofBigEndian`).
-/
namespace AeadEnvelope

/-- The lowest `width` bytes of a number, the highest of them first. -/
def bigEndian : (width : Nat) → Nat → Bytes
  | 0, _ => []
  | width + 1, value => bigEndian width (value / 256) ++ [UInt8.ofNat value]

/-- The number that bytes stand for, the highest byte first. -/
def ofBigEndian (bytes : Bytes) : Nat :=
  bytes.foldl (fun value byte => 256 * value + byte.toNat) 0

/-- Count of the numbers that fit a width, which is also the first number that does not. -/
def capacity : (width : Nat) → Nat
  | 0 => 1
  | width + 1 => 256 * capacity width

/-- A number is written in exactly as many bytes as asked for. -/
theorem length_bigEndian (width value : Nat) : (bigEndian width value).length = width := by
  induction width generalizing value with
  | zero => rfl
  | succ width step => simp [bigEndian, step]

/-- One more byte counts for its value and shifts the others up. -/
theorem ofBigEndian_append_singleton (bytes : Bytes) (byte : UInt8) :
    ofBigEndian (bytes ++ [byte]) = 256 * ofBigEndian bytes + byte.toNat := by
  simp [ofBigEndian, List.foldl_append]

/-- A number that fits its width is read back. -/
theorem ofBigEndian_bigEndian {width value : Nat} (fits : value < capacity width) :
    ofBigEndian (bigEndian width value) = value := by
  induction width generalizing value with
  | zero =>
    have : value = 0 := by simpa [capacity] using fits
    simp [bigEndian, ofBigEndian, this]
  | succ width step =>
    have inner : value / 256 < capacity width := by
      rw [capacity] at fits
      omega
    rw [bigEndian, ofBigEndian_append_singleton, step inner, UInt8.toNat_ofNat']
    omega

/-- Bytes given from the lowest to the highest are written back from the number they stand for. -/
theorem bigEndian_ofBigEndian_reverse (bytes : Bytes) :
    bigEndian bytes.length (ofBigEndian bytes.reverse) = bytes.reverse := by
  induction bytes with
  | nil => rfl
  | cons lowest higher step =>
    have bound := lowest.toNat_lt
    rw [List.reverse_cons, ofBigEndian_append_singleton, List.length_cons, bigEndian]
    have shifted : (256 * ofBigEndian higher.reverse + lowest.toNat) / 256
        = ofBigEndian higher.reverse := by omega
    have kept : UInt8.ofNat (256 * ofBigEndian higher.reverse + lowest.toNat) = lowest := by
      apply UInt8.toNat_inj.mp
      rw [UInt8.toNat_ofNat']
      omega
    rw [shifted, kept, step]

/-- Bytes are written back from the number they stand for. -/
theorem bigEndian_ofBigEndian (bytes : Bytes) :
    bigEndian bytes.length (ofBigEndian bytes) = bytes := by
  have reversed := bigEndian_ofBigEndian_reverse bytes.reverse
  rwa [List.length_reverse, List.reverse_reverse] at reversed

/-- The number that bytes stand for fits their width. -/
theorem ofBigEndian_lt (bytes : Bytes) : ofBigEndian bytes < capacity bytes.length := by
  suffices reversed : ∀ digits : Bytes, ofBigEndian digits.reverse < capacity digits.length by
    have := reversed bytes.reverse
    rwa [List.length_reverse, List.reverse_reverse] at this
  intro digits
  induction digits with
  | nil => simp [ofBigEndian, capacity]
  | cons lowest higher step =>
    have bound := lowest.toNat_lt
    rw [List.reverse_cons, ofBigEndian_append_singleton, List.length_cons, capacity]
    omega

end AeadEnvelope
