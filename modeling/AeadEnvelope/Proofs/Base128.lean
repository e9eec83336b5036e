import AeadEnvelope.Binary.Base128

/-!
# Forms of numbers in base 128

Bytes of which only the last one lacks the high bit stand for the number of their digits
(`Terminated`, `valueOf`). Main statements: a reader takes exactly such bytes off the front, at most
ten of them, and only if their number fits in 64 bits (`decode_eq_ok_iff`, `consumed_iff`); they are
found again whatever follows them (`Terminated.append_inj`); and the form that is written of a
number is the only shortest one (`Consumed.shortest`), of the length that is foretold
(`length_encode`).
-/
namespace AeadEnvelope.Base128

/-- The number of the digits of bytes, the lowest digit first. -/
def valueOf : Bytes → Nat
  | [] => 0
  | byte :: later => byte.toNat % 128 + 128 * valueOf later

/-- The last byte, and no other one, lacks the high bit. -/
inductive Terminated : Bytes → Prop where
  /-- A byte without the high bit stands alone. -/
  | last {byte : UInt8} (low : byte.toNat < 128) : Terminated [byte]
  /-- A byte with the high bit goes on. -/
  | more {byte : UInt8} {later : Bytes} (high : 128 ≤ byte.toNat) (rest : Terminated later) :
    Terminated (byte :: later)

/-- A reader takes all of the bytes, as the number. -/
def Consumed (form : Bytes) (value : Nat) : Prop := decode form = (.ok value, form.length)

/-- Whether a reader takes all of the bytes is found by running it. -/
instance (form : Bytes) (value : Nat) : Decidable (Consumed form value) :=
  match decoded : decode form with
  | (.ok number, count) =>
    decidable_of_iff (number = value ∧ count = form.length) (by simp [Consumed, decoded])
  | (.error cause, count) => .isFalse (by simp [Consumed, decoded])

/-- Terminated bytes are not empty. -/
theorem Terminated.length_pos {form : Bytes} (terminated : Terminated form) : 0 < form.length := by
  cases terminated <;> exact Nat.succ_pos _

/-- Behind a byte without the high bit there is nothing. -/
theorem Terminated.eq_nil_of_low {byte : UInt8} {later : Bytes}
    (terminated : Terminated (byte :: later)) (low : byte.toNat < 128) : later = [] := by
  cases terminated with
  | last _ => rfl
  | more high _ => omega

/-- Behind a byte with the high bit there are terminated bytes. -/
theorem Terminated.of_high {byte : UInt8} {later : Bytes} (terminated : Terminated (byte :: later))
    (high : 128 ≤ byte.toNat) : Terminated later := by
  cases terminated with
  | last low => omega
  | more _ rest => exact rest

/-- Terminated bytes are found again, whatever follows them. -/
theorem Terminated.append_inj {left right later rest : Bytes} (terminated : Terminated left)
    (other : Terminated right) (same : left ++ later = right ++ rest) :
    left = right ∧ later = rest := by
  induction terminated generalizing right with
  | @last byte low =>
    cases right with
    | nil => cases other
    | cons first behind =>
      obtain ⟨rfl, appended⟩ := List.cons.inj same
      obtain rfl := other.eq_nil_of_low low
      exact ⟨rfl, appended⟩
  | @more byte following high _ step =>
    cases right with
    | nil => cases other
    | cons first behind =>
      obtain ⟨rfl, appended⟩ := List.cons.inj same
      obtain ⟨rfl, found⟩ := step (other.of_high high) appended
      exact ⟨rfl, found⟩

/-- A digit and those behind it, moved up to their place. -/
theorem shiftLeft_digits (digit later index : Nat) :
    (digit + 128 * later) <<< (7 * index) =
      digit <<< (7 * index) + later <<< (7 * (index + 1)) := by
  have moved : 7 * (index + 1) = 7 * index + 7 := by omega
  have seven : 2 ^ 7 = 128 := by decide
  rw [moved]
  simp only [Nat.shiftLeft_eq, Nat.pow_add, seven, Nat.add_mul]
  congr 1
  rw [Nat.mul_comm 128 later, Nat.mul_assoc, Nat.mul_comm 128]

/-- The digits behind the first ones are read exactly as terminated bytes that leave room for no
more than ten, into the word of the number that they have together with the first digits. -/
theorem decodeFrom_eq_ok_iff {index count : Nat} {result number : UInt64} {bytes : Bytes}
    (begun : Begun index result) :
    decodeFrom index result bytes = (.ok number, count) ↔
      ∃ form rest, bytes = form ++ rest ∧ Terminated form ∧ index + form.length ≤ maxLength ∧
        count = index + form.length ∧
        number.toNat = result.toNat + valueOf form <<< (7 * index) := by
  induction bytes generalizing index result count with
  | nil =>
    constructor
    · intro read
      cases read
    · rintro ⟨form, rest, split, terminated, -⟩
      obtain ⟨rfl, -⟩ := List.append_eq_nil_iff.mp split.symm
      cases terminated
  | cons byte later step =>
    have digits : ∀ form, valueOf (byte :: form) <<< (7 * index) =
        (byte.toNat % 128) <<< (7 * index) + valueOf form <<< (7 * (index + 1)) :=
      fun form => shiftLeft_digits _ _ _
    constructor
    · intro read
      cases begun.decodeFrom_cons byte later with
      | beyond _ same => cases same.symm.trans read
      | endless _ _ same => cases same.symm.trans read
      | last whole low same =>
        cases same.symm.trans read
        have alone : valueOf [] <<< (7 * (index + 1)) = 0 := Nat.zero_shiftLeft _
        refine ⟨[byte], later, rfl, .last low, begun.room, rfl, ?_⟩
        rw [digits, alone, Nat.add_zero, whole]
      | more whole high begun same =>
        obtain ⟨form, rest, rfl, terminated, within, rfl, value⟩ :=
          (step begun).mp (same.symm.trans read)
        have longer : (byte :: form).length = form.length + 1 := List.length_cons
        refine ⟨byte :: form, rest, rfl, .more high terminated, by omega, by omega, ?_⟩
        rw [digits, ← Nat.add_assoc, ← whole, value]
    · rintro ⟨form, rest, split, terminated, within, rfl, value⟩
      cases form with
      | nil => cases terminated
      | cons first form =>
        obtain ⟨rfl, rfl⟩ := List.cons.inj split
        rw [List.length_cons] at within ⊢
        rw [digits, ← Nat.add_assoc] at value
        -- The first digit fits because the whole number does, so the reader goes on as the form.
        cases begun.decodeFrom_cons byte (form ++ rest) with
        | beyond excess _ =>
          have bounded := number.toNat_lt_size
          rw [value] at bounded
          have fits := Nat.lt_of_le_of_lt (Nat.le_add_right _ _) bounded
          exact absurd excess (Nat.not_le.mpr fits)
        | endless high full _ =>
          have more := (terminated.of_high high).length_pos
          omega
        | last whole low same =>
          obtain rfl := terminated.eq_nil_of_low low
          rw [valueOf, Nat.zero_shiftLeft, Nat.add_zero, ← whole] at value
          refine same.trans ?_
          rw [UInt64.toNat_inj.mp value]
          rfl
        | more whole high begun same =>
          rw [← whole] at value
          refine same.trans ((step begun).mpr ?_)
          exact ⟨form, rest, rfl, terminated.of_high high, by omega, by omega, value⟩

/-- A number is read exactly where the bytes begin with terminated ones, at most ten, that stand for
it, and it fits in 64 bits. -/
theorem decode_eq_ok_iff_terminated {bytes : Bytes} {number count : Nat} :
    decode bytes = (.ok number, count) ↔
      ∃ form rest, bytes = form ++ rest ∧ count = form.length ∧ Terminated form ∧
        form.length ≤ maxLength ∧ valueOf form = number ∧ number < UInt64.size := by
  have zero : (0 : UInt64).toNat = 0 := rfl
  rw [decode_eq_ok_iff_toNat]
  simp only [decodeFrom_eq_ok_iff .start, zero, Nat.zero_add, Nat.mul_zero, Nat.shiftLeft_zero]
  constructor
  · rintro ⟨value, ⟨form, rest, split, terminated, within, length, digits⟩, rfl⟩
    exact ⟨form, rest, split, length, terminated, within, digits.symm, value.toNat_lt_size⟩
  · rintro ⟨form, rest, split, length, terminated, within, digits, bounded⟩
    have value : (UInt64.ofNat number).toNat = number := UInt64.toNat_ofNat_of_lt bounded
    refine ⟨UInt64.ofNat number, ⟨form, rest, split, terminated, within, length, ?_⟩, value⟩
    rw [value, digits]

/-- A reader takes all of the bytes exactly if they are terminated, at most ten, and their number
fits in 64 bits. -/
theorem consumed_iff {form : Bytes} {value : Nat} :
    Consumed form value ↔
      Terminated form ∧ form.length ≤ maxLength ∧ valueOf form = value ∧ value < UInt64.size := by
  rw [Consumed, decode_eq_ok_iff_terminated]
  constructor
  · rintro ⟨front, rest, rfl, whole, facts⟩
    rw [List.length_append] at whole
    have none : rest = [] := List.eq_nil_of_length_eq_zero (by omega)
    rw [none, List.append_nil]
    exact facts
  · intro facts
    exact ⟨form, [], (List.append_nil form).symm, rfl, facts⟩

/-- A number is read exactly where the bytes begin with some that a reader takes entirely as it. -/
theorem decode_eq_ok_iff {bytes : Bytes} {number count : Nat} :
    decode bytes = (.ok number, count) ↔
      ∃ form rest, bytes = form ++ rest ∧ count = form.length ∧ Consumed form number := by
  rw [decode_eq_ok_iff_terminated]
  simp only [consumed_iff]

/-- Bytes that are taken entirely stand for one number and are found again, whatever follows
them. -/
theorem Consumed.append_inj {left right later rest : Bytes} {value number : Nat}
    (consumed : Consumed left value) (other : Consumed right number)
    (same : left ++ later = right ++ rest) : left = right ∧ later = rest ∧ value = number := by
  obtain ⟨terminated, -, rfl, -⟩ := consumed_iff.mp consumed
  obtain ⟨otherTerminated, -, rfl, -⟩ := consumed_iff.mp other
  obtain ⟨rfl, found⟩ := terminated.append_inj otherTerminated same
  exact ⟨rfl, found, rfl⟩

/-- The first digit of a number is written without the high bit if it is the only one. -/
theorem encode_of_lt {value : Nat} (small : value < 128) : encode value = [UInt8.ofNat value] := by
  rw [encode, if_pos small]

/-- The first digit of a number is written with the high bit if others follow. -/
theorem encode_of_le {value : Nat} (large : 128 ≤ value) :
    encode value = UInt8.ofNat (value % 128 + 128) :: encode (value / 128) := by
  rw [encode, if_neg (Nat.not_lt.mpr large)]

/-- The byte of a last digit. -/
theorem toNat_lastDigit {value : Nat} (small : value < 128) :
    (UInt8.ofNat value).toNat = value := by
  rw [UInt8.toNat_ofNat']
  omega

/-- The byte of a digit that others follow. -/
theorem toNat_digit (value : Nat) :
    (UInt8.ofNat (value % 128 + 128)).toNat = value % 128 + 128 := by
  rw [UInt8.toNat_ofNat']
  omega

/-- A number is written as terminated bytes of its digits. -/
theorem terminated_encode (value : Nat) :
    Terminated (encode value) ∧ valueOf (encode value) = value := by
  induction value using Nat.strongRecOn with
  | ind value step =>
    by_cases small : value < 128
    · have digit := toNat_lastDigit small
      rw [encode_of_lt small]
      refine ⟨.last (by omega), ?_⟩
      rw [valueOf, valueOf, digit]
      omega
    · have large : 128 ≤ value := Nat.le_of_not_lt small
      have digit := toNat_digit value
      obtain ⟨rest, later⟩ := step (value / 128) (by omega)
      rw [encode_of_le large]
      refine ⟨.more (by omega) rest, ?_⟩
      rw [valueOf, later, digit]
      omega

/-- Numbers are found again where they are written, whatever follows them. -/
theorem encode_append_inj {left right : Nat} {later rest : Bytes}
    (same : encode left ++ later = encode right ++ rest) : left = right ∧ later = rest := by
  obtain ⟨terminated, value⟩ := terminated_encode left
  obtain ⟨otherTerminated, otherValue⟩ := terminated_encode right
  obtain ⟨forms, behind⟩ := terminated.append_inj otherTerminated same
  have equal : left = right := by rw [← value, forms, otherValue]
  exact ⟨equal, behind⟩

/-- Terminated bytes are the written form of their number, or longer than it. -/
theorem encode_shortest {form : Bytes} (terminated : Terminated form) :
    form = encode (valueOf form) ∨ (encode (valueOf form)).length < form.length := by
  induction terminated with
  | @last byte low =>
    left
    have value : valueOf [byte] = byte.toNat := by
      rw [valueOf, valueOf]
      omega
    rw [value, encode_of_lt low, UInt8.ofNat_toNat]
  | @more byte later high rest step =>
    have bound := byte.toNat_lt
    have more := rest.length_pos
    by_cases small : valueOf (byte :: later) < 128
    · right
      rw [encode_of_lt small, List.length_cons, List.length_cons, List.length_nil]
      omega
    · have large : 128 ≤ valueOf (byte :: later) := Nat.le_of_not_lt small
      have upper : valueOf (byte :: later) / 128 = valueOf later := by
        rw [valueOf]
        omega
      have lower : valueOf (byte :: later) % 128 + 128 = byte.toNat := by
        rw [valueOf]
        omega
      rw [encode_of_le large, upper, lower, UInt8.ofNat_toNat]
      rcases step with same | longer
      · left
        rw [← same]
      · right
        rw [List.length_cons, List.length_cons]
        omega

/-- Bytes that are taken entirely are the written form of their number, or longer than it. -/
theorem Consumed.shortest (consumed : Consumed form value) :
    form = encode value ∨ (encode value).length < form.length := by
  obtain ⟨terminated, -, digits, -⟩ := consumed_iff.mp consumed
  rw [← digits]
  exact encode_shortest terminated

/-- The count of the digits of a number, from the place of its highest bit. -/
theorem encodedLength_eq (value : Nat) : encodedLength value = value.log2 / 7 + 1 := by
  unfold encodedLength significantBits
  split
  · next zero =>
    rw [zero]
    rfl
  · omega

/-- The highest bit of a number is seven places above that of the number without its last digit. -/
theorem log2_of_le {value : Nat} (large : 128 ≤ value) :
    value.log2 = (value / 128).log2 + 7 := by
  have nonzero : value ≠ 0 := by omega
  have upper : value / 128 ≠ 0 := by omega
  obtain ⟨least, most⟩ := (Nat.log2_eq_iff upper).mp rfl
  have place : 2 ^ ((value / 128).log2 + 7) = 2 ^ (value / 128).log2 * 128 := Nat.pow_add ..
  have above : 2 ^ ((value / 128).log2 + 7 + 1) = 2 ^ ((value / 128).log2 + 1) * 128 := by
    rw [Nat.add_right_comm]
    exact Nat.pow_add ..
  rw [Nat.log2_eq_iff nonzero]
  omega

/-- The count of the digits of a number is that of the bytes it is written in. -/
theorem length_encode (value : Nat) : (encode value).length = encodedLength value := by
  induction value using Nat.strongRecOn with
  | ind value step =>
    simp only [encodedLength_eq] at step ⊢
    by_cases small : value < 128
    · have bits : value.log2 < 7 := by
        by_cases zero : value = 0
        · rw [zero]
          decide
        · exact (Nat.log2_lt zero).mpr small
      rw [encode_of_lt small, List.length_singleton]
      omega
    · have large : 128 ≤ value := Nat.le_of_not_lt small
      have bits := log2_of_le large
      rw [encode_of_le large, List.length_cons, step (value / 128) (by omega)]
      omega

/-- A number has no more digits than a count of them exactly if they have room for it. -/
theorem encodedLength_le_iff {value count : Nat} (positive : 0 < count) :
    encodedLength value ≤ count ↔ value < 1 <<< (7 * count) := by
  rw [Nat.one_shiftLeft]
  by_cases zero : value = 0
  · have room : 0 < 2 ^ (7 * count) := Nat.two_pow_pos _
    have single : encodedLength 0 = 1 := by decide
    rw [zero, single]
    omega
  · rw [← Nat.log2_lt zero, encodedLength_eq]
    omega

/-- A number that fits in 64 bits has no more digits than a reader accepts. -/
theorem encodedLength_le_maxLength {value : Nat} (bounded : value < UInt64.size) :
    encodedLength value ≤ maxLength := by
  have room : value < 1 <<< (7 * maxLength) := Nat.lt_trans bounded (by decide)
  exact (encodedLength_le_iff (by decide)).mpr room

/-- The written form of a number that fits in 64 bits is taken entirely as that number. -/
theorem consumed_encode {value : Nat} (bounded : value < UInt64.size) :
    Consumed (encode value) value := by
  obtain ⟨terminated, digits⟩ := terminated_encode value
  have within : (encode value).length ≤ maxLength := by
    rw [length_encode]
    exact encodedLength_le_maxLength bounded
  exact consumed_iff.mpr ⟨terminated, within, digits, bounded⟩

end AeadEnvelope.Base128
