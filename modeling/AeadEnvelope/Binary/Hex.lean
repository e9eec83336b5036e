import AeadEnvelope.Binary.Bytes

/-!
# Hexadecimal form of bytes

Each byte is written as two digits, the high half first. Reading accepts small and capital
digits and reads back what was written (`ofHex?_toHex`).
-/
namespace AeadEnvelope

/-- Small hexadecimal digit of a number below sixteen. -/
def hexDigit (value : Nat) : Char := Nat.digitChar value

/-- The two small digits of a byte. -/
def hexPair (byte : UInt8) : List Char := [hexDigit (byte.toNat / 16), hexDigit (byte.toNat % 16)]

/-- Bytes as small hexadecimal digits. -/
def toHex (bytes : Bytes) : String := String.ofList (bytes.flatMap hexPair)

/-- Value of a hexadecimal digit. -/
def hexValue? (digit : Char) : Option Nat :=
  if '0' ≤ digit ∧ digit ≤ '9' then some (digit.toNat - '0'.toNat)
  else if 'a' ≤ digit ∧ digit ≤ 'f' then some (digit.toNat - 'a'.toNat + 10)
  else if 'A' ≤ digit ∧ digit ≤ 'F' then some (digit.toNat - 'A'.toNat + 10)
  else none

/-- Bytes written as pairs of hexadecimal digits. -/
def bytesOfDigits? : List Char → Option Bytes
  | [] => some []
  | high :: low :: rest => do
    let upper ← hexValue? high
    let lower ← hexValue? low
    let later ← bytesOfDigits? rest
    return UInt8.ofNat (16 * upper + lower) :: later
  | [_] => none

/-- The bytes that a hexadecimal text stands for. -/
def ofHex? (text : String) : Option Bytes := bytesOfDigits? text.toList

/-- A digit is read back as its value. -/
theorem hexValue?_hexDigit : ∀ value : Fin 16, hexValue? (hexDigit value) = some value.val := by
  decide

/-- The digits of bytes are read back. -/
theorem bytesOfDigits?_flatMap (bytes : Bytes) :
    bytesOfDigits? (bytes.flatMap hexPair) = some bytes := by
  induction bytes with
  | nil => rfl
  | cons byte rest step =>
    have bound := byte.toNat_lt
    have high := hexValue?_hexDigit ⟨byte.toNat / 16, by omega⟩
    have low := hexValue?_hexDigit ⟨byte.toNat % 16, by omega⟩
    have whole : UInt8.ofNat (16 * (byte.toNat / 16) + byte.toNat % 16) = byte := by
      rw [Nat.div_add_mod, UInt8.ofNat_toNat]
    simp only at high low
    simp only [List.flatMap_cons, hexPair, List.cons_append, List.nil_append, bytesOfDigits?,
      high, low, step, whole, Option.bind_eq_bind, Option.bind_some, Option.pure_def]

/-- Bytes are read back from their hexadecimal form. -/
theorem ofHex?_toHex (bytes : Bytes) : ofHex? (toHex bytes) = some bytes := by
  rw [ofHex?, toHex, String.toList_ofList, bytesOfDigits?_flatMap]

end AeadEnvelope
