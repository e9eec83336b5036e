import AeadEnvelope.Text.Quoted

/-!
# Faults

Every way in which an operation on contexts and wires can fail, by its cause. The wording of a
fault is in `Fault.message` and nowhere else.
-/
namespace AeadEnvelope

/-- What is wrong with the structure of a wire or of associated data. -/
inductive Malformation where
  /-- There is no first byte to choose a dialect by. -/
  | emptyPacket
  /-- There is no version byte. -/
  | missingVersion
  /-- The wire ends inside the reserved field. -/
  | truncatedReserved
  /-- The wire ends inside the key mask. -/
  | truncatedKeyMask
  /-- The key mask has a bit that names no key. -/
  | unknownKeyBit
  /-- The wire ends where the first section should start. -/
  | missingEntryTag
  /-- No section of the dialect starts with the tag found. -/
  | unknownEntryTag
  /-- A description stands beside an empty key mask. -/
  | descriptionWithoutKeys
  /-- The wire ends inside the length of a description. -/
  | truncatedDescriptionLength
  /-- A description is longer than what is left of the wire. -/
  | descriptionExceedsPacket
  /-- A description gives a key that the mask names already. -/
  | descriptionRepeatsKey
  /-- A context section stands beside a key mask that names keys. -/
  | contextBesideKeys
  /-- The wire ends inside the length of a context. -/
  | truncatedContextLength
  /-- A context is longer than what is left of the wire. -/
  | contextExceedsPacket
  /-- The bytes of a context are no UTF-8. -/
  | contextNotUtf8
  /-- The text of a context is refused. -/
  | invalidContext
  /-- The wire ends where the ciphertext section should start. -/
  | missingCiphertextTag
  /-- Something other than a sized ciphertext follows the context. -/
  | ciphertextTagExpectedAfterContext
  /-- Something other than a ciphertext follows. -/
  | ciphertextTagExpected
  /-- The wire ends inside the length of the ciphertext. -/
  | truncatedCiphertextLength
  /-- The ciphertext is longer than what is left of the wire. -/
  | ciphertextExceedsPacket
  /-- Bytes are left over. -/
  | trailingBytes
  /-- The bytes end inside a base-128 number. -/
  | truncatedVarint
  /-- A base-128 number is too long or needs more than 64 bits. -/
  | varintOverflow
  /-- The associated data are longer than what is left of the wire. -/
  | associatedDataExceedPacket
  /-- The number of entries is zero or more than the bytes left could hold. -/
  | badEntryCount
  /-- A key is longer than what is left. -/
  | keyExceedsBuffer
  /-- A value is longer than what is left. -/
  | valueExceedsBuffer
  /-- A key or a value is no UTF-8. -/
  | entryNotUtf8
  /-- Any other cause, in the words of whoever met it. -/
  | other (description : String)
deriving DecidableEq

/-- The words for a malformation. -/
def Malformation.description : Malformation → String
  | emptyPacket => "empty packet"
  | missingVersion => "missing version byte"
  | truncatedReserved => "truncated reserved field"
  | truncatedKeyMask => "truncated key mask"
  | unknownKeyBit => "unknown context key bit"
  | missingEntryTag => "missing entry tag"
  | unknownEntryTag => "unknown entry tag"
  | descriptionWithoutKeys => "expanded description without key bits"
  | truncatedDescriptionLength => "truncated description length"
  | descriptionExceedsPacket => "description exceeds packet"
  | descriptionRepeatsKey => "description repeats a key bit"
  | contextBesideKeys => "encryption context alongside key bits"
  | truncatedContextLength => "truncated context length"
  | contextExceedsPacket => "context section exceeds packet"
  | contextNotUtf8 => "context is not UTF-8"
  | invalidContext => "invalid encryption context"
  | missingCiphertextTag => "missing ciphertext tag"
  | ciphertextTagExpectedAfterContext => "expected ciphertext after context"
  | ciphertextTagExpected => "expected ciphertext tag"
  | truncatedCiphertextLength => "truncated ciphertext length"
  | ciphertextExceedsPacket => "ciphertext section exceeds packet"
  | trailingBytes => "trailing bytes after packet"
  | truncatedVarint => "truncated varint"
  | varintOverflow => "varint overflow"
  | associatedDataExceedPacket => "aad exceeds packet"
  | badEntryCount => "bad context entry count"
  | keyExceedsBuffer => "context key exceeds buffer"
  | valueExceedsBuffer => "context value exceeds buffer"
  | entryNotUtf8 => "context entry is not UTF-8"
  | other description => description

/-- Why an operation failed. -/
inductive Fault where
  /-- Two keys are the same once they are in lower case or normalized. -/
  | duplicateKey (key : String)
  /-- The entries of these keys hold a separator of the canonical text. -/
  | forbiddenCharacter (keys : List String)
  /-- A key, or a value that has to be there, is empty. -/
  | emptyEntry (key : String)
  /-- The written context is larger than its limit. -/
  | contextTooLarge (size limit : Nat)
  /-- A key or a value is longer than its limit. -/
  | entryTooLong (length limit : Nat)
  /-- A placeholder has no value to be filled with. -/
  | missingAdditionalValue (key : String)
  /-- A value that is there already is given a second time. -/
  | conflictingAdditionalValue (key : String)
  /-- The first byte is not the one of a dialect that the operation reads. -/
  | unsupportedVersion (version : UInt8)
  /-- The structure of the bytes is wrong. -/
  | malformed (cause : Malformation)
  /-- The context of a packet is not the expected one. -/
  | contextMismatch
  /-- The length of the ciphertext does not fit its field. -/
  | ciphertextTooLarge (length : Nat)
deriving DecidableEq

namespace Fault

/-- The words for keys whose entries hold a separator, in the singular for one key alone. -/
def forbiddenMessage (keys : List String) : String :=
  let (noun, verb) := if keys.length = 1 then ("key", "contains") else ("keys", "contain")
  s!"context {noun} [" ++ ", ".intercalate keys ++ s!"] {verb} forbidden characters '=' or '|'"

/-- The words for a fault. -/
def message : Fault → String
  | duplicateKey key => s!"duplicate context key: {key}"
  | forbiddenCharacter keys => forbiddenMessage keys
  | emptyEntry key => "empty context entry for key " ++ Text.quoted key
  | contextTooLarge size limit => s!"serialized context is {size} bytes, max {limit}"
  | entryTooLong length limit => s!"context entry is {length} bytes, max {limit}"
  | missingAdditionalValue key => s!"no additional value supplied for context key {key}"
  | conflictingAdditionalValue key =>
    s!"additional context conflicts with existing value for key {key}"
  | unsupportedVersion version => s!"unsupported packet version {version.toNat}"
  | malformed cause => "malformed packet: " ++ cause.description
  | contextMismatch => "encryption context mismatch"
  | ciphertextTooLarge length => s!"ciphertext is {length} bytes, too large to frame"

/-- Whether a fault comes from reading or verifying bytes that are not trusted. -/
def isDecodeFailure : Fault → Bool
  | unsupportedVersion _ | malformed _ | contextMismatch => true
  | _ => false

end Fault

end AeadEnvelope
