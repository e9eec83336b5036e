import AeadEnvelope.AssociatedData.Basic
import AeadEnvelope.Audit
import AeadEnvelope.Binary.Cursor
import AeadEnvelope.Binary.Sha256

/-!
# The varint dialect

After the version byte stand the associated data behind their length in base 128, and then the
ciphertext up to the end of the wire. No associated data and empty associated data are written
alike and read as none. A wire is opened only if its associated data are, byte for byte, those of
the expected pairs.
-/
namespace AeadEnvelope

/-- A ciphertext with the bytes it was bound to. -/
structure VarintFrame where
  /-- The bytes that came out of the encryption. -/
  ciphertext : Bytes
  /-- The associated data, if there are any. -/
  associated : Option Bytes
deriving DecidableEq

namespace VarintFrame

/-- The wire of a frame. -/
def encode (frame : VarintFrame) : Bytes :=
  let associated := frame.associated.getD []
  Dialect.varint.versionByte :: Base128.encode associated.length ++ associated ++ frame.ciphertext

/-- The wire of a ciphertext bound to pairs. -/
def encodePairs (ciphertext : Bytes) (pairs : Option (List (String × String))) :
    Except Fault Bytes := do
  let associated ← AssociatedData.canonicalize .standard pairs
  return encode ⟨ciphertext, associated⟩

/-- Read a frame from its version byte on. -/
def reader : Reader VarintFrame := do
  let version ← Reader.byte .missingVersion
  if version = Dialect.varint.versionByte then do
    let associated ← Reader.varintPrefixed .associatedDataExceedPacket
    let ciphertext ← Reader.rest
    return ⟨ciphertext, if associated = [] then none else some associated⟩
  else Reader.fail (.unsupportedVersion version)

/-- The structure of a wire, without a look at what is expected. -/
def parse (wire : Bytes) : Except Fault VarintFrame := reader.run wire

/-- Open a wire under expected pairs. -/
def decode (limits : AssociatedData.Limits) (wire : Bytes)
    (expected : Option (List (String × String))) : Audited VarintFrame :=
  match parse wire with
  | .error fault => ⟨.error fault, [.varintRejected fault wire.head? wire.length]⟩
  | .ok frame =>
    match AssociatedData.canonicalize limits expected with
    | .error fault => ⟨.error .contextMismatch, [.unusableExpectation fault]⟩
    | .ok associated =>
      if frame.associated = associated then ⟨.ok frame, []⟩
      else ⟨.error .contextMismatch,
        [.varintMismatch (frame.associated.map fingerprint) associated.isSome]⟩

end VarintFrame

end AeadEnvelope
