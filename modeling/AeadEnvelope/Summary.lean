import AeadEnvelope.TagLength.Opening
import AeadEnvelope.VarintFrame

/-!
# Summary of a wire

What can be said of a wire of any dialect without verifying its context and without showing its
ciphertext or a value of its context.
-/
namespace AeadEnvelope

/-- What a wire holds, in lengths, names and a fingerprint. -/
structure Summary where
  /-- The dialect of the wire. -/
  dialect : Dialect
  /-- The version byte of the wire. -/
  version : UInt8
  /-- Whether the wire has a context or associated data. -/
  hasContext : Bool
  /-- Fingerprint of the context or the associated data, if there are any. -/
  fingerprint : Option String
  /-- Keys that a mask names, in the order of their table. -/
  keys : List MaskKey
  /-- Keys whose values the caller has to supply, in ascending order. -/
  placeholders : List String
  /-- Count of the bytes of the ciphertext. -/
  ciphertextLength : Nat
  /-- Count of the bytes of the wire. -/
  totalLength : Nat
deriving DecidableEq

/-- A byte as two capital hexadecimal digits behind their mark. -/
def byteText (byte : UInt8) : String :=
  "0x" ++ String.ofList ((hexPair byte).map Char.toUpper)

namespace Summary

/-- The fingerprint, or a word that there is none. -/
def contextText (summary : Summary) : String := summary.fingerprint.getD "none"

/-- The summary in one line. -/
def display (summary : Summary) : String :=
  summary.dialect.name ++ " (" ++ byteText summary.version ++ ") | context: " ++
    summary.contextText ++
    s!" | {summary.totalLength} bytes ({summary.ciphertextLength} ciphertext)"

/-- Summary of a packet of a wire of the given length. -/
def ofPacket (packet : TagLength.Packet) (totalLength : Nat) : Except Fault Summary := do
  let text ← packet.envelope.context.mapM Context.canonical
  return {
    dialect := packet.dialect
    version := packet.dialect.versionByte
    hasContext := packet.envelope.context.isSome
    fingerprint := text.map fun canonical => AeadEnvelope.fingerprint (utf8 canonical)
    keys := packet.keys
    placeholders := (packet.envelope.context.map Context.placeholders).getD []
    ciphertextLength := packet.envelope.ciphertext.length
    totalLength }

/-- Summary of a frame of a wire of the given length. -/
def ofFrame (frame : VarintFrame) (totalLength : Nat) : Summary where
  dialect := .varint
  version := Dialect.versionByte .varint
  hasContext := frame.associated.isSome
  fingerprint := frame.associated.map AeadEnvelope.fingerprint
  keys := []
  placeholders := []
  ciphertextLength := frame.ciphertext.length
  totalLength := totalLength

/-- Summary of a wire of any dialect. -/
def ofWire (wire : Bytes) : Except Fault Summary := do
  match ← Dialect.detect wire with
  | .varint => return ofFrame (← VarintFrame.parse wire) wire.length
  | _ => ofPacket (← TagLength.parse wire) wire.length

end Summary

end AeadEnvelope
