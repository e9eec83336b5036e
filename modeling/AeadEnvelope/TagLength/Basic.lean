import AeadEnvelope.Binary.Cursor
import AeadEnvelope.Context.Canonical
import AeadEnvelope.Dialect
import AeadEnvelope.MaskKey

/-!
# Tag/length packets

An envelope is a ciphertext with the context it was bound to, if any. A tag/length wire starts
with its version byte and goes on in sections, each led by a tag.
-/
namespace AeadEnvelope

/-- A ciphertext with the context it was bound to. -/
structure Envelope where
  /-- The context; an absent one is not the same as one without keys. -/
  context : Option Context
  /-- The bytes that came out of the encryption. -/
  ciphertext : Bytes
deriving DecidableEq

namespace TagLength

/-- Tag of a description that adds entries to the keys of a mask. -/
def descriptionTag : UInt8 := 0x01

/-- Tag of a context. -/
def contextTag : UInt8 := 0x02

/-- Tag of a ciphertext that goes up to the end of the wire. -/
def ciphertextTag : UInt8 := 0x03

/-- Tag of a ciphertext behind its length. -/
def sizedCiphertextTag : UInt8 := 0x04

/-- What a tag/length wire holds, before its context is verified. -/
structure Packet where
  /-- The dialect of the wire. -/
  dialect : Dialect
  /-- Keys that a mask names. -/
  keys : List MaskKey
  /-- The context, with a placeholder for each key of the mask, and the ciphertext. -/
  envelope : Envelope
deriving DecidableEq

/-- Read the context that the bytes of a section stand for. -/
def contextOfBytes (bytes : Bytes) : Except Fault Context :=
  match textOfUtf8? bytes with
  | none => .error (.malformed .contextNotUtf8)
  | some text => (Context.parse text).mapError fun _ => .malformed .invalidContext

end TagLength

end AeadEnvelope
