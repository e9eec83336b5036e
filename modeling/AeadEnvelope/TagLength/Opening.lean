import AeadEnvelope.Binary.Sha256
import AeadEnvelope.Context.Agreement
import AeadEnvelope.TagLength.Current
import AeadEnvelope.TagLength.Legacy

/-!
# Opening a tag/length wire

A wire is first read for its structure, whatever context is expected. Its ciphertext is released
only if the context found agrees with the expected one, and every refusal is recorded.
-/
namespace AeadEnvelope.TagLength

/-- Read a packet from its version byte on. -/
def reader : Reader Packet := do
  let version ← Reader.byte .missingVersion
  match ← Reader.ofOutcome (Dialect.ofByte version) with
  | .legacy => Legacy.reader
  | .current => Current.reader
  | .varint => Reader.fail (.unsupportedVersion version)

/-- The structure of a wire, without a look at what is expected. -/
def parse (wire : Bytes) : Except Fault Packet := reader.run wire

/-- Fingerprint of the canonical text of a context, if there are both. -/
def contextFingerprint (context : Option Context) : Option String :=
  context.bind fun found => found.canonical.toOption.map fun text => fingerprint (utf8 text)

/-- Open a wire under an expected context. -/
def decode (wire : Bytes) (expected : Option Context) : Audited Envelope :=
  match parse wire with
  | .error fault => ⟨.error fault, [.tagLengthRejected fault wire.head? wire.length]⟩
  | .ok packet =>
    let verdict := Context.verify packet.envelope.context expected
    match verdict.outcome with
    | .ok () => ⟨.ok packet.envelope, verdict.events⟩
    | .error fault =>
      ⟨.error fault, verdict.events ++ [.tagLengthMismatch packet.dialect
        (contextFingerprint packet.envelope.context) expected.isSome fault]⟩

end AeadEnvelope.TagLength
