import AeadEnvelope.TagLength.Basic

/-!
# The current tag/length dialect

After the version byte stand four reserved bytes, then the context if there is one, then the
ciphertext. A context is led by its tag and its length in four bytes, and so is a ciphertext,
and nothing may follow. A writer leaves the reserved bytes zero and a reader ignores them.
-/
namespace AeadEnvelope.TagLength.Current

/-- Count of the reserved bytes. -/
def reservedLength : Nat := 4

/-- Count of the bytes of a section's length. -/
def lengthWidth : Nat := 4

/-- Count of the bytes before the first section. -/
def headerLength : Nat := 1 + reservedLength

/-- Count of the bytes that a section has beside its content. -/
def sectionOverhead : Nat := 1 + lengthWidth

/-- Length of the shortest wire: no context and an empty ciphertext. -/
def minLength : Nat := headerLength + sectionOverhead

/-- A section: its tag, its length and its content. -/
def sectionBytes (tag : UInt8) (content : Bytes) : Bytes :=
  tag :: bigEndian lengthWidth content.length ++ content

/-- Section of a context, if there is one. -/
def contextSection : Option String → Except Fault Bytes
  | none => .ok []
  | some text =>
    let content := utf8 text
    if capacity lengthWidth ≤ content.length then
      .error (.contextTooLarge content.length (capacity lengthWidth - 1))
    else .ok (sectionBytes contextTag content)

/-- Section of a ciphertext. -/
def ciphertextSection (ciphertext : Bytes) : Except Fault Bytes :=
  if capacity lengthWidth ≤ ciphertext.length then .error (.ciphertextTooLarge ciphertext.length)
  else .ok (sectionBytes sizedCiphertextTag ciphertext)

/-- The wire of an envelope. -/
def encode (envelope : Envelope) : Except Fault Bytes := do
  let text ← envelope.context.mapM Context.canonical
  let last ← ciphertextSection envelope.ciphertext
  let first ← contextSection text
  return Dialect.current.versionByte :: List.replicate reservedLength 0 ++ first ++ last

/-- Read the context that the tag of the first section announces, up to the tag of the
ciphertext. -/
def contextReader (tag : UInt8) : Reader (Option Context) :=
  if tag = contextTag then do
    let length ← Reader.number lengthWidth .truncatedContextLength
    let content ← Reader.take length .contextExceedsPacket
    let context ← Reader.ofOutcome (contextOfBytes content)
    let next ← Reader.byte .missingCiphertextTag
    if next = sizedCiphertextTag then return some context
    else Reader.malformed .ciphertextTagExpectedAfterContext
  else if tag = sizedCiphertextTag then return none
  else Reader.malformed .unknownEntryTag

/-- Read a packet from behind its version byte. -/
def reader : Reader Packet := do
  let _ ← Reader.take reservedLength .truncatedReserved
  let tag ← Reader.byte .missingEntryTag
  let context ← contextReader tag
  let length ← Reader.number lengthWidth .truncatedCiphertextLength
  let ciphertext ← Reader.take length .ciphertextExceedsPacket
  Reader.finish
  return ⟨.current, [], ⟨context, ciphertext⟩⟩

end AeadEnvelope.TagLength.Current
