import AeadEnvelope.TagLength.Basic

/-!
# The legacy tag/length dialect

After the version byte stands a mask of well-known keys in four bytes. A mask that names keys may
be followed by a description with further entries, an empty mask by a whole context; both are
led by a tag and a length in two bytes. Then follows the tag of the ciphertext, which goes up to
the end of the wire. Every key of the mask is a placeholder of the context. The dialect is only
read.
-/
namespace AeadEnvelope.TagLength.Legacy

/-- Count of the bytes of a key mask. -/
def maskWidth : Nat := 4

/-- Count of the bytes of a section's length. -/
def lengthWidth : Nat := 2

/-- The entries of keys that a mask names. -/
def placeholderEntries (keys : List MaskKey) : List (String × Option String) :=
  keys.map fun key => (key.name, none)

/-- The context of keys that a mask names and of further entries, none of which may be under one
of those keys. -/
def describedContext (keys : List MaskKey) (further : Context) : Except Fault Context :=
  (Context.ofEntries (placeholderEntries keys ++ further.entries)).mapError fun _ =>
    .malformed .descriptionRepeatsKey

/-- Read the context that the tag of the first section announces, and the tag behind it. A tag
that announces none is left for the ciphertext. -/
def contextReader (keys : List MaskKey) (tag : UInt8) : Reader (Option Context × UInt8) :=
  if tag = descriptionTag then
    if keys = [] then Reader.malformed .descriptionWithoutKeys
    else do
      let length ← Reader.number lengthWidth .truncatedDescriptionLength
      let content ← Reader.take length .descriptionExceedsPacket
      let further ← Reader.ofOutcome (contextOfBytes content)
      let context ← Reader.ofOutcome (describedContext keys further)
      let next ← Reader.byte .missingCiphertextTag
      return (some context, next)
  else if tag = contextTag then
    if keys = [] then do
      let length ← Reader.number lengthWidth .truncatedContextLength
      let content ← Reader.take length .contextExceedsPacket
      let context ← Reader.ofOutcome (contextOfBytes content)
      let next ← Reader.byte .missingCiphertextTag
      return (some context, next)
    else Reader.malformed .contextBesideKeys
  else if keys = [] then return (none, tag)
  else do
    let context ← Reader.ofOutcome (Context.ofEntries (placeholderEntries keys))
    return (some context, tag)

/-- Read a packet from behind its version byte. -/
def reader : Reader Packet := do
  let mask ← Reader.number maskWidth .truncatedKeyMask
  let keys ← Reader.ofOutcome (MaskKey.ofMask mask)
  let first ← Reader.byte .missingEntryTag
  let (context, tag) ← contextReader keys first
  if tag = ciphertextTag then do
    let ciphertext ← Reader.rest
    return ⟨.legacy, keys, ⟨context, ciphertext⟩⟩
  else Reader.malformed .ciphertextTagExpected

end AeadEnvelope.TagLength.Legacy
