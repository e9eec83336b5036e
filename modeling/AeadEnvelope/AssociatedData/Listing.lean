import AeadEnvelope.AssociatedData.Basic
import AeadEnvelope.Binary.Cursor
import AeadEnvelope.Dictionary

/-!
# Reading associated data back

Associated data can be listed for a diagnosis. Nothing is normalized, but lengths, UTF-8, empty
texts, repeated keys and bytes left over are all checked.
-/
namespace AeadEnvelope.AssociatedData

/-- Read a text behind its length. -/
def textReader (otherwise : Malformation) : Reader String := do
  let bytes ← Reader.varintPrefixed otherwise
  match textOfUtf8? bytes with
  | some text => return text
  | none => Reader.malformed .entryNotUtf8

/-- Read one key with its value after those that were read before. -/
def entryReader (found : Dictionary String) : Reader (Dictionary String) := do
  let key ← textReader .keyExceedsBuffer
  let value ← textReader .valueExceedsBuffer
  if key = "" ∨ value = "" then Reader.fail (.emptyEntry key)
  else if found.contains key then Reader.fail (.duplicateKey key)
  else return found.insert key value

/-- Read a fixed count of keys with their values. -/
def entriesReader : (count : Nat) → Dictionary String → Reader (Dictionary String)
  | 0, found => return found
  | count + 1, found => do entriesReader count (← entryReader found)

/-- Read the count of entries, which no bytes left could hold more of, and then the entries. -/
def reader : Reader (Dictionary String) := do
  let count ← Reader.varint
  let left ← Reader.remaining
  if count = 0 ∨ left < count then Reader.malformed .badEntryCount
  else do
    let found ← entriesReader count .empty
    Reader.finish
    return found

/-- The keys and values that associated data hold. -/
def list (bytes : Bytes) : Except Fault (Dictionary String) := reader.run bytes

end AeadEnvelope.AssociatedData
