import AeadEnvelope.Binary.Base128
import AeadEnvelope.Dictionary
import AeadEnvelope.Text.LowerCase

/-!
# Associated data of a list of pairs

The varint dialect binds keys with values as bytes: the count of the pairs, then each key and each
value behind its length, all numbers in base 128. Keys and values are normalized first, and pairs
are in ascending order of the keys as they were given. Without pairs there are no bytes at all.
Limits bound the length of each key and value and of the whole.
-/
namespace AeadEnvelope.AssociatedData

/-- Bounds on what is written. -/
structure Limits where
  /-- Most bytes of the whole. -/
  whole : Nat
  /-- Most bytes of a normalized key or value. -/
  part : Nat
deriving DecidableEq

/-- The bounds where none are asked for. -/
def Limits.standard : Limits := ⟨16384, 65535⟩

/-- Whether normalization drops a character: white space, hyphen and underscore. -/
def dropped (character : Char) : Bool :=
  Text.blanks.contains character.toNat || character == '-' || character == '_'

/-- A text without the characters that are dropped, each other one in lower case on its own. -/
def normalize (text : String) : String :=
  String.ofList ((text.toList.filter fun character => !dropped character).flatMap
    Text.lowerCharacter)

/-- The key and the value of a pair, both normalized. -/
def normalizePair (pair : String × String) : String × String :=
  (normalize pair.1, normalize pair.2)

/-- Put a pair with those admitted before it, under its key as it was given. Normalized keys and
values must not be empty nor too long, and no normalized key may occur twice. -/
def admitPair (limits : Limits) (admitted : Dictionary (String × String))
    (pair : String × String) : Except Fault (Dictionary (String × String)) :=
  let (key, value) := normalizePair pair
  if key = "" ∨ value = "" then .error (.emptyEntry pair.1)
  else if limits.part < key.utf8ByteSize then .error (.entryTooLong key.utf8ByteSize limits.part)
  else if limits.part < value.utf8ByteSize then
    .error (.entryTooLong value.utf8ByteSize limits.part)
  else if admitted.entries.any fun entry => entry.2.1 == key then .error (.duplicateKey key)
  else .ok (admitted.insert pair.1 (key, value))

/-- All pairs normalized, in ascending order of their keys as they were given. -/
def admitted (limits : Limits) (pairs : List (String × String)) :
    Except Fault (List (String × String)) := do
  let found ← pairs.foldlM (admitPair limits) .empty
  return found.entries.map Prod.snd

/-- A text behind the length of its UTF-8 form. -/
def sizedBytes (text : String) : Bytes := Base128.encode text.utf8ByteSize ++ utf8 text

/-- Count of the bytes of a text behind its length. -/
def sizedLength (text : String) : Nat :=
  Base128.encodedLength text.utf8ByteSize + text.utf8ByteSize

/-- The count of pairs and then each key and value, all behind their lengths. -/
def bytesOf (pairs : List (String × String)) : Bytes :=
  Base128.encode pairs.length ++
    pairs.flatMap fun pair => sizedBytes pair.1 ++ sizedBytes pair.2

/-- Count of the bytes of pairs without their count. -/
def pairsLength : List (String × String) → Nat
  | [] => 0
  | (key, value) :: later => sizedLength key + sizedLength value + pairsLength later

/-- Count of the bytes of pairs. -/
def lengthOf (pairs : List (String × String)) : Nat :=
  Base128.encodedLength pairs.length + pairsLength pairs

/-- Associated data of pairs under limits; none where there is no pair. -/
def canonicalize (limits : Limits) (pairs : Option (List (String × String))) :
    Except Fault (Option Bytes) := do
  let found ← admitted limits (pairs.getD [])
  if found = [] then return none
  else if limits.whole < lengthOf found then
    throw (.contextTooLarge (lengthOf found) limits.whole)
  else return some (bytesOf found)

end AeadEnvelope.AssociatedData
