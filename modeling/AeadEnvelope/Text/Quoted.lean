import AeadEnvelope.Text.Property.DefaultIgnorable
import AeadEnvelope.Text.Property.GraphemeExtend
import AeadEnvelope.Text.Property.Unprintable

/-!
# Quoted texts

A message shows a text that may be empty or unprintable between double quotes, so that its ends
and all of its characters can be seen.
-/
namespace AeadEnvelope.Text

/-- Characters with a short escape, each with the letter that stands for it. -/
def shortEscapes : List (Char × Char) :=
  [('"', '"'), ('\\', '\\'), ('\x00', '0'), ('\t', 't'), ('\n', 'n'), ('\r', 'r')]

/-- The halfwidth sound marks, which are letters: they extend a grapheme, and yet each fills a cell
of its own. -/
def halfwidthMarks : Ranges := ⟨[(0xFF9E, 0xFF9F)], by decide⟩

/-- Whether a character is shown by its code point, as it has no printed form of its own. -/
def escapedByCode (character : Char) : Bool :=
  let code := character.toNat
  unprintable.contains code || defaultIgnorable.contains code ||
    graphemeExtend.contains code && !halfwidthMarks.contains code

/-- A character as it is shown between double quotes. -/
def quoteCharacter (character : Char) : List Char :=
  match shortEscapes.lookup character with
  | some letter => ['\\', letter]
  | none =>
    if escapedByCode character then
      '\\' :: 'u' :: '\x7b' :: Nat.toDigits 16 character.toNat ++ ['\x7d']
    else [character]

/-- A text between double quotes. -/
def quoted (text : String) : String :=
  String.ofList ('"' :: text.toList.flatMap quoteCharacter ++ ['"'])

end AeadEnvelope.Text
