import AeadEnvelope.Context.Basic

/-!
# Canonical text of a context

The canonical text joins the entries by `|`, each written as its key, or as its key, `=` and its
value. Entries are in ascending order of their key and value joined and put into lower case,
which need not be the order of the keys. A context with a separator inside a key or a value has
no canonical text. Reading accepts any order and any case of the keys.
-/
namespace AeadEnvelope.Context

/-- Character between two entries. -/
def entrySeparator : Char := '|'

/-- Character between a key and its value. -/
def valueSeparator : Char := '='

/-- Text by which an entry is put in order first. -/
def orderText (entry : String × Option String) : String :=
  Text.lowerCase entry.1 ++ Text.lowerCase (entry.2.getD "")

/-- Whether an entry stands before another one or may do so; the keys decide between entries of
the same order text. -/
def precedes (left right : String × Option String) : Bool :=
  decide (orderText left < orderText right ∨
    orderText left = orderText right ∧ left.1 ≤ right.1)

/-- Entries in order with one more, which is put before the first one that it precedes. -/
def arrange (entry : String × Option String) :
    List (String × Option String) → List (String × Option String)
  | [] => [entry]
  | head :: later =>
    if precedes entry head then entry :: head :: later else head :: arrange entry later

/-- Entries in the order of the canonical text. -/
def ordered (context : Context) : List (String × Option String) :=
  context.entries.foldr arrange []

/-- Whether a text holds a separator. -/
def hasSeparator (text : String) : Bool :=
  text.toList.any fun character => character == valueSeparator || character == entrySeparator

/-- Whether an entry has no place in a canonical text. -/
def offends (entry : String × Option String) : Bool :=
  hasSeparator entry.1 || entry.2.any hasSeparator

/-- Keys of the entries that have no place in a canonical text, in its order. -/
def offenders (context : Context) : List String :=
  (context.ordered.filter offends).map Prod.fst

/-- An entry as it is written. -/
def entryText (entry : String × Option String) : String :=
  match entry.2 with
  | none => entry.1
  | some value => entry.1 ++ valueSeparator.toString ++ value

/-- Canonical text of a context, unless it has offenders. -/
def canonical (context : Context) : Except Fault String :=
  match context.offenders with
  | [] => .ok (entrySeparator.toString.intercalate (context.ordered.map entryText))
  | keys => .error (.forbiddenCharacter keys)

/-- Canonical text of a context, or a note that it has none. -/
def display (context : Context) : String :=
  match context.canonical with
  | .ok text => text
  | .error _ => s!"<invalid context with {context.size} entries>"

/-- Add the entry that the characters between two separators stand for. -/
def addSegment (context : Context) (segment : List Char) : Except Fault Context :=
  let key := String.ofList (segment.takeWhile (· != valueSeparator))
  match segment.dropWhile (· != valueSeparator) with
  | [] => context.add key none
  | _ :: value =>
    if valueSeparator ∈ value then .error (.forbiddenCharacter [Text.lowerCase key])
    else context.add key (some (String.ofList value))

/-- Read a canonical text, or one that differs from it in the order of its entries and the case
of its keys. The empty text is the context without keys. -/
def parse (text : String) : Except Fault Context :=
  if text = "" then .ok empty
  else (text.toList.splitOn entrySeparator).foldlM addSegment empty

end AeadEnvelope.Context
