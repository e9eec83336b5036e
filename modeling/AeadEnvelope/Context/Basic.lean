import AeadEnvelope.Dictionary
import AeadEnvelope.Fault
import AeadEnvelope.Text.LowerCase

/-!
# Encryption contexts

A context binds a ciphertext to keys with values. A key is kept in lower case and occurs once. A
key without a value is a placeholder: it is bound as well, but its value is supplied by the
caller when the ciphertext is used. Every context built here has well-formed keys, since a
context carries that as a field.
-/
namespace AeadEnvelope

/-- Whether a text can be a key: it is not empty and is its own lower-case form. -/
def IsKey (text : String) : Prop := text ≠ "" ∧ Text.lowerCase text = text

/-- The lower-case form of a text that is not empty is a key. -/
theorem isKey_lowerCase {text : String} (nonempty : text ≠ "") : IsKey (Text.lowerCase text) :=
  ⟨fun empty => nonempty (Text.lowerCase_eq_empty_iff.mp empty), Text.lowerCase_lowerCase text⟩

/-- Keys with the values they are bound to, if any. -/
structure Context where
  /-- Value of each key; absent for a placeholder. -/
  values : Dictionary (Option String)
  /-- Every key is in lower case and is not empty. -/
  named : ∀ entry ∈ values.entries, IsKey entry.1
deriving DecidableEq

namespace Context

/-- The context that is there but binds no key. -/
def empty : Context := ⟨.empty, fun _ member => absurd member List.not_mem_nil⟩

/-- Keys in ascending order, each with its value. -/
def entries (context : Context) : List (String × Option String) := context.values.entries

/-- Count of the keys. -/
def size (context : Context) : Nat := context.values.size

/-- A text found in a context is a key. -/
theorem isKey_of_find? {context : Context} {key : String} {value : Option String}
    (found : context.values.find? key = some value) : IsKey key :=
  context.named _ (Dictionary.find?_eq_some_iff.mp found)

/-- The context with one more key, which is put into lower case and must be new. -/
def add (context : Context) (key : String) (value : Option String) : Except Fault Context :=
  if empty : key = "" then .error (.emptyEntry "")
  else if context.values.contains (Text.lowerCase key) then
    .error (.duplicateKey (Text.lowerCase key))
  else .ok ⟨context.values.insert (Text.lowerCase key) value, fun _ member =>
    match Dictionary.eq_or_mem_of_mem_place member with
    | .inl same => same ▸ isKey_lowerCase empty
    | .inr old => context.named _ old⟩

/-- The context of keys with or without values, added one after the other. -/
def ofEntries (entries : List (String × Option String)) : Except Fault Context :=
  entries.foldlM (fun context entry => context.add entry.1 entry.2) empty

/-- The context of keys that all have values. -/
def ofPairs (pairs : List (String × String)) : Except Fault Context :=
  ofEntries (pairs.map fun pair => (pair.1, some pair.2))

/-- What a key is bound to, whatever the case it is asked for in. -/
def find? (context : Context) (key : String) : Option (Option String) :=
  context.values.find? (Text.lowerCase key)

/-- Whether a key is bound, whatever the case it is asked for in. -/
def contains (context : Context) (key : String) : Bool :=
  context.values.contains (Text.lowerCase key)

/-- Keys without a value, in ascending order. -/
def placeholders (context : Context) : List String :=
  (context.entries.filter fun entry => entry.2.isNone).map Prod.fst

/-- The context with the same keys, each bound to what it and its value are mapped to. -/
def map (change : String → Option String → Option String) (context : Context) : Context :=
  ⟨context.values.map change, fun _ member => by
    obtain ⟨old, listed, rfl⟩ := List.mem_map.mp member
    exact context.named old listed⟩

/-- All keys of both contexts, those of both bound as in the left one. -/
def union (left right : Context) : Context :=
  ⟨left.values.union right.values, fun (key, value) member => by
    have found := Dictionary.find?_eq_some_iff.mpr member
    rw [Dictionary.find?_union, Option.or_eq_some_iff] at found
    rcases found with here | ⟨-, there⟩
    · exact isKey_of_find? here
    · exact isKey_of_find? there⟩

end Context

end AeadEnvelope
