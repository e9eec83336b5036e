import AeadEnvelope.Binary.Bytes
import AeadEnvelope.Context.Canonical

/-!
# Filling placeholders

A base context is completed by an additional one: every placeholder of the base must be given a
value, no value of the base may be given again, and keys of the additional context alone are
carried over as they are. The canonical text of the result is the associated data that the
ciphertext is bound to.
-/
namespace AeadEnvelope.Context

/-- What keeps an entry of the base from being completed. -/
def entryFault? (additional : Context) (entry : String × Option String) : Option Fault :=
  match entry.2, additional.values.find? entry.1 with
  | none, some (some _) => none
  | none, _ => some (.missingAdditionalValue entry.1)
  | some _, some _ => some (.conflictingAdditionalValue entry.1)
  | some _, none => none

/-- What keeps a base context from being completed, at its least key that is at fault. -/
def fillFault? (base additional : Context) : Option Fault :=
  base.entries.findSome? (entryFault? additional)

/-- The base with its placeholders filled where the additional context has a value, and the
other keys of the additional context. -/
def filled (base additional : Context) : Context :=
  (base.map fun key value => value.or (additional.values.find? key).join).union additional

/-- Complete a base context by an additional one. -/
def fill (base additional : Context) : Except Fault Context :=
  match base.fillFault? additional with
  | some fault => .error fault
  | none => .ok (base.filled additional)

/-- Canonical text of the completed context. -/
def canonicalWith (base additional : Context) : Except Fault String := do
  (← base.fill additional).canonical

/-- Associated data to encrypt under: the bytes of the canonical text of the context completed by
an additional one. Without a context there are none. -/
def associatedData (context additional : Option Context) : Except Fault (Option Bytes) :=
  match context with
  | none => .ok none
  | some base => do return some (utf8 (← base.canonicalWith (additional.getD empty)))

end AeadEnvelope.Context
