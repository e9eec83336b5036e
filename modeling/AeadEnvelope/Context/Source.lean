import AeadEnvelope.Context.Canonical

/-!
# How a context is given

A context is given as its text, as a list of entries, or not at all.
-/
namespace AeadEnvelope

/-- A context as it is given by whoever asks for an operation. -/
inductive ContextSource where
  /-- There is none. -/
  | absent
  /-- A text to be read. -/
  | text (text : String)
  /-- Entries to be added one after the other. -/
  | entries (entries : List (String × Option String))

/-- The context that is given, if it is well formed. -/
def ContextSource.build : ContextSource → Except Fault (Option Context)
  | absent => .ok none
  | text source => (Context.parse source).map some
  | entries source => (Context.ofEntries source).map some

end AeadEnvelope
