import AeadEnvelope.Dialect

/-!
# Audit events

Opening a wire leaves a trail: what was refused and why, and which contexts did not agree. An
event names keys, fingerprints and lengths, and never a value of a context.
-/
namespace AeadEnvelope

/-- How serious an event is. -/
inductive Severity where
  /-- Of interest to whoever looks for the cause of a failure. -/
  | debug
  /-- Of interest to whoever watches for attacks. -/
  | warn
deriving DecidableEq

/-- What is recorded while a wire is opened. -/
inductive Event where
  /-- A tag/length wire was refused for its structure. -/
  | tagLengthRejected (fault : Fault) (version : Option UInt8) (length : Nat)
  /-- A varint wire was refused for its structure. -/
  | varintRejected (fault : Fault) (version : Option UInt8) (length : Nat)
  /-- One of two contexts to be compared has no canonical text. -/
  | incomparable (fault : Fault)
  /-- The expected pairs have no canonical bytes. -/
  | unusableExpectation (fault : Fault)
  /-- The context of a tag/length wire is not the expected one. -/
  | tagLengthMismatch (dialect : Dialect) (fingerprint : Option String) (expected : Bool)
    (fault : Fault)
  /-- The associated data of a varint wire are not the expected ones. -/
  | varintMismatch (fingerprint : Option String) (expected : Bool)
deriving DecidableEq

/-- What a field of a recorded event holds. -/
inductive Detail where
  /-- A text. -/
  | text (value : String)
  /-- A number. -/
  | number (value : Nat)
  /-- Yes or no. -/
  | flag (value : Bool)

namespace Event

/-- How serious the event is. -/
def severity : Event → Severity
  | tagLengthMismatch .. | varintMismatch .. => .warn
  | _ => .debug

/-- What happened, in words. -/
def message : Event → String
  | tagLengthRejected .. => "tag/length packet rejected"
  | varintRejected .. => "varint packet rejected"
  | incomparable _ => "context cannot be canonicalized for comparison"
  | unusableExpectation _ => "expected context cannot be canonicalized"
  | tagLengthMismatch .. | varintMismatch .. => "encryption context verification failed"

/-- A version byte that may be missing, as a record shows it. -/
def versionText : Option UInt8 → String
  | none => "None"
  | some version => s!"Some({version.toNat})"

/-- Fields of a wire refused for its structure. -/
def rejection (fault : Fault) (version : Option UInt8) (length : Nat) : List (String × Detail) :=
  [("error", .text fault.message), ("version", .text (versionText version)),
    ("len", .number length)]

/-- Fields of a wire whose context is not the expected one. -/
def mismatch (dialect : Dialect) (fingerprint : Option String) (expected : Bool) :
    List (String × Detail) :=
  [("dialect", .text dialect.name), ("packet_context", .text (fingerprint.getD "none")),
    ("expected_present", .flag expected)]

/-- Fields of the event other than its message. -/
def fields : Event → List (String × Detail)
  | tagLengthRejected fault version length => rejection fault version length
  | varintRejected fault version length => rejection fault version length
  | incomparable fault => [("error", .text fault.message)]
  | unusableExpectation fault => [("error", .text fault.message)]
  | tagLengthMismatch dialect fingerprint expected fault =>
    mismatch dialect fingerprint expected ++ [("error", .text fault.message)]
  | varintMismatch fingerprint expected => mismatch .varint fingerprint expected

end Event

/-- Outcome of an operation with the events it left, in order. -/
structure Audited (α : Type) where
  /-- The result, or why there is none. -/
  outcome : Except Fault α
  /-- What was recorded on the way. -/
  events : List Event

end AeadEnvelope
