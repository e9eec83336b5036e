import AeadEnvelope.Binary.Base128
import AeadEnvelope.Binary.BigEndian

/-!
# Reading from the front of a buffer

A cursor stands at a position of a buffer and holds the bytes from there on. A reader takes
bytes off the front and moves the cursor on; where it fails it still says where it stopped.
Every length is compared with the bytes left before any are taken, so a forged length never
reads past the end. Main statements: bytes are taken as they were written (`take_append`), and
nothing is taken where too little is left (`take_of_length_lt`).
-/
namespace AeadEnvelope

/-- A position in a buffer. -/
structure Cursor where
  /-- Count of the bytes read. -/
  position : Nat
  /-- The bytes not read yet. -/
  rest : Bytes

/-- The start of a buffer. -/
def Cursor.start (buffer : Bytes) : Cursor := ⟨0, buffer⟩

/-- A step that takes bytes off the front of a buffer for a value, or fails. -/
def Reader (α : Type) := Cursor → Except Fault α × Cursor

namespace Reader

variable {α β : Type}

/-- Take nothing. -/
def ready (value : α) : Reader α := fun cursor => (.ok value, cursor)

/-- Fail where the cursor stands. -/
def fail (fault : Fault) : Reader α := fun cursor => (.error fault, cursor)

/-- Go on from the value and the position that the first step left, unless it failed. -/
def andThen (reader : Reader α) (next : α → Reader β) : Reader β := fun cursor =>
  match reader cursor with
  | (.ok value, later) => next value later
  | (.error fault, later) => (.error fault, later)

instance : Monad Reader where
  pure := ready
  bind := andThen

/-- What follows a step that succeeded starts where that step stopped. -/
theorem bind_ok {reader : Reader α} {next : α → Reader β} {cursor later : Cursor} {value : α}
    (read : reader cursor = (.ok value, later)) : (reader >>= next) cursor = next value later := by
  change andThen reader next cursor = _
  rw [andThen, read]

/-- Nothing follows a step that failed. -/
theorem bind_error {reader : Reader α} {next : α → Reader β} {cursor later : Cursor}
    {fault : Fault} (read : reader cursor = (.error fault, later)) :
    (reader >>= next) cursor = (.error fault, later) := by
  change andThen reader next cursor = _
  rw [andThen, read]

/-- What a reader makes of a whole buffer. -/
def run (reader : Reader α) (buffer : Bytes) : Except Fault α := (reader (.start buffer)).1

/-- Fail because of the structure of the bytes. -/
def malformed (cause : Malformation) : Reader α := fail (.malformed cause)

/-- Go on with the outcome of a computation that takes nothing. -/
def ofOutcome (outcome : Except Fault α) : Reader α := fun cursor => (outcome, cursor)

/-- Count of the bytes left. -/
def remaining : Reader Nat := fun cursor => (.ok cursor.rest.length, cursor)

/-- Take a fixed count of bytes, or none of them where there are fewer. -/
def take (count : Nat) (otherwise : Malformation) : Reader Bytes := fun cursor =>
  let taken := cursor.rest.take count
  if taken.length < count then (.error (.malformed otherwise), cursor)
  else (.ok taken, ⟨cursor.position + count, cursor.rest.drop count⟩)

/-- Bytes are taken off the front, and those behind them are left. -/
theorem take_append (front later : Bytes) (position : Nat) (otherwise : Malformation) :
    take front.length otherwise ⟨position, front ++ later⟩ =
      (.ok front, ⟨position + front.length, later⟩) := by
  simp [take]

/-- Nothing is taken where there are fewer bytes than asked for. -/
theorem take_of_length_lt {cursor : Cursor} {count : Nat} (few : cursor.rest.length < count)
    (otherwise : Malformation) :
    take count otherwise cursor = (.error (.malformed otherwise), cursor) := by
  have short : (cursor.rest.take count).length < count := by
    rw [List.length_take]
    omega
  simp only [take, if_pos short]

/-- Take one byte. -/
def byte (otherwise : Malformation) : Reader UInt8 := fun cursor =>
  match cursor.rest with
  | [] => (.error (.malformed otherwise), cursor)
  | byte :: later => (.ok byte, ⟨cursor.position + 1, later⟩)

/-- Take a big-endian number of a fixed width. -/
def number (width : Nat) (otherwise : Malformation) : Reader Nat := do
  return ofBigEndian (← take width otherwise)

/-- Take a number in base 128; the bytes of a number refused are taken too. -/
def varint : Reader Nat := fun cursor =>
  let (outcome, count) := Base128.decode cursor.rest
  (outcome.mapError Fault.malformed, ⟨cursor.position + count, cursor.rest.drop count⟩)

/-- Take a length in base 128 and then that many bytes. -/
def varintPrefixed (otherwise : Malformation) : Reader Bytes := do
  take (← varint) otherwise

/-- Take all that is left. -/
def rest : Reader Bytes := fun cursor =>
  (.ok cursor.rest, ⟨cursor.position + cursor.rest.length, []⟩)

/-- Fail if anything is left. -/
def finish : Reader Unit := fun cursor =>
  match cursor.rest with
  | [] => (.ok (), cursor)
  | _ :: _ => (.error (.malformed .trailingBytes), cursor)

end Reader

end AeadEnvelope
