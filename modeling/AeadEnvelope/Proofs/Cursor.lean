import AeadEnvelope.Proofs.Reading

/-!
# A cursor stays in its buffer

A cursor that stands in a buffer holds the bytes from its position on (`Cursor.placed`). Each
operation leaves it there or moves it on, also where it fails, and never out of the buffer
(`Reader.Advances`), so the same holds of operations one after the other (`advances_after`). Main
statement: wherever operations have led, the count of the bytes left is no less than zero, and
every operation takes exactly the bytes that it is to take, which are all in the buffer, or finds
that there are fewer (`contained_after`).
-/
namespace AeadEnvelope

/-- A count of bytes of a buffer from a position on, if there are as many. -/
def slice? (buffer : Bytes) (position count : Nat) : Option Bytes :=
  if position + count ≤ buffer.length then some ((buffer.drop position).take count) else none

/-- There are no such bytes exactly if fewer are left from the position on. -/
theorem slice?_eq_none_iff {buffer : Bytes} {position count : Nat}
    (within : position ≤ buffer.length) :
    slice? buffer position count = none ↔ buffer.length - position < count := by
  unfold slice?
  by_cases enough : position + count ≤ buffer.length
  · have left : ¬ buffer.length - position < count := by omega
    simp only [if_pos enough, reduceCtorEq, left]
  · have few : buffer.length - position < count := by omega
    simp only [if_neg enough, few]

/-- The bytes from a position of a buffer to its end are all that there are from there on. -/
theorem slice?_rest {buffer : Bytes} {position : Nat} (within : position ≤ buffer.length) :
    slice? buffer position (buffer.length - position) = some (buffer.drop position) := by
  have inside : position + (buffer.length - position) ≤ buffer.length := by omega
  rw [slice?, if_pos inside, ← List.length_drop, List.take_length]

namespace Cursor

/-- The cursor at a position of a buffer. -/
def placed (buffer : Bytes) (position : Nat) : Cursor := ⟨position, buffer.drop position⟩

/-- What an operation takes. -/
inductive Taken where
  /-- Bytes as they stand. -/
  | bytes (content : Bytes)
  /-- A number that bytes stand for. -/
  | number (value : Nat)

/-- What has a width that is known before it is read. -/
inductive Field where
  /-- A count of bytes, fixed or asked for. -/
  | bytes (count : Nat)
  /-- A single byte, as a number. -/
  | byte
  /-- A big-endian number of a width. -/
  | number (width : Nat)

/-- Count of the bytes of a field. -/
def Field.width : Field → Nat
  | .bytes count => count
  | .byte => 1
  | .number width => width

/-- What a field makes of its bytes. -/
def Field.ofBytes : Field → Bytes → Taken
  | .bytes _, content => .bytes content
  | .byte, content => .number (ofBigEndian content)
  | .number _, content => .number (ofBigEndian content)

/-- Take a field. -/
def Field.reader (otherwise : Malformation) : Field → Reader Taken
  | .bytes count => do return .bytes (← Reader.take count otherwise)
  | .byte => do return .number (← Reader.byte otherwise).toNat
  | .number width => do return .number (← Reader.number width otherwise)

/-- An operation on a cursor. -/
inductive Operation where
  /-- Take a field. -/
  | fixed (field : Field) (otherwise : Malformation)
  /-- Take a number in base 128. -/
  | varint
  /-- Take bytes behind their length in base 128. -/
  | prefixed (otherwise : Malformation)
  /-- Take all that is left. -/
  | rest

/-- Do an operation. -/
def Operation.reader : Operation → Reader Taken
  | .fixed field otherwise => field.reader otherwise
  | .varint => do return .number (← Reader.varint)
  | .prefixed otherwise => do return .bytes (← Reader.varintPrefixed otherwise)
  | .rest => do return .bytes (← Reader.rest)

/-- The cursor behind operations one after the other, whether each of them succeeds or fails. -/
def after (cursor : Cursor) (operations : List Operation) : Cursor :=
  operations.foldl (fun cursor operation => (operation.reader cursor).2) cursor

/-- A cursor in a buffer: where it stands, how much is left, and what each operation does there. -/
structure Contained (buffer : Bytes) (cursor : Cursor) : Prop where
  /-- The position is in the buffer, or at its end. -/
  within : cursor.position ≤ buffer.length
  /-- As many bytes are counted as left as there are from the position to the end. -/
  remaining : ∃ count, Reader.remaining cursor = (.ok count, cursor) ∧
    cursor.position + count = buffer.length
  /-- A field is what it makes of the bytes at the position, as many as its width, if the buffer has
  them; then the position moves on by the width. -/
  fixed_taken : ∀ field otherwise taken later,
    (Operation.fixed field otherwise).reader cursor = (.ok taken, later) ↔
      ∃ content, slice? buffer cursor.position field.width = some content ∧
        field.ofBytes content = taken ∧ placed buffer (cursor.position + field.width) = later
  /-- A field is refused exactly if fewer bytes than its width are left; then the position
  stays. -/
  fixed_refused : ∀ field otherwise fault later,
    (Operation.fixed field otherwise).reader cursor = (.error fault, later) ↔
      buffer.length - cursor.position < field.width ∧ .malformed otherwise = fault ∧
        cursor = later
  /-- A number in base 128 is read from the position on, which moves on as far as is read, also
  where no number is found. -/
  varint : Operation.varint.reader cursor =
    (((Base128.decodeAt buffer cursor.position).1.map Taken.number).mapError Fault.malformed,
      placed buffer (Base128.decodeAt buffer cursor.position).2)
  /-- Bytes are taken behind their length exactly if the buffer has as many directly behind it as it
  says; then the position moves on behind them. -/
  prefixed_taken : ∀ otherwise taken later,
    (Operation.prefixed otherwise).reader cursor = (.ok taken, later) ↔
      ∃ length start content, Base128.decodeAt buffer cursor.position = (.ok length, start) ∧
        slice? buffer start length = some content ∧ .bytes content = taken ∧
        placed buffer (start + length) = later
  /-- All that is left are the bytes of the buffer from the position to its end. -/
  rest : ∃ content,
    slice? buffer cursor.position (buffer.length - cursor.position) = some content ∧
      Operation.rest.reader cursor = (.ok (.bytes content), placed buffer buffer.length)

end Cursor

namespace Reader

open Cursor (placed)

variable {α β γ : Type} {buffer : Bytes} {position : Nat}

/-- A reader that leaves a cursor of a buffer where it was or further on in the buffer, also where
it fails. -/
def Advances (reader : Reader α) : Prop :=
  ∀ buffer position, position ≤ buffer.length →
    ∃ next, (reader (placed buffer position)).2 = placed buffer next ∧
      position ≤ next ∧ next ≤ buffer.length

/-- Two steps that advance a cursor advance it together. -/
theorem Advances.bind {reader : Reader α} {next : α → Reader β} (first : reader.Advances)
    (second : ∀ value, (next value).Advances) : (reader >>= next).Advances := by
  intro buffer position within
  obtain ⟨middle, moved, forward, inside⟩ := first buffer position within
  rcases read : reader (placed buffer position) with ⟨fault | value, stopped⟩
  · rw [read] at moved
    rw [bind_error read]
    exact ⟨middle, moved, forward, inside⟩
  · rw [read] at moved
    have arrived : stopped = placed buffer middle := moved
    obtain ⟨last, behind, further, contained⟩ := second value buffer middle inside
    rw [bind_ok read, arrived]
    exact ⟨last, behind, Nat.le_trans forward further, contained⟩

/-- A value that is ready leaves a cursor where it was. -/
theorem advances_pure (value : α) : (pure value : Reader α).Advances :=
  fun _ position within => ⟨position, rfl, Nat.le_refl position, within⟩

/-- A value that is changed before the next step is changed by that step as well. -/
theorem bind_pure_bind (reader : Reader α) (change : α → β) (next : β → Reader γ) :
    ((reader >>= fun value => pure (change value)) >>= next) =
      reader >>= fun value => next (change value) := by
  funext cursor
  rcases read : reader cursor with ⟨fault | value, later⟩
  · have failed : (reader >>= fun value => pure (change value)) cursor = (.error fault, later) :=
      bind_error read
    rw [bind_error failed, bind_error read]
  · have changed : (reader >>= fun value => pure (change value)) cursor =
        (.ok (change value), later) :=
      bind_ok read
    rw [bind_ok changed, bind_ok read]

/-- Bytes are taken at a position if the buffer has them there. -/
theorem take_placed (within : position ≤ buffer.length) (count : Nat) (otherwise : Malformation) :
    take count otherwise (placed buffer position) =
      match slice? buffer position count with
      | some content => (.ok content, placed buffer (position + count))
      | none => (.error (.malformed otherwise), placed buffer position) := by
  have left : (buffer.drop position).length = buffer.length - position := List.length_drop
  by_cases enough : position + count ≤ buffer.length
  · have all : ((buffer.drop position).take count).length = count :=
      List.length_take_of_le (by omega)
    have taken := take_append ((buffer.drop position).take count)
      ((buffer.drop position).drop count) position otherwise
    rw [all, List.take_append_drop, List.drop_drop] at taken
    rw [slice?, if_pos enough]
    exact taken
  · have few : (placed buffer position).rest.length < count := by
      show (buffer.drop position).length < count
      omega
    rw [slice?, if_neg enough]
    exact take_of_length_lt few otherwise

/-- A count of bytes advances a cursor. -/
theorem advances_take (count : Nat) (otherwise : Malformation) :
    (take count otherwise).Advances := by
  intro buffer position within
  rw [take_placed within]
  by_cases enough : position + count ≤ buffer.length
  · rw [slice?, if_pos enough]
    exact ⟨position + count, rfl, Nat.le_add_right _ _, enough⟩
  · rw [slice?, if_neg enough]
    exact ⟨position, rfl, Nat.le_refl _, within⟩

/-- A number in base 128 is read from a position of the buffer on. -/
theorem varint_placed (buffer : Bytes) (position : Nat) :
    varint (placed buffer position) =
      ((Base128.decodeAt buffer position).1.mapError Fault.malformed,
        placed buffer (Base128.decodeAt buffer position).2) := by
  simp only [varint, placed, Base128.decodeAt, List.drop_drop]

/-- A number in base 128 advances a cursor. -/
theorem advances_varint : varint.Advances := by
  intro buffer position within
  rw [varint_placed]
  exact ⟨_, rfl, Base128.decodeAt_within within⟩

/-- Bytes behind their length advance a cursor. -/
theorem advances_varintPrefixed (otherwise : Malformation) :
    (varintPrefixed otherwise).Advances :=
  advances_varint.bind fun length => advances_take length otherwise

/-- Bytes are taken behind their length exactly if the buffer has as many directly behind it. -/
theorem varintPrefixed_placed (within : position ≤ buffer.length) {otherwise : Malformation}
    {content : Bytes} {later : Cursor} :
    varintPrefixed otherwise (placed buffer position) = (.ok content, later) ↔
      ∃ length start, Base128.decodeAt buffer position = (.ok length, start) ∧
        slice? buffer start length = some content ∧ placed buffer (start + length) = later := by
  have inside := (Base128.decodeAt_within within).2
  have counted := varint_placed buffer position
  rcases read : Base128.decodeAt buffer position with ⟨cause | length, start⟩
  · rw [read] at counted
    rw [varintPrefixed, bind_error counted]
    constructor
    · intro taken
      cases taken
    · intro prefixed
      obtain ⟨_, _, same, -⟩ := prefixed
      cases same
  · rw [read] at counted inside
    rw [varintPrefixed, bind_ok counted, take_placed inside]
    constructor
    · intro taken
      cases found : slice? buffer start length with
      | none =>
        rw [found] at taken
        cases taken
      | some behind =>
        rw [found] at taken
        obtain ⟨same, moved⟩ := Prod.mk.inj taken
        exact ⟨length, start, rfl, found.trans (congrArg some (Except.ok.inj same)), moved⟩
    · intro prefixed
      obtain ⟨_, _, same, found, moved⟩ := prefixed
      cases same
      rw [found, moved]

/-- All that is left reaches from a position to the end of the buffer. -/
theorem rest_placed (within : position ≤ buffer.length) :
    rest (placed buffer position) = (.ok (buffer.drop position), placed buffer buffer.length) := by
  have reached : position + (buffer.drop position).length = buffer.length := by
    rw [List.length_drop]
    omega
  simp only [rest, placed, reached, List.drop_length]

/-- All that is left advances a cursor. -/
theorem advances_rest : rest.Advances := by
  intro buffer position within
  rw [rest_placed within]
  exact ⟨buffer.length, rfl, within, Nat.le_refl _⟩

end Reader

namespace Cursor

variable {buffer : Bytes} {position : Nat}

/-- A field is taken as the bytes of its width. -/
theorem Field.reader_eq (field : Field) (otherwise : Malformation) :
    field.reader otherwise =
      (do return field.ofBytes (← Reader.take field.width otherwise) : Reader Taken) := by
  cases field with
  | bytes count => rfl
  | byte =>
    funext cursor
    obtain ⟨position, _ | ⟨first, later⟩⟩ := cursor
    · rfl
    · have taken := Reader.take_append [first] later position otherwise
      have value : ofBigEndian [first] = first.toNat := by simp [ofBigEndian]
      show _ = ((Reader.take [first].length otherwise >>= fun content =>
        pure (.number (ofBigEndian content))) : Reader Taken) ⟨position, [first] ++ later⟩
      rw [Reader.bind_ok taken, value]
      rfl
  | number width => exact Reader.bind_pure_bind _ ofBigEndian _

/-- Operations in two parts are the second part behind the first one. -/
theorem after_append (cursor : Cursor) (operations further : List Operation) :
    cursor.after (operations ++ further) = (cursor.after operations).after further :=
  List.foldl_append

/-- Each operation advances a cursor. -/
theorem Operation.advances (operation : Operation) : operation.reader.Advances := by
  cases operation with
  | fixed field otherwise =>
    have advances := (Reader.advances_take field.width otherwise).bind fun content =>
      Reader.advances_pure (field.ofBytes content)
    rw [Operation.reader, Field.reader_eq]
    exact advances
  | varint => exact Reader.advances_varint.bind fun _ => Reader.advances_pure _
  | prefixed otherwise =>
    exact (Reader.advances_varintPrefixed otherwise).bind fun _ => Reader.advances_pure _
  | rest => exact Reader.advances_rest.bind fun _ => Reader.advances_pure _

/-- Operations one after the other leave a cursor of a buffer where it was or further on in the
buffer. -/
theorem advances_after (operations : List Operation) (within : position ≤ buffer.length) :
    ∃ next, (placed buffer position).after operations = placed buffer next ∧
      position ≤ next ∧ next ≤ buffer.length := by
  induction operations generalizing position with
  | nil => exact ⟨position, rfl, Nat.le_refl position, within⟩
  | cons operation operations step =>
    obtain ⟨middle, moved, forward, inside⟩ := operation.advances buffer position within
    obtain ⟨last, behind, further, contained⟩ := step inside
    refine ⟨last, ?_, Nat.le_trans forward further, contained⟩
    rw [after, List.foldl_cons, moved]
    exact behind

/-- A field is taken at a position if the buffer has its bytes there. -/
theorem Field.reader_placed (within : position ≤ buffer.length) (field : Field)
    (otherwise : Malformation) :
    field.reader otherwise (placed buffer position) =
      match slice? buffer position field.width with
      | some content => (.ok (field.ofBytes content), placed buffer (position + field.width))
      | none => (.error (.malformed otherwise), placed buffer position) := by
  have taken := Reader.take_placed within field.width otherwise
  rw [Field.reader_eq]
  cases found : slice? buffer position field.width with
  | some content =>
    rw [found] at taken
    exact Reader.bind_ok taken
  | none =>
    rw [found] at taken
    exact Reader.bind_error taken

/-- A number in base 128 is read from a position on. -/
theorem Operation.varint_placed (buffer : Bytes) (position : Nat) :
    Operation.varint.reader (placed buffer position) =
      (((Base128.decodeAt buffer position).1.map Taken.number).mapError Fault.malformed,
        placed buffer (Base128.decodeAt buffer position).2) := by
  have read := Reader.varint_placed buffer position
  cases outcome : (Base128.decodeAt buffer position).1 with
  | error cause =>
    rw [outcome] at read
    exact Reader.bind_error read
  | ok value =>
    rw [outcome] at read
    exact Reader.bind_ok read

/-- Bytes are taken behind their length exactly if the buffer has as many directly behind it. -/
theorem Operation.prefixed_placed (within : position ≤ buffer.length) {otherwise : Malformation}
    {taken : Taken} {later : Cursor} :
    (Operation.prefixed otherwise).reader (placed buffer position) = (.ok taken, later) ↔
      ∃ length start content, Base128.decodeAt buffer position = (.ok length, start) ∧
        slice? buffer start length = some content ∧ .bytes content = taken ∧
        placed buffer (start + length) = later := by
  simp only [Operation.reader, Reader.bind_eq_ok_iff, Reader.pure_eq_ok_iff,
    Reader.varintPrefixed_placed within]
  constructor
  · rintro ⟨content, _, ⟨length, start, counted, found, rfl⟩, rfl, rfl⟩
    exact ⟨length, start, content, counted, found, rfl, rfl⟩
  · rintro ⟨length, start, content, counted, found, rfl, rfl⟩
    exact ⟨content, _, ⟨length, start, counted, found, rfl⟩, rfl, rfl⟩

/-- A cursor at a position of a buffer is contained in it. -/
theorem contained_placed (within : position ≤ buffer.length) :
    Contained buffer (placed buffer position) where
  within := within
  remaining := by
    have left : (buffer.drop position).length = buffer.length - position := List.length_drop
    refine ⟨(buffer.drop position).length, rfl, ?_⟩
    show position + (buffer.drop position).length = buffer.length
    omega
  fixed_taken := by
    intro field otherwise taken later
    show field.reader otherwise (placed buffer position) = (.ok taken, later) ↔
      ∃ content, slice? buffer position field.width = some content ∧
        field.ofBytes content = taken ∧ placed buffer (position + field.width) = later
    rw [field.reader_placed within]
    cases slice? buffer position field.width <;> simp
  fixed_refused := by
    intro field otherwise fault later
    show field.reader otherwise (placed buffer position) = (.error fault, later) ↔
      buffer.length - position < field.width ∧ .malformed otherwise = fault ∧
        placed buffer position = later
    rw [field.reader_placed within, ← slice?_eq_none_iff within]
    cases slice? buffer position field.width <;> simp
  varint := Operation.varint_placed buffer position
  prefixed_taken := fun _ _ _ => Operation.prefixed_placed within
  rest := ⟨buffer.drop position, slice?_rest within, Reader.bind_ok (Reader.rest_placed within)⟩

/-- Wherever operations have led from the start of a buffer, successes and failures mixed, the
cursor is contained in the buffer, and no further operations lead it back. -/
theorem contained_after (buffer : Bytes) (operations further : List Operation) :
    Contained buffer ((start buffer).after operations) ∧
      ((start buffer).after operations).position ≤
        ((start buffer).after (operations ++ further)).position := by
  have begun : start buffer = placed buffer 0 := rfl
  obtain ⟨position, reached, -, within⟩ := advances_after operations (Nat.zero_le buffer.length)
  obtain ⟨last, behind, forward, -⟩ := advances_after further within
  rw [begun, after_append, reached, behind]
  exact ⟨contained_placed within, forward⟩

/-- A length that is forged leaves the cursor behind it, where the next byte can still be read. -/
example : ((start [0xFF, 0xFF, 0x03, 0x61]).after
    [.prefixed .associatedDataExceedPacket, .fixed .byte .missingVersion]).position = 4 := by decide

end Cursor

end AeadEnvelope
