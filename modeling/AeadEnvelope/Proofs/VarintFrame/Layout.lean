import AeadEnvelope.Proofs.AssociatedData.Canonicalization
import AeadEnvelope.Proofs.Reading
import AeadEnvelope.VarintFrame

/-!
# The layout of varint wires

A varint wire is laid out from associated data, a form of their length, and a ciphertext
(`Layout`). A wire that no layout has is refused for its first fault (`Refused`), whatever is
expected, and any other one is read as the frame of its only layout (`parse_eq_ok_iff_layout`,
`parse_eq_error_iff`). Main statement: exactly the wires whose associated data are those of the
expected pairs are opened, every other one that is laid out is a mismatch, and what is written of a
frame has the shortest form of the length (`decode_boundLayout`).
-/
namespace AeadEnvelope.VarintFrame

open Reader

/-- The parts that a varint wire is laid out from. -/
structure Layout where
  /-- A form of the length of the associated data, not always the shortest one. -/
  form : Bytes
  /-- The associated data; there are none exactly if they are empty. -/
  associated : Bytes
  /-- The ciphertext. -/
  ciphertext : Bytes
deriving DecidableEq

namespace Layout

/-- The wire: its version, the form of the length, the associated data and the ciphertext. -/
def wire (layout : Layout) : Bytes :=
  0xEE :: layout.form ++ layout.associated ++ layout.ciphertext

/-- The form is taken entirely, as the length of the associated data. -/
def Fits (layout : Layout) : Prop := Base128.Consumed layout.form layout.associated.length

/-- The frame that a layout holds. -/
def frame (layout : Layout) : VarintFrame :=
  ⟨layout.ciphertext, if layout.associated = [] then none else some layout.associated⟩

/-- Layouts that fit have one wire only if they are the same. -/
theorem wire_inj {layout other : Layout} (fits : layout.Fits) (otherFits : other.Fits)
    (same : layout.wire = other.wire) : layout = other := by
  obtain ⟨form, associated, ciphertext⟩ := layout
  obtain ⟨otherForm, otherAssociated, otherCiphertext⟩ := other
  have behind : form ++ (associated ++ ciphertext) =
      otherForm ++ (otherAssociated ++ otherCiphertext) := by
    simpa only [wire, List.cons_append, List.append_assoc, List.cons.injEq, true_and] using same
  obtain ⟨rfl, contents, lengths⟩ := fits.append_inj otherFits behind
  obtain ⟨rfl, rfl⟩ := List.append_inj contents lengths
  rfl

/-- Associated data of the frame are those of the layout, and none where these are empty. -/
theorem getD_associated_frame (layout : Layout) :
    layout.frame.associated.getD [] = layout.associated := by
  unfold frame
  split
  · next empty => exact empty.symm
  · rfl

/-- A layout holds a frame without empty associated data if the parts are the same. -/
theorem frame_eq_iff {layout : Layout} {frame : VarintFrame} (filled : frame.associated ≠ some []) :
    layout.frame = frame ↔
      layout.associated = frame.associated.getD [] ∧ layout.ciphertext = frame.ciphertext := by
  constructor
  · intro same
    rw [← same]
    exact ⟨(getD_associated_frame layout).symm, rfl⟩
  · rintro ⟨bound, held⟩
    unfold Layout.frame
    rw [bound, held]
    cases frame with
    | mk ciphertext associated =>
      cases associated with
      | none => rfl
      | some bytes =>
        have nonempty : bytes ≠ [] := fun empty => filled (congrArg some empty)
        simp only [Option.getD_some, if_neg nonempty]

end Layout

variable {wire : Bytes} {fault : Fault} {frame : VarintFrame}

/-- The fault for which a wire is refused that no layout has. -/
inductive Refused : Bytes → Fault → Prop where
  /-- There is no version. -/
  | empty : Refused [] (.malformed .missingVersion)
  /-- The version is another one. -/
  | version {version : UInt8} {body : Bytes} (foreign : version ≠ 0xEE) :
    Refused (version :: body) (.unsupportedVersion version)
  /-- The form of the length is cut off, too long, or of a number beyond 64 bits. -/
  | number {body : Bytes} {cause : Malformation} {count : Nat}
    (failed : Base128.decode body = (.error cause, count)) :
    Refused (0xEE :: body) (.malformed cause)
  /-- There are fewer bytes than the length says. -/
  | length {form later : Bytes} {length : Nat} (consumed : Base128.Consumed form length)
    (few : later.length < length) :
    Refused (0xEE :: (form ++ later)) (.malformed .associatedDataExceedPacket)

/-- A wire is refused or has a layout. -/
theorem refused_or_layout (wire : Bytes) :
    (∃ fault, Refused wire fault) ∨ ∃ layout : Layout, layout.Fits ∧ layout.wire = wire := by
  cases wire with
  | nil => exact .inl ⟨_, .empty⟩
  | cons version body =>
    by_cases own : version = 0xEE
    · subst own
      rcases unprefixed_or_prefixed .associatedDataExceedPacket body with ⟨cause, refused⟩ | taken
      · left
        cases refused with
        | number failed => exact ⟨_, .number failed⟩
        | length consumed few => exact ⟨_, .length consumed few⟩
      · right
        obtain ⟨form, associated, ciphertext, consumed, rfl⟩ := taken
        refine ⟨⟨form, associated, ciphertext⟩, consumed, ?_⟩
        rw [Layout.wire, List.append_assoc, List.cons_append]
    · exact .inl ⟨_, .version own⟩

/-- Behind its own version a wire is read as its associated data and its ciphertext. -/
theorem parse_versioned (body : Bytes) :
    parse (0xEE :: body) = ((do
      let associated ← varintPrefixed .associatedDataExceedPacket
      let ciphertext ← rest
      return ⟨ciphertext, if associated = [] then none else some associated⟩ :
        Reader VarintFrame) ⟨1, body⟩).1 := by
  have started : byte .missingVersion (.start (0xEE :: body)) = (.ok 0xEE, ⟨1, body⟩) := rfl
  rw [parse, run, reader, bind_ok started]
  rfl

/-- A wire that does not go on with bytes behind their length is not read. -/
theorem parse_of_unprefixed {body : Bytes} {cause : Malformation}
    (refused : Unprefixed .associatedDataExceedPacket body cause) :
    parse (0xEE :: body) = .error (.malformed cause) := by
  obtain ⟨stopped, prefixed⟩ := varintPrefixed_of_unprefixed refused 1
  rw [parse_versioned, bind_error prefixed]

/-- A wire that is refused is not read. -/
theorem parse_of_refused (refused : Refused wire fault) : parse wire = .error fault := by
  cases refused with
  | empty => rfl
  | @version version body foreign =>
    have started : byte .missingVersion (.start (version :: body)) = (.ok version, ⟨1, body⟩) := rfl
    have other : version ≠ Dialect.varint.versionByte := foreign
    rw [parse, run, reader, bind_ok started, if_neg other]
    rfl
  | @number body cause count failed =>
    have unprefixed : Unprefixed .associatedDataExceedPacket body cause := .number failed
    exact parse_of_unprefixed unprefixed
  | @length form later length consumed few =>
    have unprefixed : Unprefixed .associatedDataExceedPacket (form ++ later)
        .associatedDataExceedPacket := .length consumed few
    exact parse_of_unprefixed unprefixed

/-- The wire of a layout is read as the frame that the layout holds. -/
theorem parse_wire {layout : Layout} (fits : layout.Fits) :
    parse layout.wire = .ok layout.frame := by
  obtain ⟨form, associated, ciphertext⟩ := layout
  let later : Cursor := ⟨1 + form.length + associated.length, ciphertext⟩
  have prefixed : varintPrefixed .associatedDataExceedPacket
      ⟨1, form ++ (associated ++ ciphertext)⟩ = (.ok associated, later) :=
    varintPrefixed_eq_ok_iff.mpr ⟨form, fits, rfl, rfl⟩
  rw [Layout.wire, List.append_assoc, List.cons_append, parse_versioned, bind_ok prefixed]
  rfl

/-- A wire is read exactly as the frame of a layout that it is the wire of, and is not read exactly
for the fault that it is refused for. -/
theorem parse_determined (wire : Bytes) :
    (∀ frame, parse wire = .ok frame ↔
      ∃ layout : Layout, layout.Fits ∧ layout.wire = wire ∧ layout.frame = frame) ∧
    ∀ fault, parse wire = .error fault ↔ Refused wire fault := by
  apply Outcome.determined
  · rcases refused_or_layout wire with refused | ⟨layout, fits, held⟩
    · exact .inl refused
    · exact .inr ⟨layout.frame, layout, fits, held, rfl⟩
  · rintro frame ⟨layout, fits, rfl, rfl⟩
    exact parse_wire fits
  · exact fun fault => parse_of_refused

/-- A wire is read exactly as the frame of a layout that it is the wire of. -/
theorem parse_eq_ok_iff_layout :
    parse wire = .ok frame ↔
      ∃ layout : Layout, layout.Fits ∧ layout.wire = wire ∧ layout.frame = frame :=
  (parse_determined wire).1 frame

/-- A wire is not read exactly for the fault that it is refused for. -/
theorem parse_eq_error_iff : parse wire = .error fault ↔ Refused wire fault :=
  (parse_determined wire).2 fault

section Opening

variable (limits : AssociatedData.Limits) (expected : Option (List (String × String)))

/-- A wire that is not read is refused for that, whatever is expected. -/
theorem decode_outcome_of_parse_error (failed : parse wire = .error fault) :
    (decode limits wire expected).outcome = .error fault := by
  rw [decode, failed]

/-- A wire that is read is opened if the expected pairs have its associated data, and is refused for
a mismatch if not. -/
theorem decode_outcome_of_parse_ok (read : parse wire = .ok frame) :
    (AssociatedData.canonicalize limits expected = .ok frame.associated ∧
        (decode limits wire expected).outcome = .ok frame) ∨
      (AssociatedData.canonicalize limits expected ≠ .ok frame.associated ∧
        (decode limits wire expected).outcome = .error .contextMismatch) := by
  rw [decode, read]
  cases bound : AssociatedData.canonicalize limits expected with
  | error cause => exact .inr ⟨nofun, rfl⟩
  | ok associated =>
    by_cases same : frame.associated = associated
    · left
      refine ⟨congrArg Except.ok same.symm, ?_⟩
      simp only [if_pos same]
    · right
      refine ⟨fun equal => same (Except.ok.inj equal).symm, ?_⟩
      simp only [if_neg same]

variable {limits expected} in
/-- A wire is opened exactly when it is read and the expected pairs have its associated data. -/
theorem decode_outcome_eq_ok_iff :
    (decode limits wire expected).outcome = .ok frame ↔
      parse wire = .ok frame ∧
        AssociatedData.canonicalize limits expected = .ok frame.associated := by
  cases read : parse wire with
  | error cause => simp [decode_outcome_of_parse_error limits expected read]
  | ok found =>
    rcases decode_outcome_of_parse_ok limits expected read with
      ⟨agreed, opened⟩ | ⟨refused, closed⟩
    · rw [opened]
      constructor
      · intro same
        cases same
        exact ⟨rfl, agreed⟩
      · rintro ⟨same, -⟩
        exact same
    · rw [closed]
      constructor
      · intro impossible
        cases impossible
      · rintro ⟨same, agreed⟩
        cases same
        exact absurd agreed refused

end Opening

/-- The layout of what is written of a frame. -/
def layoutOf (frame : VarintFrame) : Layout where
  form := Base128.encode (frame.associated.getD []).length
  associated := frame.associated.getD []
  ciphertext := frame.ciphertext

/-- What is written of a frame is the wire of its layout. -/
theorem wire_layoutOf (frame : VarintFrame) : (layoutOf frame).wire = encode frame := rfl

/-- Associated data of a length in 64 bits have a form of it that fits. -/
theorem fits_layoutOf (bounded : (frame.associated.getD []).length < UInt64.size) :
    (layoutOf frame).Fits := Base128.consumed_encode bounded

/-- Any other form of the length is longer than the one that is written. -/
theorem layoutOf_shortest {form : Bytes}
    (consumed : Base128.Consumed form (layoutOf frame).associated.length) :
    form = (layoutOf frame).form ∨ (layoutOf frame).form.length < form.length :=
  consumed.shortest

/-- The grammar of varint wires and what opens them. A wire is opened exactly if it is laid out from
the associated data of the expected pairs, as its ciphertext and these data, and in one way only. A
wire that is refused for its structure is so whatever is expected and under any limits, and whatever
else is not opened is a mismatch. What is written of a frame whose associated data have a length in
64 bits is laid out with the shortest form of it, and empty associated data are written like none.
-/
theorem decode_boundLayout (limits : AssociatedData.Limits) (wire : Bytes)
    (expected : Option (List (String × String))) :
    (∀ frame, (decode limits wire expected).outcome = .ok frame ↔
      AssociatedData.canonicalize limits expected = .ok frame.associated ∧
        ∃ layout : Layout, layout.Fits ∧ layout.wire = wire ∧
          layout.associated = frame.associated.getD [] ∧ layout.ciphertext = frame.ciphertext) ∧
    (∀ layout other : Layout, layout.Fits → other.Fits →
      layout.wire = wire → other.wire = wire → layout = other) ∧
    (∀ fault, Refused wire fault → (decode limits wire expected).outcome = .error fault) ∧
    ((∀ fault, ¬ Refused wire fault) →
      (∀ frame, (decode limits wire expected).outcome ≠ .ok frame) →
      (decode limits wire expected).outcome = .error .contextMismatch) ∧
    (∀ frame : VarintFrame, (frame.associated.getD []).length < UInt64.size →
      ∃ layout : Layout, layout.Fits ∧ layout.wire = encode frame ∧
        layout.associated = frame.associated.getD [] ∧ layout.ciphertext = frame.ciphertext ∧
        ∀ form, Base128.Consumed form layout.associated.length →
          form = layout.form ∨ layout.form.length < form.length) ∧
    (∀ ciphertext, encode ⟨ciphertext, some []⟩ = encode ⟨ciphertext, none⟩) := by
  refine ⟨?_, ?_, ?_, ?_, ?_, fun _ => rfl⟩
  · intro frame
    rw [decode_outcome_eq_ok_iff, parse_eq_ok_iff_layout, and_comm]
    apply and_congr_right
    intro bound
    have filled : frame.associated ≠ some [] := by
      rw [(AssociatedData.canonicalize_eq_ok_iff.mp bound).2]
      exact AssociatedData.boundBytes_ne_some_nil
    simp only [Layout.frame_eq_iff filled]
  · intro layout other fits otherFits held otherHeld
    exact Layout.wire_inj fits otherFits (held.trans otherHeld.symm)
  · intro fault refused
    exact decode_outcome_of_parse_error limits expected (parse_of_refused refused)
  · intro accepted closed
    rcases refused_or_layout wire with ⟨fault, refused⟩ | ⟨layout, fits, rfl⟩
    · exact absurd refused (accepted fault)
    · rcases decode_outcome_of_parse_ok limits expected (parse_wire fits) with
        ⟨-, opened⟩ | ⟨-, mismatch⟩
      · exact absurd opened (closed _)
      · exact mismatch
  · intro frame bounded
    exact ⟨layoutOf frame, fits_layoutOf bounded, wire_layoutOf frame, rfl, rfl,
      fun _ => layoutOf_shortest⟩

/-- A layout of the associated data of one pair, with a zero at the high end of their length. -/
def paddedLayout : Layout := ⟨[0x85, 0x00], [1, 1, 107, 1, 118], [7]⟩

/-- The wire of that layout is opened under the pair in another spelling, and cut off inside the
associated data it is malformed even under a pair that cannot be bound. -/
theorem decode_boundLayout_padded :
    paddedLayout.Fits ∧
    (decode .standard paddedLayout.wire (some [("K-", " V")])).outcome =
      .ok ⟨[7], some [1, 1, 107, 1, 118]⟩ ∧
    (decode .standard [0xEE, 0x85, 0x00, 1] (some [("", "")])).outcome =
      .error (.malformed .associatedDataExceedPacket) := by
  have fits : paddedLayout.Fits := by
    unfold Layout.Fits Base128.Consumed
    decide
  have bound : AssociatedData.canonicalize .standard (some [("K-", " V")]) =
      .ok (some [1, 1, 107, 1, 118]) := by decide +kernel
  have consumed : Base128.Consumed [0x85, 0x00] 5 := fits
  obtain ⟨openIff, -⟩ := decode_boundLayout .standard paddedLayout.wire (some [("K-", " V")])
  have opened := (openIff ⟨[7], some [1, 1, 107, 1, 118]⟩).mpr
    ⟨bound, paddedLayout, fits, rfl, rfl, rfl⟩
  obtain ⟨-, -, refusedFor, -⟩ :=
    decode_boundLayout .standard [0xEE, 0x85, 0x00, 1] (some [("", "")])
  have few : ([1] : Bytes).length < 5 := by decide
  exact ⟨fits, opened, refusedFor _ (.length consumed few)⟩

end AeadEnvelope.VarintFrame
