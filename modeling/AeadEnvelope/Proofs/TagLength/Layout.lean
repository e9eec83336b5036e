import AeadEnvelope.Proofs.Summary

/-!
# The layout of current wires

A current wire is laid out from four reserved bytes, the text of a context, if there is one, and a
ciphertext (`Current.Layout`). Both the text and the ciphertext stand behind their lengths, so the
parts of a wire are found again whatever follows it (`Current.Layout.wire_append_inj`). Main
statement: exactly the wires that are laid out from parts which fit, with a text that is read as a
context, are read, each in one way only and without regard to its reserved bytes, and no such wire
is the beginning of another one (`parse_layout`).
-/
namespace AeadEnvelope.TagLength

open Reader

namespace Current

/-- The parts that a current wire is laid out from. -/
structure Layout where
  /-- Bytes that a reader ignores. -/
  reserved : Bytes
  /-- The text of the context; an absent one is not the same as an empty one. -/
  text : Option String
  /-- The ciphertext. -/
  ciphertext : Bytes
deriving DecidableEq

namespace Layout

/-- The text of a context behind its tag and its length, or nothing where there is none. -/
def textBytes : Option String → Bytes
  | none => []
  | some text => 0x02 :: bigEndian 4 (utf8 text).length ++ utf8 text

/-- The wire: its version, the reserved bytes, the text of the context, and the ciphertext behind
its tag and its length. -/
def wire (layout : Layout) : Bytes :=
  0x02 :: layout.reserved ++ textBytes layout.text ++
    0x04 :: bigEndian 4 layout.ciphertext.length ++ layout.ciphertext

/-- Every part has its place: the reserved bytes are four, and the lengths of the others can be
written in four bytes. -/
structure Fits (layout : Layout) : Prop where
  /-- The reserved bytes are four. -/
  reserved : layout.reserved.length = 4
  /-- The length of the text, if there is one, fits its field. -/
  text : ∀ text, layout.text = some text → (utf8 text).length < capacity 4
  /-- The length of the ciphertext fits its field. -/
  ciphertext : layout.ciphertext.length < capacity 4

/-- The packet that a layout holds, if its text is read as a context. -/
def packet (layout : Layout) : Except Fault Packet := do
  let context ← layout.text.mapM Context.parse
  return ⟨.current, [], ⟨context, layout.ciphertext⟩⟩

/-- A layout holds a packet exactly when its text is read as the context of the packet and all else
of the packet is as the layout has it. -/
theorem packet_eq_ok_iff {layout : Layout} {packet : Packet} :
    layout.packet = .ok packet ↔
      ∃ context, layout.text.mapM Context.parse = .ok context ∧
        packet = ⟨.current, [], ⟨context, layout.ciphertext⟩⟩ := by
  rw [Layout.packet, Outcome.bind_eq_ok_iff]
  simp only [pure, Except.pure, Except.ok.injEq, @eq_comm _ packet]

/-- A text behind its length is found again before the tag of a ciphertext, as is the lack of
one. -/
theorem textBytes_append_inj {left right : Option String} {later rest : Bytes}
    (leftFits : ∀ text, left = some text → (utf8 text).length < capacity 4)
    (rightFits : ∀ text, right = some text → (utf8 text).length < capacity 4)
    (same : textBytes left ++ 0x04 :: later = textBytes right ++ 0x04 :: rest) :
    left = right ∧ later = rest := by
  have form : ∀ text, textBytes text = optionalSection 4 0x02 text :=
    fun text => by cases text <;> rfl
  have apart : (0x02 : UInt8) ≠ 0x04 := by decide
  rw [form, form] at same
  exact optionalSection_append_inj apart leftFits rightFits same

/-- The parts of a wire are found again, whatever follows it. -/
theorem wire_append_inj {layout other : Layout} {more rest : Bytes} (fits : layout.Fits)
    (otherFits : other.Fits) (same : layout.wire ++ more = other.wire ++ rest) :
    layout = other ∧ more = rest := by
  simp only [wire, List.cons_append, List.append_assoc, List.cons.injEq, true_and] at same
  obtain ⟨reserved, texts⟩ :=
    List.append_inj same (fits.reserved.trans otherFits.reserved.symm)
  obtain ⟨text, ciphertexts⟩ := textBytes_append_inj fits.text otherFits.text texts
  obtain ⟨ciphertext, behind⟩ :=
    sized_append_inj fits.ciphertext otherFits.ciphertext ciphertexts
  cases layout
  cases other
  exact ⟨by rw [mk.injEq]; exact ⟨reserved, text, ciphertext⟩, behind⟩

/-- A wire has one layout. -/
theorem wire_inj {layout other : Layout} (fits : layout.Fits) (otherFits : other.Fits)
    (same : layout.wire = other.wire) : layout = other := by
  have appended : layout.wire ++ [] = other.wire ++ [] := by rw [same]
  exact (wire_append_inj fits otherFits appended).1

/-- A packet has no context exactly if its layout has no text, and the empty text is the context
without keys. -/
theorem context_of_packet {layout : Layout} {packet : Packet}
    (holds : layout.packet = .ok packet) :
    (packet.envelope.context = none ↔ layout.text = none) ∧
      (layout.text = some "" → packet.envelope.context = some .empty) := by
  obtain ⟨context, read, rfl⟩ := packet_eq_ok_iff.mp holds
  rcases Outcome.mapM_eq_ok_iff.mp read with ⟨absent, rfl⟩ | ⟨text, found, held, rfl, parsed⟩
  · simp [absent]
  · rw [held]
    refine ⟨by simp, ?_⟩
    intro blank
    obtain rfl := Option.some.inj blank
    exact congrArg some (Except.ok.inj parsed).symm

/-- The bytes that may give a context are those of a text that fits and is read as it, or none. -/
theorem contextSection_iff {front : Bytes} {context : Option Context} :
    ContextSection front context ↔
      ∃ text, (∀ given, text = some given → (utf8 given).length < capacity 4) ∧
        textBytes text = front ∧ text.mapM Context.parse = .ok context := by
  constructor
  · intro given
    cases given with
    | absent => exact ⟨none, by simp, rfl, rfl⟩
    | @present text context fits read =>
      refine ⟨some text, ?_, rfl, Outcome.mapM_eq_ok_iff.mpr (.inr ⟨text, context, rfl, rfl, read⟩)⟩
      intro other same
      exact Option.some.inj same ▸ fits
  · rintro ⟨text, fits, rfl, mapped⟩
    rcases Outcome.mapM_eq_ok_iff.mp mapped with ⟨rfl, rfl⟩ | ⟨given, found, rfl, rfl, read⟩
    · exact .absent
    · exact .present (fits given rfl) read

end Layout

/-- A current wire is read exactly as the packet of a layout that it is the wire of. -/
theorem parse_eq_ok_iff_layout {body : Bytes} {packet : Packet} :
    parse (0x02 :: body) = .ok packet ↔
      ∃ layout : Layout, layout.Fits ∧ layout.wire = 0x02 :: body ∧
        layout.packet = .ok packet := by
  refine parse_current_eq_ok_iff.trans ?_
  simp only [Layout.contextSection_iff]
  constructor
  · rintro ⟨reserved, front, context, ciphertext, four, ⟨text, textFits, rfl, found⟩, fits, rfl,
      rfl⟩
    refine ⟨⟨reserved, text, ciphertext⟩, ⟨four, textFits, fits⟩, ?_,
      Layout.packet_eq_ok_iff.mpr ⟨context, found, rfl⟩⟩
    simp [Layout.wire, sectionBytes, sizedCiphertextTag, lengthWidth]
  · rintro ⟨layout, fits, wire, holds⟩
    obtain ⟨context, found, rfl⟩ := Layout.packet_eq_ok_iff.mp holds
    refine ⟨layout.reserved, _, context, layout.ciphertext, fits.reserved,
      ⟨layout.text, fits.text, rfl, found⟩, fits.ciphertext, ?_, rfl⟩
    have behind := (List.cons.inj wire).2
    rw [← behind]
    simp [sectionBytes, sizedCiphertextTag, lengthWidth]

/-- A current wire that is not the wire of a layout with a packet is malformed. -/
theorem malformed_of_unmatched {body : Bytes}
    (unmatched : ∀ layout : Layout, layout.Fits → layout.wire = 0x02 :: body →
      ∀ packet, layout.packet ≠ .ok packet) :
    (∃ cause, parse (0x02 :: body) = .error (.malformed cause)) ∧
      ∀ expected, ∃ cause,
        (decode (0x02 :: body) expected).outcome = .error (.malformed cause) := by
  have unread : ∀ packet, parse (0x02 :: body) ≠ .ok packet := by
    intro packet read
    obtain ⟨layout, fits, wire, holds⟩ := parse_eq_ok_iff_layout.mp read
    exact unmatched layout fits wire packet holds
  refine ⟨?_, decode_current_malformed unread⟩
  cases outcome : parse (0x02 :: body) with
  | ok packet => exact absurd outcome (unread packet)
  | error fault =>
    obtain ⟨cause, rfl⟩ := parse_current_malformed outcome
    exact ⟨cause, rfl⟩

/-- The reserved bytes are skipped, whatever they are. -/
theorem reader_reserved {reserved other : Bytes} (four : reserved.length = reservedLength)
    (otherFour : other.length = reservedLength) (position : Nat) (rest : Bytes) :
    reader ⟨position, reserved ++ rest⟩ = reader ⟨position, other ++ rest⟩ := by
  have skipped : ∀ bytes : Bytes, bytes.length = reservedLength →
      take reservedLength .truncatedReserved ⟨position, bytes ++ rest⟩ =
        (.ok bytes, ⟨position + reservedLength, rest⟩) := by
    intro bytes length
    exact length ▸ take_append bytes rest position .truncatedReserved
  rw [reader, bind_ok (skipped reserved four), bind_ok (skipped other otherFour)]

/-- Behind the wire of a packet there is no room for more bytes. -/
theorem parse_append_ne_ok {body more : Bytes} {packet other : Packet}
    (read : parse (0x02 :: body) = .ok packet) (extended : more ≠ []) :
    parse (0x02 :: (body ++ more)) ≠ .ok other := by
  intro readOn
  obtain ⟨layout, fits, wire, -⟩ := parse_eq_ok_iff_layout.mp read
  obtain ⟨longer, longerFits, longerWire, -⟩ := parse_eq_ok_iff_layout.mp readOn
  have same : layout.wire ++ more = longer.wire ++ [] := by
    rw [wire, longerWire, List.append_nil, List.cons_append]
  exact extended (Layout.wire_append_inj fits longerFits same).2

end Current

/-- The reserved bytes of a wire make no difference to what is read of it. -/
theorem parse_reserved {reserved other : Bytes} (four : reserved.length = 4)
    (otherFour : other.length = 4) (rest : Bytes) :
    parse (0x02 :: (reserved ++ rest)) = parse (0x02 :: (other ++ rest)) := by
  have dispatched : ∀ body, reader (.start (0x02 :: body)) = Current.reader ⟨1, body⟩ :=
    fun _ => rfl
  rw [parse, parse, run, run, dispatched, dispatched,
    Current.reader_reserved four otherFour 1 rest]

/-- The reserved bytes of a wire make no difference to its opening nor to what is recorded of
it. -/
theorem decode_reserved {reserved other : Bytes} (four : reserved.length = 4)
    (otherFour : other.length = 4) (rest : Bytes) (expected : Option Context) :
    decode (0x02 :: (reserved ++ rest)) expected = decode (0x02 :: (other ++ rest)) expected := by
  have lengths : (0x02 :: (reserved ++ rest)).length = (0x02 :: (other ++ rest)).length := by
    simp only [List.length_cons, List.length_append, four, otherFour]
  rw [decode, decode, parse_reserved four otherFour rest, lengths]
  rfl

/-- The reserved bytes of a wire make no difference to its summary. -/
theorem ofWire_reserved {reserved other : Bytes} (four : reserved.length = 4)
    (otherFour : other.length = 4) (rest : Bytes) :
    Summary.ofWire (0x02 :: (reserved ++ rest)) = Summary.ofWire (0x02 :: (other ++ rest)) := by
  have lengths : (0x02 :: (reserved ++ rest)).length = (0x02 :: (other ++ rest)).length := by
    simp only [List.length_cons, List.length_append, four, otherFour]
  have tagged : Dialect.current ≠ .varint := by decide
  have summed : ∀ body, Summary.ofWire (0x02 :: body) =
      (parse (0x02 :: body)).bind fun packet => Summary.ofPacket packet (0x02 :: body).length :=
    Summary.ofWire_eq_bind tagged
  rw [summed, summed, parse_reserved four otherFour rest, lengths]

/-- What goes on behind the wire of a packet is malformed. -/
theorem decode_append_malformed {body more : Bytes} {packet : Packet}
    (read : parse (0x02 :: body) = .ok packet) (extended : more ≠ [])
    (expected : Option Context) :
    ∃ cause, (decode (0x02 :: body ++ more) expected).outcome = .error (.malformed cause) :=
  decode_current_malformed (fun _ => Current.parse_append_ne_ok read extended) expected

/-- What ends before the wire of a packet does is malformed. -/
theorem decode_truncated_malformed {body shorter more : Bytes} {packet : Packet}
    (read : parse (0x02 :: body) = .ok packet) (cut : shorter ++ more = 0x02 :: body)
    (short : more ≠ []) (expected : Option Context) :
    ∃ cause, (decode shorter expected).outcome = .error (.malformed cause) := by
  cases shorter with
  | nil => exact ⟨.missingVersion, rfl⟩
  | cons version start =>
    rw [List.cons_append, List.cons.injEq] at cut
    obtain ⟨rfl, rfl⟩ := cut
    -- If the beginning were read as a packet, the whole wire would be that packet with bytes added.
    have unread : ∀ other, parse (0x02 :: start) ≠ .ok other := fun other readShort =>
      Current.parse_append_ne_ok readShort short read
    exact decode_current_malformed unread expected

/-- The grammar of current wires. A wire is read exactly as the packet of a layout that it is the
wire of, and every other one is malformed. The layout is the only one, its text is absent exactly if
the context is, and the empty text is a context that is there. The reserved bytes make no difference
to anything that is made of the wire. Where a wire is read, nothing that ends before it does or goes
on behind it is. -/
theorem parse_layout (body : Bytes) :
    (∀ packet, parse (0x02 :: body) = .ok packet ↔
      ∃ layout : Current.Layout, layout.Fits ∧ layout.wire = 0x02 :: body ∧
        layout.packet = .ok packet) ∧
    ((∀ layout : Current.Layout, layout.Fits → layout.wire = 0x02 :: body →
        ∀ packet, layout.packet ≠ .ok packet) →
      (∃ cause, parse (0x02 :: body) = .error (.malformed cause)) ∧
        ∀ expected, ∃ cause,
          (decode (0x02 :: body) expected).outcome = .error (.malformed cause)) ∧
    (∀ layout other : Current.Layout, layout.Fits → other.Fits →
      layout.wire = 0x02 :: body → other.wire = 0x02 :: body → layout = other) ∧
    (∀ (layout : Current.Layout) (packet : Packet), layout.packet = .ok packet →
      (packet.envelope.context = none ↔ layout.text = none) ∧
        (layout.text = some "" → packet.envelope.context = some .empty)) ∧
    (∀ reserved other rest : Bytes, reserved.length = 4 → other.length = 4 →
      body = reserved ++ rest →
      (∀ expected, decode (0x02 :: (other ++ rest)) expected = decode (0x02 :: body) expected) ∧
        Summary.ofWire (0x02 :: (other ++ rest)) = Summary.ofWire (0x02 :: body)) ∧
    (∀ packet, parse (0x02 :: body) = .ok packet → ∀ expected,
      (∀ shorter more, shorter ++ more = 0x02 :: body → more ≠ [] →
        ∃ cause, (decode shorter expected).outcome = .error (.malformed cause)) ∧
      ∀ more, more ≠ [] →
        ∃ cause, (decode (0x02 :: body ++ more) expected).outcome = .error (.malformed cause)) := by
  refine ⟨fun packet => Current.parse_eq_ok_iff_layout, Current.malformed_of_unmatched, ?_,
    fun layout packet => Current.Layout.context_of_packet, ?_, ?_⟩
  · intro layout other fits otherFits wire otherWire
    exact Current.Layout.wire_inj fits otherFits (wire.trans otherWire.symm)
  · rintro reserved other rest four otherFour rfl
    exact ⟨decode_reserved otherFour four rest, ofWire_reserved otherFour four rest⟩
  · intro packet read expected
    exact ⟨fun shorter more cut short => decode_truncated_malformed read cut short expected,
      fun more extended => decode_append_malformed read extended expected⟩

/-- A layout with a context that has no keys, and the tag of a ciphertext as its ciphertext. -/
def unkeyedLayout : Current.Layout := ⟨[0xAA, 0xBB, 0xCC, 0xDD], some "", [0x04]⟩

/-- The wire of that layout behind its version. -/
def unkeyedBody : Bytes :=
  [0xAA, 0xBB, 0xCC, 0xDD, 0x02, 0, 0, 0, 0, 0x04, 0, 0, 0, 1, 0x04]

/-- The wire of that layout is read as a context without keys, under which its beginning is
malformed. -/
theorem parse_layout_unkeyed :
    unkeyedLayout.Fits ∧ unkeyedLayout.wire = 0x02 :: unkeyedBody ∧
    parse (0x02 :: unkeyedBody) = .ok ⟨.current, [], ⟨some .empty, [0x04]⟩⟩ ∧
    ∃ cause, (decode [0x02, 0xAA, 0xBB, 0xCC, 0xDD, 0x02, 0, 0, 0, 0] (some .empty)).outcome =
      .error (.malformed cause) := by
  have fits : unkeyedLayout.Fits := by
    refine ⟨rfl, fun text held => ?_, by decide⟩
    obtain rfl := Option.some.inj held
    decide
  have wire : unkeyedLayout.wire = 0x02 :: unkeyedBody := by decide +kernel
  obtain ⟨readIff, -, -, -, -, free⟩ := parse_layout unkeyedBody
  have read := (readIff _).mpr ⟨unkeyedLayout, fits, wire, rfl⟩
  obtain ⟨truncated, -⟩ := free _ read (some .empty)
  exact ⟨fits, wire, read, truncated _ [0x04, 0, 0, 0, 1, 0x04] rfl (by decide)⟩

end AeadEnvelope.TagLength
