import AeadEnvelope.Proofs.Summary
import AeadEnvelope.Proofs.TagLength.RoundTrip

/-!
# Writing an opened packet again

What a wire of either dialect holds can be written again in the current one: a context that was
accepted has a canonical text (`exists_canonical_of_decode`). Wires that hold the same envelope are
opened alike under every expected context (`decode_outcome_congr`). Main statement: the wire that is
written again is opened as the first one was, is written again as itself, and has the same summary
but for its dialect, the keys of its mask and its length (`reencode_of_decode`).
-/
namespace AeadEnvelope.TagLength

variable {wire again : Bytes} {expected : Option Context} {envelope : Envelope}

/-- Wires that hold the same envelope are opened alike. -/
theorem decode_outcome_congr {packet other : Packet} (read : parse wire = .ok packet)
    (readAgain : parse again = .ok other) (same : other.envelope = packet.envelope)
    (expected : Option Context) :
    (decode again expected).outcome = (decode wire expected).outcome := by
  rw [decode_outcome_eq_map read, decode_outcome_eq_map readAgain, same]

/-- A context that was accepted has a canonical text. -/
theorem exists_canonical_of_decode (opened : (decode wire expected).outcome = .ok envelope)
    {context : Context} (held : envelope.context = some context) :
    ∃ text, context.canonical = .ok text := by
  obtain ⟨packet, -, -, verified⟩ := decode_outcome_eq_ok_iff.mp opened
  rw [held] at verified
  cases expected with
  | none => cases verified
  | some theirs => exact (Context.compare_outcome_eq_ok_iff.mp verified).written

/-- What was opened of a wire of either dialect can be written again, provided that its parts fit
their length fields. The wire that is written is opened like the first one under every expected
context, is what is written of whatever is opened of it, and has the same summary but for its
dialect, the keys of its mask and its length. -/
theorem reencode_of_decode (opened : (decode wire expected).outcome = .ok envelope)
    (fits : envelope.Fits) :
    ∃ again, Current.encode envelope = .ok again ∧
      (∀ other, (decode again other).outcome = (decode wire other).outcome) ∧
      (∀ other found, (decode again other).outcome = .ok found →
        Current.encode found = .ok again) ∧
      ∃ before after, Summary.ofWire wire = .ok before ∧ Summary.ofWire again = .ok after ∧
        after.hasContext = before.hasContext ∧ after.fingerprint = before.fingerprint ∧
        after.placeholders = before.placeholders ∧
        after.ciphertextLength = before.ciphertextLength := by
  obtain ⟨packet, read, rfl, -⟩ := decode_outcome_eq_ok_iff.mp opened
  have canonical : ∀ context, packet.envelope.context = some context →
      ∃ text, context.canonical = .ok text := fun context => exists_canonical_of_decode opened
  obtain ⟨again, written⟩ := Current.exists_encode fits canonical
  have readAgain := parse_encode written
  refine ⟨again, written, decode_outcome_congr read readAgain rfl, ?_, ?_⟩
  · intro other found openedAgain
    obtain ⟨same, readSame, rfl, -⟩ := decode_outcome_eq_ok_iff.mp openedAgain
    obtain rfl := Except.ok.inj (readAgain.symm.trans readSame)
    exact written
  · obtain ⟨text, found⟩ := Outcome.exists_mapM canonical
    rw [Summary.ofWire_of_parse read, Summary.ofWire_of_parse readAgain]
    exact ⟨_, _, Summary.ofPacket_eq_ok_iff.mpr ⟨text, found, rfl⟩,
      Summary.ofPacket_eq_ok_iff.mpr ⟨text, found, rfl⟩, rfl, rfl, rfl, rfl⟩

/-- A legacy wire whose context has a key in capitals and is out of order. -/
def unorderedWire : Bytes := [1, 0, 0, 0, 0, 2, 0, 6, 66, 98, 61, 88, 124, 97, 3, 9, 9]

/-- The context of that wire. -/
def unorderedContext : Context where
  values := ⟨[("a", none), ("bb", some "X")], by decide⟩
  named := by decide +kernel

/-- What that wire holds. -/
def unorderedEnvelope : Envelope := ⟨some unorderedContext, [9, 9]⟩

/-- A context with a value under the placeholder of that wire. -/
def unorderedExpected : Context where
  values := ⟨[("a", some "v"), ("bb", some "X")], by decide⟩
  named := by decide +kernel

/-- What was opened of that wire is written in order, and is opened again. -/
theorem reencode_of_decode_unordered :
    (decode unorderedWire (some unorderedExpected)).outcome = .ok unorderedEnvelope ∧
    unorderedEnvelope.Fits ∧
    ∃ again, again = [2, 0, 0, 0, 0, 2, 0, 0, 0, 6, 97, 124, 98, 98, 61, 88, 4, 0, 0, 0, 2, 9, 9] ∧
      (decode again (some unorderedExpected)).outcome = .ok unorderedEnvelope ∧
      Current.encode unorderedEnvelope = .ok again := by
  have opened : (decode unorderedWire (some unorderedExpected)).outcome =
      .ok unorderedEnvelope := by decide +kernel
  have written : Current.encode unorderedEnvelope =
      .ok [2, 0, 0, 0, 0, 2, 0, 0, 0, 6, 97, 124, 98, 98, 61, 88, 4, 0, 0, 0, 2, 9, 9] := by
    decide +kernel
  have fits : unorderedEnvelope.Fits := by
    refine ⟨by decide, fun context text held found => ?_⟩
    obtain rfl := Option.some.inj held
    have canonical : unorderedContext.canonical = .ok "a|bb=X" := by decide +kernel
    obtain rfl := Except.ok.inj (canonical.symm.trans found)
    decide
  obtain ⟨again, same, alike, fixed, -⟩ := reencode_of_decode opened fits
  have openedAgain := (alike (some unorderedExpected)).trans opened
  exact ⟨opened, fits, again, Except.ok.inj (same.symm.trans written), openedAgain,
    fixed _ _ openedAgain⟩

end AeadEnvelope.TagLength
