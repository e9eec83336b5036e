import AeadEnvelope.Proofs.TagLength.Structure

/-!
# Expectations without a canonical text

A value that is expected under a placeholder of a packet is left out before the two contexts are
compared, so a separator in it is not seen (`Context.Concealed`). Main statement: a wire is opened
under an expected context without a canonical text exactly when the context of the wire agrees with
it, which takes a placeholder wherever an expected value has a separator; an entry that offends
anywhere else is a mismatch (`decode_unwritten`).
-/
namespace AeadEnvelope

namespace Context

variable {packet expected : Context} {entry : String × Option String}

/-- An entry is not compared but for its key, which has no separator: it stands under a placeholder
of the packet. -/
structure Concealed (packet : Context) (entry : String × Option String) : Prop where
  /-- The key has no separator. -/
  plain : hasSeparator entry.1 = false
  /-- The packet has a placeholder under the key. -/
  vacant : packet.values.find? entry.1 = some none

/-- A context without a canonical text has an entry that has no place in one. -/
theorem exists_offends_of_canonical {fault : Fault}
    (unwritten : expected.canonical = .error fault) :
    ∃ entry ∈ expected.entries, offends entry = true := by
  apply Decidable.byContradiction
  intro placed
  simp only [not_exists, not_and, Bool.not_eq_true] at placed
  have written := canonical_eq_ok_iff.mpr ⟨placed, rfl⟩
  cases unwritten.symm.trans written

/-- Where two contexts agree, every expected entry that has no place in a canonical text is
concealed by the packet. -/
theorem Agrees.concealed (agreed : packet.Agrees expected) (listed : entry ∈ expected.entries)
    (offending : offends entry = true) : Concealed packet entry := by
  obtain ⟨text, written⟩ := agreed.written
  have theirs : expected.values.find? entry.1 = some entry.2 :=
    Dictionary.find?_eq_some_iff.mpr listed
  have held : entry.1 ∈ expected.keys := mem_keys_iff.mpr ⟨_, theirs⟩
  obtain ⟨value, ours⟩ := mem_keys_iff.mp ((agreed.sameKeys entry.1).mpr held)
  refine ⟨agreed.plainKeys entry.1 held, ?_⟩
  cases value with
  | none => exact ours
  | some value =>
    -- The packet has the same value, which has no separators as it is written.
    have same : some (some value) = some entry.2 :=
      (agreed.sameValues entry.1 value ours).symm.trans theirs
    have shared : entry = (entry.1, some value) := Prod.ext rfl (Option.some.inj same).symm
    have placed := (canonical_eq_ok_iff.mp written).1 _ (Dictionary.find?_eq_some_iff.mp ours)
    rw [shared, placed] at offending
    cases offending

/-- Of a concealed entry that has no place in a canonical text the value has a separator. -/
theorem Concealed.exists_value (concealed : Concealed packet entry)
    (offending : offends entry = true) :
    ∃ value, entry.2 = some value ∧ hasSeparator value = true := by
  obtain ⟨key, given⟩ := entry
  have plain : hasSeparator key = false := concealed.plain
  cases given with
  | none => simp [offends, plain] at offending
  | some value => exact ⟨value, rfl, by simpa [offends, plain] using offending⟩

end Context

namespace TagLength

/-- A wire under an expected context without a canonical text. It is opened exactly when it is read
and its context agrees with the expected one, and there is then a placeholder of the wire under
which a value with a separator is expected. An expected entry that has no place in a canonical text
and is not concealed by the wire is a mismatch; so is every such context where the wire has no
context. -/
theorem decode_unwritten {expected : Context} {fault : Fault}
    (unwritten : expected.canonical = .error fault) (wire : Bytes) :
    (∀ envelope, (decode wire (some expected)).outcome = .ok envelope ↔
      ∃ packet context, parse wire = .ok packet ∧ packet.envelope = envelope ∧
        envelope.context = some context ∧ context.Agrees expected ∧
        ∃ key value, expected.values.find? key = some (some value) ∧
          Context.hasSeparator value = true ∧ context.values.find? key = some none) ∧
    (∀ packet entry, parse wire = .ok packet → entry ∈ expected.entries →
      Context.offends entry = true →
      (∀ context, packet.envelope.context = some context → ¬ context.Concealed entry) →
      (decode wire (some expected)).outcome = .error .contextMismatch) := by
  constructor
  · intro envelope
    rw [decode_outcome_eq_ok_iff]
    constructor
    · rintro ⟨packet, read, rfl, accepted⟩
      obtain ⟨context, held, agreed⟩ := Context.verify_some_outcome_eq_ok_iff.mp accepted
      obtain ⟨⟨key, given⟩, listed, offending⟩ := Context.exists_offends_of_canonical unwritten
      have concealed := agreed.concealed listed offending
      obtain ⟨value, rfl, separated⟩ := concealed.exists_value offending
      exact ⟨packet, context, read, rfl, held, agreed, key, value,
        Dictionary.find?_eq_some_iff.mpr listed, separated, concealed.vacant⟩
    · rintro ⟨packet, context, read, rfl, held, agreed, -⟩
      exact ⟨packet, read, rfl, Context.verify_some_outcome_eq_ok_iff.mpr ⟨context, held, agreed⟩⟩
  · intro packet entry read listed offending seen
    rcases decode_outcome_of_parse_ok read (some expected) with ⟨accepted, -⟩ | ⟨-, mismatch⟩
    · obtain ⟨context, held, agreed⟩ := Context.verify_some_outcome_eq_ok_iff.mp accepted
      exact absurd (agreed.concealed listed offending) (seen context held)
    · exact mismatch

/-- The context that expects a value with a separator of one key. -/
def separatedContext : Context := .single "table_name" (some "a=b") (by decide +kernel)

/-- A value with a separator is a mismatch where the packet has a value as well. -/
theorem decode_unwritten_valued :
    separatedContext.canonical = .error (.forbiddenCharacter ["table_name"]) ∧
    parse [1, 0, 0, 0, 0, 2, 0, 12, 116, 97, 98, 108, 101, 95, 110, 97, 109, 101, 61, 97, 3] =
      .ok ⟨.legacy, [], ⟨some (.single "table_name" (some "a") (by decide +kernel)), []⟩⟩ ∧
    (decode [1, 0, 0, 0, 0, 2, 0, 12, 116, 97, 98, 108, 101, 95, 110, 97, 109, 101, 61, 97, 3]
      (some separatedContext)).outcome = .error .contextMismatch := by
  have unwritten : separatedContext.canonical = .error (.forbiddenCharacter ["table_name"]) := by
    decide +kernel
  have read : parse [1, 0, 0, 0, 0, 2, 0, 12, 116, 97, 98, 108, 101, 95, 110, 97, 109, 101, 61,
      97, 3] =
      .ok ⟨.legacy, [], ⟨some (.single "table_name" (some "a") (by decide +kernel)), []⟩⟩ := by
    decide +kernel
  refine ⟨unwritten, read, (decode_unwritten unwritten _).2 _ ("table_name", some "a=b") read
    List.mem_cons_self (by decide) ?_⟩
  rintro _ ⟨⟩ ⟨-, vacant⟩
  cases vacant

/-- A value with a separator, for which its context has no canonical text, is accepted under a
placeholder. -/
theorem decode_unwritten_masked :
    separatedContext.canonical = .error (.forbiddenCharacter ["table_name"]) ∧
    (decode [1, 0, 0, 0, 2, 3, 7] (some separatedContext)).outcome =
      .ok ⟨some (.single "table_name" none (by decide +kernel)), [7]⟩ := by
  constructor
  · decide +kernel
  · decide +kernel

end TagLength

end AeadEnvelope
