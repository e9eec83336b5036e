import AeadEnvelope.Proofs.ByteOrder
import AeadEnvelope.Proofs.Context.Filling
import AeadEnvelope.Proofs.TagLength.Structure

/-!
# What an opened packet is completed into

A packet is opened under an expected context. The values that it leaves open are those which the
expected context has under its placeholders, so the associated data that the ciphertext was made
with are determined by what was expected. Main statement: the packet is completed by those values
into the expected context, or the least key without a value is reported; and a completed context
is accepted for its base exactly if it has no further keys (`fill_of_decode`).
-/
namespace AeadEnvelope.TagLength

/-- A context that is found under an expected one agrees with it. -/
theorem agrees_of_decode {wire ciphertext : Bytes} {expected context : Context}
    (opened : (decode wire (some expected)).outcome = .ok ⟨some context, ciphertext⟩) :
    context.Agrees expected := by
  obtain ⟨-, -, -, verified⟩ := decode_outcome_eq_ok_iff.mp opened
  exact Context.compare_outcome_eq_ok_iff.mp verified

/-- What was expected of an opened packet determines its associated data. If the expected context
has a value under each placeholder of the packet, then the packet is completed by those values into
the expected context, and its associated data are the canonical text of that one. If not, the least
key in the order of bytes that is without a value is reported. A context that was completed from a
base with a canonical text is accepted for that base exactly if no key was added. -/
theorem fill_of_decode :
    (∀ (wire : Bytes) (expected context : Context) (ciphertext : Bytes),
      (decode wire (some expected)).outcome = .ok ⟨some context, ciphertext⟩ →
      ((∀ key, (expected.atPlaceholders context).values.find? key ≠ some none) →
        context.fill (expected.atPlaceholders context) = .ok expected ∧
          Context.associatedData (some context) (some (expected.atPlaceholders context)) =
            expected.canonical.map fun text => some (utf8 text)) ∧
      ((∃ key, (expected.atPlaceholders context).values.find? key = some none) →
        ∃ key, (expected.atPlaceholders context).values.find? key = some none ∧
          (∀ other, (expected.atPlaceholders context).values.find? other = some none →
            BytesBefore (utf8 key) (utf8 other) ∨ key = other) ∧
          context.fill (expected.atPlaceholders context) =
            .error (.missingAdditionalValue key))) ∧
    (∀ (base additional complete : Context) (text : String), base.canonical = .ok text →
      base.fill additional = .ok complete →
      ((Context.verify (some base) (some complete)).outcome = .ok () ↔
        ∀ key ∈ additional.keys, key ∈ base.keys)) := by
  constructor
  · intro wire expected context ciphertext opened
    have agreed := agrees_of_decode opened
    constructor
    · intro supplied
      have filled := Context.fill_atPlaceholders agreed supplied
      exact ⟨filled, Context.associatedData_of_fill filled⟩
    · intro vacant
      obtain ⟨key, missing, least, failed⟩ := Context.fill_atPlaceholders_missing agreed vacant
      exact ⟨key, missing, fun other without => le_iff_lex_utf8.mp (least other without), failed⟩
  · intro base additional complete text written filled
    have decided : (Context.verify (some base) (some complete)).outcome = .ok () ↔
        base.Agrees complete := Context.compare_outcome_eq_ok_iff
    exact decided.trans (Context.agrees_fill_iff written filled)

/-- A legacy wire whose mask names two keys, with a description in capitals. -/
def maskedWire : Bytes := [1, 0, 0, 0, 6, 1, 0, 3, 66, 61, 120, 3, 7, 7]

/-- The context of that wire. -/
def maskedContext : Context where
  values := ⟨[("b", some "x"), ("database_name", none), ("table_name", none)], by decide⟩
  named := by decide +kernel

/-- That context with a value under each key. -/
def unmaskedContext : Context where
  values := ⟨[("b", some "x"), ("database_name", some "d"), ("table_name", some "")], by decide⟩
  named := by decide +kernel

/-- That wire is opened under a context with all values, which it is completed into, and under one
without those that it leaves open, of which the first is reported. -/
theorem fill_of_decode_masked :
    (decode maskedWire (some unmaskedContext)).outcome = .ok ⟨some maskedContext, [7, 7]⟩ ∧
    Context.associatedData (some maskedContext)
        (some (unmaskedContext.atPlaceholders maskedContext)) =
      .ok (some (utf8 "b=x|database_name=d|table_name=")) ∧
    (Context.verify (some maskedContext) (some unmaskedContext)).outcome = .ok () ∧
    (decode maskedWire (some maskedContext)).outcome = .ok ⟨some maskedContext, [7, 7]⟩ ∧
    maskedContext.fill (maskedContext.atPlaceholders maskedContext) =
      .error (.missingAdditionalValue "database_name") := by
  have opened : (decode maskedWire (some unmaskedContext)).outcome =
      .ok ⟨some maskedContext, [7, 7]⟩ := by decide +kernel
  have openedBare : (decode maskedWire (some maskedContext)).outcome =
      .ok ⟨some maskedContext, [7, 7]⟩ := by decide +kernel
  have written : maskedContext.canonical = .ok "b=x|database_name|table_name" := by decide +kernel
  have given : (unmaskedContext.atPlaceholders maskedContext).values.entries =
      [("database_name", some "d"), ("table_name", some "")] := by decide +kernel
  have bare : (maskedContext.atPlaceholders maskedContext).values.entries =
      [("database_name", none), ("table_name", none)] := by decide +kernel
  have supplied : ∀ key,
      (unmaskedContext.atPlaceholders maskedContext).values.find? key ≠ some none := by
    intro key missing
    have listed := Dictionary.find?_eq_some_iff.mp missing
    simp [given] at listed
  obtain ⟨filled, associated⟩ := (fill_of_decode.1 _ _ _ _ opened).1 supplied
  obtain ⟨key, missing, least, failed⟩ :=
    (fill_of_decode.1 _ _ _ _ openedBare).2 ⟨"database_name", by decide +kernel⟩
  have verified := (fill_of_decode.2 _ _ _ _ written filled).mpr (by decide +kernel)
  have first : key = "database_name" := by
    have listed := Dictionary.find?_eq_some_iff.mp missing
    rcases least "database_name" (by decide +kernel) with before | same
    · rw [lex_utf8_iff] at before
      simp only [bare, List.mem_cons, Prod.mk.injEq, and_true, List.not_mem_nil, or_false] at listed
      rcases listed with rfl | rfl
      · rfl
      · exact absurd before (by decide)
    · exact same
  refine ⟨opened, ?_, verified, openedBare, first ▸ failed⟩
  rw [associated]
  decide +kernel

end AeadEnvelope.TagLength
