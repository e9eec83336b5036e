import AeadEnvelope.Context.Fill
import AeadEnvelope.Proofs.Context.CanonicalText
import AeadEnvelope.Proofs.Outcome

/-!
# Canonical forms of texts

A text that is read as a context is put into its canonical form by writing that context
(`canonicalForm`). Segments are cut out at the separators, and putting a key into lower case brings
in none (`hasSeparator_lowerCase`), so a context that is read of a text can always be written
(`exists_canonical_of_parse`). Main statement: the canonical text is a faithful encoding of
contexts, so canonical forms stay as they are, and the same associated data are only ever made of
the same completed context (`canonical_faithful`).
-/
namespace AeadEnvelope

/-- No piece of a list that is split at a separator has the separator. -/
theorem not_mem_of_mem_splitOn {separator : Char} {list piece : List Char}
    (listed : piece ∈ list.splitOn separator) : separator ∉ piece := by
  induction list generalizing piece with
  | nil =>
    rw [List.splitOn_nil, List.mem_singleton] at listed
    rw [listed]
    exact List.not_mem_nil
  | cons head tail step =>
    rw [List.splitOn_cons_eq_if_modifyHead] at listed
    by_cases cut : head = separator
    · rw [if_pos (beq_iff_eq.mpr cut), List.mem_cons] at listed
      rcases listed with rfl | later
      · exact List.not_mem_nil
      · exact step later
    · have kept : ¬ (head == separator) = true := fun same => cut (beq_iff_eq.mp same)
      rw [if_neg kept] at listed
      have nonempty := List.splitOn_ne_nil separator tail
      obtain ⟨first, others, split⟩ := List.exists_cons_of_ne_nil nonempty
      rw [split, List.modifyHead_cons, List.mem_cons] at listed
      rcases listed with rfl | later
      · have uncut : separator ∉ first := step (by simp [split])
        rw [List.mem_cons, not_or]
        exact ⟨fun same => cut same.symm, uncut⟩
      · exact step (by simp [split, later])

namespace Context

/-- No segment of a text has an entry separator. -/
theorem entrySeparator_not_mem_segment {text : String} {segment : List Char}
    (listed : segment ∈ segments text) : entrySeparator ∉ segment := by
  rw [segments] at listed
  split at listed
  · exact absurd listed List.not_mem_nil
  · exact not_mem_of_mem_splitOn listed

/-- A character that a change to lower case brings in is no separator. -/
theorem ne_separator_of_settled {character : Char} (settled : Text.Settled character) :
    character ≠ valueSeparator ∧ character ≠ entrySeparator := by
  have value : character ≠ valueSeparator := settled.ne_mark (by decide)
  have entry : character ≠ entrySeparator := settled.ne_mark (by decide)
  exact ⟨value, entry⟩

/-- A change to lower case brings in no separator. -/
theorem hasSeparator_lowerCase {text : String} (plain : hasSeparator text = false) :
    hasSeparator (Text.lowerCase text) = false := by
  rw [hasSeparator_eq_false_iff] at plain ⊢
  have kept : ∀ separator, separator ∉ text.toList → ¬ Text.Settled separator →
      separator ∉ (Text.lowerCase text).toList := by
    intro separator missing unsettled member
    rw [Text.lowerCase, String.toList_ofList] at member
    rcases Text.mem_or_settled_of_mem_lowerAfter member with old | settled
    · exact missing old
    · exact unsettled settled
  exact ⟨kept _ plain.1 fun settled => (ne_separator_of_settled settled).1 rfl,
    kept _ plain.2 fun settled => (ne_separator_of_settled settled).2 rfl⟩

/-- The entry that is read of a segment has a place in a canonical text. -/
theorem offends_readEntry {segment : List Char} (readable : Readable segment)
    (uncut : entrySeparator ∉ segment) : offends (readEntry segment) = false := by
  by_cases marked : valueSeparator ∈ segment
  · obtain ⟨key, value, rfl, bare⟩ := List.eq_append_cons_of_mem marked
    have cut := segmentEntry_append_cons bare value
    simp only [List.mem_append, List.mem_cons, not_or] at uncut
    have single : valueSeparator ∉ value := by
      have once := readable.single (String.ofList value) (by rw [cut])
      rwa [String.toList_ofList] at once
    rw [readEntry, cut, lowered, offends_eq_false_iff]
    constructor
    · apply hasSeparator_lowerCase
      rw [hasSeparator_eq_false_iff, String.toList_ofList]
      exact ⟨bare, uncut.1⟩
    · intro found given
      obtain rfl := Option.some.inj given
      rw [hasSeparator_eq_false_iff, String.toList_ofList]
      exact ⟨single, uncut.2.2⟩
  · rw [readEntry, segmentEntry_of_not_mem marked, lowered, offends_eq_false_iff]
    constructor
    · apply hasSeparator_lowerCase
      rw [hasSeparator_eq_false_iff, String.toList_ofList]
      exact ⟨marked, uncut⟩
    · intro found given
      cases given

/-- A context that is read of a text has a canonical text. -/
theorem exists_canonical_of_parse {text : String} {context : Context}
    (read : parse text = .ok context) : ∃ written, context.canonical = .ok written := by
  obtain ⟨readable, permuted⟩ := parse_eq_ok_iff.mp read
  refine ⟨_, canonical_eq_ok_iff.mpr ⟨?_, rfl⟩⟩
  intro entry held
  obtain ⟨segment, listed, rfl⟩ := List.mem_map.mp (permuted.symm.subset held)
  exact offends_readEntry (readable segment listed) (entrySeparator_not_mem_segment listed)

/-- The canonical form of a text: the canonical text of the context that is read of it. -/
def canonicalForm (text : String) : Except Fault String := do
  (← parse text).canonical

/-- A text has a canonical form exactly when it is read as a context, and it is then the canonical
text of that context. -/
theorem canonicalForm_eq_ok_iff {text written : String} :
    canonicalForm text = .ok written ↔
      ∃ context, parse text = .ok context ∧ context.canonical = .ok written :=
  Outcome.bind_eq_ok_iff

/-- A canonical text is its own canonical form. -/
theorem canonicalForm_canonical {context : Context} {text : String}
    (written : context.canonical = .ok text) : canonicalForm text = .ok text :=
  canonicalForm_eq_ok_iff.mpr ⟨context, parse_canonical written, written⟩

/-- The canonical form of a canonical form is that form. -/
theorem canonicalForm_idempotent (text : String) :
    (canonicalForm text).bind canonicalForm = canonicalForm text := by
  cases formed : canonicalForm text with
  | error fault => rfl
  | ok written =>
    obtain ⟨context, -, canonical⟩ := canonicalForm_eq_ok_iff.mp formed
    exact canonicalForm_canonical canonical

/-- Bytes are the associated data of a context completed by an additional one exactly when they are
the UTF-8 form of its canonical text. -/
theorem associatedData_some_eq_ok_iff {base : Context} {additional : Option Context}
    {bytes : Bytes} :
    associatedData (some base) additional = .ok (some bytes) ↔
      ∃ complete text, base.fill (additional.getD empty) = .ok complete ∧
        complete.canonical = .ok text ∧ utf8 text = bytes := by
  simp only [associatedData, canonicalWith, Outcome.bind_eq_ok_iff, pure, Except.pure,
    Except.ok.injEq, Option.some.injEq]
  constructor
  · rintro ⟨text, ⟨complete, filled, written⟩, same⟩
    exact ⟨complete, text, filled, written, same⟩
  · rintro ⟨complete, text, filled, written, same⟩
    exact ⟨text, ⟨complete, filled, written⟩, same⟩

/-- The canonical text is a faithful encoding. It is read as the context that it was written from.
A context that is read of a text can be written, and what is written is its own canonical form.
Contexts with the same canonical text are the same, and so are completed contexts with the same
associated data. -/
theorem canonical_faithful :
    (∀ (context : Context) (text : String), context.canonical = .ok text →
      parse text = .ok context) ∧
    (∀ (text : String) (context : Context), parse text = .ok context →
      ∃ written, context.canonical = .ok written ∧ canonicalForm text = .ok written) ∧
    (∀ text : String, (canonicalForm text).bind canonicalForm = canonicalForm text) ∧
    (∀ (left right : Context) (text : String), left.canonical = .ok text →
      right.canonical = .ok text → left = right) ∧
    (∀ (base other : Context) (additional otherAdditional : Option Context) (bytes : Bytes),
      associatedData (some base) additional = .ok (some bytes) →
      associatedData (some other) otherAdditional = .ok (some bytes) →
      ∃ complete, base.fill (additional.getD empty) = .ok complete ∧
        other.fill (otherAdditional.getD empty) = .ok complete) := by
  refine ⟨fun context text => parse_canonical, ?_, canonicalForm_idempotent,
    fun left right text => canonical_injective, ?_⟩
  · intro text context read
    obtain ⟨written, canonical⟩ := exists_canonical_of_parse read
    exact ⟨written, canonical, canonicalForm_eq_ok_iff.mpr ⟨context, read, canonical⟩⟩
  · intro base other additional otherAdditional bytes first second
    obtain ⟨complete, text, filled, written, rfl⟩ := associatedData_some_eq_ok_iff.mp first
    obtain ⟨otherComplete, otherText, otherFilled, otherWritten, same⟩ :=
      associatedData_some_eq_ok_iff.mp second
    obtain rfl : otherText = text := utf8_injective same
    obtain rfl : complete = otherComplete := canonical_injective written otherWritten
    exact ⟨complete, filled, otherFilled⟩

/-- A context of one placeholder. -/
def vacantContext : Context := single "id" none (by decide +kernel)

/-- A context with a value under that placeholder. -/
def suppliedContext : Context := single "id" (some "v") (by decide +kernel)

/-- A text in capitals and out of order is put into its canonical form once, and the same associated
data are those of a placeholder that is given its value and of the value itself. -/
theorem canonical_faithful_supplied :
    (canonicalForm "B=X|a").bind canonicalForm = .ok "a|b=X" ∧
    parse "id=v" = .ok suppliedContext ∧
    associatedData (some vacantContext) (some suppliedContext) = .ok (some (utf8 "id=v")) ∧
    associatedData (some suppliedContext) none = .ok (some (utf8 "id=v")) ∧
    ∃ complete, vacantContext.fill suppliedContext = .ok complete ∧
      suppliedContext.fill empty = .ok complete := by
  obtain ⟨readBack, -, stable, -, bound⟩ := canonical_faithful
  have formed : canonicalForm "B=X|a" = .ok "a|b=X" := by decide +kernel
  have written : suppliedContext.canonical = .ok "id=v" := by decide +kernel
  have given : associatedData (some vacantContext) (some suppliedContext) =
      .ok (some (utf8 "id=v")) := by decide +kernel
  have own : associatedData (some suppliedContext) none = .ok (some (utf8 "id=v")) := by
    decide +kernel
  exact ⟨(stable _).trans formed, readBack _ _ written, given, own, bound _ _ _ _ _ given own⟩

end Context

end AeadEnvelope
