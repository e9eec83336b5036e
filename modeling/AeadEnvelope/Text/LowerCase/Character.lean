import AeadEnvelope.Text.LowerCase.Table
import AeadEnvelope.Text.Property.Blank

/-!
# Lower case of one character

`lowerCharacter` is the lower-case form of a character taken on its own. Main statements: every
character of a lower-case form is its own lower-case form (`lowerCharacter_of_mem`), and a
lower-case form brings in no white space and no mark of ASCII that was not there before
(`eq_or_settled_of_mem_lowerCharacter`).
-/
namespace AeadEnvelope.Text

/-- Whether a run gives a lower-case form to a code point. -/
def CaseRun.Covers (run : CaseRun) (code : Nat) : Prop :=
  run.first ≤ code ∧ code ≤ run.last ∧ (code - run.first) % run.step = 0

instance (run : CaseRun) (code : Nat) : Decidable (run.Covers code) :=
  inferInstanceAs (Decidable (_ ∧ _ ∧ _))

/-- Lower-case form of a code point under runs in ascending order; itself when none covers it. -/
def lowerCode : List CaseRun → Nat → Nat
  | [], code => code
  | run :: later, code =>
    if code < run.first then code
    else if run.Covers code then run.image + (code - run.first)
    else lowerCode later code

/-- Lower-case form of a character taken on its own, of one or two characters. -/
def lowerCharacter (character : Char) : List Char :=
  if character = '\u0130' then ['i', '\u0307']
  else [Char.ofNat (lowerCode caseRuns character.toNat)]

/-- A code point that no run covers is its own lower-case form. -/
theorem lowerCode_of_not_covers {runs : List CaseRun} {code : Nat}
    (uncovered : ∀ run ∈ runs, ¬ run.Covers code) : lowerCode runs code = code := by
  induction runs with
  | nil => rfl
  | cons run later step =>
    simp only [lowerCode, uncovered run (by simp), if_false]
    split
    · rfl
    · exact step fun other listed => uncovered other (by simp [listed])

/-- A lower-case form is the code point itself or the form that a run covering it gives. -/
theorem lowerCode_cases (runs : List CaseRun) (code : Nat) :
    lowerCode runs code = code ∨
      ∃ run ∈ runs, run.Covers code ∧ lowerCode runs code = run.image + (code - run.first) := by
  induction runs with
  | nil => exact Or.inl rfl
  | cons run later step =>
    simp only [lowerCode]
    split
    · exact Or.inl rfl
    · split
      · next covered => exact Or.inr ⟨run, by simp, covered, rfl⟩
      · rcases step with same | ⟨other, listed, found⟩
        · exact Or.inl same
        · exact Or.inr ⟨other, by simp [listed], found⟩

/-- Last lower-case form that a run gives. -/
def CaseRun.imageLast (run : CaseRun) : Nat := run.image + (run.last - run.first)

/-- A test that no lower-case form of the left run is covered by the right one: their ranges are
apart, or both go by twos and one holds even and the other odd code points. -/
def CaseRun.misses (left right : CaseRun) : Bool :=
  decide (left.imageLast < right.first) || decide (right.last < left.image) ||
    (left.step == 2 || left.first == left.last) && right.step == 2 &&
      left.image % 2 != right.first % 2

/-- The test of two runs is sound. -/
theorem CaseRun.not_covers_of_misses {left right : CaseRun} (apart : left.misses right = true)
    {code : Nat} (covered : left.Covers code) :
    ¬ right.Covers (left.image + (code - left.first)) := by
  obtain ⟨after, before, even⟩ := covered
  rintro ⟨start, stop, stride⟩
  simp only [misses, Bool.or_eq_true, Bool.and_eq_true, decide_eq_true_eq, beq_iff_eq,
    bne_iff_ne] at apart
  rcases apart with (low | high) | ⟨⟨paired, two⟩, parity⟩
  · simp only [imageLast] at low
    omega
  · omega
  · rw [two] at stride
    rcases paired with steps | single
    · rw [steps] at even
      omega
    · have : code = left.first := by omega
      subst this
      omega

/-- A test that every lower-case form of a run is a character past the marks of ASCII and is
neither `U+0130` nor white space. -/
def CaseRun.settles (run : CaseRun) : Bool :=
  (decide (0x61 ≤ run.image) && decide (run.imageLast ≤ 0x7A) ||
    decide (0x80 ≤ run.image) && decide (run.imageLast < 0xD800) ||
    decide (0xE000 ≤ run.image) && decide (run.imageLast < 0x110000)) &&
  (decide (run.imageLast < 0x130) || decide (0x130 < run.image)) &&
  blanks.listed.all (fun range => decide (run.imageLast < range.1) || decide (range.2 < run.image))

set_option maxRecDepth 4000 in
/-- No lower-case form in the table is covered by a run of the table. -/
theorem caseRuns_misses : ∀ left ∈ caseRuns, ∀ right ∈ caseRuns, left.misses right = true := by
  have every : caseRuns.all (fun left => caseRuns.all left.misses) = true := by decide +kernel
  intro left leftListed right rightListed
  exact List.all_eq_true.mp (List.all_eq_true.mp every left leftListed) right rightListed

set_option maxRecDepth 4000 in
/-- Every lower-case form in the table passes the test. -/
theorem caseRuns_settles : ∀ run ∈ caseRuns, run.settles = true := by
  have every : caseRuns.all CaseRun.settles = true := by decide +kernel
  exact fun run listed => List.all_eq_true.mp every run listed

/-- What holds of every character that a change to lower case brings in: it is its own
lower-case form, past the marks of ASCII, and no white space. -/
structure Settled (character : Char) : Prop where
  /-- It is its own lower-case form. -/
  lowerCharacter_eq : lowerCharacter character = [character]
  /-- It is not white space. -/
  not_blank : blanks.contains character.toNat = false
  /-- It is a small letter of ASCII or beyond ASCII. -/
  past_marks : 0x61 ≤ character.toNat ∧ (character.toNat ≤ 0x7A ∨ 0x80 ≤ character.toNat)

/-- A settled character is no mark of ASCII, neither one before its small letters nor behind them. -/
theorem Settled.ne_mark {character mark : Char} (settled : Settled character)
    (apart : mark.toNat < 0x61 ∨ 0x7A < mark.toNat ∧ mark.toNat < 0x80) : character ≠ mark := by
  have past := settled.past_marks
  rintro rfl
  omega

/-- A character of the table's lower-case forms is settled. -/
theorem CaseRun.settled {run : CaseRun} (listed : run ∈ caseRuns) {code : Nat}
    (covered : run.Covers code) : Settled (Char.ofNat (run.image + (code - run.first))) := by
  have tested := caseRuns_settles run listed
  have uncovered : ∀ other ∈ caseRuns, ¬ other.Covers (run.image + (code - run.first)) :=
    fun other otherListed =>
      not_covers_of_misses (caseRuns_misses run listed other otherListed) covered
  obtain ⟨after, before, -⟩ := covered
  simp only [settles, Bool.or_eq_true, Bool.and_eq_true, decide_eq_true_eq,
    List.all_eq_true] at tested
  simp only [imageLast] at tested
  obtain ⟨⟨bounds, dotted⟩, unblank⟩ := tested
  have valid : (run.image + (code - run.first)).isValidChar := by
    simp only [Nat.isValidChar]
    omega
  have read : (Char.ofNat (run.image + (code - run.first))).toNat
      = run.image + (code - run.first) := by
    rw [Char.ofNat, dif_pos valid]
    rfl
  have undotted : Char.ofNat (run.image + (code - run.first)) ≠ '\u0130' := fun same => by
    have := congrArg Char.toNat same
    simp only [read, Char.reduceToNat] at this
    omega
  refine ⟨?_, ?_, ?_⟩
  · rw [lowerCharacter, if_neg undotted, read, lowerCode_of_not_covers uncovered]
  · rw [read, Bool.eq_false_iff, Ne, Ranges.contains_eq_true_iff]
    rintro ⟨range, member, start, stop⟩
    have := unblank range member
    omega
  · rw [read]
    omega

/-- The lower-case form of a character is that character alone, or all of it is settled. -/
theorem lowerCharacter_cases (character : Char) :
    lowerCharacter character = [character] ∨ ∀ lower ∈ lowerCharacter character, Settled lower := by
  by_cases dotted : character = '\u0130'
  · right
    subst dotted
    have small : Settled 'i' := ⟨by decide +kernel, by decide, by decide⟩
    have above : Settled '\u0307' := ⟨by decide +kernel, by decide, by decide⟩
    simpa [lowerCharacter] using ⟨small, above⟩
  · simp only [lowerCharacter, if_neg dotted]
    rcases lowerCode_cases caseRuns character.toNat with same | ⟨run, listed, covered, found⟩
    · left
      rw [same, Char.ofNat_toNat]
    · right
      intro lower member
      rw [found, List.mem_singleton] at member
      exact member ▸ run.settled listed covered

/-- A character of a lower-case form was there before or is settled. -/
theorem eq_or_settled_of_mem_lowerCharacter {character lower : Char}
    (member : lower ∈ lowerCharacter character) : lower = character ∨ Settled lower := by
  rcases lowerCharacter_cases character with same | settled
  · rw [same, List.mem_singleton] at member
    exact Or.inl member
  · exact Or.inr (settled lower member)

/-- Every character of a lower-case form is its own lower-case form. -/
theorem lowerCharacter_of_mem {character lower : Char}
    (member : lower ∈ lowerCharacter character) : lowerCharacter lower = [lower] := by
  rcases lowerCharacter_cases character with same | settled
  · rw [same, List.mem_singleton] at member
    rw [member, same]
  · exact (settled lower member).lowerCharacter_eq

/-- No character has an empty lower-case form. -/
theorem lowerCharacter_ne_nil (character : Char) : lowerCharacter character ≠ [] := by
  unfold lowerCharacter
  split <;> simp

end AeadEnvelope.Text
