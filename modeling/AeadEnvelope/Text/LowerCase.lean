import AeadEnvelope.Text.LowerCase.Character
import AeadEnvelope.Text.Property.CaseIgnorable
import AeadEnvelope.Text.Property.Cased

/-!
# Lower case of a text

A text is put into lower case character by character, except for the capital sigma: at the end
of a word it becomes `ς`, elsewhere `σ`. It ends a word when the nearest character before it is
cased and the nearest one after it is not, where characters that are ignored next to cased ones
are passed over. Main statements: a lower-case form is its own lower-case form
(`lowerCase_lowerCase`), a text is its own lower-case form exactly when each of its characters
is (`lowerCase_eq_self_iff`), and only the empty text has an empty one (`lowerCase_eq_empty_iff`).
-/
namespace AeadEnvelope.Text

/-- Whether the nearest character that is not passed over is cased. -/
def startsCased (characters : List Char) : Bool :=
  match characters.dropWhile (fun character => caseIgnorable.contains character.toNat) with
  | [] => false
  | character :: _ => cased.contains character.toNat

/-- Lower-case form of a capital sigma between the characters `before`, nearest first, and the
characters `after`. -/
def lowerSigma (before after : List Char) : Char :=
  if startsCased before && !startsCased after then 'ς' else 'σ'

/-- Lower-case form of the characters that follow `before`, whose last one comes first. -/
def lowerAfter (before : List Char) : List Char → List Char
  | [] => []
  | character :: after =>
    (if character = 'Σ' then [lowerSigma before after] else lowerCharacter character) ++
      lowerAfter (character :: before) after

/-- Lower-case form of a text. -/
def lowerCase (text : String) : String := String.ofList (lowerAfter [] text.toList)

/-- A capital sigma is not its own lower-case form. -/
theorem lowerCharacter_sigma : lowerCharacter 'Σ' = ['σ'] := by decide +kernel

/-- Both small sigmas are settled. -/
theorem settled_lowerSigma (before after : List Char) : Settled (lowerSigma before after) := by
  unfold lowerSigma
  split
  · exact ⟨by decide +kernel, by decide, by decide⟩
  · exact ⟨by decide +kernel, by decide, by decide⟩

/-- A character of a lower-case form was there before or is settled. -/
theorem mem_or_settled_of_mem_lowerAfter {before characters : List Char} {lower : Char}
    (member : lower ∈ lowerAfter before characters) : lower ∈ characters ∨ Settled lower := by
  induction characters generalizing before with
  | nil => simp [lowerAfter] at member
  | cons character after step =>
    rw [lowerAfter, List.mem_append] at member
    rcases member with here | later
    · split at here
      · rw [List.mem_singleton] at here
        exact Or.inr (here ▸ settled_lowerSigma before after)
      · rcases eq_or_settled_of_mem_lowerCharacter here with same | settled
        · exact Or.inl (by simp [same])
        · exact Or.inr settled
    · rcases step later with old | settled
      · exact Or.inl (by simp [old])
      · exact Or.inr settled

/-- Every character of a lower-case form is its own lower-case form. -/
theorem lowerCharacter_of_mem_lowerAfter {before characters : List Char} {lower : Char}
    (member : lower ∈ lowerAfter before characters) : lowerCharacter lower = [lower] := by
  induction characters generalizing before with
  | nil => simp [lowerAfter] at member
  | cons character after step =>
    rw [lowerAfter, List.mem_append] at member
    rcases member with here | later
    · split at here
      · rw [List.mem_singleton] at here
        exact here ▸ (settled_lowerSigma before after).lowerCharacter_eq
      · exact lowerCharacter_of_mem here
    · exact step later

/-- Characters that are their own lower-case forms stay as they are. -/
theorem lowerAfter_eq_self {before characters : List Char}
    (lower : ∀ character ∈ characters, lowerCharacter character = [character]) :
    lowerAfter before characters = characters := by
  induction characters generalizing before with
  | nil => rfl
  | cons character after step =>
    have here := lower character (by simp)
    have small : character ≠ 'Σ' := fun same => by
      rw [same, lowerCharacter_sigma] at here
      exact absurd here (by decide)
    rw [lowerAfter, if_neg small, here, step fun other listed => lower other (by simp [listed])]
    rfl

/-- A lower-case form has at least as many characters as its text. -/
theorem length_le_length_lowerAfter (before characters : List Char) :
    characters.length ≤ (lowerAfter before characters).length := by
  induction characters generalizing before with
  | nil => simp
  | cons character after step =>
    rw [lowerAfter, List.length_append, List.length_cons]
    have rest := step (character :: before)
    have here : 1 ≤ (if character = 'Σ' then [lowerSigma before after]
        else lowerCharacter character).length := by
      split
      · simp
      · exact List.length_pos_iff.mpr (lowerCharacter_ne_nil character)
    omega

/-- Every character of the lower-case form of a text is its own lower-case form. -/
theorem lowerCharacter_of_mem_lowerCase {text : String} {lower : Char}
    (member : lower ∈ (lowerCase text).toList) : lowerCharacter lower = [lower] := by
  rw [lowerCase, String.toList_ofList] at member
  exact lowerCharacter_of_mem_lowerAfter member

/-- A text is its own lower-case form exactly when each of its characters is. -/
theorem lowerCase_eq_self_iff {text : String} :
    lowerCase text = text ↔
      ∀ character ∈ text.toList, lowerCharacter character = [character] := by
  constructor
  · intro same character member
    rw [← same] at member
    exact lowerCharacter_of_mem_lowerCase member
  · intro lower
    rw [lowerCase, lowerAfter_eq_self lower, String.ofList_toList]

/-- A lower-case form is its own lower-case form. -/
theorem lowerCase_lowerCase (text : String) : lowerCase (lowerCase text) = lowerCase text :=
  lowerCase_eq_self_iff.mpr fun _ member => lowerCharacter_of_mem_lowerCase member

/-- Only the empty text has an empty lower-case form. -/
theorem lowerCase_eq_empty_iff {text : String} : lowerCase text = "" ↔ text = "" := by
  constructor
  · intro empty
    have := length_le_length_lowerAfter [] text.toList
    rw [← String.toList_inj, lowerCase, String.toList_ofList] at empty
    rw [empty] at this
    rw [← String.toList_inj]
    exact List.length_eq_zero_iff.mp (Nat.le_zero.mp this)
  · rintro rfl
    rfl

end AeadEnvelope.Text
