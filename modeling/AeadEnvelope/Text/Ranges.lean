/-!
# Sets of code points

A character property is given by the ranges of code points that have it. The ranges carry their
ascending order, so a search may end at the first range that starts past the code point. Main
statement: a search finds exactly the code points that lie in one of the ranges
(`Ranges.contains_eq_true_iff`).
-/
namespace AeadEnvelope.Text

/-- Whether no range is empty and each one ends before the next one starts. A range is given by its
first and its last member. -/
def ascend : List (Nat × Nat) → Bool
  | [] => true
  | [range] => decide (range.1 ≤ range.2)
  | range :: next :: later =>
    decide (range.1 ≤ range.2) && decide (range.2 < next.1) && ascend (next :: later)

/-- Ranges of code points in ascending order. -/
structure Ranges where
  /-- The ranges, each given by its first and its last member. -/
  listed : List (Nat × Nat)
  /-- No range is empty, and each one ends before the next one starts. -/
  ascending : ascend listed = true

/-- Whether a search finds a code point, which ends at the first range that starts past it. -/
def search : List (Nat × Nat) → Nat → Bool
  | [], _ => false
  | (first, last) :: later, code =>
    if code < first then false else if code ≤ last then true else search later code

/-- What is left of ascending ranges without the first one is ascending. -/
theorem ascend_of_cons {range : Nat × Nat} {later : List (Nat × Nat)}
    (sorted : ascend (range :: later) = true) : ascend later = true := by
  cases later with
  | nil => rfl
  | cons next rest =>
    simp only [ascend, Bool.and_eq_true] at sorted
    exact sorted.2

/-- Every range behind the first one of ascending ranges starts past it. -/
theorem lt_of_mem_of_ascend {range : Nat × Nat} {later : List (Nat × Nat)}
    (sorted : ascend (range :: later) = true) :
    ∀ other ∈ later, range.1 ≤ range.2 ∧ range.2 < other.1 := by
  induction later generalizing range with
  | nil => simp
  | cons next rest step =>
    have after := step (ascend_of_cons sorted)
    simp only [ascend, Bool.and_eq_true, decide_eq_true_eq] at sorted
    obtain ⟨⟨proper, before⟩, -⟩ := sorted
    intro other listed
    rcases List.mem_cons.mp listed with rfl | behind
    · exact ⟨proper, before⟩
    · have := after other behind
      omega

/-- A search in ascending ranges finds exactly the code points that lie in one of them. -/
theorem search_eq_true_iff {ranges : List (Nat × Nat)} (sorted : ascend ranges = true)
    {code : Nat} :
    search ranges code = true ↔ ∃ range ∈ ranges, range.1 ≤ code ∧ code ≤ range.2 := by
  induction ranges with
  | nil => simp [search]
  | cons range later step =>
    have past := lt_of_mem_of_ascend sorted
    have rest := step (ascend_of_cons sorted)
    simp only [search, List.mem_cons, exists_eq_or_imp]
    split
    · next below =>
      constructor
      · intro impossible
        exact absurd impossible (by decide)
      · rintro (⟨start, -⟩ | ⟨other, listed, start, -⟩)
        · omega
        · have := past other listed
          omega
    · split
      · next start stop =>
        exact ⟨fun _ => Or.inl ⟨by omega, stop⟩, fun _ => rfl⟩
      · next start stop =>
        rw [rest]
        constructor
        · exact Or.inr
        · rintro (⟨-, stop'⟩ | found)
          · exact absurd stop' stop
          · exact found

namespace Ranges

/-- Whether a code point lies in one of the ranges. -/
def contains (ranges : Ranges) (code : Nat) : Bool := search ranges.listed code

/-- A code point is found exactly if it lies in one of the ranges. -/
theorem contains_eq_true_iff {ranges : Ranges} {code : Nat} :
    ranges.contains code = true ↔ ∃ range ∈ ranges.listed, range.1 ≤ code ∧ code ≤ range.2 :=
  search_eq_true_iff ranges.ascending

end Ranges

end AeadEnvelope.Text
