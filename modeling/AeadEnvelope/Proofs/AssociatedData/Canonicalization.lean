import AeadEnvelope.Proofs.AssociatedData.Normalization
import AeadEnvelope.Proofs.Base128

/-!
# Associated data are those of one list of normalized pairs

Every text stands behind its length and the pairs stand behind their count, so pairs are found again
from their bytes (`bytesOf_injective`). Main statements: a list of pairs has associated data exactly
when it is `Canonical`, and they are then the bytes of its normalized pairs, or none where there is
no pair (`canonicalize_eq_ok_iff`); and two lists have the same ones exactly when their normalized
pairs are the same (`boundBytes_eq_iff`).
-/
namespace AeadEnvelope.AssociatedData

variable {limits : Limits} {pairs left right : List (String × String)}

/-- A text is found again behind its length, whatever follows it. -/
theorem sizedBytes_append_inj {left right : String} {later rest : Bytes}
    (same : sizedBytes left ++ later = sizedBytes right ++ rest) : left = right ∧ later = rest := by
  unfold sizedBytes at same
  rw [List.append_assoc, List.append_assoc] at same
  obtain ⟨sizes, contents⟩ := Base128.encode_append_inj same
  have lengths : (utf8 left).length = (utf8 right).length := by
    rw [length_utf8, length_utf8, sizes]
  obtain ⟨texts, behind⟩ := List.append_inj contents lengths
  exact ⟨utf8_injective texts, behind⟩

/-- The key and the value of a pair, each behind its length. -/
def pairBytes (pair : String × String) : Bytes := sizedBytes pair.1 ++ sizedBytes pair.2

/-- As many pairs are found again from their bytes in a row. -/
theorem flatMap_pairBytes_inj (counts : left.length = right.length)
    (same : left.flatMap pairBytes = right.flatMap pairBytes) : left = right := by
  induction left generalizing right with
  | nil => exact (List.eq_nil_of_length_eq_zero counts.symm).symm
  | cons pair later step =>
    cases right with
    | nil => cases counts
    | cons other rest =>
      -- The lengths of the pieces are not fixed, so each one is split off by its own length.
      simp only [List.flatMap_cons, pairBytes, List.append_assoc] at same
      obtain ⟨keys, values⟩ := sizedBytes_append_inj same
      obtain ⟨texts, behind⟩ := sizedBytes_append_inj values
      have pairs : pair = other := Prod.ext keys texts
      rw [pairs, step (Nat.succ.inj counts) behind]

/-- Pairs are found again from their bytes. -/
theorem bytesOf_injective (same : bytesOf left = bytesOf right) : left = right := by
  obtain ⟨counts, contents⟩ := Base128.encode_append_inj same
  exact flatMap_pairBytes_inj counts contents

/-- The count of pairs takes a byte even if it is zero. -/
theorem bytesOf_ne_nil (pairs : List (String × String)) : bytesOf pairs ≠ [] := by
  intro empty
  obtain ⟨terminated, -⟩ := Base128.terminated_encode pairs.length
  have count : Base128.encode pairs.length = [] := (List.append_eq_nil_iff.mp empty).1
  rw [count] at terminated
  cases terminated

/-- A text behind its length takes as many bytes as are foretold. -/
theorem length_sizedBytes (text : String) : (sizedBytes text).length = sizedLength text := by
  rw [sizedBytes, List.length_append, Base128.length_encode, length_utf8, sizedLength]

/-- Pairs in a row take as many bytes as are foretold. -/
theorem length_flatMap_pairBytes (pairs : List (String × String)) :
    (pairs.flatMap pairBytes).length = pairsLength pairs := by
  induction pairs with
  | nil => rfl
  | cons pair later step =>
    rw [List.flatMap_cons, List.length_append, step, pairBytes, List.length_append,
      length_sizedBytes, length_sizedBytes]
    rfl

/-- Pairs take as many bytes as are foretold. -/
theorem length_bytesOf (pairs : List (String × String)) :
    (bytesOf pairs).length = lengthOf pairs := by
  have contents := length_flatMap_pairBytes pairs
  unfold pairBytes at contents
  rw [bytesOf, List.length_append, Base128.length_encode, contents, lengthOf]

/-- Pairs that can be bound together. -/
structure Canonical (limits : Limits) (pairs : List (String × String)) : Prop where
  /-- Each pair can be bound. -/
  admissible : ∀ pair ∈ pairs, Admissible limits pair
  /-- No normalized key occurs twice. -/
  distinct : (pairs.map normalizedKey).Nodup
  /-- Their bytes, if there are any, are few enough. -/
  short : pairs ≠ [] → (bytesOf (normalized pairs)).length ≤ limits.whole

/-- The bytes of the normalized pairs, or none where there is no pair. -/
def boundBytes (pairs : List (String × String)) : Option Bytes :=
  if pairs = [] then none else some (bytesOf (normalized pairs))

/-- There are no normalized pairs exactly if there are no pairs. -/
theorem normalized_eq_nil_iff : normalized pairs = [] ↔ pairs = [] := by
  rw [← List.length_eq_zero_iff, length_normalized, List.length_eq_zero_iff]

/-- Pairs have associated data exactly if they can be bound together, and these are the bytes of
the normalized pairs. -/
theorem canonicalize_eq_ok_iff {given : Option (List (String × String))} {found : Option Bytes} :
    canonicalize limits given = .ok found ↔
      Canonical limits (given.getD []) ∧ found = boundBytes (given.getD []) := by
  rw [canonicalize, Outcome.bind_eq_ok_iff]
  generalize given.getD [] = pairs
  constructor
  · rintro ⟨entries, bound, written⟩
    obtain ⟨admissible, distinct, rfl⟩ := admitted_eq_ok_iff.mp bound
    by_cases empty : pairs = []
    · rw [if_pos (normalized_eq_nil_iff.mpr empty)] at written
      refine ⟨⟨admissible, distinct, fun filled => absurd empty filled⟩, ?_⟩
      rw [boundBytes, if_pos empty]
      exact (Except.ok.inj written).symm
    · rw [if_neg (mt normalized_eq_nil_iff.mp empty)] at written
      split at written
      · cases written
      · next fits =>
        rw [← length_bytesOf] at fits
        refine ⟨⟨admissible, distinct, fun _ => Nat.le_of_not_lt fits⟩, ?_⟩
        rw [boundBytes, if_neg empty]
        exact (Except.ok.inj written).symm
  · rintro ⟨⟨admissible, distinct, short⟩, rfl⟩
    refine ⟨normalized pairs, admitted_eq_ok_iff.mpr ⟨admissible, distinct, rfl⟩, ?_⟩
    by_cases empty : pairs = []
    · rw [if_pos (normalized_eq_nil_iff.mpr empty), boundBytes, if_pos empty]
      rfl
    · have fits : ¬ limits.whole < lengthOf (normalized pairs) := by
        rw [← length_bytesOf]
        exact Nat.not_lt.mpr (short empty)
      rw [if_neg (mt normalized_eq_nil_iff.mp empty), if_neg fits, boundBytes, if_neg empty]
      rfl

/-- There are no associated data exactly if there is no pair. -/
theorem boundBytes_eq_none_iff : boundBytes pairs = none ↔ pairs = [] := by
  unfold boundBytes
  split <;> simp_all

/-- Associated data that are there are not empty. -/
theorem boundBytes_ne_some_nil : boundBytes pairs ≠ some [] := by
  unfold boundBytes
  split
  · exact nofun
  · exact fun empty => bytesOf_ne_nil _ (Option.some.inj empty)

/-- Associated data are the same exactly if the normalized pairs are. -/
theorem boundBytes_eq_iff :
    boundBytes left = boundBytes right ↔ normalized left = normalized right := by
  constructor
  · intro same
    have both : left = [] ↔ right = [] := by
      rw [← boundBytes_eq_none_iff, same, boundBytes_eq_none_iff]
    by_cases empty : left = []
    · rw [empty, both.mp empty]
    · have filled : right ≠ [] := fun vacant => empty (both.mpr vacant)
      rw [boundBytes, boundBytes, if_neg empty, if_neg filled] at same
      exact bytesOf_injective (Option.some.inj same)
  · intro same
    have both : left = [] ↔ right = [] := by
      rw [← normalized_eq_nil_iff, same, normalized_eq_nil_iff]
    simp only [boundBytes, same, both]

/-- Pairs that can be bound together can be in any order, with the same associated data. -/
theorem Canonical.of_perm (canonical : Canonical limits left) (permuted : left.Perm right) :
    Canonical limits right ∧ boundBytes right = boundBytes left := by
  obtain ⟨admissible, distinct, short⟩ := canonical
  have same : normalized left = normalized right := normalized_of_perm distinct permuted
  refine ⟨⟨?_, (permuted.map normalizedKey).nodup_iff.mp distinct, ?_⟩, ?_⟩
  · intro pair listed
    exact admissible pair (permuted.mem_iff.mpr listed)
  · intro filled
    rw [← same]
    exact short fun vacant => filled (List.nil_perm.mp (vacant ▸ permuted))
  · exact boundBytes_eq_iff.mpr same.symm

end AeadEnvelope.AssociatedData
