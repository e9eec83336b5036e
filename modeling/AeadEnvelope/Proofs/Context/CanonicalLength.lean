import AeadEnvelope.Proofs.ByteOrder
import AeadEnvelope.Proofs.Context.CanonicalText
import AeadEnvelope.Proofs.Context.Extension
import Mathlib.Algebra.BigOperators.Ring.List
import Mathlib.Algebra.Order.BigOperators.Group.List
import Mathlib.Algebra.Order.Ring.Nat

/-!
# Length of a canonical text

The canonical text of a context that was read has the entries of the text it was read of, with
their keys in lower case. A character has at most two in its lower-case form and four bytes in its
UTF-8 form, so a canonical text is not much longer than that text. Main statement: a text of less
than 2²⁹ bytes has a canonical form of less than 2³² (`length_canonical_lt`).
-/
namespace AeadEnvelope

/-- Items that are each replaced by a bounded number of others become at most that many times as
many. -/
theorem length_flatMap_le {α β : Type} {change : α → List β} {bound : Nat}
    (bounded : ∀ item, (change item).length ≤ bound) (items : List α) :
    (items.flatMap change).length ≤ bound * items.length := by
  induction items with
  | nil => simp
  | cons item later step =>
    have here := bounded item
    rw [List.flatMap_cons, List.length_append, List.length_cons, Nat.mul_succ]
    omega

/-- A text has at least as many bytes as characters. -/
theorem length_le_utf8ByteSize (text : String) : text.toList.length ≤ text.utf8ByteSize := by
  rw [← length_utf8, utf8_eq_flatMap]
  induction text.toList with
  | nil => simp
  | cons character later step =>
    have here := character.utf8Size_pos
    rw [List.flatMap_cons, List.length_append, List.length_cons, String.length_utf8EncodeChar]
    omega

/-- A text has at most four times as many bytes as characters. -/
theorem utf8ByteSize_le (text : String) : text.utf8ByteSize ≤ 4 * text.toList.length := by
  rw [← length_utf8, utf8_eq_flatMap]
  apply length_flatMap_le
  intro character
  rw [String.length_utf8EncodeChar]
  exact character.utf8Size_le_four

namespace Text

/-- A lower-case form has at most twice as many characters as its text. -/
theorem length_lowerCase_le (text : String) :
    (lowerCase text).toList.length ≤ 2 * text.toList.length := by
  rw [lowerCase, String.toList_ofList, length_lowerAfter]
  apply length_flatMap_le
  intro character
  unfold lowerCharacter
  split <;> simp

end Text

namespace Context

/-- Pieces joined by one character have one less than the pieces with one each. -/
theorem length_intercalate_add_one {separator : Char} {pieces : List (List Char)}
    (filled : pieces ≠ []) :
    ([separator].intercalate pieces).length + 1 =
      (pieces.map fun piece => piece.length + 1).sum := by
  induction pieces with
  | nil => exact absurd rfl filled
  | cons piece later step =>
    cases later with
    | nil => simp
    | cons next rest =>
      have behind := step (List.cons_ne_nil next rest)
      rw [List.intercalate_cons_cons, List.map_cons, List.sum_cons, ← behind]
      simp only [List.length_append, List.length_singleton]
      omega

/-- The segments of a text, each with a separator, have one character more than the text, unless
that is empty. -/
theorem sum_length_segments (text : String) :
    ((segments text).map fun segment => segment.length + 1).sum =
      if text = "" then 0 else text.toList.length + 1 := by
  unfold segments
  split
  · rfl
  · have filled : text.toList.splitOn entrySeparator ≠ [] := List.splitOn_ne_nil _ _
    have joined : [entrySeparator].intercalate (text.toList.splitOn entrySeparator) = text.toList :=
      List.intercalate_splitOn entrySeparator
    rw [← length_intercalate_add_one filled, joined]

/-- An entry that was read is written with at most twice as many characters. -/
theorem length_entryText_readEntry (segment : List Char) :
    (entryText (readEntry segment)).toList.length ≤ 2 * segment.length := by
  have cut : segment.takeWhile (· != valueSeparator) ++ segment.dropWhile (· != valueSeparator) =
    segment := List.takeWhile_append_dropWhile
  have whole := congrArg List.length cut
  have key := Text.length_lowerCase_le (String.ofList (segment.takeWhile (· != valueSeparator)))
  rw [List.length_append] at whole
  rw [String.toList_ofList] at key
  rw [toList_entryText, List.length_append]
  simp only [readEntry, lowered, segmentEntry]
  cases rest : segment.dropWhile (· != valueSeparator) with
  | nil =>
    rw [Option.elim_none, List.length_nil]
    omega
  | cons mark value =>
    rw [rest, List.length_cons] at whole
    rw [Option.elim_some, List.length_cons, String.toList_ofList]
    omega

/-- The canonical text of what was read has at most about twice as many characters. -/
theorem length_canonical_le {text written : String} {context : Context}
    (read : parse text = .ok context) (canonical : context.canonical = .ok written) :
    written.toList.length ≤ 2 * text.toList.length + 1 := by
  have permuted := (parse_eq_ok_iff.mp read).2.trans context.ordered_perm.symm
  -- Both texts have the same entries in some order, so they are compared segment by segment.
  have bounded : ((segments written).map fun segment => segment.length + 1).sum ≤
      2 * ((segments text).map fun segment => segment.length + 1).sum := calc
    ((segments written).map fun segment => segment.length + 1).sum
    _ = (context.ordered.map fun entry => (entryText entry).toList.length + 1).sum := by
      rw [segments_canonical canonical, List.map_map]
      rfl
    _ = ((segments text).map fun segment =>
          (entryText (readEntry segment)).toList.length + 1).sum := by
      rw [← (permuted.map _).sum_eq, List.map_map]
      rfl
    _ ≤ ((segments text).map fun segment => 2 * (segment.length + 1)).sum := by
      refine List.sum_le_sum fun segment _ => ?_
      have := length_entryText_readEntry segment
      omega
    _ = 2 * ((segments text).map fun segment => segment.length + 1).sum := by
      rw [List.sum_map_mul_left]
  rw [sum_length_segments, sum_length_segments] at bounded
  by_cases blank : written = ""
  · rw [blank]
    exact Nat.zero_le _
  · rw [if_neg blank] at bounded
    split at bounded <;> omega

/-- A text of less than 2²⁹ bytes has a canonical form of less than 2³². -/
theorem length_canonical_lt {text written : String} {context : Context}
    (read : parse text = .ok context) (canonical : context.canonical = .ok written)
    (short : text.utf8ByteSize < 2 ^ 29) : (utf8 written).length < 2 ^ 32 := by
  have characters := length_canonical_le read canonical
  have fewer := length_le_utf8ByteSize text
  have bytes := utf8ByteSize_le written
  rw [length_utf8]
  omega

end Context

end AeadEnvelope
