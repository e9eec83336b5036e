import AeadEnvelope.Proofs.AssociatedData.Canonicalization
import AeadEnvelope.Proofs.AssociatedData.Listing
import Mathlib.Data.List.Basic

/-!
# Associated data that are listed and bound again

A text is normalized only once (`normalize_normalize`), so what associated data list can be bound
again. But pairs are bound in the order of their keys as they were given, and listed pairs are given
in the order of their normalized keys. Main statement: associated data of pairs are listed as the
normalized pairs, these have associated data of the same length under the same limits, and they are
the same ones exactly if the normalized pairs were in the order of their keys already
(`list_canonicalize`).
-/
namespace AeadEnvelope.AssociatedData

variable {limits : Limits} {pairs left right : List (String × String)}

section Normalization

/-- A text that is left alone by normalization: no character is dropped or has another lower-case
form. -/
def Normal (text : String) : Prop :=
  ∀ character ∈ text.toList, dropped character = false ∧ Text.lowerCharacter character = [character]

/-- A change to lower case brings in no character that is dropped. -/
theorem dropped_of_mem_lowerCharacter {character lower : Char} (kept : dropped character = false)
    (member : lower ∈ Text.lowerCharacter character) : dropped lower = false := by
  rcases Text.eq_or_settled_of_mem_lowerCharacter member with same | settled
  · rw [same]
    exact kept
  · have hyphen : lower ≠ '-' := settled.ne_mark (by decide)
    have underscore : lower ≠ '_' := settled.ne_mark (by decide)
    rw [dropped, settled.not_blank, beq_eq_false_iff_ne.mpr hyphen,
      beq_eq_false_iff_ne.mpr underscore]
    rfl

/-- What is left of a text is normal. -/
theorem normal_normalize (text : String) : Normal (normalize text) := by
  intro lower member
  rw [normalize, String.toList_ofList, List.mem_flatMap] at member
  obtain ⟨character, listed, image⟩ := member
  have kept : dropped character = false := by
    have passed := (List.mem_filter.mp listed).2
    rw [Bool.not_eq_true'] at passed
    exact passed
  exact ⟨dropped_of_mem_lowerCharacter kept image, Text.lowerCharacter_of_mem image⟩

/-- A normal text is left alone. -/
theorem normalize_of_normal {text : String} (normal : Normal text) : normalize text = text := by
  have all : text.toList.filter (fun character => !dropped character) = text.toList := by
    rw [List.filter_eq_self]
    intro character listed
    rw [(normal character listed).1]
    rfl
  have each : text.toList.flatMap Text.lowerCharacter = text.toList.flatMap fun character =>
      [character] := List.flatMap_congr fun character listed => (normal character listed).2
  rw [normalize, all, each, List.flatMap_singleton', String.ofList_toList]

/-- A text is normalized only once. -/
theorem normalize_normalize (text : String) : normalize (normalize text) = normalize text :=
  normalize_of_normal (normal_normalize text)

/-- A pair is normalized only once. -/
theorem normalizePair_normalizePair (pair : String × String) :
    normalizePair (normalizePair pair) = normalizePair pair := by
  unfold normalizePair
  rw [normalize_normalize, normalize_normalize]

end Normalization

section Order

/-- Pairs stay in order exactly if they are in it. -/
theorem inOrder_eq_self_iff : inOrder pairs = pairs ↔ pairs.Pairwise KeyUpTo := by
  constructor
  · intro same
    have ordered : (inOrder pairs).Pairwise KeyUpTo := List.pairwise_insertionSort _ _
    rw [same] at ordered
    exact ordered
  · exact List.Pairwise.insertionSort_eq

/-- Pairs with distinct keys are in order exactly if the bytes of each key come before those of the
next ones. -/
theorem pairwise_keyUpTo_iff (distinct : (pairs.map Prod.fst).Nodup) :
    pairs.Pairwise KeyUpTo ↔ (pairs.map fun pair => utf8 pair.1).Pairwise BytesBefore := by
  rw [List.Nodup, List.pairwise_map] at distinct
  rw [List.pairwise_map]
  constructor
  · intro ordered
    apply (ordered.and distinct).imp
    rintro low high ⟨upTo, different⟩
    rw [lex_utf8_iff]
    exact Std.lt_of_le_of_ne (keyUpTo_iff.mp upTo) different
  · intro ascending
    apply ascending.imp
    intro low high before
    rw [lex_utf8_iff] at before
    exact keyUpTo_iff.mpr (Std.le_of_lt before)

/-- In any order pairs take as many bytes. -/
theorem length_bytesOf_of_perm (permuted : left.Perm right) :
    (bytesOf left).length = (bytesOf right).length := by
  have contents : pairsLength left = pairsLength right := by
    rw [← length_flatMap_pairBytes, ← length_flatMap_pairBytes]
    exact (permuted.flatMap_right pairBytes).length_eq
  rw [length_bytesOf, length_bytesOf, lengthOf, lengthOf, contents, permuted.length_eq]

end Order

section Binding

/-- Every normalized pair is that of one that was given. -/
theorem mem_normalized_iff {pair : String × String} :
    pair ∈ normalized pairs ↔ ∃ given ∈ pairs, normalizePair given = pair := by
  rw [normalized, List.mem_map]
  simp only [(inOrder_perm pairs).mem_iff]

/-- Normalized pairs are normalized to themselves, in the order of their keys. -/
theorem normalized_normalized (pairs : List (String × String)) :
    normalized (normalized pairs) = inOrder (normalized pairs) := by
  have each : ∀ pair ∈ inOrder (normalized pairs), normalizePair pair = pair := by
    intro pair listed
    have member : pair ∈ normalized pairs := (inOrder_perm _).mem_iff.mp listed
    obtain ⟨given, -, rfl⟩ := mem_normalized_iff.mp member
    exact normalizePair_normalizePair given
  have same : (inOrder (normalized pairs)).map normalizePair =
      (inOrder (normalized pairs)).map id := List.map_congr_left each
  rw [normalized, same, List.map_id]

/-- The keys of normalized pairs are the normalized keys of the pairs in order. -/
theorem map_fst_normalized (pairs : List (String × String)) :
    (normalized pairs).map Prod.fst = (inOrder pairs).map normalizedKey := by
  rw [normalized, List.map_map]
  rfl

/-- The keys of pairs that can be bound together are distinct once they are normalized. -/
theorem Canonical.nodup_normalized (canonical : Canonical limits pairs) :
    ((normalized pairs).map Prod.fst).Nodup := by
  rw [map_fst_normalized, ((inOrder_perm pairs).map normalizedKey).nodup_iff]
  exact canonical.distinct

/-- A pair that can be bound can be once it is normalized. -/
theorem admissible_normalizePair {pair : String × String} (admissible : Admissible limits pair) :
    Admissible limits (normalizePair pair) := by
  have key : normalize (normalizePair pair).1 = normalize pair.1 :=
    normalize_normalize pair.1
  have value : normalize (normalizePair pair).2 = normalize pair.2 :=
    normalize_normalize pair.2
  constructor
  · rw [key]
    exact admissible.key
  · rw [value]
    exact admissible.value
  · rw [key]
    exact admissible.keyShort
  · rw [value]
    exact admissible.valueShort

/-- Pairs that can be bound together can be once they are normalized. -/
theorem Canonical.of_normalized (canonical : Canonical limits pairs) :
    Canonical limits (normalized pairs) where
  admissible := by
    intro pair listed
    obtain ⟨given, member, rfl⟩ := mem_normalized_iff.mp listed
    exact admissible_normalizePair (canonical.admissible given member)
  distinct := by
    have keys : (normalized pairs).map normalizedKey = (normalized pairs).map Prod.fst := by
      apply List.map_congr_left
      intro pair listed
      obtain ⟨given, -, rfl⟩ := mem_normalized_iff.mp listed
      exact normalize_normalize given.1
    rw [keys]
    exact canonical.nodup_normalized
  short := by
    intro filled
    rw [normalized_normalized, length_bytesOf_of_perm (inOrder_perm _)]
    exact canonical.short (mt normalized_eq_nil_iff.mpr filled)

/-- Normalized pairs in any order are bound in the order of their keys. -/
theorem canonicalize_of_perm (canonical : Canonical limits pairs) (filled : pairs ≠ [])
    (permuted : left.Perm (normalized pairs)) :
    canonicalize limits (some left) = .ok (some (bytesOf (inOrder (normalized pairs)))) := by
  have some : normalized pairs ≠ [] := mt normalized_eq_nil_iff.mp filled
  obtain ⟨again, same⟩ := canonical.of_normalized.of_perm permuted.symm
  refine canonicalize_eq_ok_iff.mpr ⟨again, ?_⟩
  rw [Option.getD_some, same, boundBytes, if_neg some, normalized_normalized]

end Binding

section Reading

/-- The layout in which a text is written. -/
def pieceOf (text : String) : Piece := ⟨Base128.encode text.utf8ByteSize, text⟩

/-- The layout in which a pair is written. -/
def itemOf (pair : String × String) : Item := ⟨pieceOf pair.1, pieceOf pair.2⟩

/-- The layout in which pairs are written. -/
def layoutOf (pairs : List (String × String)) : Layout :=
  ⟨Base128.encode pairs.length, pairs.map itemOf⟩

/-- What is written of pairs are the bytes of their layout. -/
theorem bytes_layoutOf (pairs : List (String × String)) :
    (layoutOf pairs).bytes = bytesOf pairs := by
  rw [Layout.bytes, layoutOf, List.flatMap_map]
  rfl

/-- The texts of the layout of pairs are the pairs. -/
theorem map_entry_itemOf (pairs : List (String × String)) :
    (pairs.map itemOf).map Item.entry = pairs := by
  rw [List.map_map]
  exact List.map_id pairs

/-- A text whose length fits in 64 bits has its length. -/
theorem fits_pieceOf {text : String} (bounded : text.utf8ByteSize < UInt64.size) :
    (pieceOf text).Fits := by
  unfold Piece.Fits pieceOf
  rw [length_utf8]
  exact Base128.consumed_encode bounded

/-- Every text takes part of the bytes of the pairs. -/
theorem size_le_pairsLength {pair : String × String} (listed : pair ∈ pairs) :
    pair.1.utf8ByteSize + pair.2.utf8ByteSize ≤ pairsLength pairs := by
  induction pairs with
  | nil => cases listed
  | cons head later step =>
    rw [pairsLength, sizedLength, sizedLength]
    rcases List.mem_cons.mp listed with rfl | behind
    · omega
    · have rest := step behind
      omega

/-- There are at least as many bytes as pairs. -/
theorem length_le_pairsLength (pairs : List (String × String)) :
    pairs.length ≤ pairsLength pairs := by
  induction pairs with
  | nil => exact Nat.le_refl 0
  | cons head later step =>
    rw [pairsLength, sizedLength, Base128.encodedLength_eq, List.length_cons]
    omega

/-- Pairs without empty texts and with distinct keys, whose bytes can be counted in 64 bits, are
found again from their bytes. -/
theorem list_bytesOf (filled : pairs ≠ [])
    (texts : ∀ pair ∈ pairs, pair.1 ≠ "" ∧ pair.2 ≠ "") (distinct : (pairs.map Prod.fst).Nodup)
    (bounded : (bytesOf pairs).length < UInt64.size) :
    ∃ found, list (bytesOf pairs) = .ok found ∧ found.entries.Perm pairs := by
  rw [length_bytesOf, lengthOf] at bounded
  have counted : pairs.length < UInt64.size := by
    have each := length_le_pairsLength pairs
    omega
  have fits : ∀ item ∈ pairs.map itemOf, item.Fits := by
    rw [List.forall_mem_map]
    intro pair listed
    have size := size_le_pairsLength listed
    have key : pair.1.utf8ByteSize < UInt64.size := by omega
    have value : pair.2.utf8ByteSize < UInt64.size := by omega
    exact ⟨fits_pieceOf key, fits_pieceOf value⟩
  have there : ∀ item ∈ pairs.map itemOf, item.Filled := by
    rw [List.forall_mem_map]
    intro pair listed
    obtain ⟨key, value⟩ := texts pair listed
    exact ⟨key, value⟩
  have names : (pairs.map itemOf).map Item.name = pairs.map Prod.fst := by
    rw [List.map_map]
    rfl
  have wellFormed : (layoutOf pairs).WellFormed := {
    counted := by
      have same : (layoutOf pairs).items.length = pairs.length := List.length_map itemOf
      rw [same]
      exact Base128.consumed_encode counted
    filled := mt List.map_eq_nil_iff.mp filled
    listable := ⟨fits, there, names ▸ distinct⟩ }
  obtain ⟨found, listed, permuted⟩ := list_bytes wellFormed
  rw [bytes_layoutOf] at listed
  have entries : (layoutOf pairs).items.map Item.entry = pairs := map_entry_itemOf pairs
  rw [entries] at permuted
  exact ⟨found, listed, permuted⟩

end Reading

/-- What was bound is listed and can be bound again. Associated data of pairs whose bytes can be
counted in 64 bits, as those of every buffer can, are listed as the normalized keys, each with its
normalized value, and nothing else. What is listed has associated data of the same length under the
same limits, and these are the same bytes exactly if the normalized keys of the pairs in the byte
order of the keys as they were given are themselves in ascending byte order. -/
theorem list_canonicalize (limits : Limits) (pairs : List (String × String)) (bytes : Bytes)
    (bound : canonicalize limits (some pairs) = .ok (some bytes))
    (bounded : bytes.length < UInt64.size) :
    ∃ found, list bytes = .ok found ∧
      (∀ key value, found.find? key = some value ↔
        ∃ pair ∈ pairs, normalize pair.1 = key ∧ normalize pair.2 = value) ∧
      ∃ again, canonicalize limits (some found.entries) = .ok (some again) ∧
        again.length = bytes.length ∧
        (again = bytes ↔
          ((inOrder pairs).map fun pair => utf8 (normalize pair.1)).Pairwise BytesBefore) := by
  obtain ⟨canonical, written⟩ := canonicalize_eq_ok_iff.mp bound
  rw [Option.getD_some] at canonical written
  have filled : pairs ≠ [] := by
    intro empty
    rw [boundBytes_eq_none_iff.mpr empty] at written
    cases written
  rw [boundBytes, if_neg filled] at written
  obtain rfl := Option.some.inj written
  have some : normalized pairs ≠ [] := mt normalized_eq_nil_iff.mp filled
  have texts : ∀ pair ∈ normalized pairs, pair.1 ≠ "" ∧ pair.2 ≠ "" := by
    intro pair listed
    obtain ⟨given, member, rfl⟩ := mem_normalized_iff.mp listed
    have admissible := canonical.admissible given member
    exact ⟨admissible.key, admissible.value⟩
  have distinct := canonical.nodup_normalized
  obtain ⟨found, listed, permuted⟩ := list_bytesOf some texts distinct bounded
  refine ⟨found, listed, ?_, ?_⟩
  · intro key value
    rw [Dictionary.find?_eq_some_iff, permuted.mem_iff, mem_normalized_iff]
    simp only [normalizePair, Prod.mk.injEq]
  · have again := canonicalize_of_perm canonical filled permuted
    have length := length_bytesOf_of_perm (inOrder_perm (normalized pairs))
    refine ⟨_, again, length, ?_⟩
    have keys : ((normalized pairs).map fun pair => utf8 pair.1) =
        (inOrder pairs).map fun pair => utf8 (normalize pair.1) := by
      rw [normalized, List.map_map]
      rfl
    rw [← keys, ← pairwise_keyUpTo_iff distinct, ← inOrder_eq_self_iff]
    exact ⟨bytesOf_injective, congrArg bytesOf⟩

/-- Pairs whose keys are in another order once they are normalized. -/
def mixedPairs : List (String × String) := [("B", "1"), ("a", "2")]

/-- The associated data of those pairs are listed, and what is listed has other associated data of
the same length. -/
theorem list_canonicalize_mixed :
    canonicalize .standard (some mixedPairs) = .ok (some [2, 1, 98, 1, 49, 1, 97, 1, 50]) ∧
    ∃ found, list [2, 1, 98, 1, 49, 1, 97, 1, 50] = .ok found ∧
      ∃ again, canonicalize .standard (some found.entries) = .ok (some again) ∧
        again.length = 9 ∧ again ≠ [2, 1, 98, 1, 49, 1, 97, 1, 50] := by
  have bound : canonicalize .standard (some mixedPairs) =
      .ok (some [2, 1, 98, 1, 49, 1, 97, 1, 50]) := by decide +kernel
  have bounded : ([2, 1, 98, 1, 49, 1, 97, 1, 50] : Bytes).length < UInt64.size := by decide
  have descending : ¬ ((inOrder mixedPairs).map fun pair => utf8 (normalize pair.1)).Pairwise
      BytesBefore := by decide +kernel
  obtain ⟨found, listed, -, again, rebound, length, same⟩ :=
    list_canonicalize .standard mixedPairs _ bound bounded
  exact ⟨bound, found, listed, again, rebound, length, mt same.mp descending⟩

end AeadEnvelope.AssociatedData
