import AeadEnvelope.AssociatedData.Basic
import AeadEnvelope.Proofs.ByteOrder
import AeadEnvelope.Proofs.Dictionary
import AeadEnvelope.Proofs.Outcome
import Mathlib.Data.List.Sort

/-!
# The pairs that are bound

Pairs are admitted one after the other, each under its key as it was given, or the first one that
is not admissible or has a normalized key of those before it is refused, for one fault of its own
(`PairRefused`). Main statement: all of them are admitted exactly when each of them is admissible on
its own and their normalized keys are distinct, and what is bound are then the normalized pairs in
ascending order of the bytes of the keys as they were given (`admitted_eq_ok_iff`). In which order
the pairs were given makes no difference (`normalized_of_perm`).
-/
namespace AeadEnvelope.AssociatedData

variable {limits : Limits} {pair : String × String} {pairs left right : List (String × String)}

/-- A pair of a key and a value that are normalized to texts which are not empty nor too long. -/
structure Admissible (limits : Limits) (pair : String × String) : Prop where
  /-- Something is left of the key. -/
  key : normalize pair.1 ≠ ""
  /-- Something is left of the value. -/
  value : normalize pair.2 ≠ ""
  /-- The normalized key is short enough. -/
  keyShort : (normalize pair.1).utf8ByteSize ≤ limits.part
  /-- The normalized value is short enough. -/
  valueShort : (normalize pair.2).utf8ByteSize ≤ limits.part

/-- The key of a pair, normalized. -/
def normalizedKey (pair : String × String) : String := normalize pair.1

/-- The bytes of a key as it was given do not come before those of another one. -/
def KeyUpTo (left right : String × String) : Prop := ¬ BytesBefore (utf8 right.1) (utf8 left.1)

/-- Keys are compared byte by byte. -/
instance : DecidableRel KeyUpTo := fun left right =>
  inferInstanceAs (Decidable (¬ BytesBefore (utf8 right.1) (utf8 left.1)))

/-- Keys are in the order of their texts. -/
theorem keyUpTo_iff {left right : String × String} : KeyUpTo left right ↔ left.1 ≤ right.1 := by
  rw [KeyUpTo, lex_utf8_iff]
  exact String.not_lt

/-- Of two pairs one has a key up to the other one. -/
instance : Std.Total KeyUpTo where
  total left right := by
    rw [keyUpTo_iff, keyUpTo_iff]
    exact String.le_total _ _

/-- The order of keys goes on. -/
instance : IsTrans (String × String) KeyUpTo where
  trans first second third low high := by
    rw [keyUpTo_iff] at low high ⊢
    exact String.le_trans low high

/-- The pairs in ascending order of the bytes of their keys as they were given. -/
def inOrder (pairs : List (String × String)) : List (String × String) := pairs.insertionSort KeyUpTo

/-- The normalized pairs in ascending order of the bytes of the keys as they were given. -/
def normalized (pairs : List (String × String)) : List (String × String) :=
  (inOrder pairs).map normalizePair

/-- The pairs in order are the pairs that were given. -/
theorem inOrder_perm (pairs : List (String × String)) : (inOrder pairs).Perm pairs :=
  List.perm_insertionSort _ _

/-- There are as many normalized pairs as pairs. -/
theorem length_normalized (pairs : List (String × String)) :
    (normalized pairs).length = pairs.length := by
  rw [normalized, List.length_map]
  exact (inOrder_perm pairs).length_eq

/-- What is kept of a pair: the key as it was given, and the normalized pair. -/
def kept (pair : String × String) : String × (String × String) := (pair.1, normalizePair pair)

/-- Keys are distinct if they are once they are normalized. -/
theorem nodup_keys_of_normalized (distinct : (pairs.map normalizedKey).Nodup) :
    (pairs.map Prod.fst).Nodup := by
  have through : pairs.map normalizedKey = (pairs.map Prod.fst).map normalize := by
    rw [List.map_map]
    rfl
  rw [through] at distinct
  exact .of_map normalize distinct

/-- Distinct keys are in order each above the one before it. -/
theorem ascending_inOrder (distinct : (pairs.map normalizedKey).Nodup) :
    ((inOrder pairs).map kept).Pairwise fun left right => left.1 < right.1 := by
  have ordered : (inOrder pairs).Pairwise KeyUpTo := List.pairwise_insertionSort _ _
  have apart : (inOrder pairs).Pairwise fun left right => left.1 ≠ right.1 := by
    have keys := nodup_keys_of_normalized distinct
    rw [← ((inOrder_perm pairs).map Prod.fst).nodup_iff, List.Nodup, List.pairwise_map] at keys
    exact keys
  rw [List.pairwise_map]
  apply (ordered.and apart).imp
  rintro low high ⟨upTo, different⟩
  exact Std.lt_of_le_of_ne (keyUpTo_iff.mp upTo) different

/-- The pairs in order under their keys. -/
def dictionaryOf (pairs : List (String × String)) (distinct : (pairs.map normalizedKey).Nodup) :
    Dictionary (String × String) := ⟨(inOrder pairs).map kept, ascending_inOrder distinct⟩

/-- A dictionary that keeps the pairs is that of the pairs in order. -/
theorem eq_dictionaryOf (distinct : (pairs.map normalizedKey).Nodup)
    {found : Dictionary (String × String)} (permuted : (pairs.map kept).Perm found.entries) :
    found = dictionaryOf pairs distinct :=
  Dictionary.ext_perm (permuted.symm.trans ((inOrder_perm pairs).symm.map kept))

/-- What is bound of the pairs in order under their keys are the normalized pairs. -/
theorem map_snd_dictionaryOf (distinct : (pairs.map normalizedKey).Nodup) :
    (dictionaryOf pairs distinct).entries.map Prod.snd = normalized pairs := by
  unfold dictionaryOf normalized
  rw [List.map_map]
  rfl

/-- Pairs with distinct normalized keys are bound alike in any order. -/
theorem normalized_of_perm (distinct : (left.map normalizedKey).Nodup)
    (permuted : left.Perm right) : normalized left = normalized right := by
  have others : (right.map normalizedKey).Nodup :=
    (permuted.map normalizedKey).nodup_iff.mp distinct
  have same : dictionaryOf left distinct = dictionaryOf right others :=
    eq_dictionaryOf others ((permuted.symm.trans (inOrder_perm left).symm).map kept)
  rw [← map_snd_dictionaryOf distinct, same, map_snd_dictionaryOf]

/-- What pairs that were admitted look like. -/
structure Proper (admitted : Dictionary (String × String)) : Prop where
  /-- Every key stands before its normalized form. -/
  keyed : ∀ entry ∈ admitted.entries, entry.2.1 = normalize entry.1
  /-- No normalized key occurs twice. -/
  distinct : (admitted.entries.map fun entry => entry.2.1).Nodup

/-- Before the first pair nothing is admitted. -/
theorem proper_empty : Proper .empty where
  keyed _ impossible := nomatch impossible
  distinct := List.nodup_nil

/-- Why a pair cannot be bound behind pairs with the normalized keys `keys`. -/
inductive PairRefused (limits : Limits) (keys : List String) (pair : String × String) :
    Fault → Prop where
  /-- Nothing is left of its key or of its value. -/
  | empty (vacant : normalize pair.1 = "" ∨ normalize pair.2 = "") :
    PairRefused limits keys pair (.emptyEntry pair.1)
  /-- Its normalized key is too long. -/
  | key (filled : normalize pair.1 ≠ "" ∧ normalize pair.2 ≠ "")
    (long : limits.part < (normalize pair.1).utf8ByteSize) :
    PairRefused limits keys pair (.entryTooLong (normalize pair.1).utf8ByteSize limits.part)
  /-- Its normalized value is too long, and its key is not. -/
  | value (filled : normalize pair.1 ≠ "" ∧ normalize pair.2 ≠ "")
    (short : (normalize pair.1).utf8ByteSize ≤ limits.part)
    (long : limits.part < (normalize pair.2).utf8ByteSize) :
    PairRefused limits keys pair (.entryTooLong (normalize pair.2).utf8ByteSize limits.part)
  /-- Its normalized key is one of those before. -/
  | repeated (admissible : Admissible limits pair) (old : normalizedKey pair ∈ keys) :
    PairRefused limits keys pair (.duplicateKey (normalizedKey pair))

/-- A pair is refused, or it is admissible and its normalized key is new. -/
theorem pairRefused_or_admissible (limits : Limits) (keys : List String) (pair : String × String) :
    (∃ fault, PairRefused limits keys pair fault) ∨
      Admissible limits pair ∧ normalizedKey pair ∉ keys := by
  by_cases vacant : normalize pair.1 = "" ∨ normalize pair.2 = ""
  · exact .inl ⟨_, .empty vacant⟩
  · have filled := not_or.mp vacant
    by_cases keyLong : limits.part < (normalize pair.1).utf8ByteSize
    · exact .inl ⟨_, .key filled keyLong⟩
    · have keyShort := Nat.le_of_not_lt keyLong
      by_cases valueLong : limits.part < (normalize pair.2).utf8ByteSize
      · exact .inl ⟨_, .value filled keyShort valueLong⟩
      · have admissible : Admissible limits pair :=
          ⟨filled.1, filled.2, keyShort, Nat.le_of_not_lt valueLong⟩
        by_cases old : normalizedKey pair ∈ keys
        · exact .inl ⟨_, .repeated admissible old⟩
        · exact .inr ⟨admissible, old⟩

section Admission

variable {admitted later : Dictionary (String × String)} {fault : Fault}

/-- The checks of a pair in their order. -/
theorem admitPair_eq_ite (limits : Limits) (admitted : Dictionary (String × String))
    (pair : String × String) :
    admitPair limits admitted pair =
      if normalize pair.1 = "" ∨ normalize pair.2 = "" then .error (.emptyEntry pair.1)
      else if limits.part < (normalize pair.1).utf8ByteSize then
        .error (.entryTooLong (normalize pair.1).utf8ByteSize limits.part)
      else if limits.part < (normalize pair.2).utf8ByteSize then
        .error (.entryTooLong (normalize pair.2).utf8ByteSize limits.part)
      else if normalizedKey pair ∈ admitted.entries.map fun entry => entry.2.1 then
        .error (.duplicateKey (normalizedKey pair))
      else .ok (admitted.insert pair.1 (normalizePair pair)) := by
  have held : (admitted.entries.any fun entry => entry.2.1 == normalize pair.1) = true ↔
      normalizedKey pair ∈ admitted.entries.map fun entry => entry.2.1 := by
    simp only [List.any_eq_true, beq_iff_eq, List.mem_map, normalizedKey]
  simp only [admitPair, normalizePair, held]
  rfl

/-- A pair that is refused is not admitted. -/
theorem admitPair_of_refused
    (refused : PairRefused limits (admitted.entries.map fun entry => entry.2.1) pair fault) :
    admitPair limits admitted pair = .error fault := by
  rw [admitPair_eq_ite]
  cases refused with
  | empty vacant => rw [if_pos vacant]
  | key filled long => rw [if_neg (not_or.mpr filled), if_pos long]
  | value filled short long =>
    rw [if_neg (not_or.mpr filled), if_neg (Nat.not_lt.mpr short), if_pos long]
  | repeated admissible old =>
    have filled := not_or.mpr ⟨admissible.key, admissible.value⟩
    rw [if_neg filled, if_neg (Nat.not_lt.mpr admissible.keyShort),
      if_neg (Nat.not_lt.mpr admissible.valueShort), if_pos old]

/-- A pair that is admissible is put under its key, if its normalized key is new. -/
theorem admitPair_of_admissible (admissible : Admissible limits pair)
    (new : normalizedKey pair ∉ admitted.entries.map fun entry => entry.2.1) :
    admitPair limits admitted pair = .ok (admitted.insert pair.1 (normalizePair pair)) := by
  have filled := not_or.mpr ⟨admissible.key, admissible.value⟩
  rw [admitPair_eq_ite, if_neg filled, if_neg (Nat.not_lt.mpr admissible.keyShort),
    if_neg (Nat.not_lt.mpr admissible.valueShort), if_neg new]

/-- What a pair leads to is told by what it is admissible and refused for. -/
theorem admitPair_determined (limits : Limits) (admitted : Dictionary (String × String))
    (pair : String × String) :
    (∀ later, admitPair limits admitted pair = .ok later ↔
      Admissible limits pair ∧
        normalizedKey pair ∉ admitted.entries.map (fun entry => entry.2.1) ∧
        later = admitted.insert pair.1 (normalizePair pair)) ∧
    ∀ fault, admitPair limits admitted pair = .error fault ↔
      PairRefused limits (admitted.entries.map fun entry => entry.2.1) pair fault := by
  apply Outcome.determined
  · rcases pairRefused_or_admissible limits (admitted.entries.map fun entry => entry.2.1) pair with
      refused | ⟨admissible, new⟩
    · exact .inl refused
    · exact .inr ⟨_, admissible, new, rfl⟩
  · rintro later ⟨admissible, new, rfl⟩
    exact admitPair_of_admissible admissible new
  · exact fun _ => admitPair_of_refused

/-- A pair is admitted exactly if it is admissible and its normalized key is new, and it is then put
under its key. -/
theorem admitPair_eq_ok_iff :
    admitPair limits admitted pair = .ok later ↔
      Admissible limits pair ∧
        normalizedKey pair ∉ admitted.entries.map (fun entry => entry.2.1) ∧
        later = admitted.insert pair.1 (normalizePair pair) :=
  (admitPair_determined limits admitted pair).1 later

/-- A pair is not admitted exactly for what it is refused for. -/
theorem admitPair_eq_error_iff :
    admitPair limits admitted pair = .error fault ↔
      PairRefused limits (admitted.entries.map fun entry => entry.2.1) pair fault :=
  (admitPair_determined limits admitted pair).2 fault

end Admission

/-- A pair under a new normalized key is put among the others. -/
theorem Proper.insert_perm {admitted : Dictionary (String × String)} (proper : Proper admitted)
    (new : normalizedKey pair ∉ admitted.entries.map fun entry => entry.2.1) :
    (admitted.insert pair.1 (normalizePair pair)).entries.Perm (kept pair :: admitted.entries) := by
  apply Dictionary.place_perm
  intro old
  obtain ⟨entry, listed, same⟩ := List.mem_map.mp old
  apply new
  rw [normalizedKey, ← same, ← proper.keyed entry listed]
  exact List.mem_map_of_mem listed

/-- A pair under a new normalized key leaves what is admitted proper. -/
theorem Proper.insert {admitted : Dictionary (String × String)} (proper : Proper admitted)
    (new : normalizedKey pair ∉ admitted.entries.map fun entry => entry.2.1) :
    Proper (admitted.insert pair.1 (normalizePair pair)) := by
  have placed := proper.insert_perm new
  constructor
  · intro entry listed
    rcases List.mem_cons.mp (placed.mem_iff.mp listed) with rfl | old
    · rfl
    · exact proper.keyed entry old
  · rw [(placed.map _).nodup_iff, List.map_cons]
    exact List.nodup_cons.mpr ⟨new, proper.distinct⟩

/-- Pairs are admitted behind others exactly if each one is admissible and no normalized key occurs
twice, and they are then kept with the others. -/
theorem foldlM_admitPair_eq_ok_iff {start found : Dictionary (String × String)}
    (proper : Proper start) :
    pairs.foldlM (admitPair limits) start = .ok found ↔
      (∀ pair ∈ pairs, Admissible limits pair) ∧
        ((pairs.map kept ++ start.entries).map fun entry => entry.2.1).Nodup ∧
        (pairs.map kept ++ start.entries).Perm found.entries := by
  induction pairs generalizing start with
  | nil =>
    simp only [List.foldlM_nil, List.map_nil, List.nil_append, List.not_mem_nil, false_implies,
      implies_true, true_and, pure, Except.pure, Except.ok.injEq]
    constructor
    · rintro rfl
      exact ⟨proper.distinct, .refl _⟩
    · rintro ⟨-, permuted⟩
      exact Dictionary.ext_perm permuted
  | cons pair later step =>
    rw [List.foldlM_cons, Outcome.bind_eq_ok_iff, List.forall_mem_cons]
    -- The entry of the first pair stands among those before it once it was put into its place.
    have moved : ∀ middle : Dictionary (String × String),
        middle.entries.Perm (kept pair :: start.entries) →
        ((pair :: later).map kept ++ start.entries).Perm (later.map kept ++ middle.entries) :=
      fun middle placed => List.perm_middle.symm.trans (placed.symm.append_left _)
    constructor
    · rintro ⟨middle, first, rest⟩
      obtain ⟨admissible, new, rfl⟩ := admitPair_eq_ok_iff.mp first
      obtain ⟨others, distinct, permuted⟩ := (step (proper.insert new)).mp rest
      have all := moved _ (proper.insert_perm new)
      exact ⟨⟨admissible, others⟩, (all.map _).nodup_iff.mpr distinct, all.trans permuted⟩
    · rintro ⟨⟨admissible, others⟩, distinct, permuted⟩
      have new : normalizedKey pair ∉ start.entries.map fun entry => entry.2.1 := by
        intro old
        rw [List.map_cons, List.cons_append, List.map_cons, List.nodup_cons,
          List.map_append] at distinct
        exact distinct.1 (List.mem_append_right _ old)
      have all := moved _ (proper.insert_perm new)
      refine ⟨_, admitPair_eq_ok_iff.mpr ⟨admissible, new, rfl⟩, ?_⟩
      apply (step (proper.insert new)).mpr
      exact ⟨others, (all.map _).nodup_iff.mp distinct, all.symm.trans permuted⟩

/-- Pairs are admitted from the start exactly if each one is admissible and no normalized key occurs
twice, and they are then kept. -/
theorem foldlM_admitPair_empty_eq_ok_iff {found : Dictionary (String × String)} :
    pairs.foldlM (admitPair limits) .empty = .ok found ↔
      (∀ pair ∈ pairs, Admissible limits pair) ∧ (pairs.map normalizedKey).Nodup ∧
        (pairs.map kept).Perm found.entries := by
  have nothing : (Dictionary.empty : Dictionary (String × String)).entries = [] := rfl
  have keys : (pairs.map kept).map (fun entry => entry.2.1) = pairs.map normalizedKey := by
    rw [List.map_map]
    rfl
  rw [foldlM_admitPair_eq_ok_iff proper_empty, nothing, List.append_nil, keys]

/-- The normalized pairs are bound, if each pair is admissible and no normalized key occurs twice,
and nothing else is. -/
theorem admitted_eq_ok_iff {found : List (String × String)} :
    admitted limits pairs = .ok found ↔
      (∀ pair ∈ pairs, Admissible limits pair) ∧ (pairs.map normalizedKey).Nodup ∧
        found = normalized pairs := by
  rw [admitted, Outcome.bind_eq_ok_iff]
  constructor
  · rintro ⟨dictionary, built, written⟩
    obtain ⟨admissible, distinct, permuted⟩ := foldlM_admitPair_empty_eq_ok_iff.mp built
    obtain rfl := eq_dictionaryOf distinct permuted
    refine ⟨admissible, distinct, ?_⟩
    rw [← map_snd_dictionaryOf distinct]
    exact (Except.ok.inj written).symm
  · rintro ⟨admissible, distinct, rfl⟩
    have permuted := ((inOrder_perm pairs).map kept).symm
    refine ⟨dictionaryOf pairs distinct,
      foldlM_admitPair_empty_eq_ok_iff.mpr ⟨admissible, distinct, permuted⟩, ?_⟩
    rw [map_snd_dictionaryOf]
    rfl

end AeadEnvelope.AssociatedData
