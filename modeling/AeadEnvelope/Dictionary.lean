/-!
# Dictionaries keyed by texts

A dictionary is the list of its entries in ascending order of their keys, each key once. The
order of texts is that of their code points, which is also that of their UTF-8 bytes. Main
statements: what is found after an insertion (`find?_insert`) or a merge (`find?_union`), and
dictionaries in which the same is found under every key are the same (`ext_find?`).
-/
namespace AeadEnvelope

/-- A finite map from texts, its entries in ascending order of their keys. -/
structure Dictionary (α : Type) where
  /-- The keys with what they stand for. -/
  entries : List (String × α)
  /-- Each key is above the one before it. -/
  ascending : entries.Pairwise fun left right => left.1 < right.1
deriving DecidableEq

namespace Dictionary

variable {α β : Type}

/-- The dictionary without entries. -/
def empty : Dictionary α := ⟨[], .nil⟩

/-- What a key stands for. -/
def find? (dictionary : Dictionary α) (key : String) : Option α := dictionary.entries.lookup key

/-- Whether a key stands for anything. -/
def contains (dictionary : Dictionary α) (key : String) : Bool := (dictionary.find? key).isSome

/-- Count of the entries. -/
def size (dictionary : Dictionary α) : Nat := dictionary.entries.length

/-- Entries with one put in its place, instead of one under the same key. -/
def place (key : String) (value : α) : List (String × α) → List (String × α)
  | [] => [(key, value)]
  | entry :: later =>
    if key < entry.1 then (key, value) :: entry :: later
    else if key = entry.1 then (key, value) :: later
    else entry :: place key value later

/-- A member after one was put in its place is that one or was a member before. -/
theorem eq_or_mem_of_mem_place {key : String} {value : α} {entries : List (String × α)}
    {entry : String × α} (member : entry ∈ place key value entries) :
    entry = (key, value) ∨ entry ∈ entries := by
  induction entries with
  | nil => simpa [place] using member
  | cons head later step =>
    rw [place] at member
    split at member
    · simpa using member
    · split at member
      · rcases List.mem_cons.mp member with same | old
        · exact Or.inl same
        · exact Or.inr (by simp [old])
      · rcases List.mem_cons.mp member with same | old
        · exact Or.inr (by simp [same])
        · rcases step old with same | older
          · exact Or.inl same
          · exact Or.inr (by simp [older])

/-- Putting an entry in its place keeps the order. -/
theorem ascending_place (key : String) (value : α) {entries : List (String × α)}
    (ascending : entries.Pairwise fun left right => left.1 < right.1) :
    (place key value entries).Pairwise fun left right => left.1 < right.1 := by
  induction entries with
  | nil => simp [place]
  | cons head later step =>
    obtain ⟨below, rest⟩ := List.pairwise_cons.mp ascending
    rw [place]
    split
    · next under =>
      refine List.pairwise_cons.mpr ⟨fun entry member => ?_, ascending⟩
      rcases List.mem_cons.mp member with same | old
      · exact same ▸ under
      · exact String.lt_trans under (below entry old)
    · next notUnder =>
      split
      · next same =>
        exact List.pairwise_cons.mpr ⟨fun entry member => same ▸ below entry member, rest⟩
      · next different =>
        refine List.pairwise_cons.mpr ⟨fun entry member => ?_, step rest⟩
        rcases eq_or_mem_of_mem_place member with same | old
        · have above : head.1 ≤ key := String.not_lt.mp notUnder
          rw [same]
          exact String.not_le.mp fun reverse =>
            different (String.le_antisymm reverse above)
        · exact below entry old

/-- The dictionary in which a key stands for a value, and else all is as before. -/
def insert (dictionary : Dictionary α) (key : String) (value : α) : Dictionary α :=
  ⟨place key value dictionary.entries, ascending_place key value dictionary.ascending⟩

/-- The same keys, each standing for what it and its value are mapped to. -/
def map (change : String → α → β) (dictionary : Dictionary α) : Dictionary β :=
  ⟨dictionary.entries.map fun entry => (entry.1, change entry.1 entry.2), by
    rw [List.pairwise_map]
    exact dictionary.ascending⟩

/-- All entries of both, those of the left one under the keys of both. -/
def union (left right : Dictionary α) : Dictionary α :=
  right.entries.foldr (fun entry merged =>
    if left.contains entry.1 then merged else merged.insert entry.1 entry.2) left

/-- A key finds the first entry under it. -/
theorem lookup_cons (key : String) (head : String × α) (later : List (String × α)) :
    (head :: later).lookup key = if key = head.1 then some head.2 else later.lookup key := by
  by_cases same : key = head.1
  · rw [List.lookup_cons, if_pos same, beq_iff_eq.mpr same]
  · rw [List.lookup_cons, if_neg same, beq_eq_false_iff_ne.mpr same]

/-- After one entry was put in its place its key finds it, and all others find what they did. -/
theorem lookup_place (key : String) (value : α) (entries : List (String × α)) (wanted : String) :
    (place key value entries).lookup wanted =
      if wanted = key then some value else entries.lookup wanted := by
  induction entries with
  | nil => rw [place, lookup_cons]
  | cons head later step =>
    rw [place]
    split
    · rw [lookup_cons]
    · split
      · next shared =>
        rw [lookup_cons, lookup_cons, ← shared]
        split <;> rfl
      · next different =>
        rw [lookup_cons, step, lookup_cons]
        by_cases same : wanted = head.1
        · rw [if_pos same, if_neg (fun equal : wanted = key => different (equal.symm.trans same)),
            if_pos same]
        · rw [if_neg same, if_neg same]

/-- A key finds what was inserted under it, and all others find what they did. -/
theorem find?_insert (dictionary : Dictionary α) (key : String) (value : α) (wanted : String) :
    (dictionary.insert key value).find? wanted =
      if wanted = key then some value else dictionary.find? wanted :=
  lookup_place key value dictionary.entries wanted

/-- A key finds a value exactly when they are an entry. -/
theorem find?_eq_some_iff {dictionary : Dictionary α} {key : String} {value : α} :
    dictionary.find? key = some value ↔ (key, value) ∈ dictionary.entries := by
  obtain ⟨entries, ascending⟩ := dictionary
  simp only [find?]
  induction entries with
  | nil => simp
  | cons head later step =>
    obtain ⟨below, rest⟩ := List.pairwise_cons.mp ascending
    rw [lookup_cons, List.mem_cons]
    by_cases same : key = head.1
    · rw [if_pos same]
      constructor
      · intro found
        exact Or.inl (Prod.ext same (Option.some.inj found).symm)
      · rintro (first | old)
        · rw [← first]
        · exact absurd (same ▸ below _ old) (String.lt_irrefl _)
    · rw [if_neg same, step rest]
      constructor
      · exact Or.inr
      · rintro (first | old)
        · exact absurd (congrArg Prod.fst first) same
        · exact old

/-- No entry of a dictionary occurs twice. -/
theorem nodup_entries (dictionary : Dictionary α) : dictionary.entries.Nodup := by
  refine List.Pairwise.imp (fun below => ?_) dictionary.ascending
  rintro rfl
  exact String.lt_irrefl _ below

/-- Dictionaries in which every key finds the same are the same. -/
theorem ext_find? {left right : Dictionary α}
    (same : ∀ key, left.find? key = right.find? key) : left = right := by
  have members : ∀ entry, entry ∈ left.entries ↔ entry ∈ right.entries := fun (key, value) => by
    rw [← find?_eq_some_iff, same, find?_eq_some_iff]
  have permuted :=
    (List.perm_ext_iff_of_nodup left.nodup_entries right.nodup_entries).mpr members
  have entries : left.entries = right.entries :=
    permuted.eq_of_pairwise
      (fun _ _ _ _ below above => absurd above (String.lt_asymm below))
      left.ascending right.ascending
  cases left
  cases right
  cases entries
  rfl

/-- A mapped dictionary has the same keys, each with its value mapped. -/
theorem find?_map (change : String → α → β) (dictionary : Dictionary α) (key : String) :
    (dictionary.map change).find? key = (dictionary.find? key).map (change key) := by
  obtain ⟨entries, ascending⟩ := dictionary
  simp only [map, find?]
  clear ascending
  induction entries with
  | nil => rfl
  | cons head later step =>
    rw [List.map_cons, lookup_cons, lookup_cons, step]
    by_cases same : key = head.1
    · rw [if_pos same, if_pos same, ← same]
      rfl
    · rw [if_neg same, if_neg same]

/-- A key is contained exactly when it finds something. -/
theorem contains_eq_true_iff {dictionary : Dictionary α} {key : String} :
    dictionary.contains key = true ↔ ∃ value, dictionary.find? key = some value :=
  Option.isSome_iff_exists

/-- A key is missing exactly when it finds nothing. -/
theorem contains_eq_false_iff {dictionary : Dictionary α} {key : String} :
    dictionary.contains key = false ↔ dictionary.find? key = none := by
  rw [contains, Option.isSome_eq_false_iff, Option.isNone_iff_eq_none]

/-- A merge finds what the left dictionary finds, and else what the right one does. -/
theorem find?_union (left right : Dictionary α) (key : String) :
    (left.union right).find? key = (left.find? key).or (right.find? key) := by
  suffices every : ∀ entries : List (String × α),
      (entries.foldr (fun entry merged =>
        if left.contains entry.1 then merged else merged.insert entry.1 entry.2) left).find? key =
        (left.find? key).or (entries.lookup key) from every right.entries
  intro entries
  induction entries with
  | nil => simp
  | cons head later step =>
    rw [List.foldr_cons, lookup_cons]
    by_cases same : key = head.1
    · subst same
      rw [if_pos rfl]
      split
      · next held =>
        obtain ⟨value, found⟩ := contains_eq_true_iff.mp held
        rw [step, found]
        rfl
      · next missing =>
        have absent := contains_eq_false_iff.mp (Bool.eq_false_iff.mpr missing)
        rw [find?_insert, if_pos rfl, absent]
        rfl
    · rw [if_neg same, ← step]
      split
      · rfl
      · rw [find?_insert, if_neg same]

end Dictionary

end AeadEnvelope
