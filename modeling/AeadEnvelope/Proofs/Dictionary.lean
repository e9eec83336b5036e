import AeadEnvelope.Dictionary

/-!
# The entries of a dictionary

Every key of a dictionary has one entry (`nodup_keys`), and an entry under a new key is put among
the others (`place_perm`), as those of another dictionary are under new keys (`union_perm`). Main
statement: a dictionary is determined by its entries in any order, since their order follows from
their keys (`ext_perm`).
-/
namespace AeadEnvelope.Dictionary

variable {α β : Type}

/-- An entry under a new key is put among the others. -/
theorem place_perm {key : String} (value : α) {entries : List (String × α)}
    (new : key ∉ entries.map Prod.fst) :
    (place key value entries).Perm ((key, value) :: entries) := by
  induction entries with
  | nil => exact .refl _
  | cons head later step =>
    simp only [List.map_cons, List.mem_cons, not_or] at new
    rw [place]
    split
    · exact .refl _
    · rw [if_neg new.1]
      exact ((step new.2).cons head).trans (.swap _ _ _)

/-- Every key of a dictionary has one entry. -/
theorem nodup_keys (dictionary : Dictionary α) : (dictionary.entries.map Prod.fst).Nodup := by
  rw [List.Nodup, List.pairwise_map]
  refine dictionary.ascending.imp fun below same => ?_
  rw [same] at below
  exact String.lt_irrefl _ below

/-- A key is contained exactly when it is the key of an entry. -/
theorem contains_eq_true_iff_mem {dictionary : Dictionary α} {key : String} :
    dictionary.contains key = true ↔ key ∈ dictionary.entries.map Prod.fst := by
  rw [contains_eq_true_iff, List.mem_map]
  constructor
  · rintro ⟨value, found⟩
    exact ⟨(key, value), find?_eq_some_iff.mp found, rfl⟩
  · rintro ⟨⟨_, value⟩, listed, rfl⟩
    exact ⟨value, find?_eq_some_iff.mpr listed⟩

/-- Dictionaries with the same entries in any order are the same. -/
theorem ext_perm {left right : Dictionary α} (permuted : left.entries.Perm right.entries) :
    left = right := by
  apply ext_find?
  intro key
  ext value
  rw [find?_eq_some_iff, find?_eq_some_iff, permuted.mem_iff]

/-- A mapped dictionary contains the same keys. -/
theorem contains_map (change : String → α → β) (dictionary : Dictionary α) (key : String) :
    (dictionary.map change).contains key = dictionary.contains key := by
  rw [contains, contains, find?_map, Option.isSome_map]

/-- The entries of a merge are, in some order, those of the left dictionary and those of the right
one under other keys. -/
theorem union_perm (left right : Dictionary α) :
    (left.union right).entries.Perm
      (left.entries ++ right.entries.filter fun entry => !left.contains entry.1) := by
  have apart : (left.entries ++ right.entries.filter fun entry => !left.contains entry.1).Nodup := by
    rw [List.nodup_append]
    refine ⟨left.nodup_entries, right.nodup_entries.filter _, ?_⟩
    rintro entry here _ there rfl
    obtain ⟨-, missing⟩ := List.mem_filter.mp there
    have held := contains_eq_true_iff.mpr ⟨entry.2, find?_eq_some_iff.mpr here⟩
    rw [held] at missing
    cases missing
  apply (List.perm_ext_iff_of_nodup (nodup_entries _) apart).mpr
  rintro ⟨key, value⟩
  rw [← find?_eq_some_iff, find?_union, Option.or_eq_some_iff, List.mem_append, List.mem_filter,
    ← find?_eq_some_iff, ← find?_eq_some_iff, Bool.not_eq_true', contains_eq_false_iff,
    and_comm (a := left.find? key = none)]

end AeadEnvelope.Dictionary
