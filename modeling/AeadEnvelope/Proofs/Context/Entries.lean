import AeadEnvelope.Context.Basic
import AeadEnvelope.Proofs.Dictionary

/-!
# The entries of a context

A context is determined by its entries in any order, since the order in which it keeps them
follows from their keys. Adding an entry succeeds exactly when its key is not empty and is new in
lower case, and then puts the entry among the others (`add_eq_ok_iff`). Main statement: whatever
adds entries one after the other succeeds exactly when every step is legal and the entries added
are, in some order, those of a context (`foldlM_eq_ok_iff`), so a context is built again from its
entries in any order (`ofEntries_of_perm`).
-/
namespace AeadEnvelope

/-- Whether a text can be a key is found by putting it into lower case. -/
instance (text : String) : Decidable (IsKey text) :=
  inferInstanceAs (Decidable (text ≠ "" ∧ Text.lowerCase text = text))

namespace Context

/-- The keys of a context in ascending order. -/
def keys (context : Context) : List String := context.entries.map Prod.fst

/-- Every key of a context occurs once. -/
theorem nodup_keys (context : Context) : context.keys.Nodup := context.values.nodup_keys

/-- A text of the entries' keys is a key. -/
theorem isKey_of_mem {context : Context} {entry : String × Option String}
    (listed : entry ∈ context.entries) : IsKey entry.1 := context.named entry listed

/-- Contexts with the same entries in any order are the same. -/
theorem ext_perm {left right : Context} (permuted : left.entries.Perm right.entries) :
    left = right := by
  cases left
  cases right
  simp only [mk.injEq]
  exact Dictionary.ext_perm permuted

/-- Contexts in which every key finds the same are the same. -/
theorem ext_find? {left right : Context}
    (same : ∀ key, left.values.find? key = right.values.find? key) : left = right := by
  have values := Dictionary.ext_find? same
  exact ext_perm (.of_eq (congrArg Dictionary.entries values))

/-- An entry is added exactly when its key is not empty and is new in lower case, and it is then
one of the entries. -/
theorem add_eq_ok_iff {context later : Context} {key : String} {value : Option String} :
    context.add key value = .ok later ↔
      key ≠ "" ∧ Text.lowerCase key ∉ context.keys ∧
        later.entries.Perm ((Text.lowerCase key, value) :: context.entries) := by
  have held : context.values.contains (Text.lowerCase key) = true ↔
      Text.lowerCase key ∈ context.keys := Dictionary.contains_eq_true_iff_mem
  unfold add
  split
  · next empty => simp [empty]
  · next nonempty =>
    split
    · next old => simp [held.mp old]
    · next new =>
      have fresh : Text.lowerCase key ∉ context.keys := fun member => new (held.mpr member)
      have placed := Dictionary.place_perm value fresh
      simp only [nonempty, ne_eq, not_false_eq_true, fresh, true_and, Except.ok.injEq]
      constructor
      · rintro rfl
        exact placed
      · intro permuted
        exact ext_perm (placed.trans permuted.symm)

/-- An entry is not added exactly if its key is empty, or is one of the keys in lower case. -/
theorem add_eq_error_iff {context : Context} {key : String} {value : Option String}
    {fault : Fault} :
    context.add key value = .error fault ↔
      key = "" ∧ fault = .emptyEntry "" ∨
        key ≠ "" ∧ Text.lowerCase key ∈ context.keys ∧
          fault = .duplicateKey (Text.lowerCase key) := by
  have held : context.values.contains (Text.lowerCase key) = true ↔
      Text.lowerCase key ∈ context.keys := Dictionary.contains_eq_true_iff_mem
  unfold add
  split
  · next empty => simp [empty, eq_comm]
  · next nonempty =>
    split
    · next old => simp [nonempty, held.mp old, eq_comm]
    · next new =>
      have fresh : Text.lowerCase key ∉ context.keys := fun member => new (held.mpr member)
      simp [nonempty, fresh]

/-- A key that is not in a context can be put into it. -/
theorem exists_perm_cons {context : Context} {key : String} (named : IsKey key)
    (fresh : key ∉ context.keys) (value : Option String) :
    ∃ later : Context, later.entries.Perm ((key, value) :: context.entries) := by
  refine ⟨⟨context.values.insert key value, fun entry member => ?_⟩,
    Dictionary.place_perm value fresh⟩
  rcases Dictionary.eq_or_mem_of_mem_place member with rfl | old
  · exact named
  · exact context.named _ old

/-- Steps that each add one entry where that is legal and its key is new add all of them exactly
when every step is legal and the entries are, in some order, those of a context. -/
theorem foldlM_eq_ok_iff {α : Type} (step : Context → α → Except Fault Context)
    (legal : α → Prop) (entryOf : α → String × Option String)
    (adds : ∀ start item later, step start item = .ok later ↔
      legal item ∧ (entryOf item).1 ∉ start.keys ∧
        later.entries.Perm (entryOf item :: start.entries))
    (items : List α) (start context : Context) :
    items.foldlM step start = .ok context ↔
      (∀ item ∈ items, legal item) ∧
        (items.map entryOf ++ start.entries).Perm context.entries := by
  induction items generalizing start with
  | nil =>
    simp only [List.foldlM_nil, List.map_nil, List.nil_append, List.not_mem_nil, false_implies,
      implies_true, true_and, pure, Except.pure, Except.ok.injEq]
    exact ⟨fun same => same ▸ .refl _, ext_perm⟩
  | cons item later induction =>
    -- The entries before the first one are rearranged so that it stands behind the later ones.
    have moved : ∀ middle : Context, middle.entries.Perm (entryOf item :: start.entries) →
        ((item :: later).map entryOf ++ start.entries).Perm
          (later.map entryOf ++ middle.entries) := fun middle permuted =>
      List.perm_middle.symm.trans (permuted.symm.append_left _)
    rw [List.foldlM_cons, List.forall_mem_cons]
    constructor
    · intro added
      cases first : step start item with
      | error fault => simp [first, bind, Except.bind] at added
      | ok middle =>
        obtain ⟨allowed, -, permuted⟩ := (adds _ _ _).mp first
        simp only [first, bind, Except.bind] at added
        obtain ⟨rest, all⟩ := (induction middle).mp added
        exact ⟨⟨allowed, rest⟩, (moved middle permuted).trans all⟩
    · rintro ⟨⟨allowed, rest⟩, all⟩
      have listed : entryOf item ∈ context.entries := all.subset (by simp)
      have distinct : ((item :: later).map entryOf ++ start.entries).map Prod.fst |>.Nodup :=
        (all.map Prod.fst).nodup_iff.mpr context.nodup_keys
      have fresh : (entryOf item).1 ∉ start.keys := by
        intro held
        rw [List.map_append, List.nodup_append] at distinct
        exact distinct.2.2 _ (by simp) _ held rfl
      obtain ⟨middle, permuted⟩ := exists_perm_cons (isKey_of_mem listed) fresh (entryOf item).2
      rw [(adds _ _ _).mpr ⟨allowed, fresh, permuted⟩]
      exact (induction middle).mpr ⟨rest, (moved middle permuted).symm.trans all⟩

/-- An entry with its key in lower case. -/
def lowered (entry : String × Option String) : String × Option String :=
  (Text.lowerCase entry.1, entry.2)

/-- A context is built from entries exactly when none of their keys is empty and the entries with
their keys in lower case are, in some order, those of the context. -/
theorem ofEntries_eq_ok_iff {entries : List (String × Option String)} {context : Context} :
    ofEntries entries = .ok context ↔
      (∀ entry ∈ entries, entry.1 ≠ "") ∧ (entries.map lowered).Perm context.entries := by
  have built := foldlM_eq_ok_iff (fun context entry => context.add entry.1 entry.2)
    (fun entry => entry.1 ≠ "") lowered (fun _ _ _ => add_eq_ok_iff) entries empty context
  rw [show empty.entries = [] from rfl, List.append_nil] at built
  exact built

/-- Entries whose keys are in lower case stay as they are. -/
theorem map_lowered_eq_self {entries : List (String × Option String)}
    (named : ∀ entry ∈ entries, IsKey entry.1) : entries.map lowered = entries := calc
  entries.map lowered = entries.map id :=
    List.map_congr_left fun entry listed => Prod.ext (named entry listed).2 rfl
  _ = entries := List.map_id entries

/-- A context is built from entries whose keys are in lower case exactly when these are, in some
order, the entries of the context. -/
theorem ofEntries_eq_ok_iff_perm {entries : List (String × Option String)} {context : Context}
    (named : ∀ entry ∈ entries, IsKey entry.1) :
    ofEntries entries = .ok context ↔ entries.Perm context.entries := by
  rw [ofEntries_eq_ok_iff, map_lowered_eq_self named]
  exact and_iff_right fun entry listed => (named entry listed).1

/-- A context is built again from its entries in any order. -/
theorem ofEntries_of_perm {entries : List (String × Option String)} {context : Context}
    (permuted : entries.Perm context.entries) : ofEntries entries = .ok context :=
  (ofEntries_eq_ok_iff_perm fun _ listed => isKey_of_mem (permuted.subset listed)).mpr permuted

/-- Entries with keys in lower case are, in some order, those of a context exactly if no key occurs
twice. -/
theorem exists_entries_perm_iff {entries : List (String × Option String)}
    (named : ∀ entry ∈ entries, IsKey entry.1) :
    (∃ context : Context, entries.Perm context.entries) ↔ (entries.map Prod.fst).Nodup := by
  constructor
  · rintro ⟨context, permuted⟩
    exact (permuted.map Prod.fst).nodup_iff.mpr context.nodup_keys
  · intro distinct
    induction entries with
    | nil => exact ⟨empty, .refl _⟩
    | cons entry later step =>
      obtain ⟨here, rest⟩ := List.forall_mem_cons.mp named
      obtain ⟨new, apart⟩ := List.nodup_cons.mp distinct
      obtain ⟨context, permuted⟩ := step rest apart
      have fresh : entry.1 ∉ context.keys := fun held =>
        new ((permuted.map Prod.fst).mem_iff.mpr held)
      obtain ⟨longer, placed⟩ := exists_perm_cons here fresh entry.2
      exact ⟨longer, (permuted.cons entry).trans placed.symm⟩

end Context

end AeadEnvelope
