import AeadEnvelope.Context.Canonical
import AeadEnvelope.Proofs.Context.Entries
import Mathlib.Data.List.TakeWhile
import Mathlib.Tactic.MkIffOfInductiveProp

/-!
# Reading canonical texts

A text is cut into segments at every entry separator, and each segment stands for one entry. A
text is read exactly when each of its segments can be read, and its entries with their keys in
lower case are then, in some order, those of the context (`parse_eq_ok_iff`). Main statement: the
canonical text of a context is read as that context (`parse_canonical`), so contexts with the same
canonical text are the same (`canonical_injective`).
-/
namespace AeadEnvelope.Context

/-- What stands between the entry separators of a text; the empty text has no segments. -/
def segments (text : String) : List (List Char) :=
  if text = "" then [] else text.toList.splitOn entrySeparator

/-- Key and value of a segment as they stand there. -/
def segmentEntry (segment : List Char) : String × Option String :=
  (String.ofList (segment.takeWhile (· != valueSeparator)),
    match segment.dropWhile (· != valueSeparator) with
    | [] => none
    | _ :: value => some (String.ofList value))

/-- Whether a segment has a key and no second value separator. -/
@[mk_iff readable_iff]
structure Readable (segment : List Char) : Prop where
  /-- The key is not empty. -/
  nonempty : (segmentEntry segment).1 ≠ ""
  /-- The value, if there is one, has no value separator. -/
  single : ∀ value, (segmentEntry segment).2 = some value → valueSeparator ∉ value.toList

/-- The entry that a segment stands for. -/
def readEntry (segment : List Char) : String × Option String := lowered (segmentEntry segment)

/-- A segment is added exactly when it can be read and its key is new. -/
theorem addSegment_eq_ok_iff {context later : Context} {segment : List Char} :
    context.addSegment segment = .ok later ↔
      Readable segment ∧ (readEntry segment).1 ∉ context.keys ∧
        later.entries.Perm (readEntry segment :: context.entries) := by
  simp only [readable_iff, addSegment, readEntry, lowered, segmentEntry]
  cases segment.dropWhile (· != valueSeparator) with
  | nil => simp [add_eq_ok_iff]
  | cons mark value =>
    by_cases second : valueSeparator ∈ value
    · simp [second]
    · simp [add_eq_ok_iff, second]

/-- Reading a text adds one segment after the other. -/
theorem parse_eq_foldlM (text : String) : parse text = (segments text).foldlM addSegment empty := by
  unfold parse segments
  split <;> rfl

/-- Segments are added from the start exactly when each of them can be read and the entries they
stand for are, in some order, those of the context. -/
theorem foldlM_addSegment_eq_ok_iff {pieces : List (List Char)} {context : Context} :
    pieces.foldlM addSegment empty = .ok context ↔
      (∀ segment ∈ pieces, Readable segment) ∧
        (pieces.map readEntry).Perm context.entries := by
  have read := foldlM_eq_ok_iff addSegment Readable readEntry (fun _ _ _ => addSegment_eq_ok_iff)
    pieces empty context
  rw [show empty.entries = [] from rfl, List.append_nil] at read
  exact read

/-- A text is read exactly when each of its segments can be read and the entries they stand for
are, in some order, those of the context. -/
theorem parse_eq_ok_iff {text : String} {context : Context} :
    parse text = .ok context ↔
      (∀ segment ∈ segments text, Readable segment) ∧
        ((segments text).map readEntry).Perm context.entries := by
  rw [parse_eq_foldlM, foldlM_addSegment_eq_ok_iff]

/-- A context of what segments stand for has the keys of that. -/
theorem keys_perm_of_entries {pieces : List (List Char)} {context : Context}
    (permuted : (pieces.map readEntry).Perm context.entries) :
    (pieces.map fun segment => (readEntry segment).1).Perm context.keys := by
  have keys := permuted.map Prod.fst
  rwa [List.map_map] at keys

/-- The entries of a text that is read have the keys of the context. -/
theorem keys_perm_of_parse {text : String} {context : Context} (read : parse text = .ok context) :
    ((segments text).map fun segment => (readEntry segment).1).Perm context.keys :=
  keys_perm_of_entries (parse_eq_ok_iff.mp read).2

/-- A text without separators has neither of them. -/
theorem hasSeparator_eq_false_iff {text : String} :
    hasSeparator text = false ↔ valueSeparator ∉ text.toList ∧ entrySeparator ∉ text.toList := by
  simp only [hasSeparator, List.any_eq_false, Bool.or_eq_true, beq_iff_eq, not_or]
  constructor
  · intro apart
    exact ⟨fun listed => (apart _ listed).1 rfl, fun listed => (apart _ listed).2 rfl⟩
  · rintro ⟨noValue, noEntry⟩ character listed
    exact ⟨fun same => noValue (same ▸ listed), fun same => noEntry (same ▸ listed)⟩

/-- An entry has a place in a canonical text exactly when neither its key nor its value has a
separator. -/
theorem offends_eq_false_iff {entry : String × Option String} :
    offends entry = false ↔
      hasSeparator entry.1 = false ∧ ∀ value, entry.2 = some value → hasSeparator value = false := by
  obtain ⟨key, value⟩ := entry
  cases value <;> simp [offends]

/-- An entry has no place in a canonical text exactly if its key or its value has a separator. -/
theorem offends_eq_true_iff {entry : String × Option String} :
    offends entry = true ↔
      hasSeparator entry.1 = true ∨ ∃ value, entry.2 = some value ∧ hasSeparator value = true := by
  obtain ⟨key, value⟩ := entry
  cases value <;> simp [offends]

/-- Characters of an entry as it is written. -/
theorem toList_entryText (entry : String × Option String) :
    (entryText entry).toList =
      entry.1.toList ++ entry.2.elim [] fun value => valueSeparator :: value.toList := by
  obtain ⟨key, value⟩ := entry
  cases value with
  | none => simp [entryText]
  | some value => simp [entryText, String.toList_append]

/-- Characters that are no value separators are passed over on the way to the first one. -/
theorem ne_valueSeparator_of_not_mem {characters : List Char}
    (bare : valueSeparator ∉ characters) :
    ∀ character ∈ characters, (character != valueSeparator) = true :=
  fun _ listed => bne_iff_ne.mpr fun same => bare (same ▸ listed)

/-- A segment without value separators is a key without a value. -/
theorem segmentEntry_of_not_mem {key : List Char} (bare : valueSeparator ∉ key) :
    segmentEntry key = (String.ofList key, none) := by
  have passed := ne_valueSeparator_of_not_mem bare
  rw [segmentEntry, List.takeWhile_eq_self_iff.mpr passed, List.dropWhile_eq_nil_iff.mpr passed]

/-- A segment is cut at its first value separator. -/
theorem segmentEntry_append_cons {key : List Char} (bare : valueSeparator ∉ key)
    (value : List Char) :
    segmentEntry (key ++ valueSeparator :: value) =
      (String.ofList key, some (String.ofList value)) := by
  have passed := ne_valueSeparator_of_not_mem bare
  rw [segmentEntry, List.takeWhile_append_of_pos passed, List.dropWhile_append_of_pos passed]
  simp

/-- A key without value separators is cut off where it ends. -/
theorem segmentEntry_entryText {entry : String × Option String}
    (bare : valueSeparator ∉ entry.1.toList) : segmentEntry (entryText entry).toList = entry := by
  obtain ⟨key, value⟩ := entry
  rw [toList_entryText]
  cases value with
  | none => rw [Option.elim_none, List.append_nil, segmentEntry_of_not_mem bare, String.ofList_toList]
  | some value =>
    rw [Option.elim_some, segmentEntry_append_cons bare, String.ofList_toList,
      String.ofList_toList]

/-- An entry of a context that has a place in a canonical text is read back from where it is
written. -/
theorem readEntry_entryText {entry : String × Option String} (named : IsKey entry.1)
    (placed : offends entry = false) :
    Readable (entryText entry).toList ∧ readEntry (entryText entry).toList = entry := by
  obtain ⟨keyPlain, valuePlain⟩ := offends_eq_false_iff.mp placed
  have cut := segmentEntry_entryText (hasSeparator_eq_false_iff.mp keyPlain).1
  refine ⟨⟨?_, ?_⟩, ?_⟩
  · rw [cut]
    exact named.1
  · rw [cut]
    exact fun value given => (hasSeparator_eq_false_iff.mp (valuePlain value given)).1
  · rw [readEntry, cut, lowered, named.2]

/-- An entry is written in at least one character and without entry separators. -/
theorem entryText_plain {entry : String × Option String} (named : IsKey entry.1)
    (placed : offends entry = false) :
    (entryText entry).toList ≠ [] ∧ entrySeparator ∉ (entryText entry).toList := by
  obtain ⟨keyPlain, valuePlain⟩ := offends_eq_false_iff.mp placed
  have apart : entrySeparator ≠ valueSeparator := by decide
  rw [toList_entryText]
  constructor
  · intro blank
    have := (List.append_eq_nil_iff.mp blank).1
    exact named.1 (String.toList_eq_nil_iff.mp this)
  · rw [List.mem_append, not_or]
    refine ⟨(hasSeparator_eq_false_iff.mp keyPlain).2, ?_⟩
    cases given : entry.2 with
    | none => simp
    | some value =>
      have plain := (hasSeparator_eq_false_iff.mp (valuePlain value given)).2
      simp [apart, plain]

/-- Pieces without entry separators, none of them empty, are the segments of the text that joins
them. -/
theorem segments_intercalate {pieces : List String}
    (plain : ∀ piece ∈ pieces, piece.toList ≠ [] ∧ entrySeparator ∉ piece.toList) :
    segments (entrySeparator.toString.intercalate pieces) = pieces.map String.toList := by
  cases pieces with
  | nil => simp [segments]
  | cons piece later =>
    have joined : (entrySeparator.toString.intercalate (piece :: later)).toList =
        [entrySeparator].intercalate ((piece :: later).map String.toList) := by
      rw [String.toList_intercalate]
      rfl
    have nonempty : entrySeparator.toString.intercalate (piece :: later) ≠ "" := by
      intro blank
      have first := (plain piece (by simp)).1
      rw [blank] at joined
      cases later with
      | nil => exact first (by simpa using joined.symm)
      | cons next rest => simp at joined
    rw [segments, if_neg nonempty, joined]
    refine List.splitOn_intercalate _ (fun piece listed => ?_) (by simp)
    obtain ⟨text, member, rfl⟩ := List.mem_map.mp listed
    exact (plain text member).2

/-- Putting an entry among others in order neither loses nor repeats one. -/
theorem arrange_perm (entry : String × Option String) (entries : List (String × Option String)) :
    (arrange entry entries).Perm (entry :: entries) := by
  induction entries with
  | nil => exact .refl _
  | cons head later step =>
    rw [arrange]
    split
    · exact .refl _
    · exact (step.cons head).trans (.swap _ _ _)

/-- The order of the canonical text neither loses nor repeats an entry. -/
theorem ordered_perm (context : Context) : context.ordered.Perm context.entries := by
  unfold ordered
  induction context.entries with
  | nil => exact .refl _
  | cons entry later step => exact (arrange_perm entry _).trans (step.cons entry)

/-- A context has no offenders exactly when every entry has a place in a canonical text. -/
theorem offenders_eq_nil_iff {context : Context} :
    context.offenders = [] ↔ ∀ entry ∈ context.entries, offends entry = false := by
  rw [offenders, List.map_eq_nil_iff, List.filter_eq_nil_iff]
  simp only [context.ordered_perm.mem_iff, Bool.not_eq_true]

/-- A context has a canonical text exactly when every entry has a place in it, and the text then
joins the entries in its order. -/
theorem canonical_eq_ok_iff {context : Context} {text : String} :
    context.canonical = .ok text ↔
      (∀ entry ∈ context.entries, offends entry = false) ∧
        entrySeparator.toString.intercalate (context.ordered.map entryText) = text := by
  rw [← offenders_eq_nil_iff, canonical]
  cases context.offenders <;> simp

/-- Every key occurs once in the order of the canonical text. -/
theorem nodup_keys_ordered (context : Context) : (context.ordered.map Prod.fst).Nodup :=
  (context.ordered_perm.map Prod.fst).nodup_iff.mpr context.nodup_keys

/-- No key is at fault twice. -/
theorem nodup_offenders (context : Context) : context.offenders.Nodup :=
  context.nodup_keys_ordered.sublist (List.filter_sublist.map Prod.fst)

/-- A context has no canonical text exactly if it has keys at fault, and for these. -/
theorem canonical_eq_error_iff {context : Context} {fault : Fault} :
    context.canonical = .error fault ↔
      context.offenders ≠ [] ∧ fault = .forbiddenCharacter context.offenders := by
  rw [canonical]
  cases context.offenders <;> simp [eq_comm]

/-- The segments of a canonical text are the entries in its order. -/
theorem segments_canonical {context : Context} {text : String}
    (written : context.canonical = .ok text) :
    segments text = context.ordered.map fun entry => (entryText entry).toList := by
  obtain ⟨placed, rfl⟩ := canonical_eq_ok_iff.mp written
  rw [segments_intercalate, List.map_map]
  · rfl
  · intro piece listed
    obtain ⟨entry, member, rfl⟩ := List.mem_map.mp listed
    have held := context.ordered_perm.subset member
    exact entryText_plain (isKey_of_mem held) (placed entry held)

/-- The canonical text of a context is read as that context. -/
theorem parse_canonical {context : Context} {text : String}
    (written : context.canonical = .ok text) : parse text = .ok context := by
  have readBack : ∀ entry ∈ context.ordered,
      Readable (entryText entry).toList ∧ readEntry (entryText entry).toList = entry := by
    intro entry member
    have held := context.ordered_perm.subset member
    exact readEntry_entryText (isKey_of_mem held) ((canonical_eq_ok_iff.mp written).1 entry held)
  rw [parse_eq_ok_iff, segments_canonical written]
  constructor
  · intro segment listed
    obtain ⟨entry, member, rfl⟩ := List.mem_map.mp listed
    exact (readBack entry member).1
  · rw [List.map_map]
    have same := calc
      context.ordered.map (readEntry ∘ fun entry => (entryText entry).toList) =
          context.ordered.map id :=
        List.map_congr_left fun entry member => (readBack entry member).2
      _ = context.ordered := List.map_id _
    rw [same]
    exact context.ordered_perm

/-- Contexts with the same canonical text are the same. -/
theorem canonical_injective {left right : Context} {text : String}
    (first : left.canonical = .ok text) (second : right.canonical = .ok text) : left = right :=
  Except.ok.inj ((parse_canonical first).symm.trans (parse_canonical second))

/-- The context of one entry. -/
def single (key : String) (value : Option String) (named : IsKey key) : Context :=
  ⟨⟨[(key, value)], List.pairwise_singleton _ _⟩, fun _ listed =>
    List.eq_of_mem_singleton listed ▸ named⟩

/-- The canonical text of one entry is that entry. -/
theorem canonical_single {key : String} {value : Option String} (named : IsKey key)
    (placed : offends (key, value) = false) :
    (single key value named).canonical = .ok (entryText (key, value)) := by
  have alone : (single key value named).entries = [(key, value)] := rfl
  have ordered : (single key value named).ordered = [(key, value)] := rfl
  rw [canonical_eq_ok_iff, alone, ordered]
  exact ⟨fun entry listed => List.eq_of_mem_singleton listed ▸ placed, String.intercalate_singleton⟩

end AeadEnvelope.Context
