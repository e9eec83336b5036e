import AeadEnvelope.Proofs.Context.CanonicalText
import AeadEnvelope.Proofs.Outcome
import Mathlib.Data.List.Nodup

/-!
# The grammar of texts of contexts

Every segment of a text is spelled in one way, as a key up to the first value separator and a value
behind it, if there is one (`Spells`). A segment is refused for one fault, which depends on the
segments before it only through their keys (`SegmentRefused`). Main statement: exactly the texts are
read whose segments have one value separator at most, keys that are not empty, and no key twice in
lower case, and all others are refused for the first segment that cannot stand behind those before
it (`parse_grammar`).
-/
namespace AeadEnvelope.Context

variable {segment : List Char} {pieces : List (List Char)} {key : String} {value : Option String}
  {keys others : List String} {context : Context} {fault : Fault}

/-- A segment is spelled as a key, and as a value behind a value separator if it has one. -/
structure Spells (segment : List Char) (key : String) (value : Option String) : Prop where
  /-- The characters are those of the key, or of the key, the separator and the value. -/
  characters : (entryText (key, value)).toList = segment
  /-- The key ends in front of the first value separator. -/
  bare : valueSeparator ∉ key.toList

/-- The key in lower case that a segment stands for. -/
def readKey (segment : List Char) : String := (readEntry segment).1

/-- Segments that can stand one behind the other. -/
structure Legible (pieces : List (List Char)) : Prop where
  /-- No segment has a second value separator. -/
  single : ∀ segment ∈ pieces, segment.count valueSeparator ≤ 1
  /-- No segment is spelled with an empty key. -/
  nonempty : ∀ segment ∈ pieces, ∀ value, ¬ Spells segment "" value
  /-- No key occurs twice in lower case. -/
  distinct : (pieces.map readKey).Nodup

/-- Why a segment cannot stand behind segments with the keys `keys`. -/
inductive SegmentRefused (keys : List String) (segment : List Char) : Fault → Prop where
  /-- It has a second value separator. -/
  | forbidden {key : String} {value : Option String} (spelled : Spells segment key value)
    (many : 1 < segment.count valueSeparator) :
    SegmentRefused keys segment (.forbiddenCharacter [Text.lowerCase key])
  /-- Its key is empty. -/
  | empty {value : Option String} (spelled : Spells segment "" value)
    (single : segment.count valueSeparator ≤ 1) : SegmentRefused keys segment (.emptyEntry "")
  /-- Its key in lower case is one of those before. -/
  | repeated {key : String} {value : Option String} (spelled : Spells segment key value)
    (single : segment.count valueSeparator ≤ 1) (nonempty : key ≠ "")
    (old : Text.lowerCase key ∈ keys) :
    SegmentRefused keys segment (.duplicateKey (Text.lowerCase key))

/-- The fault of the first segment that cannot stand behind those before it. -/
def Misread : List (List Char) → Fault → Prop :=
  Outcome.FirstFault Legible fun earlier segment => SegmentRefused (earlier.map readKey) segment

/-- A context has what segments stand for, and nothing else. -/
def Holds (context : Context) (pieces : List (List Char)) : Prop :=
  ∀ key value, context.values.find? key = some value ↔
    ∃ segment ∈ pieces, ∃ written, Spells segment written value ∧ Text.lowerCase written = key

section Segment

/-- Every segment is spelled in some way. -/
theorem exists_spells (segment : List Char) : ∃ key value, Spells segment key value := by
  by_cases cut : valueSeparator ∈ segment
  · obtain ⟨key, value, rfl, bare⟩ := List.eq_append_cons_of_mem cut
    refine ⟨String.ofList key, some (String.ofList value), ?_, ?_⟩
    · rw [toList_entryText, String.toList_ofList, Option.elim_some, String.toList_ofList]
    · rw [String.toList_ofList]
      exact bare
  · refine ⟨String.ofList segment, none, ?_, ?_⟩
    · rw [toList_entryText, String.toList_ofList, Option.elim_none, List.append_nil]
    · rw [String.toList_ofList]
      exact cut

/-- A segment is cut into the key and the value that it is spelled as. -/
theorem Spells.segmentEntry_eq (spelled : Spells segment key value) :
    segmentEntry segment = (key, value) := by
  rw [← spelled.characters]
  exact segmentEntry_entryText spelled.bare

/-- A segment is spelled in one way. -/
theorem Spells.unique {other : String} {given : Option String} (spelled : Spells segment key value)
    (again : Spells segment other given) : (key, value) = (other, given) :=
  spelled.segmentEntry_eq.symm.trans again.segmentEntry_eq

/-- The entry that a segment stands for has its key in lower case. -/
theorem Spells.readEntry_eq (spelled : Spells segment key value) :
    readEntry segment = (Text.lowerCase key, value) := by
  rw [readEntry, spelled.segmentEntry_eq]
  rfl

/-- A segment has a second value separator exactly if its value has one. -/
theorem Spells.count_le_one_iff (spelled : Spells segment key value) :
    segment.count valueSeparator ≤ 1 ↔
      ∀ text, value = some text → valueSeparator ∉ text.toList := by
  have before : key.toList.count valueSeparator = 0 := List.count_eq_zero.mpr spelled.bare
  rw [← spelled.characters, toList_entryText, List.count_append, before, Nat.zero_add]
  cases value with
  | none => simp
  | some text =>
    have counted : (valueSeparator :: text.toList).count valueSeparator =
        text.toList.count valueSeparator + 1 := List.count_cons_self
    have alone : text.toList.count valueSeparator + 1 ≤ 1 ↔
        text.toList.count valueSeparator = 0 := by omega
    rw [Option.elim_some, counted, alone, List.count_eq_zero]
    simp

/-- A segment can be read exactly if its key is not empty and it has one value separator at most. -/
theorem Spells.readable_iff (spelled : Spells segment key value) :
    Readable segment ↔ key ≠ "" ∧ segment.count valueSeparator ≤ 1 := by
  rw [Context.readable_iff, spelled.segmentEntry_eq, spelled.count_le_one_iff]

/-- Behind a check for a second value separator a segment is added as it is spelled. -/
theorem Spells.addSegment_eq (spelled : Spells segment key value) (context : Context) :
    context.addSegment segment =
      if segment.count valueSeparator ≤ 1 then context.add key value
      else .error (.forbiddenCharacter [Text.lowerCase key]) := by
  have cut := spelled.segmentEntry_eq
  rw [segmentEntry, Prod.mk.injEq] at cut
  obtain ⟨front, back⟩ := cut
  simp only [addSegment, front, spelled.count_le_one_iff]
  cases rest : segment.dropWhile (· != valueSeparator) with
  | nil =>
    rw [rest] at back
    simp [← back]
  | cons mark text =>
    rw [rest] at back
    by_cases second : valueSeparator ∈ text <;> simp [← back, second]

/-- A segment is not added exactly for what it is refused for. -/
theorem addSegment_eq_error_iff :
    context.addSegment segment = .error fault ↔ SegmentRefused context.keys segment fault := by
  obtain ⟨key, value, spelled⟩ := exists_spells segment
  rw [spelled.addSegment_eq]
  constructor
  · intro failed
    split at failed
    · next single =>
      rcases add_eq_error_iff.mp failed with ⟨rfl, rfl⟩ | ⟨nonempty, old, rfl⟩
      · exact .empty spelled single
      · exact .repeated spelled single nonempty old
    · next many =>
      cases failed
      exact .forbidden spelled (Nat.lt_of_not_le many)
  · intro refused
    cases refused with
    | forbidden other many =>
      cases spelled.unique other
      rw [if_neg (Nat.not_le.mpr many)]
    | empty other single =>
      cases spelled.unique other
      rw [if_pos single]
      exact add_eq_error_iff.mpr (.inl ⟨rfl, rfl⟩)
    | repeated other single nonempty old =>
      cases spelled.unique other
      rw [if_pos single]
      exact add_eq_error_iff.mpr (.inr ⟨nonempty, old, rfl⟩)

end Segment

section Segments

/-- The keys before a segment count as a set. -/
theorem SegmentRefused.congr (refused : SegmentRefused keys segment fault)
    (same : ∀ key, key ∈ keys ↔ key ∈ others) : SegmentRefused others segment fault := by
  cases refused with
  | forbidden spelled many => exact .forbidden spelled many
  | empty spelled single => exact .empty spelled single
  | repeated spelled single nonempty old =>
    exact .repeated spelled single nonempty ((same _).mp old)

/-- Segments can stand one behind the other exactly if each can be read and no key occurs twice. -/
theorem legible_iff :
    Legible pieces ↔ (∀ segment ∈ pieces, Readable segment) ∧ (pieces.map readKey).Nodup := by
  constructor
  · intro legible
    refine ⟨?_, legible.distinct⟩
    intro segment listed
    obtain ⟨key, value, spelled⟩ := exists_spells segment
    have nonempty : key ≠ "" := by
      rintro rfl
      exact legible.nonempty segment listed value spelled
    exact spelled.readable_iff.mpr ⟨nonempty, legible.single segment listed⟩
  · rintro ⟨readable, distinct⟩
    refine ⟨?_, ?_, distinct⟩
    · intro segment listed
      obtain ⟨key, value, spelled⟩ := exists_spells segment
      exact (spelled.readable_iff.mp (readable segment listed)).2
    · intro segment listed value spelled
      exact (spelled.readable_iff.mp (readable segment listed)).1 rfl

/-- What can be read of segments has keys in lower case that are not empty. -/
theorem isKey_readKey (readable : Readable segment) : IsKey (readKey segment) :=
  isKey_lowerCase readable.nonempty

/-- Segments are added from the start exactly if they can stand one behind the other. -/
theorem exists_foldlM_addSegment_iff :
    (∃ context, pieces.foldlM addSegment empty = .ok context) ↔ Legible pieces := by
  simp only [foldlM_addSegment_eq_ok_iff, legible_iff, exists_and_left]
  refine and_congr_right fun readable => ?_
  have named : ∀ entry ∈ pieces.map readEntry, IsKey entry.1 := by
    intro entry listed
    obtain ⟨segment, member, rfl⟩ := List.mem_map.mp listed
    exact isKey_readKey (readable segment member)
  rw [exists_entries_perm_iff named, List.map_map]
  rfl

/-- Behind segments that were added a segment is not added exactly for what it is refused for behind
their keys. -/
theorem addSegment_eq_error_iff_of_foldlM (front : pieces.foldlM addSegment empty = .ok context) :
    context.addSegment segment = .error fault ↔
      SegmentRefused (pieces.map readKey) segment fault := by
  have held : ∀ key, key ∈ context.keys ↔ key ∈ pieces.map readKey := by
    intro key
    have permuted := (foldlM_addSegment_eq_ok_iff.mp front).2
    exact (keys_perm_of_entries permuted).mem_iff.symm
  rw [addSegment_eq_error_iff]
  exact ⟨fun refused => refused.congr held, fun refused => refused.congr fun key => (held key).symm⟩

/-- A text is not read exactly for the first segment that cannot stand behind those before it. -/
theorem parse_eq_error_iff {text : String} :
    parse text = .error fault ↔ Misread (segments text) fault := by
  rw [parse_eq_foldlM]
  exact Outcome.foldlM_eq_error_iff_firstFault (fun _ => exists_foldlM_addSegment_iff)
    fun _ _ front _ _ => addSegment_eq_error_iff_of_foldlM front

/-- A context has what segments stand for exactly if that is, in some order, its entries. -/
theorem holds_iff_perm (distinct : (pieces.map readKey).Nodup) :
    Holds context pieces ↔ (pieces.map readEntry).Perm context.entries := by
  have stands : ∀ key value, (key, value) ∈ pieces.map readEntry ↔
      ∃ segment ∈ pieces, ∃ written, Spells segment written value ∧
        Text.lowerCase written = key := by
    intro key value
    rw [List.mem_map]
    apply exists_congr
    intro segment
    apply and_congr_right
    intro _
    constructor
    · intro same
      obtain ⟨written, given, spelled⟩ := exists_spells segment
      cases spelled.readEntry_eq.symm.trans same
      exact ⟨written, spelled, rfl⟩
    · rintro ⟨written, spelled, rfl⟩
      exact spelled.readEntry_eq
  have entries : (pieces.map readEntry).Nodup := by
    apply List.Nodup.of_map Prod.fst
    rw [List.map_map]
    exact distinct
  have own : context.entries.Nodup := context.values.nodup_entries
  rw [List.perm_ext_iff_of_nodup entries own, Prod.forall]
  simp only [Holds, stands, Dictionary.find?_eq_some_iff]
  exact forall_congr' fun _ => forall_congr' fun _ => iff_comm

end Segments

/-- The grammar of texts of contexts. A text is read exactly if every segment has one value
separator at most and a key that is not empty, and no key occurs twice in lower case; the context
then has the keys in lower case with the values behind the separators, and nothing else. All other
texts are refused for the first segment from the left that has a second value separator, or else an
empty key, or else a key of those before it. The empty text has no segments, and is read as the
context without keys. -/
theorem parse_grammar (text : String) :
    (∀ context, parse text = .ok context ↔
      Legible (segments text) ∧ context.Holds (segments text)) ∧
    (Legible (segments text) → ∃ context, parse text = .ok context) ∧
    (∀ fault, parse text = .error fault ↔ Misread (segments text) fault) ∧
    parse "" = .ok empty := by
  refine ⟨?_, ?_, fun _ => parse_eq_error_iff, rfl⟩
  · intro context
    rw [parse_eq_ok_iff, legible_iff]
    constructor
    · rintro ⟨readable, permuted⟩
      have distinct := (keys_perm_of_entries permuted).nodup_iff.mpr context.nodup_keys
      exact ⟨⟨readable, distinct⟩, (holds_iff_perm distinct).mpr permuted⟩
    · rintro ⟨⟨readable, distinct⟩, holds⟩
      exact ⟨readable, (holds_iff_perm distinct).mp holds⟩
  · intro legible
    rw [parse_eq_foldlM]
    exact exists_foldlM_addSegment_iff.mpr legible

/-- A text with a key in upper case and a placeholder is read; and where an empty segment stands
before one with two value separators, it is what the text is refused for. -/
theorem parse_grammar_placeholder :
    Legible (segments "B=1|a") ∧ (∃ context, parse "B=1|a" = .ok context) ∧
    parse "k||x=1=2" = .error (.emptyEntry "") := by
  have cut : segments "B=1|a" = ["B=1".toList, "a".toList] := by decide
  have first : Spells "B=1".toList "B" (some "1") := ⟨by decide, by decide⟩
  have second : Spells "a".toList "a" none := ⟨by decide, by decide⟩
  have readable : ∀ segment ∈ segments "B=1|a", Readable segment := by
    rw [cut, List.forall_mem_cons, List.forall_mem_singleton]
    exact ⟨first.readable_iff.mpr ⟨by decide, by decide⟩,
      second.readable_iff.mpr ⟨by decide, by decide⟩⟩
  have legible : Legible (segments "B=1|a") :=
    legible_iff.mpr ⟨readable, by decide +kernel⟩
  have refusedCut : segments "k||x=1=2" = ["k".toList] ++ [] :: ["x=1=2".toList] := by decide
  have alone : Legible ["k".toList] := by
    have key : Spells "k".toList "k" none := ⟨by decide, by decide⟩
    have here : Readable "k".toList := key.readable_iff.mpr ⟨by decide, by decide⟩
    exact legible_iff.mpr ⟨List.forall_mem_singleton.mpr here, List.nodup_singleton _⟩
  have vacant : Spells [] "" none := ⟨by decide, by decide⟩
  have misread : Misread (segments "k||x=1=2") (.emptyEntry "") := by
    rw [refusedCut]
    exact .behind alone (.empty vacant (by decide))
  obtain ⟨-, exists_context, -⟩ := parse_grammar "B=1|a"
  obtain ⟨-, -, refusedFor, -⟩ := parse_grammar "k||x=1=2"
  exact ⟨legible, exists_context legible, (refusedFor _).mpr misread⟩

end AeadEnvelope.Context
