import AeadEnvelope.Proofs.Context.Agreement

/-!
# Texts that extend one another

Where the end of a context is moved, one text is read instead of another that extends it. Both may
be well formed. If they give the same keys, the longer text only goes on with the last entry of
the shorter one (`segments_append`), and unless it goes on with the value separator, which would
give a value to a placeholder, it makes a longer value of a value that is there. Main statement: no
expected context agrees with both (`not_agrees_append`).
-/
namespace AeadEnvelope

/-- A text whose UTF-8 form starts with that of another one extends it by the text of the other
bytes. -/
theorem exists_append_of_utf8 {front text : String} {rest : Bytes}
    (starts : utf8 text = utf8 front ++ rest) :
    ∃ back : String, text = front ++ back ∧ utf8 back = rest := by
  have encoded : front.toList.utf8Encode ++ ⟨rest.toArray⟩ = text.toList.utf8Encode := by
    rw [String.utf8Encode_toList, String.utf8Encode_toList]
    apply ByteArray.ext
    apply Array.toList_inj.mp
    simpa [utf8] using starts.symm
  obtain ⟨tail, joined⟩ := List.isPrefix_of_utf8Encode_append_eq_utf8Encode _ encoded
  have whole : text = front ++ String.ofList tail := by
    rw [← String.toList_inj, ← joined, String.toList_append, String.toList_ofList]
  refine ⟨String.ofList tail, whole, ?_⟩
  rw [whole, utf8_append] at starts
  exact List.append_cancel_left starts

namespace Text

/-- A lower-case form is as long as those of its characters together. -/
theorem length_lowerAfter (before characters : List Char) :
    (lowerAfter before characters).length = (characters.flatMap lowerCharacter).length := by
  induction characters generalizing before with
  | nil => rfl
  | cons character after step =>
    rw [lowerAfter, List.flatMap_cons, List.length_append, List.length_append, step]
    split
    · next sigma => rw [sigma, lowerCharacter_sigma]; rfl
    · rfl

/-- A text that goes on has another lower-case form. -/
theorem eq_nil_of_lowerCase_append {front back : List Char}
    (same : lowerCase (String.ofList (front ++ back)) = lowerCase (String.ofList front)) :
    back = [] := by
  have lengths := congrArg (fun text => text.toList.length) same
  simp only [lowerCase, String.toList_ofList, length_lowerAfter, List.flatMap_append,
    List.length_append] at lengths
  cases back with
  | nil => rfl
  | cons character after =>
    have some := List.length_pos_iff.mpr (lowerCharacter_ne_nil character)
    rw [List.flatMap_cons, List.length_append] at lengths
    omega

end Text

/-- Two lists in a row are split like each of them, but the last piece of the one is joined to the
first piece of the other. -/
theorem splitOn_append (separator : Char) (front back : List Char) :
    ∃ pieces last first others, front.splitOn separator = pieces ++ [last] ∧
      back.splitOn separator = first :: others ∧
      (front ++ back).splitOn separator = pieces ++ (last ++ first) :: others := by
  induction front with
  | nil =>
    cases split : back.splitOn separator with
    | nil => exact absurd split (List.splitOn_ne_nil _ _)
    | cons first others => exact ⟨[], [], first, others, by simp, rfl, by simpa using split⟩
  | cons head tail step =>
    obtain ⟨pieces, last, first, others, front, back, both⟩ := step
    rw [List.cons_append, List.splitOn_cons_eq_if_modifyHead, List.splitOn_cons_eq_if_modifyHead,
      front, both]
    split
    · exact ⟨[] :: pieces, last, first, others, rfl, back, rfl⟩
    · cases pieces with
      | nil => exact ⟨[], head :: last, first, others, rfl, back, rfl⟩
      | cons piece pieces => exact ⟨(head :: piece) :: pieces, last, first, others, rfl, back, rfl⟩

namespace Context

/-- The key of an entry with a value finds that value. -/
theorem find?_of_mem {context : Context} {entry : String × Option String} {value : String}
    (listed : entry ∈ context.entries) (given : entry.2 = some value) :
    context.values.find? entry.1 = some (some value) :=
  Dictionary.find?_eq_some_iff.mpr (given ▸ listed)

/-- Two texts of which one extends the other, read as contexts with the same keys, have the same
segments but for the last one, which goes on under the same key. -/
theorem segments_append {front back : String} {left right : Context}
    (first : parse front = .ok left) (second : parse (front ++ back) = .ok right)
    (sameKeys : ∀ key, key ∈ left.keys ↔ key ∈ right.keys) (extended : back ≠ "") :
    ∃ pieces last, segments front = pieces ++ [last] ∧
      segments (front ++ back) = pieces ++ [last ++ back.toList] ∧
      (readEntry last).1 = (readEntry (last ++ back.toList)).1 := by
  have keys : left.keys.Perm right.keys :=
    (List.perm_ext_iff_of_nodup left.nodup_keys right.nodup_keys).mpr sameKeys
  have read : ((segments front).map fun segment => (readEntry segment).1).Perm
      ((segments (front ++ back)).map fun segment => (readEntry segment).1) :=
    (keys_perm_of_parse first).trans (keys.trans (keys_perm_of_parse second).symm)
  have counted := read.length_eq
  rw [List.length_map, List.length_map] at counted
  have longer : front ++ back ≠ "" := fun blank => extended (String.append_eq_empty_iff.mp blank).2
  obtain ⟨pieces, last, next, others, frontSplit, backSplit, bothSplit⟩ :=
    splitOn_append entrySeparator front.toList back.toList
  rw [← String.toList_append] at bothSplit
  have both : segments (front ++ back) = pieces ++ (last ++ next) :: others := by
    rw [segments, if_neg longer, bothSplit]
  by_cases blank : front = ""
  · -- The empty text has no keys, and a longer one has some.
    rw [both, segments, if_pos blank] at counted
    simp at counted
  · have one : segments front = pieces ++ [last] := by rw [segments, if_neg blank, frontSplit]
    rw [one, both] at counted
    simp only [List.length_append, List.length_cons, List.length_nil] at counted
    obtain rfl : others = [] := List.length_eq_zero_iff.mp (by omega)
    have whole : [entrySeparator].intercalate (back.toList.splitOn entrySeparator) = back.toList :=
      List.intercalate_splitOn entrySeparator
    rw [backSplit, List.intercalate_singleton] at whole
    subst whole
    refine ⟨pieces, last, one, both, ?_⟩
    rw [one, both, List.map_append, List.map_append, List.perm_append_left_iff] at read
    simpa using read

/-- A segment that goes on under the same key, and not with the value separator, has a value that
goes on. -/
theorem segmentEntry_append {last back : List Char} {character : Char} {after : List Char}
    (begins : back = character :: after) (unmarked : character ≠ valueSeparator)
    (sameKey : (readEntry last).1 = (readEntry (last ++ back)).1) :
    ∃ value, (segmentEntry last).2 = some value ∧
      (segmentEntry (last ++ back)).2 = some (value ++ String.ofList back) := by
  by_cases marked : valueSeparator ∈ last
  · obtain ⟨key, value, rfl, bare⟩ := List.eq_append_cons_of_mem marked
    refine ⟨String.ofList value, ?_, ?_⟩
    · rw [segmentEntry_append_cons bare]
    · rw [List.append_assoc, List.cons_append, segmentEntry_append_cons bare,
        String.ofList_append]
  · -- The key itself would go on, and no longer key has the same lower-case form.
    have passed := ne_valueSeparator_of_not_mem marked
    have longer : (segmentEntry (last ++ back)).1 =
        String.ofList (last ++ back.takeWhile (· != valueSeparator)) := by
      rw [segmentEntry, List.takeWhile_append_of_pos passed]
    rw [readEntry, readEntry, lowered, lowered, longer, segmentEntry_of_not_mem marked] at sameKey
    have nothing := Text.eq_nil_of_lowerCase_append sameKey.symm
    simp [begins, unmarked] at nothing

/-- No expected context agrees with two texts of which one extends the other otherwise than by the
value separator. -/
theorem not_agrees_append {front back : String} {left right expected : Context}
    (first : parse front = .ok left) (second : parse (front ++ back) = .ok right)
    {character : Char} {after : List Char} (begins : back.toList = character :: after)
    (unmarked : character ≠ valueSeparator) (agreed : left.Agrees expected) :
    ¬ right.Agrees expected := by
  intro alsoAgreed
  have sameKeys : ∀ key, key ∈ left.keys ↔ key ∈ right.keys := fun key =>
    (agreed.sameKeys key).trans (alsoAgreed.sameKeys key).symm
  have extended : back ≠ "" := fun blank => by
    rw [blank] at begins
    cases begins
  obtain ⟨pieces, last, shorter, longer, sameKey⟩ := segments_append first second sameKeys extended
  obtain ⟨value, given, goesOn⟩ := segmentEntry_append begins unmarked sameKey
  -- Both values are asked of the expected context under one key.
  have held : readEntry last ∈ left.entries :=
    (parse_eq_ok_iff.mp first).2.subset (by simp [shorter])
  have heldOn : readEntry (last ++ back.toList) ∈ right.entries :=
    (parse_eq_ok_iff.mp second).2.subset (by simp [longer])
  have one := agreed.sameValues _ value (find?_of_mem held given)
  have other := alsoAgreed.sameValues _ _ (find?_of_mem heldOn goesOn)
  rw [← sameKey, one, Option.some.injEq, Option.some.injEq] at other
  have nothing := congrArg String.toList other
  rw [String.toList_append, String.toList_ofList, begins] at nothing
  simp at nothing

end Context

end AeadEnvelope
