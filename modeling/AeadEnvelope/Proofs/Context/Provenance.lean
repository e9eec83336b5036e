import AeadEnvelope.Proofs.ByteOrder
import AeadEnvelope.Proofs.Context.Filling
import AeadEnvelope.Proofs.TagLength.LegacyLayout

/-!
# Where contexts come from

Entries are built into a context exactly if none of their keys is empty and these are distinct in
lower case (`exists_ofEntries_iff`), and otherwise the first entry that cannot stand behind those
before it is reported (`ofEntries_eq_error_iff`). A context is obtained from entries, from a text, by
completing one, or by opening a wire, and whatever the operations were, it is the one that is built
from the entries as they were written first (`Obtained.ofEntries_eq`). Main statement: so its keys
are in lower case, ascending and not empty, it is built again from its own entries, and a query
finds the one entry whose key was written the same but for the case (`obtained_invariant`).
-/
namespace AeadEnvelope

namespace Context

variable {base additional complete context : Context} {given more : List (String × Option String)}

section Building

/-- Entries that can be built into a context. -/
@[mk_iff buildable_iff]
structure Buildable (entries : List (String × Option String)) : Prop where
  /-- No key is empty. -/
  nonempty : ∀ entry ∈ entries, entry.1 ≠ ""
  /-- No key occurs twice in lower case. -/
  distinct : (entries.map fun entry => Text.lowerCase entry.1).Nodup

/-- Why an entry cannot stand behind others. -/
inductive EntryRefused (earlier : List (String × Option String)) :
    String × Option String → Fault → Prop where
  /-- Its key is empty. -/
  | empty {value : Option String} : EntryRefused earlier ("", value) (.emptyEntry "")
  /-- Its key in lower case is that of an entry before. -/
  | repeated {key : String} {value : Option String} (nonempty : key ≠ "")
    (old : ∃ entry ∈ earlier, Text.lowerCase entry.1 = Text.lowerCase key) :
    EntryRefused earlier (key, value) (.duplicateKey (Text.lowerCase key))

/-- The keys of a context are those of the entries that it is built from, in lower case. -/
theorem keys_perm_of_ofEntries (built : ofEntries given = .ok context) :
    (given.map fun entry => Text.lowerCase entry.1).Perm context.keys := by
  have keys := (ofEntries_eq_ok_iff.mp built).2.map Prod.fst
  rwa [List.map_map] at keys

/-- Entries are built into a context exactly if no key is empty and none occurs twice in lower
case. -/
theorem exists_ofEntries_iff :
    (∃ context, ofEntries given = .ok context) ↔ Buildable given := by
  simp only [ofEntries_eq_ok_iff, buildable_iff, exists_and_left]
  refine and_congr_right fun nonempty => ?_
  have named : ∀ entry ∈ given.map lowered, IsKey entry.1 := by
    intro entry listed
    obtain ⟨old, held, rfl⟩ := List.mem_map.mp listed
    exact isKey_lowerCase (nonempty old held)
  rw [exists_entries_perm_iff named, List.map_map]
  rfl

/-- Entries are not built into a context exactly for the first one that cannot stand behind those
before it. -/
theorem ofEntries_eq_error_iff {fault : Fault} :
    ofEntries given = .error fault ↔ Outcome.FirstFault Buildable EntryRefused given fault := by
  refine Outcome.foldlM_eq_error_iff_firstFault (fun _ => exists_ofEntries_iff) ?_
  rintro earlier context built ⟨key, value⟩ fault
  have old : Text.lowerCase key ∈ context.keys ↔
      ∃ entry ∈ earlier, Text.lowerCase entry.1 = Text.lowerCase key := by
    rw [← (keys_perm_of_ofEntries built).mem_iff, List.mem_map]
  rw [add_eq_error_iff, old]
  constructor
  · rintro (⟨rfl, rfl⟩ | ⟨nonempty, repeated, rfl⟩)
    · exact .empty
    · exact .repeated nonempty repeated
  · rintro (_ | ⟨nonempty, repeated⟩)
    · exact .inl ⟨rfl, rfl⟩
    · exact .inr ⟨nonempty, repeated, rfl⟩

/-- Entries in another order are built into the same context. -/
theorem ofEntries_of_perm_given (permuted : given.Perm more)
    (built : ofEntries given = .ok context) : ofEntries more = .ok context := by
  obtain ⟨nonempty, entries⟩ := ofEntries_eq_ok_iff.mp built
  exact ofEntries_eq_ok_iff.mpr ⟨fun entry listed => nonempty entry (permuted.mem_iff.mpr listed),
    (permuted.map lowered).symm.trans entries⟩

end Building

section Operations

/-- The entries of a text as they are written there. -/
def textEntries (text : String) : List (String × Option String) :=
  (segments text).map segmentEntry

/-- An entry of a base as it stands in a completed context. -/
def suppliedBy (additional : Context) (entry : String × Option String) : String × Option String :=
  (entry.1, entry.2.or (additional.find? entry.1).join)

/-- A text is read as the context that is built from its entries. -/
theorem ofEntries_textEntries {text : String} (read : parse text = .ok context) :
    ofEntries (textEntries text) = .ok context := by
  obtain ⟨readable, permuted⟩ := parse_eq_ok_iff.mp read
  rw [ofEntries_eq_ok_iff, textEntries, List.map_map]
  refine ⟨fun entry listed => ?_, permuted⟩
  obtain ⟨segment, member, rfl⟩ := List.mem_map.mp listed
  exact (readable segment member).nonempty

/-- A base is completed into the context that is built from its entries, the placeholders with the
values that they are given, and from the entries of the additional context under other keys. -/
theorem ofEntries_of_fill (left : ofEntries given = .ok base)
    (right : ofEntries more = .ok additional) (filled : base.fill additional = .ok complete) :
    ofEntries (given.map (suppliedBy additional) ++
      more.filter fun entry => !base.contains entry.1) = .ok complete := by
  obtain ⟨nonempty, ours⟩ := ofEntries_eq_ok_iff.mp left
  obtain ⟨moreNonempty, theirs⟩ := ofEntries_eq_ok_iff.mp right
  obtain ⟨-, rfl⟩ := fill_eq_ok_iff.mp filled
  rw [ofEntries_eq_ok_iff]
  constructor
  · intro entry listed
    rcases List.mem_append.mp listed with here | there
    · obtain ⟨old, member, rfl⟩ := List.mem_map.mp here
      exact nonempty old member
    · exact moreNonempty entry (List.mem_filter.mp there).1
  · -- Keys are looked for in lower case, so they may as well be put into it before.
    have supplied : (given.map (suppliedBy additional)).map lowered = (given.map lowered).map
        fun entry => (entry.1, entry.2.or (additional.values.find? entry.1).join) := by
      rw [List.map_map, List.map_map]
      rfl
    have others : (more.filter fun entry => !base.contains entry.1).map lowered =
        (more.map lowered).filter fun entry => !base.values.contains entry.1 := by
      rw [List.filter_map]
      rfl
    rw [List.map_append, supplied, others]
    exact ((ours.map _).append (theirs.filter _)).trans (entries_filled_perm base additional).symm

end Operations

end Context

namespace TagLength

variable {layout : Current.Layout} {context : Context}

/-- The entries of the text of a current wire as they are written there. -/
def Current.Layout.entries (layout : Current.Layout) : List (String × Option String) :=
  (layout.text.map Context.textEntries).getD []

/-- The keys that the mask of a legacy wire names, without values, and the entries of the text beside
it as they are written there. -/
def Legacy.Layout.entries (layout : Legacy.Layout) : List (String × Option String) :=
  Legacy.placeholderEntries (MaskKey.named layout.mask) ++
    (layout.text.map Context.textEntries).getD []

/-- The context of a current wire is built from the entries of its text. -/
theorem Current.Layout.ofEntries_entries {packet : Packet} (holds : layout.packet = .ok packet)
    (held : packet.envelope.context = some context) :
    Context.ofEntries layout.entries = .ok context := by
  obtain ⟨found, read, rfl⟩ := packet_eq_ok_iff.mp holds
  obtain rfl : found = some context := held
  obtain ⟨text, given, parsed⟩ := Outcome.exists_of_mapM_some read
  rw [entries, given]
  exact Context.ofEntries_textEntries parsed

/-- The context of a legacy wire is built from the keys of its mask and the entries of its text. -/
theorem Legacy.Layout.ofEntries_entries {layout : Legacy.Layout}
    (stands : Legacy.Stands layout.mask layout.text (some context)) :
    Context.ofEntries layout.entries = .ok context := by
  obtain ⟨mask, text, ciphertext⟩ := layout
  cases stands with
  | unmasked zero read =>
    obtain rfl : mask = 0 := zero
    obtain ⟨given, rfl, parsed⟩ := Outcome.exists_of_mapM_some read
    have unnamed : MaskKey.named 0 = [] := by decide
    rw [entries, unnamed]
    exact Context.ofEntries_textEntries parsed
  | @masked further _ nonzero read described =>
    have added : Context.ofEntries ((text.map Context.textEntries).getD []) = .ok further := by
      cases text with
      | none => exact read
      | some given => exact Context.ofEntries_textEntries read
    obtain ⟨nonempty, permuted⟩ := Context.ofEntries_eq_ok_iff.mp added
    have named : ∀ entry ∈ Legacy.placeholderEntries (MaskKey.named mask), IsKey entry.1 := by
      intro entry listed
      obtain ⟨⟨key, -, same⟩, -⟩ := Legacy.mem_placeholderEntries_iff.mp listed
      exact same ▸ MaskKey.isKey_name key
    rw [entries, Context.ofEntries_eq_ok_iff, List.map_append, Context.map_lowered_eq_self named]
    constructor
    · intro entry listed
      exact (List.mem_append.mp listed).elim (fun here => (named entry here).1) (nonempty entry)
    · exact (permuted.append_left _).trans (Legacy.described_iff_perm.mp described)

end TagLength

namespace Context

variable {base additional complete context : Context} {given more : List (String × Option String)}

/-- A context that is obtained by some operations, with its entries as they were written first. -/
inductive Obtained : Context → List (String × Option String) → Prop where
  /-- The context without keys is there from the start. -/
  | new : Obtained empty []
  /-- A context is built from entries. -/
  | entries {given : List (String × Option String)} {context : Context}
    (built : ofEntries given = .ok context) : Obtained context given
  /-- A context is built from keys that all have values. -/
  | pairs {given : List (String × String)} {context : Context}
    (built : ofPairs given = .ok context) :
    Obtained context (given.map fun pair => (pair.1, some pair.2))
  /-- A context is read of a text. -/
  | text {text : String} {context : Context} (read : parse text = .ok context) :
    Obtained context (textEntries text)
  /-- A context that was obtained is completed by another one. -/
  | completed {base additional complete : Context} {given more : List (String × Option String)}
    (left : Obtained base given) (right : Obtained additional more)
    (filled : base.fill additional = .ok complete) :
    Obtained complete (given.map (suppliedBy additional) ++
      more.filter fun entry => !base.contains entry.1)
  /-- A current wire is opened, whatever is expected. -/
  | current {layout : TagLength.Current.Layout} {expected : Option Context} {context : Context}
    {ciphertext : Bytes} (fits : layout.Fits)
    (opened : (TagLength.decode layout.wire expected).outcome = .ok ⟨some context, ciphertext⟩) :
    Obtained context layout.entries
  /-- A legacy wire is opened, whatever is expected. -/
  | legacy {layout : TagLength.Legacy.Layout} {expected : Option Context} {context : Context}
    {ciphertext : Bytes} (fits : layout.Fits)
    (opened : (TagLength.decode layout.wire expected).outcome = .ok ⟨some context, ciphertext⟩) :
    Obtained context layout.entries

/-- Whatever the operations were, a context that is obtained is the one that is built from the
entries as they were written first. -/
theorem Obtained.ofEntries_eq (obtained : Obtained context given) :
    ofEntries given = .ok context := by
  induction obtained with
  | new => rfl
  | entries built => exact built
  | pairs built => exact built
  | text read => exact ofEntries_textEntries read
  | completed _ _ filled left right => exact ofEntries_of_fill left right filled
  | current fits opened =>
    obtain ⟨packet, read, same, -⟩ := TagLength.decode_outcome_eq_ok_iff.mp opened
    obtain ⟨layout, otherFits, wire, holds⟩ := TagLength.Current.parse_eq_ok_iff_layout.mp read
    obtain rfl := TagLength.Current.Layout.wire_inj otherFits fits wire
    exact TagLength.Current.Layout.ofEntries_entries holds (by rw [same])
  | legacy fits opened =>
    obtain ⟨packet, read, same, -⟩ := TagLength.decode_outcome_eq_ok_iff.mp opened
    obtain ⟨layout, otherFits, wire, held, stands, rfl⟩ :=
      TagLength.Legacy.parse_eq_ok_iff_layout.mp read
    obtain rfl := TagLength.Legacy.Layout.wire_inj otherFits fits wire
    cases same
    exact TagLength.Legacy.Layout.ofEntries_entries stands

/-- Every context of a wire that is opened is obtained so. -/
theorem exists_obtained_of_decode {wire ciphertext : Bytes} {expected : Option Context}
    (opened : (TagLength.decode wire expected).outcome = .ok ⟨some context, ciphertext⟩) :
    ∃ given, Obtained context given := by
  obtain ⟨packet, read, -, -⟩ := TagLength.decode_outcome_eq_ok_iff.mp opened
  rcases TagLength.layout_of_parse read with ⟨layout, fits, rfl, -⟩ | ⟨layout, fits, rfl, -⟩
  · exact ⟨_, .legacy fits opened⟩
  · exact ⟨_, .current fits opened⟩

/-- Entries as a context has them. -/
structure WellFormed (entries : List (String × Option String)) : Prop where
  /-- No key is empty. -/
  nonempty : ∀ entry ∈ entries, entry.1 ≠ ""
  /-- Every key is its own lower-case form. -/
  lower : ∀ entry ∈ entries, Text.lowerCase entry.1 = entry.1
  /-- No key occurs twice. -/
  unique : (entries.map Prod.fst).Nodup
  /-- The keys are in ascending order of their bytes. -/
  ascending : entries.Pairwise fun left right => BytesBefore (utf8 left.1) (utf8 right.1)

/-- A context answers every query by the one entry whose key was written the same but for the
case. -/
structure Answers (context : Context) (given : List (String × Option String)) : Prop where
  /-- There is one entry at most for each query. -/
  once : (given.map fun entry => Text.lowerCase entry.1).Nodup
  /-- A query finds what stands in that entry. -/
  find : ∀ query value, context.find? query = some value ↔
    ∃ entry ∈ given, Text.lowerCase entry.1 = Text.lowerCase query ∧ entry.2 = value
  /-- A query is contained if there is that entry. -/
  contains : ∀ query, context.contains query = true ↔
    ∃ entry ∈ given, Text.lowerCase entry.1 = Text.lowerCase query

/-- The entries of a context that is built from others are well formed. -/
theorem wellFormed_of_ofEntries (built : ofEntries given = .ok context) :
    WellFormed context.entries := by
  obtain ⟨nonempty, permuted⟩ := ofEntries_eq_ok_iff.mp built
  have named : ∀ entry ∈ context.entries, IsKey entry.1 := by
    intro entry listed
    obtain ⟨old, held, rfl⟩ := List.mem_map.mp (permuted.mem_iff.mpr listed)
    exact isKey_lowerCase (nonempty old held)
  have distinct := (exists_ofEntries_iff.mp ⟨context, built⟩).distinct
  exact ⟨fun entry listed => (named entry listed).1, fun entry listed => (named entry listed).2,
    (keys_perm_of_ofEntries built).nodup_iff.mp distinct,
    context.values.ascending.imp lex_utf8_iff.mpr⟩

/-- A context that is built from entries answers every query by them. -/
theorem answers_of_ofEntries (built : ofEntries given = .ok context) : Answers context given := by
  have found : ∀ query value, context.find? query = some value ↔
      ∃ entry ∈ given, Text.lowerCase entry.1 = Text.lowerCase query ∧ entry.2 = value := by
    intro query value
    have permuted := (ofEntries_eq_ok_iff.mp built).2
    rw [find?, Dictionary.find?_eq_some_iff, ← entries, ← permuted.mem_iff, List.mem_map]
    simp only [lowered, Prod.mk.injEq]
  refine ⟨(exists_ofEntries_iff.mp ⟨context, built⟩).distinct, found, fun query => ?_⟩
  have there : context.contains query = true ↔ ∃ value, context.find? query = some value :=
    Dictionary.contains_eq_true_iff
  rw [there]
  simp only [found]
  constructor
  · rintro ⟨_, entry, listed, same, rfl⟩
    exact ⟨entry, listed, same⟩
  · rintro ⟨entry, listed, same⟩
    exact ⟨_, entry, listed, same, rfl⟩

/-- What holds of every context that is obtained by any operations. Its keys are not empty, are their
own lower-case forms and stand in ascending order of their bytes, each once; it is built again from
its own entries; and a query is answered by the one entry whose key was written the same but for the
case. Every context of a wire that is opened is among them. Entries are built into a context exactly
if no key is empty and none occurs twice in lower case, the first entry for which this is not so is
reported otherwise, and in another order they are built into the same context. -/
theorem obtained_invariant :
    (∀ (context : Context) (given : List (String × Option String)), Obtained context given →
      WellFormed context.entries ∧ ofEntries context.entries = .ok context ∧
        Answers context given ∧ Answers context context.entries) ∧
    (∀ (wire ciphertext : Bytes) (expected : Option Context) (context : Context),
      (TagLength.decode wire expected).outcome = .ok ⟨some context, ciphertext⟩ →
      ∃ given, Obtained context given) ∧
    (∀ given, (∃ context, ofEntries given = .ok context) ↔ Buildable given) ∧
    (∀ given fault, ofEntries given = .error fault ↔
      Outcome.FirstFault Buildable EntryRefused given fault) ∧
    ∀ (given more : List (String × Option String)) (context : Context), given.Perm more →
      ofEntries given = .ok context → ofEntries more = .ok context := by
  refine ⟨fun context given obtained => ?_, fun _ _ _ _ => exists_obtained_of_decode,
    fun _ => exists_ofEntries_iff, fun _ _ => ofEntries_eq_error_iff,
    fun _ _ _ => ofEntries_of_perm_given⟩
  have built := obtained.ofEntries_eq
  have rebuilt := context.ofEntries_of_perm (.refl _)
  exact ⟨wellFormed_of_ofEntries built, rebuilt, answers_of_ofEntries built,
    answers_of_ofEntries rebuilt⟩

/-- The context of a text with keys in capitals. -/
def tableContext : Context where
  values := ⟨[("area", some "x"), ("table_name", none)], by decide⟩
  named := by decide +kernel

/-- A context with a value for its placeholder, and a key that ends in a sigma. -/
def sigmaContext : Context where
  values := ⟨[("table_name", some "t"), ("ας", none)], by decide⟩
  named := by decide +kernel

/-- What was read of a text and completed by entries answers a query in other capitals, also one
with a sigma at the end of the word; and an entry without a key is reported in front of one that
repeats a key. -/
theorem obtained_invariant_sigma :
    (∃ complete, tableContext.fill sigmaContext = .ok complete ∧ WellFormed complete.entries ∧
      ofEntries complete.entries = .ok complete ∧
      complete.find? "tAbLe_NaMe" = some (some "t") ∧ complete.find? "αΣ" = some none) ∧
    ofEntries [("ΑΣ", none), ("", none), ("ας", none)] = .error (.emptyEntry "") := by
  obtain ⟨invariant, -, buildable, refused, -⟩ := obtained_invariant
  have read : parse "Area=x|TABLE_name" = .ok tableContext := by decide +kernel
  have built : ofEntries [("Table_Name", some "t"), ("ΑΣ", none)] = .ok sigmaContext := by
    decide +kernel
  have filled : tableContext.fill sigmaContext = .ok (tableContext.filled sigmaContext) := by
    decide +kernel
  obtain ⟨wellFormed, rebuilt, answers, -⟩ :=
    invariant _ _ (.completed (.text read) (.entries built) filled)
  have supplied : ("TABLE_name", some "t") ∈
      (textEntries "Area=x|TABLE_name").map (suppliedBy sigmaContext) := by decide +kernel
  have carried : ("ΑΣ", none) ∈ [("Table_Name", some "t"), ("ΑΣ", none)].filter
      fun entry => !tableContext.contains entry.1 := by decide +kernel
  have table := (answers.find "tAbLe_NaMe" (some "t")).mpr
    ⟨_, List.mem_append_left _ supplied, by decide +kernel, rfl⟩
  have sigma := (answers.find "αΣ" none).mpr
    ⟨_, List.mem_append_right _ carried, by decide +kernel, rfl⟩
  have alone : Buildable [("ΑΣ", none)] := (buildable _).mp ⟨single "ας" none (by decide +kernel),
    by decide +kernel⟩
  refine ⟨⟨_, filled, wellFormed, rebuilt, table, sigma⟩, (refused _ _).mpr ?_⟩
  exact .behind alone .empty

end Context

end AeadEnvelope
