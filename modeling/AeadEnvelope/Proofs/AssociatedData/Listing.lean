import AeadEnvelope.AssociatedData.Listing
import AeadEnvelope.Proofs.Dictionary
import AeadEnvelope.Proofs.Outcome
import AeadEnvelope.Proofs.Reading
import Mathlib.Data.List.Induction

/-!
# The grammar of associated data

Associated data are laid out from a form of the count of their entries and from the entries, each a
key and a value behind forms of their lengths (`Layout`). Bytes that no layout has are refused for
the first fault from the left (`Refused`). Entry by entry the reader either takes one whose key is
new or stops at it (`itemRefused_or_item`), so it takes as many as are counted or stops before
(`refused_or_items`). Main statement: exactly the bytes of a layout are listed, as the texts of its
entries, and all others are refused for the fault that they have (`list_layout`).
-/
namespace AeadEnvelope.AssociatedData

open Reader

/-- A text and a form of its length, not always the shortest one. -/
structure Piece where
  /-- The form of the length. -/
  form : Bytes
  /-- The text. -/
  text : String
deriving DecidableEq

namespace Piece

/-- The form of the length and the text behind it. -/
def bytes (piece : Piece) : Bytes := piece.form ++ utf8 piece.text

/-- The form is taken entirely, as the length of the text. -/
def Fits (piece : Piece) : Prop := Base128.Consumed piece.form (utf8 piece.text).length

/-- Even an empty text stands behind a length. -/
theorem Fits.length_pos {piece : Piece} (fits : piece.Fits) : 0 < piece.bytes.length := by
  have terminated : Base128.Terminated piece.form := (Base128.consumed_iff.mp fits).1
  have form := terminated.length_pos
  rw [bytes, List.length_append]
  omega

end Piece

/-- The key and the value of an entry. -/
structure Item where
  /-- The key. -/
  key : Piece
  /-- The value. -/
  value : Piece
deriving DecidableEq

namespace Item

/-- The key and the value, each behind its length. -/
def bytes (item : Item) : Bytes := item.key.bytes ++ item.value.bytes

/-- The texts of an entry. -/
def entry (item : Item) : String × String := (item.key.text, item.value.text)

/-- The key of an entry. -/
def name (item : Item) : String := item.key.text

/-- Both forms are taken entirely, as the lengths of their texts. -/
structure Fits (item : Item) : Prop where
  /-- The key has its length. -/
  key : item.key.Fits
  /-- The value has its length. -/
  value : item.value.Fits

/-- Neither text is empty. -/
structure Filled (item : Item) : Prop where
  /-- There is a key. -/
  key : item.key.text ≠ ""
  /-- There is a value. -/
  value : item.value.text ≠ ""

end Item

/-- Entries that can stand one after the other. -/
structure Listable (items : List Item) : Prop where
  /-- Every text has its length. -/
  fits : ∀ item ∈ items, item.Fits
  /-- No text is empty. -/
  filled : ∀ item ∈ items, item.Filled
  /-- No key occurs twice. -/
  distinct : (items.map Item.name).Nodup

/-- The parts that associated data are laid out from. -/
structure Layout where
  /-- A form of the count of the entries, not always the shortest one. -/
  form : Bytes
  /-- The entries. -/
  items : List Item
deriving DecidableEq

namespace Layout

/-- The form of the count and the entries behind it. -/
def bytes (layout : Layout) : Bytes := layout.form ++ layout.items.flatMap Item.bytes

/-- What associated data are laid out from. -/
structure WellFormed (layout : Layout) : Prop where
  /-- The form is taken entirely, as the count of the entries. -/
  counted : Base128.Consumed layout.form layout.items.length
  /-- There is an entry. -/
  filled : layout.items ≠ []
  /-- The entries can stand one after the other. -/
  listable : Listable layout.items

/-- A dictionary of the texts of the entries, and of nothing else. -/
structure Lists (layout : Layout) (found : Dictionary String) : Prop where
  /-- A key stands for a value exactly where they are the texts of an entry. -/
  entries : ∀ key value, found.find? key = some value ↔ (key, value) ∈ layout.items.map Item.entry
  /-- There are as many keys as entries. -/
  size : found.size = layout.items.length

end Layout

/-- Why bytes do not begin with a text behind its length. -/
inductive TextRefused (otherwise : Malformation) : Bytes → Malformation → Prop where
  /-- They do not begin with any bytes behind their length. -/
  | unprefixed {bytes : Bytes} {cause : Malformation} (refused : Unprefixed otherwise bytes cause) :
    TextRefused otherwise bytes cause
  /-- The bytes behind their length are no UTF-8. -/
  | foreign {form content later : Bytes} (consumed : Base128.Consumed form content.length)
    (none : ∀ text, utf8 text ≠ content) :
    TextRefused otherwise (form ++ (content ++ later)) .entryNotUtf8

/-- Why bytes do not begin with an entry that can stand behind those of the keys. -/
inductive ItemRefused (keys : List String) : Bytes → Fault → Prop where
  /-- The key is not read in full or is no UTF-8. -/
  | key {bytes : Bytes} {cause : Malformation}
    (refused : TextRefused .keyExceedsBuffer bytes cause) :
    ItemRefused keys bytes (.malformed cause)
  /-- The value behind the key is not read in full or is no UTF-8. -/
  | value {key : Piece} {later : Bytes} {cause : Malformation} (fits : key.Fits)
    (refused : TextRefused .valueExceedsBuffer later cause) :
    ItemRefused keys (key.bytes ++ later) (.malformed cause)
  /-- The key or the value is empty. -/
  | empty {item : Item} {later : Bytes} (fits : item.Fits) (vacant : ¬ item.Filled) :
    ItemRefused keys (item.bytes ++ later) (.emptyEntry item.name)
  /-- The key is one of those before. -/
  | repeated {item : Item} {later : Bytes} (fits : item.Fits) (filled : item.Filled)
    (old : item.name ∈ keys) : ItemRefused keys (item.bytes ++ later) (.duplicateKey item.name)

/-- The fault for which bytes are refused that no layout has. -/
inductive Refused : Bytes → Fault → Prop where
  /-- The form of the count is cut off, too long, or of a number beyond 64 bits. -/
  | number {bytes : Bytes} {cause : Malformation} {read : Nat}
    (failed : Base128.decode bytes = (.error cause, read)) : Refused bytes (.malformed cause)
  /-- The count is zero or more than there are bytes left. -/
  | count {form later : Bytes} {count : Nat} (consumed : Base128.Consumed form count)
    (bad : count = 0 ∨ later.length < count) :
    Refused (form ++ later) (.malformed .badEntryCount)
  /-- Behind fewer entries than are counted, in spite of bytes enough for the count, there is none
  that could stand behind them. -/
  | item {form later : Bytes} {items : List Item} {count : Nat} {fault : Fault}
    (consumed : Base128.Consumed form count)
    (enough : count ≤ (items.flatMap Item.bytes ++ later).length) (listable : Listable items)
    (few : items.length < count) (refused : ItemRefused (items.map Item.name) later fault) :
    Refused (form ++ (items.flatMap Item.bytes ++ later)) fault
  /-- There are bytes behind the last entry. -/
  | trailing {layout : Layout} {later : Bytes} (wellFormed : layout.WellFormed)
    (left : later ≠ []) : Refused (layout.bytes ++ later) (.malformed .trailingBytes)

variable {keys : List String} {items : List Item} {item : Item} {layout : Layout}
  {found : Dictionary String} {later : Bytes} {fault : Fault}

section Text

/-- Bytes begin with a text behind its length, or there is a cause for which they do not. -/
theorem textRefused_or_piece (otherwise : Malformation) (bytes : Bytes) :
    (∃ cause, TextRefused otherwise bytes cause) ∨
      ∃ (piece : Piece) (later : Bytes), piece.Fits ∧ bytes = piece.bytes ++ later := by
  rcases unprefixed_or_prefixed otherwise bytes with ⟨cause, refused⟩ | prefixed
  · exact .inl ⟨cause, .unprefixed refused⟩
  · obtain ⟨form, content, later, consumed, rfl⟩ := prefixed
    by_cases text : ∃ text, utf8 text = content
    · right
      obtain ⟨text, rfl⟩ := text
      refine ⟨⟨form, text⟩, later, consumed, ?_⟩
      rw [Piece.bytes, List.append_assoc]
    · left
      have foreign : ∀ text, utf8 text ≠ content := not_exists.mp text
      exact ⟨.entryNotUtf8, .foreign consumed foreign⟩

/-- A text is read behind its length, whatever follows it. -/
theorem textReader_piece {piece : Piece} (fits : piece.Fits) (otherwise : Malformation)
    (position : Nat) (later : Bytes) :
    textReader otherwise ⟨position, piece.bytes ++ later⟩ =
      (.ok piece.text, ⟨position + piece.bytes.length, later⟩) := by
  have moved : position + piece.bytes.length =
      position + piece.form.length + (utf8 piece.text).length := by
    rw [Piece.bytes, List.length_append, Nat.add_assoc]
  have split : piece.bytes ++ later = piece.form ++ (utf8 piece.text ++ later) := by
    rw [Piece.bytes, List.append_assoc]
  have taken : varintPrefixed otherwise ⟨position, piece.bytes ++ later⟩ =
      (.ok (utf8 piece.text), ⟨position + piece.bytes.length, later⟩) :=
    varintPrefixed_eq_ok_iff.mpr ⟨piece.form, fits, split, moved⟩
  rw [textReader, bind_ok taken, textOfUtf8?_utf8]
  rfl

/-- No text is read where there is a cause for that. -/
theorem textReader_of_refused {otherwise cause : Malformation} {bytes : Bytes}
    (refused : TextRefused otherwise bytes cause) (position : Nat) :
    ∃ stopped, textReader otherwise ⟨position, bytes⟩ =
      (.error (.malformed cause), stopped) := by
  cases refused with
  | unprefixed short =>
    obtain ⟨stopped, failed⟩ := varintPrefixed_of_unprefixed short position
    exact ⟨stopped, bind_error failed⟩
  | @foreign form content later consumed none =>
    let behind : Cursor := ⟨position + form.length + content.length, later⟩
    have taken : varintPrefixed otherwise ⟨position, form ++ (content ++ later)⟩ =
        (.ok content, behind) := varintPrefixed_eq_ok_iff.mpr ⟨form, consumed, rfl, rfl⟩
    have unread : textOfUtf8? content = Option.none := by
      rw [Option.eq_none_iff_forall_ne_some]
      intro text read
      exact none text (textOfUtf8?_eq_some_iff.mp read)
    refine ⟨behind, ?_⟩
    rw [textReader, bind_ok taken, unread]
    rfl

end Text

section Entry

/-- Bytes begin with an entry that can stand behind those of the keys, or there is a fault for which
they do not. -/
theorem itemRefused_or_item (keys : List String) (bytes : Bytes) :
    (∃ fault, ItemRefused keys bytes fault) ∨
      ∃ (item : Item) (later : Bytes), item.Fits ∧ item.Filled ∧ item.name ∉ keys ∧
        bytes = item.bytes ++ later := by
  rcases textRefused_or_piece .keyExceedsBuffer bytes with ⟨cause, refused⟩ | readKey
  · exact .inl ⟨_, .key refused⟩
  · obtain ⟨key, behind, keyFits, rfl⟩ := readKey
    rcases textRefused_or_piece .valueExceedsBuffer behind with ⟨cause, refused⟩ | readValue
    · exact .inl ⟨_, .value keyFits refused⟩
    · obtain ⟨value, later, valueFits, rfl⟩ := readValue
      let item : Item := ⟨key, value⟩
      have fits : item.Fits := ⟨keyFits, valueFits⟩
      have whole : key.bytes ++ (value.bytes ++ later) = item.bytes ++ later :=
        (List.append_assoc _ _ _).symm
      rw [whole]
      by_cases filled : item.Filled
      · by_cases old : item.name ∈ keys
        · exact .inl ⟨_, .repeated fits filled old⟩
        · exact .inr ⟨item, later, fits, filled, old, rfl⟩
      · exact .inl ⟨_, .empty fits filled⟩

/-- Behind the texts of an entry it is only checked and put in its place. -/
theorem entryReader_bytes (fits : item.Fits) (found : Dictionary String) (position : Nat)
    (later : Bytes) :
    entryReader found ⟨position, item.bytes ++ later⟩ =
      (if item.key.text = "" ∨ item.value.text = "" then .error (.emptyEntry item.name)
        else if found.contains item.name then .error (.duplicateKey item.name)
        else .ok (found.insert item.name item.value.text),
        ⟨position + item.bytes.length, later⟩) := by
  have moved : position + item.bytes.length =
      position + item.key.bytes.length + item.value.bytes.length := by
    rw [Item.bytes, List.length_append, Nat.add_assoc]
  have key := textReader_piece fits.key .keyExceedsBuffer position (item.value.bytes ++ later)
  have value := textReader_piece fits.value .valueExceedsBuffer
    (position + item.key.bytes.length) later
  rw [entryReader, Item.bytes, List.append_assoc, bind_ok key, bind_ok value, ← Item.bytes, moved]
  unfold Item.name
  split
  · rfl
  · split
    · rfl
    · rfl

/-- A text of an entry is empty exactly if not both are there. -/
theorem empty_iff_not_filled : item.key.text = "" ∨ item.value.text = "" ↔ ¬ item.Filled := by
  constructor
  · rintro (empty | empty) filled
    · exact filled.key empty
    · exact filled.value empty
  · intro vacant
    by_cases key : item.key.text = ""
    · exact .inl key
    · by_cases value : item.value.text = ""
      · exact .inr value
      · exact absurd ⟨key, value⟩ vacant

/-- An entry with a new key is read, whatever follows it. -/
theorem entryReader_item (fits : item.Fits) (filled : item.Filled)
    (new : found.contains item.name = false) (position : Nat) (later : Bytes) :
    entryReader found ⟨position, item.bytes ++ later⟩ =
      (.ok (found.insert item.name item.value.text), ⟨position + item.bytes.length, later⟩) := by
  have here : ¬ (item.key.text = "" ∨ item.value.text = "") :=
    fun empty => empty_iff_not_filled.mp empty filled
  have fresh : ¬ found.contains item.name = true := by
    rw [new]
    decide
  rw [entryReader_bytes fits, if_neg here, if_neg fresh]

/-- No entry is read where there is a fault for that. -/
theorem entryReader_of_refused {bytes : Bytes}
    (held : ∀ key, found.contains key = true ↔ key ∈ keys)
    (refused : ItemRefused keys bytes fault) (position : Nat) :
    ∃ stopped, entryReader found ⟨position, bytes⟩ = (.error fault, stopped) := by
  cases refused with
  | key refused =>
    obtain ⟨stopped, failed⟩ := textReader_of_refused refused position
    exact ⟨stopped, bind_error failed⟩
  | @value key later cause fits refused =>
    have first := textReader_piece fits .keyExceedsBuffer position later
    obtain ⟨stopped, failed⟩ := textReader_of_refused refused (position + key.bytes.length)
    refine ⟨stopped, ?_⟩
    rw [entryReader, bind_ok first, bind_error failed]
  | @empty item later fits vacant =>
    refine ⟨⟨position + item.bytes.length, later⟩, ?_⟩
    rw [entryReader_bytes fits, if_pos (empty_iff_not_filled.mpr vacant)]
  | @repeated item later fits filled old =>
    have here : ¬ (item.key.text = "" ∨ item.value.text = "") :=
      fun empty => empty_iff_not_filled.mp empty filled
    refine ⟨⟨position + item.bytes.length, later⟩, ?_⟩
    rw [entryReader_bytes fits, if_neg here, if_pos ((held item.name).mpr old)]

end Entry

section Entries

/-- No entries can stand one after the other. -/
theorem listable_nil : Listable [] where
  fits _ impossible := nomatch impossible
  filled _ impossible := nomatch impossible
  distinct := List.nodup_nil

/-- Behind entries there can stand one more if its key is new. -/
theorem listable_concat_iff :
    Listable (items ++ [item]) ↔
      Listable items ∧ item.Fits ∧ item.Filled ∧ item.name ∉ items.map Item.name := by
  constructor
  · rintro ⟨fits, filled, distinct⟩
    rw [List.forall_mem_append, List.forall_mem_singleton] at fits filled
    rw [List.map_append, List.map_singleton, (List.perm_append_singleton _ _).nodup_iff,
      List.nodup_cons] at distinct
    exact ⟨⟨fits.1, filled.1, distinct.2⟩, fits.2, filled.2, distinct.1⟩
  · rintro ⟨⟨fits, filled, distinct⟩, itemFits, itemFilled, new⟩
    refine ⟨?_, ?_, ?_⟩
    · rw [List.forall_mem_append, List.forall_mem_singleton]
      exact ⟨fits, itemFits⟩
    · rw [List.forall_mem_append, List.forall_mem_singleton]
      exact ⟨filled, itemFilled⟩
    · rw [List.map_append, List.map_singleton, (List.perm_append_singleton _ _).nodup_iff,
        List.nodup_cons]
      exact ⟨new, distinct⟩

/-- Entries take at least as many bytes as there are of them, so a count of them that is right is
never above the count of the bytes left. -/
theorem Listable.length_le (listable : Listable items) :
    items.length ≤ (items.flatMap Item.bytes).length := by
  have fits := listable.fits
  clear listable
  induction items with
  | nil => exact Nat.le_refl 0
  | cons item later step =>
    rw [List.forall_mem_cons] at fits
    have key := fits.1.key.length_pos
    have rest := step fits.2
    rw [List.flatMap_cons, List.length_append, List.length_cons, Item.bytes, List.length_append]
    omega

/-- Some entries and then others are read like all of them. -/
theorem entriesReader_add (first second : Nat) (found : Dictionary String) (cursor : Cursor) :
    entriesReader (first + second) found cursor =
      (entriesReader first found >>= entriesReader second) cursor := by
  induction first generalizing found cursor with
  | zero =>
    have ready : entriesReader 0 found cursor = (.ok found, cursor) := rfl
    rw [Nat.zero_add, bind_ok ready]
  | succ first step =>
    rw [Nat.succ_add, entriesReader, entriesReader]
    rcases read : entryReader found cursor with ⟨fault | next, middle⟩
    · have whole : (entryReader found >>= entriesReader first) cursor = (.error fault, middle) :=
        bind_error read
      rw [bind_error read, bind_error whole]
    · have front : (entryReader found >>= entriesReader first) cursor =
          entriesReader first next middle := bind_ok read
      rw [bind_ok read, step]
      rcases rest : entriesReader first next middle with ⟨fault | last, stopped⟩
      · rw [bind_error rest, bind_error (front.trans rest)]
      · rw [bind_ok rest, bind_ok (front.trans rest)]

/-- One entry more is read behind others. -/
theorem entriesReader_succ {count : Nat} {found next last : Dictionary String}
    {cursor middle stopped : Cursor} (front : entriesReader count found cursor = (.ok next, middle))
    (read : entryReader next middle = (.ok last, stopped)) :
    entriesReader (count + 1) found cursor = (.ok last, stopped) := by
  rw [entriesReader_add, bind_ok front, entriesReader, bind_ok read]
  rfl

/-- A key is held exactly if it is that of an entry. -/
theorem contains_iff_of_perm (permuted : found.entries.Perm (items.map Item.entry)) (key : String) :
    found.contains key = true ↔ key ∈ items.map Item.name := by
  have names : (items.map Item.entry).map Prod.fst = items.map Item.name := by
    rw [List.map_map]
    rfl
  rw [Dictionary.contains_eq_true_iff_mem, (permuted.map Prod.fst).mem_iff, names]

/-- Entries that can stand one after the other are read, whatever follows them. -/
theorem entriesReader_items (listable : Listable items) (position : Nat) (later : Bytes) :
    ∃ found, entriesReader items.length .empty ⟨position, items.flatMap Item.bytes ++ later⟩ =
        (.ok found, ⟨position + (items.flatMap Item.bytes).length, later⟩) ∧
      found.entries.Perm (items.map Item.entry) := by
  -- The entries before the last one tell which keys are held, so the last one is split off.
  induction items using List.reverseRecOn generalizing later with
  | nil => exact ⟨.empty, rfl, .refl _⟩
  | append_singleton items item step =>
    obtain ⟨front, fits, filled, new⟩ := listable_concat_iff.mp listable
    obtain ⟨found, read, permuted⟩ := step front (item.bytes ++ later)
    have held := contains_iff_of_perm permuted item.name
    have fresh : found.contains item.name = false := by
      rw [← Bool.not_eq_true, held]
      exact new
    have last := entryReader_item fits filled fresh
      (position + (items.flatMap Item.bytes).length) later
    have absent : item.name ∉ found.entries.map Prod.fst := by
      rw [← Dictionary.contains_eq_true_iff_mem, held]
      exact new
    have bytes : (items ++ [item]).flatMap Item.bytes = items.flatMap Item.bytes ++ item.bytes := by
      rw [List.flatMap_append, List.flatMap_singleton]
    refine ⟨found.insert item.name item.value.text, ?_, ?_⟩
    · rw [bytes, List.append_assoc, List.length_append, List.length_append, List.length_singleton,
        ← Nat.add_assoc]
      exact entriesReader_succ read last
    · rw [List.map_append, List.map_singleton]
      have placed := Dictionary.place_perm item.value.text absent
      exact (placed.trans (permuted.cons _)).trans (List.perm_append_singleton _ _).symm

/-- Bytes begin with as many entries as are counted, or with fewer of them behind which there is
none that could follow. -/
theorem refused_or_items (count : Nat) (bytes : Bytes) :
    (∃ items later fault, Listable items ∧ items.length < count ∧
        ItemRefused (items.map Item.name) later fault ∧
        bytes = items.flatMap Item.bytes ++ later) ∨
      ∃ items later, Listable items ∧ items.length = count ∧
        bytes = items.flatMap Item.bytes ++ later := by
  induction count with
  | zero => exact .inr ⟨[], bytes, listable_nil, rfl, rfl⟩
  | succ count step =>
    rcases step with refused | read
    · left
      obtain ⟨items, later, fault, listable, few, refused, rfl⟩ := refused
      exact ⟨items, later, fault, listable, Nat.lt_succ_of_lt few, refused, rfl⟩
    · obtain ⟨items, later, listable, counted, rfl⟩ := read
      rcases itemRefused_or_item (items.map Item.name) later with ⟨fault, refused⟩ | next
      · left
        exact ⟨items, later, fault, listable, by omega, refused, rfl⟩
      · right
        obtain ⟨item, rest, fits, filled, new, rfl⟩ := next
        have longer := listable_concat_iff.mpr ⟨listable, fits, filled, new⟩
        refine ⟨items ++ [item], rest, longer, ?_, ?_⟩
        · rw [List.length_append, List.length_singleton, counted]
        · rw [List.flatMap_append, List.flatMap_singleton, List.append_assoc]

/-- Entries are not read where fewer than are counted stand before a fault. -/
theorem entriesReader_of_refused {count : Nat} (listable : Listable items)
    (few : items.length < count) (refused : ItemRefused (items.map Item.name) later fault)
    (position : Nat) :
    ∃ stopped, entriesReader count .empty ⟨position, items.flatMap Item.bytes ++ later⟩ =
      (.error fault, stopped) := by
  obtain ⟨found, front, permuted⟩ := entriesReader_items listable position later
  obtain ⟨stopped, failed⟩ := entryReader_of_refused (contains_iff_of_perm permuted) refused
    (position + (items.flatMap Item.bytes).length)
  have counted : count = items.length + (count - items.length - 1 + 1) := by omega
  refine ⟨stopped, ?_⟩
  rw [counted, entriesReader_add, bind_ok front, entriesReader, bind_error failed]

end Entries

section Whole

/-- Behind a count that is acceptable the entries are read, and nothing may be left. -/
theorem list_counted {form : Bytes} {count : Nat} (consumed : Base128.Consumed form count) :
    list (form ++ later) =
      if count = 0 ∨ later.length < count then .error (.malformed .badEntryCount)
      else ((do
        let found ← entriesReader count .empty
        finish
        return found : Reader (Dictionary String)) ⟨form.length, later⟩).1 := by
  have number : varint (.start (form ++ later)) = (.ok count, ⟨form.length, later⟩) :=
    varint_eq_ok_iff.mpr ⟨form, consumed, rfl, (Nat.zero_add _).symm⟩
  have left : remaining ⟨form.length, later⟩ = (.ok later.length, ⟨form.length, later⟩) := rfl
  rw [list, run, reader, bind_ok number, bind_ok left]
  split
  · rfl
  · rfl

/-- The count of the entries of a layout is acceptable, whatever follows them. -/
theorem Layout.WellFormed.count_acceptable (wellFormed : layout.WellFormed) (later : Bytes) :
    ¬ (layout.items.length = 0 ∨
      (layout.items.flatMap Item.bytes ++ later).length < layout.items.length) := by
  have some : 0 < layout.items.length := List.length_pos_iff.mpr wellFormed.filled
  have each := wellFormed.listable.length_le
  rw [List.length_append]
  omega

/-- The bytes of a layout are listed, as the texts of its entries. -/
theorem list_bytes (wellFormed : layout.WellFormed) :
    ∃ found, list layout.bytes = .ok found ∧
      found.entries.Perm (layout.items.map Item.entry) := by
  have acceptable := wellFormed.count_acceptable []
  obtain ⟨found, read, permuted⟩ :=
    entriesReader_items wellFormed.listable layout.form.length []
  rw [List.append_nil] at acceptable read
  refine ⟨found, ?_, permuted⟩
  rw [Layout.bytes, list_counted wellFormed.counted, if_neg acceptable, bind_ok read]
  rfl

/-- Bytes behind those of a layout are left over. -/
theorem list_bytes_append (wellFormed : layout.WellFormed) (left : later ≠ []) :
    list (layout.bytes ++ later) = .error (.malformed .trailingBytes) := by
  have acceptable := wellFormed.count_acceptable later
  obtain ⟨found, read, -⟩ := entriesReader_items wellFormed.listable layout.form.length later
  rw [Layout.bytes, List.append_assoc, list_counted wellFormed.counted, if_neg acceptable,
    bind_ok read]
  cases later with
  | nil => exact absurd rfl left
  | cons => rfl

/-- Bytes that are refused are not listed. -/
theorem list_of_refused {bytes : Bytes} (refused : Refused bytes fault) :
    list bytes = .error fault := by
  cases refused with
  | number failed =>
    have stopped := varint_of_error failed 0
    rw [list, run, reader, Cursor.start, bind_error stopped]
  | count consumed bad => rw [list_counted consumed, if_pos bad]
  | @item form later items count fault consumed enough listable few refused =>
    have acceptable : ¬ (count = 0 ∨ (items.flatMap Item.bytes ++ later).length < count) := by
      omega
    obtain ⟨stopped, failed⟩ := entriesReader_of_refused listable few refused form.length
    rw [list_counted consumed, if_neg acceptable, bind_error failed]
  | trailing wellFormed left => exact list_bytes_append wellFormed left

/-- Bytes are refused or have a layout. -/
theorem refused_or_wellFormed (bytes : Bytes) :
    (∃ fault, Refused bytes fault) ∨
      ∃ layout : Layout, layout.WellFormed ∧ layout.bytes = bytes := by
  rcases decoded : Base128.decode bytes with ⟨cause | count, read⟩
  · exact .inl ⟨_, .number decoded⟩
  · obtain ⟨form, later, rfl, -, consumed⟩ := Base128.decode_eq_ok_iff.mp decoded
    by_cases bad : count = 0 ∨ later.length < count
    · exact .inl ⟨_, .count consumed bad⟩
    · have enough : count ≤ later.length := by omega
      rcases refused_or_items count later with refused | complete
      · left
        obtain ⟨items, rest, fault, listable, few, refused, rfl⟩ := refused
        exact ⟨fault, .item consumed enough listable few refused⟩
      · obtain ⟨items, rest, listable, counted, rfl⟩ := complete
        have filled : items ≠ [] := by
          rw [← List.length_pos_iff]
          omega
        let layout : Layout := ⟨form, items⟩
        have wellFormed : layout.WellFormed := ⟨counted ▸ consumed, filled, listable⟩
        have whole : form ++ (items.flatMap Item.bytes ++ rest) = layout.bytes ++ rest :=
          (List.append_assoc _ _ _).symm
        rw [whole]
        by_cases left : rest = []
        · right
          refine ⟨layout, wellFormed, ?_⟩
          rw [left, List.append_nil]
        · exact .inl ⟨_, .trailing wellFormed left⟩

/-- A dictionary of the texts of entries lists these, and is the only one that does. -/
theorem lists_of_perm (permuted : found.entries.Perm (layout.items.map Item.entry)) :
    layout.Lists found ∧ ∀ other, layout.Lists other → other = found := by
  have entries : ∀ key value,
      found.find? key = some value ↔ (key, value) ∈ layout.items.map Item.entry := by
    intro key value
    rw [Dictionary.find?_eq_some_iff, permuted.mem_iff]
  have size : found.size = layout.items.length := by
    rw [Dictionary.size, permuted.length_eq, List.length_map]
  refine ⟨⟨entries, size⟩, ?_⟩
  intro other lists
  apply Dictionary.ext_find?
  intro key
  ext value
  rw [lists.entries, entries]

end Whole

/-- The grammar of associated data. Bytes are listed exactly if they are laid out from a form of the
count of their entries and from at least one entry, with forms of the lengths, texts that are not
empty and distinct keys; they are then listed as the texts of the entries, so the count is never
held against the bytes of a layout. All others are refused for the first fault that they have from
the left: the count; the first entry that cannot be read, has an empty text or repeats a key; and
bytes left over. -/
theorem list_layout (bytes : Bytes) :
    (∀ found, list bytes = .ok found ↔
      ∃ layout : Layout, layout.WellFormed ∧ layout.bytes = bytes ∧ layout.Lists found) ∧
    (∀ layout : Layout, layout.WellFormed → layout.bytes = bytes →
      ∃ found, list bytes = .ok found ∧ layout.Lists found) ∧
    (∀ fault, list bytes = .error fault ↔ Refused bytes fault) := by
  have total : (∃ fault, Refused bytes fault) ∨
      ∃ found, ∃ layout : Layout, layout.WellFormed ∧ layout.bytes = bytes ∧ layout.Lists found := by
    rcases refused_or_wellFormed bytes with refused | ⟨layout, wellFormed, held⟩
    · exact .inl refused
    · obtain ⟨found, -, permuted⟩ := list_bytes wellFormed
      exact .inr ⟨found, layout, wellFormed, held, (lists_of_perm permuted).1⟩
  have accepts : ∀ found,
      (∃ layout : Layout, layout.WellFormed ∧ layout.bytes = bytes ∧ layout.Lists found) →
        list bytes = .ok found := by
    rintro found ⟨layout, wellFormed, rfl, lists⟩
    obtain ⟨read, done, permuted⟩ := list_bytes wellFormed
    rw [done, (lists_of_perm permuted).2 found lists]
  obtain ⟨listed, refused⟩ := Outcome.determined total accepts fun _ => list_of_refused
  refine ⟨listed, ?_, refused⟩
  rintro layout wellFormed rfl
  obtain ⟨found, done, permuted⟩ := list_bytes wellFormed
  exact ⟨found, done, (lists_of_perm permuted).1⟩

/-- A layout of two entries that are not in the order of their keys, with a zero at the high end of
the count and of the length of the first key. -/
def paddedLayout : Layout :=
  ⟨[0x82, 0x00], [⟨⟨[0x81, 0x00], "b"⟩, ⟨[1], "2"⟩⟩, ⟨⟨[1], "a"⟩, ⟨[1], "1"⟩⟩]⟩

/-- An entry without a key. -/
def keylessItem : Item := ⟨⟨[0], ""⟩, ⟨[1], "1"⟩⟩

/-- That layout is listed; and where the first one of two entries has an empty key, this is what the
bytes are refused for, although there is no second one. -/
theorem list_layout_padded :
    paddedLayout.WellFormed ∧
    (∃ found, list paddedLayout.bytes = .ok found ∧ paddedLayout.Lists found) ∧
    list [2, 0, 1, 49] = .error (.emptyEntry "") := by
  have counted : Base128.Consumed [0x82, 0x00] 2 := by decide
  have short : Base128.Consumed [1] 1 := by decide
  have long : Base128.Consumed [0x81, 0x00] 1 := by decide
  have first : Item.Fits ⟨⟨[0x81, 0x00], "b"⟩, ⟨[1], "2"⟩⟩ := ⟨long, short⟩
  have second : Item.Fits ⟨⟨[1], "a"⟩, ⟨[1], "1"⟩⟩ := ⟨short, short⟩
  have listable : Listable paddedLayout.items := {
    fits := List.forall_mem_cons.mpr ⟨first, List.forall_mem_singleton.mpr second⟩
    filled := List.forall_mem_cons.mpr
      ⟨⟨by decide, by decide⟩, List.forall_mem_singleton.mpr ⟨by decide, by decide⟩⟩
    distinct := by decide }
  have wellFormed : paddedLayout.WellFormed := ⟨counted, by decide, listable⟩
  have none : Base128.Consumed [0] 0 := by decide
  have keyless : keylessItem.Fits := ⟨none, short⟩
  have vacant : ¬ keylessItem.Filled := fun filled => filled.key rfl
  have two : Base128.Consumed [2] 2 := by decide
  have enough : 2 ≤ (([] : List Item).flatMap Item.bytes ++ (keylessItem.bytes ++ [])).length := by
    decide
  have few : ([] : List Item).length < 2 := by decide
  obtain ⟨-, listed, -⟩ := list_layout paddedLayout.bytes
  obtain ⟨-, -, refusedFor⟩ := list_layout [2, 0, 1, 49]
  have refused : Refused [2, 0, 1, 49] (.emptyEntry "") :=
    .item two enough listable_nil few (.empty keyless vacant)
  exact ⟨wellFormed, listed paddedLayout wellFormed rfl, (refusedFor _).mpr refused⟩

end AeadEnvelope.AssociatedData
