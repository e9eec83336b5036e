import AeadEnvelope.Proofs.Context.Canonicalization
import AeadEnvelope.Proofs.MaskKey
import AeadEnvelope.Proofs.TagLength.Layout
import Mathlib.Data.List.Nodup

/-!
# The layout of legacy wires

A legacy wire is laid out from a mask, a text, if there is one, and a ciphertext
(`Legacy.Layout`). Beside an empty mask the text is the whole context; beside any other mask the
named keys are placeholders, to which the text adds entries under other keys (`Legacy.Described`).
So a tag/length wire that is read has a layout of one of the dialects (`layout_of_parse`).
Main statement: exactly the wires that are laid out from parts which fit, with a text that can be
read beside the mask, are read, each in one way only; every other one is malformed; and the mask of
a list of keys is read as those keys, each once (`parse_legacyLayout`).
-/
namespace AeadEnvelope.TagLength

open Reader

namespace Legacy

variable {mask : Nat} {further context : Context}

/-- What a context has to do with the keys that a mask names and with a further context. -/
structure Described (mask : Nat) (further context : Context) : Prop where
  /-- The further context has none of the named keys. -/
  apart : ∀ name, MaskKey.Named mask name → name ∉ further.keys
  /-- The entries of the context are the named keys without values and those of the further one. -/
  found : ∀ name value, context.values.find? name = some value ↔
    MaskKey.Named mask name ∧ value = none ∨ further.values.find? name = some value

/-- The entries of a mask are the named keys without values. -/
theorem mem_placeholderEntries_iff {entry : String × Option String} :
    entry ∈ placeholderEntries (MaskKey.named mask) ↔
      MaskKey.Named mask entry.1 ∧ entry.2 = none := by
  obtain ⟨name, value⟩ := entry
  simp only [placeholderEntries, List.mem_map, MaskKey.mem_named_iff, MaskKey.Named, Prod.mk.injEq]
  constructor
  · rintro ⟨key, set, rfl, rfl⟩
    exact ⟨⟨key, set, rfl⟩, rfl⟩
  · rintro ⟨⟨key, set, rfl⟩, rfl⟩
    exact ⟨key, set, rfl, rfl⟩

/-- The keys of the entries of a mask are the names. -/
theorem keys_placeholderEntries (keys : List MaskKey) :
    (placeholderEntries keys).map Prod.fst = keys.map MaskKey.name := by
  unfold placeholderEntries
  rw [List.map_map]
  rfl

/-- Names and keys of a context are in lower case. -/
theorem isKey_of_mem_append {entry : String × Option String}
    (listed : entry ∈ placeholderEntries (MaskKey.named mask) ++ further.entries) :
    IsKey entry.1 := by
  rw [List.mem_append, mem_placeholderEntries_iff] at listed
  rcases listed with ⟨⟨key, -, same⟩, -⟩ | held
  · exact same ▸ MaskKey.isKey_name key
  · exact Context.isKey_of_mem held

/-- The named keys and those of a further context are distinct exactly if it has none of them. -/
theorem nodup_keys_append_iff :
    ((placeholderEntries (MaskKey.named mask) ++ further.entries).map Prod.fst).Nodup ↔
      ∀ name, MaskKey.Named mask name → name ∉ further.keys := by
  have named : ∀ name, name ∈ (MaskKey.named mask).map MaskKey.name ↔ MaskKey.Named mask name := by
    intro name
    simp only [List.mem_map, MaskKey.mem_named_iff, MaskKey.Named]
  have keys : further.entries.map Prod.fst = further.keys := rfl
  rw [List.map_append, keys_placeholderEntries, keys, List.nodup_append]
  constructor
  · rintro ⟨-, -, apart⟩ name held other
    exact apart name ((named name).mpr held) name other rfl
  · intro apart
    refine ⟨MaskKey.nodup_names mask, further.nodup_keys, ?_⟩
    rintro name held _ other rfl
    exact apart name ((named name).mp held) other

/-- A context is described exactly if its entries are, in some order, the named keys without values
and the entries of the further context. -/
theorem described_iff_perm :
    Described mask further context ↔
      (placeholderEntries (MaskKey.named mask) ++ further.entries).Perm context.entries := by
  have members : ∀ name value,
      (name, value) ∈ placeholderEntries (MaskKey.named mask) ++ further.entries ↔
        MaskKey.Named mask name ∧ value = none ∨ further.values.find? name = some value := by
    intro name value
    rw [List.mem_append, mem_placeholderEntries_iff, Dictionary.find?_eq_some_iff]
    rfl
  constructor
  · rintro ⟨apart, found⟩
    have distinct := List.Nodup.of_map _ (nodup_keys_append_iff.mpr apart)
    have contextDistinct : context.entries.Nodup := context.values.nodup_entries
    apply (List.perm_ext_iff_of_nodup distinct contextDistinct).mpr
    rintro ⟨name, value⟩
    rw [members, ← found, Dictionary.find?_eq_some_iff]
    rfl
  · intro permuted
    have distinct : ((placeholderEntries (MaskKey.named mask) ++ further.entries).map
        Prod.fst).Nodup := (permuted.map Prod.fst).nodup_iff.mpr context.nodup_keys
    refine ⟨nodup_keys_append_iff.mp distinct, fun name value => ?_⟩
    rw [← members, Dictionary.find?_eq_some_iff]
    exact permuted.mem_iff.symm

/-- The keys of a mask are described by a further context exactly if it has none of them. -/
theorem exists_described_iff :
    (∃ context, Described mask further context) ↔
      ∀ name, MaskKey.Named mask name → name ∉ further.keys := by
  simp only [described_iff_perm]
  rw [Context.exists_entries_perm_iff fun _ => isKey_of_mem_append, nodup_keys_append_iff]

/-- The keys of a mask and a further context make one context exactly if that one is described. -/
theorem describedContext_eq_ok_iff :
    describedContext (MaskKey.named mask) further = .ok context ↔
      Described mask further context := by
  rw [described_iff_perm, ← Context.ofEntries_eq_ok_iff_perm fun _ => isKey_of_mem_append,
    describedContext, Outcome.mapError_eq_ok_iff]

/-- The keys of a mask alone are described by the context without keys. -/
theorem ofEntries_placeholderEntries_eq_ok_iff :
    Context.ofEntries (placeholderEntries (MaskKey.named mask)) = .ok context ↔
      Described mask .empty context := by
  have alone : placeholderEntries (MaskKey.named mask) ++ Context.empty.entries =
      placeholderEntries (MaskKey.named mask) := List.append_nil _
  rw [described_iff_perm, ← Context.ofEntries_eq_ok_iff_perm fun _ => isKey_of_mem_append, alone]

/-- The keys of a mask make a context. -/
theorem exists_ofEntries_placeholderEntries (mask : Nat) :
    ∃ context, Context.ofEntries (placeholderEntries (MaskKey.named mask)) = .ok context := by
  have apart : ∀ name, MaskKey.Named mask name → name ∉ Context.empty.keys :=
    fun _ _ => List.not_mem_nil
  obtain ⟨context, described⟩ := exists_described_iff.mpr apart
  exact ⟨context, ofEntries_placeholderEntries_eq_ok_iff.mpr described⟩

/-- The further context that a text beside a mask gives, without keys where there is no text. -/
def furtherContext : Option String → Except Fault Context
  | none => .ok .empty
  | some text => Context.parse text

/-- The context that a mask and a text beside it stand for. -/
inductive Stands (mask : Nat) (text : Option String) : Option Context → Prop where
  /-- Beside an empty mask the text is the context, and without a text there is none. -/
  | unmasked {context : Option Context} (zero : mask = 0)
    (read : text.mapM Context.parse = .ok context) : Stands mask text context
  /-- Beside any other mask the text adds entries to the named keys. -/
  | masked {further context : Context} (nonzero : mask ≠ 0)
    (read : furtherContext text = .ok further) (described : Described mask further context) :
    Stands mask text (some context)

/-- The context that a mask and a text stand for has a canonical text. -/
theorem Stands.exists_canonical {text : Option String} {held : Option Context}
    (stands : Stands mask text held) {context : Context} (there : held = some context) :
    ∃ written, context.canonical = .ok written := by
  subst there
  cases stands with
  | unmasked zero read =>
    rcases Outcome.mapM_eq_ok_iff.mp read with ⟨-, impossible⟩ | ⟨given, _, -, same, parsed⟩
    · cases impossible
    · cases same
      exact Context.exists_canonical_of_parse parsed
  | @masked further _ nonzero read described =>
    have furtherWritten : ∃ written, further.canonical = .ok written := by
      cases text with
      | none => exact ⟨"", by rw [← Except.ok.inj read]; rfl⟩
      | some given => exact Context.exists_canonical_of_parse read
    obtain ⟨written, found⟩ := furtherWritten
    refine ⟨_, Context.canonical_eq_ok_iff.mpr ⟨?_, rfl⟩⟩
    intro entry held
    have listed := (described_iff_perm.mp described).mem_iff.mpr held
    rw [List.mem_append, mem_placeholderEntries_iff] at listed
    rcases listed with ⟨⟨key, -, same⟩, vacant⟩ | old
    · have plain : Context.hasSeparator entry.1 = false := same ▸ MaskKey.hasSeparator_name key
      apply Context.offends_eq_false_iff.mpr
      exact ⟨plain, by simp [vacant]⟩
    · exact (Context.canonical_eq_ok_iff.mp found).1 entry old

/-- Beside the keys of a mask the section of a context fails for its structure alone. -/
theorem malforming_contextReader (mask : Nat) (tag : UInt8) :
    (contextReader (MaskKey.named mask) tag).Malforming := by
  have ending : ∀ context : Context, (do
      let next ← byte .missingCiphertextTag
      return (some context, next) : Reader (Option Context × UInt8)).Malforming := fun context =>
    (malforming_byte _).bind fun next => malforming_pure _
  unfold contextReader
  split
  · split
    · exact malforming_malformed _
    · refine malforming_contextText fun further => ?_
      refine (malforming_ofOutcome fun fault failed => ?_).bind ending
      unfold describedContext at failed
      cases built : Context.ofEntries (placeholderEntries (MaskKey.named mask) ++ further.entries)
      · rw [built] at failed
        cases failed
        exact ⟨_, rfl⟩
      · rw [built] at failed
        cases failed
  · split
    · split
      · exact malforming_contextText ending
      · exact malforming_malformed _
    · split
      · exact malforming_pure _
      · obtain ⟨context, built⟩ := exists_ofEntries_placeholderEntries mask
        rw [built]
        exact (malforming_ofOutcome fun _ impossible => by cases impossible).bind
          fun context => malforming_pure _

/-- Behind its version byte a wire fails for its structure alone. -/
theorem malforming_reader : reader.Malforming := by
  refine (malforming_number _ _).bind fun mask => ?_
  refine malforming_ofOutcome_bind (fun _ => MaskKey.ofMask_malformed) fun keys resolved => ?_
  obtain ⟨-, rfl⟩ := MaskKey.ofMask_eq_ok_iff.mp resolved
  refine (malforming_byte _).bind fun first => ?_
  refine (malforming_contextReader mask first).bind fun (context, tag) => ?_
  dsimp only
  split
  · exact malforming_rest.bind fun ciphertext => malforming_pure _
  · exact malforming_malformed _

/-- The parts that a legacy wire is laid out from. -/
structure Layout where
  /-- The places of the bits of the named keys. -/
  mask : Nat
  /-- The text of a context or of further entries; an absent one is not the same as an empty one. -/
  text : Option String
  /-- The ciphertext. -/
  ciphertext : Bytes
deriving DecidableEq

namespace Layout

/-- The text beside a mask behind its tag and its length, or nothing where there is none. -/
def textBytes (mask : Nat) : Option String → Bytes
  | none => []
  | some text =>
    (if mask = 0 then 0x02 else 0x01) :: bigEndian 2 (utf8 text).length ++ utf8 text

/-- The wire: its version, the mask, the text, and the ciphertext behind its tag. -/
def wire (layout : Layout) : Bytes :=
  0x01 :: bigEndian 4 layout.mask ++ textBytes layout.mask layout.text ++ 0x03 :: layout.ciphertext

/-- Every part has its place: the mask has bits of known keys only, and the length of the text can
be written in two bytes. -/
structure Fits (layout : Layout) : Prop where
  /-- The bits of the mask are those of keys other than the undefined one. -/
  mask : MaskKey.Resolvable layout.mask
  /-- The length of the text, if there is one, fits its field. -/
  text : ∀ text, layout.text = some text → (utf8 text).length < capacity 2

/-- The text, if there is one, is read as a context that has none of the named keys. -/
def Readable (layout : Layout) : Prop :=
  ∀ text, layout.text = some text → ∃ further, Context.parse text = .ok further ∧
    ∀ name, MaskKey.Named layout.mask name → name ∉ further.keys

/-- A packet has the keys that the mask names, in the order of their table, the context that the
mask and the text stand for, and the ciphertext. -/
def Holds (layout : Layout) (packet : Packet) : Prop :=
  ∃ context, Stands layout.mask layout.text context ∧
    packet = ⟨.legacy, MaskKey.named layout.mask, ⟨context, layout.ciphertext⟩⟩

/-- No key is named by the empty mask. -/
theorem not_named_zero (name : String) : ¬ MaskKey.Named 0 name := by
  rintro ⟨key, set, -⟩
  rw [Nat.zero_testBit] at set
  cases set

/-- A layout holds a packet exactly if its text can be read. -/
theorem exists_holds_iff {layout : Layout} :
    (∃ packet, layout.Holds packet) ↔ layout.Readable := by
  obtain ⟨mask, text, ciphertext⟩ := layout
  constructor
  · rintro ⟨packet, context, stands, -⟩ given rfl
    cases stands with
    | unmasked zero read =>
      rcases Outcome.mapM_eq_ok_iff.mp read with ⟨impossible, -⟩ | ⟨_, found, same, -, parsed⟩
      · cases impossible
      · cases same
        exact ⟨found, parsed, fun name named => absurd (zero ▸ named) (not_named_zero name)⟩
    | @masked further _ _ read described => exact ⟨further, read, described.apart⟩
  · intro readable
    have further : ∃ further, furtherContext text = .ok further ∧
        ∀ name, MaskKey.Named mask name → name ∉ further.keys := by
      cases text with
      | none => exact ⟨.empty, rfl, fun _ _ => List.not_mem_nil⟩
      | some given => exact readable given rfl
    by_cases zero : mask = 0
    · have each : ∀ given, text = some given → ∃ made, Context.parse given = .ok made := by
        intro given held
        obtain ⟨made, parsed, -⟩ := readable given held
        exact ⟨made, parsed⟩
      obtain ⟨context, read⟩ := Outcome.exists_mapM each
      exact ⟨_, context, .unmasked zero read, rfl⟩
    · obtain ⟨found, read, apart⟩ := further
      obtain ⟨context, described⟩ := exists_described_iff.mpr apart
      exact ⟨_, some context, .masked zero read described, rfl⟩

/-- A text beside a mask is found again before the tag of a ciphertext, as is the lack of one. -/
theorem textBytes_append_inj {left right : Option String} {later rest : Bytes}
    (leftFits : ∀ text, left = some text → (utf8 text).length < capacity 2)
    (rightFits : ∀ text, right = some text → (utf8 text).length < capacity 2)
    (same : textBytes mask left ++ 0x03 :: later = textBytes mask right ++ 0x03 :: rest) :
    left = right ∧ later = rest := by
  have form : ∀ text, textBytes mask text =
      optionalSection 2 (if mask = 0 then 0x02 else 0x01) text := fun text => by cases text <;> rfl
  have apart : (if mask = 0 then (0x02 : UInt8) else 0x01) ≠ 0x03 := by
    split <;> decide
  rw [form, form] at same
  exact optionalSection_append_inj apart leftFits rightFits same

/-- A wire has one layout. -/
theorem wire_inj {layout other : Layout} (fits : layout.Fits) (otherFits : other.Fits)
    (same : layout.wire = other.wire) : layout = other := by
  obtain ⟨mask, text, ciphertext⟩ := layout
  obtain ⟨otherMask, otherText, otherCiphertext⟩ := other
  simp only [wire, List.cons_append, List.append_assoc, List.cons.injEq, true_and] at same
  obtain ⟨rfl, texts⟩ :=
    bigEndian_append_inj fits.mask.lt_capacity otherFits.mask.lt_capacity same
  obtain ⟨rfl, rfl⟩ := textBytes_append_inj fits.text otherFits.text texts
  rfl

/-- The bytes that may give a context beside a mask are those of a text that fits and stands for
it, or none. -/
theorem contextSection_iff {front : Bytes} {context : Option Context}
    (resolvable : MaskKey.Resolvable mask) :
    ContextSection (MaskKey.named mask) front context ↔
      ∃ text, (∀ given, text = some given → (utf8 given).length < capacity 2) ∧
        textBytes mask text = front ∧ Stands mask text context := by
  have unnamedIff := resolvable.named_eq_nil_iff
  constructor
  · intro given
    cases given with
    | absent unnamed =>
      exact ⟨none, by simp, rfl, .unmasked (unnamedIff.mp unnamed) rfl⟩
    | named named built =>
      have described := ofEntries_placeholderEntries_eq_ok_iff.mp built
      exact ⟨none, by simp, rfl, .masked (mt unnamedIff.mpr named) rfl described⟩
    | @described text further context named fits read built =>
      have nonzero : mask ≠ 0 := mt unnamedIff.mpr named
      have described := describedContext_eq_ok_iff.mp built
      refine ⟨some text, ?_, ?_, .masked nonzero read described⟩
      · rintro _ ⟨⟩
        exact fits
      · rw [textBytes, if_neg nonzero]
        rfl
    | @whole text context unnamed fits read =>
      have zero : mask = 0 := unnamedIff.mp unnamed
      refine ⟨some text, ?_, ?_, .unmasked zero ?_⟩
      · rintro _ ⟨⟩
        exact fits
      · rw [textBytes, if_pos zero]
        rfl
      · exact Outcome.mapM_eq_ok_iff.mpr (.inr ⟨text, context, rfl, rfl, read⟩)
  · rintro ⟨text, fits, rfl, stands⟩
    cases stands with
    | unmasked zero read =>
      have unnamed := unnamedIff.mpr zero
      rcases Outcome.mapM_eq_ok_iff.mp read with ⟨rfl, rfl⟩ | ⟨given, found, rfl, rfl, parsed⟩
      · exact .absent unnamed
      · rw [textBytes, if_pos zero]
        exact .whole unnamed (fits given rfl) parsed
    | masked nonzero read described =>
      have named : MaskKey.named mask ≠ [] := mt unnamedIff.mp nonzero
      cases text with
      | none =>
        obtain rfl := Except.ok.inj read
        exact .named named (ofEntries_placeholderEntries_eq_ok_iff.mpr described)
      | some given =>
        rw [textBytes, if_neg nonzero]
        exact .described named (fits given rfl) read (describedContext_eq_ok_iff.mpr described)

end Layout

/-- A legacy wire is read exactly as a packet that a layout of it holds. -/
theorem parse_eq_ok_iff_layout {body : Bytes} {packet : Packet} :
    parse (0x01 :: body) = .ok packet ↔
      ∃ layout : Layout, layout.Fits ∧ layout.wire = 0x01 :: body ∧ layout.Holds packet := by
  refine parse_legacy_eq_ok_iff.trans ?_
  constructor
  · rintro ⟨mask, keys, front, context, ciphertext, -, resolved, given, rfl, rfl⟩
    obtain ⟨resolvable, rfl⟩ := MaskKey.ofMask_eq_ok_iff.mp resolved
    obtain ⟨text, fits, rfl, stands⟩ := (Layout.contextSection_iff resolvable).mp given
    exact ⟨⟨mask, text, ciphertext⟩, ⟨resolvable, fits⟩, rfl, context, stands, rfl⟩
  · rintro ⟨layout, fits, wire, context, stands, rfl⟩
    have resolved := MaskKey.ofMask_eq_ok_iff.mpr ⟨fits.mask, rfl⟩
    have given := (Layout.contextSection_iff fits.mask).mpr ⟨layout.text, fits.text, rfl, stands⟩
    exact ⟨layout.mask, _, _, context, layout.ciphertext, fits.mask.lt_capacity, resolved, given,
      (List.cons.inj wire).2.symm, rfl⟩

/-- A legacy wire that is not read is malformed. -/
theorem parse_malformed {body : Bytes} {fault : Fault}
    (failed : parse (0x01 :: body) = .error fault) : ∃ cause, fault = .malformed cause :=
  malforming_reader ⟨1, body⟩ fault failed

/-- A legacy wire that cannot be read is malformed, whatever is expected. -/
theorem malformed_of_unread {body : Bytes} (unread : ∀ packet, parse (0x01 :: body) ≠ .ok packet) :
    (∃ cause, parse (0x01 :: body) = .error (.malformed cause)) ∧
      ∀ expected, ∃ cause,
        (decode (0x01 :: body) expected).outcome = .error (.malformed cause) := by
  cases read : parse (0x01 :: body) with
  | ok packet => exact absurd read (unread packet)
  | error fault =>
    obtain ⟨cause, rfl⟩ := parse_malformed read
    exact ⟨⟨cause, rfl⟩, fun expected => ⟨cause, decode_outcome_of_parse_error read expected⟩⟩

/-- What the mask of a list of keys stands for: nothing for no keys, and else the keys of the list
without values. -/
theorem Stands.of_maskOf {keys : List MaskKey} {held : Option Context}
    (stands : Stands (MaskKey.maskOf keys) none held) :
    (keys = [] → held = none) ∧ (keys ≠ [] → ∃ context, held = some context ∧
      ∀ name value, context.values.find? name = some value ↔
        (∃ key ∈ keys, key.name = name) ∧ value = none) := by
  have zeroIff := @MaskKey.maskOf_eq_zero_iff keys
  cases stands with
  | unmasked zero read =>
    have unkeyed := zeroIff.mp zero
    exact ⟨fun _ => (Except.ok.inj read).symm, fun keyed => absurd unkeyed keyed⟩
  | @masked further context nonzero read described =>
    refine ⟨fun unkeyed => absurd (zeroIff.mpr unkeyed) nonzero, fun _ => ⟨context, rfl, ?_⟩⟩
    intro name value
    have nothing : Context.empty.values.find? name ≠ some value := fun found => by cases found
    rw [described.found, MaskKey.named_maskOf_iff, ← Except.ok.inj read]
    exact or_iff_left nothing

/-- The mask of a list of keys, with no text beside it, is read as those keys, each once and in the
order of their table, and is opened under the context that they make. -/
theorem parse_maskOf {keys : List MaskKey} (defined : .undefined ∉ keys) (ciphertext : Bytes) :
    ∃ context, Stands (MaskKey.maskOf keys) none context ∧
      parse (0x01 :: (bigEndian 4 (MaskKey.maskOf keys) ++ 0x03 :: ciphertext)) =
        .ok ⟨.legacy, MaskKey.all.filter (· ∈ keys), ⟨context, ciphertext⟩⟩ ∧
      (decode (0x01 :: (bigEndian 4 (MaskKey.maskOf keys) ++ 0x03 :: ciphertext))
        context).outcome = .ok ⟨context, ciphertext⟩ := by
  let layout : Layout := ⟨MaskKey.maskOf keys, none, ciphertext⟩
  have fits : layout.Fits := ⟨MaskKey.resolvable_maskOf defined, fun _ held => by cases held⟩
  have wire : layout.wire = 0x01 :: (bigEndian 4 (MaskKey.maskOf keys) ++ 0x03 :: ciphertext) := by
    simp [layout, Layout.wire, Layout.textBytes]
  have readable : layout.Readable := fun _ held => by cases held
  obtain ⟨packet, context, stands, rfl⟩ := Layout.exists_holds_iff.mpr readable
  have read := parse_eq_ok_iff_layout.mpr ⟨layout, fits, wire, context, stands, rfl⟩
  rw [MaskKey.named_maskOf] at read
  have verified := Context.verify_self fun _ held => stands.exists_canonical held
  exact ⟨context, stands, read, decode_outcome_eq_ok_iff.mpr ⟨_, read, rfl, verified⟩⟩

end Legacy

/-- A wire that is read has a layout of one of the dialects, which holds the packet. -/
theorem layout_of_parse {wire : Bytes} {packet : Packet} (read : parse wire = .ok packet) :
    (∃ layout : Legacy.Layout, layout.Fits ∧ layout.wire = wire ∧ layout.Holds packet) ∨
      ∃ layout : Current.Layout,
        layout.Fits ∧ layout.wire = wire ∧ layout.packet = .ok packet := by
  obtain ⟨dialect, body, tagged, rfl⟩ := exists_version_of_parse read
  cases dialect with
  | varint => exact absurd rfl tagged
  | legacy => exact .inl (Legacy.parse_eq_ok_iff_layout.mp read)
  | current => exact .inr (Current.parse_eq_ok_iff_layout.mp read)

/-- The grammar of legacy wires. A wire is read exactly if it is laid out from parts that fit and
can be read; its layout is the only one, and what is read is the packet that the layout holds. Every
other wire is malformed, whatever is expected. The mask of a list of keys other than the undefined
one, with nothing beside it, is read as exactly those keys without values. -/
theorem parse_legacyLayout (body : Bytes) :
    ((∃ packet, parse (0x01 :: body) = .ok packet) ↔
      ∃ layout : Legacy.Layout, layout.Fits ∧ layout.Readable ∧ layout.wire = 0x01 :: body) ∧
    (∀ layout : Legacy.Layout, layout.Fits → layout.wire = 0x01 :: body →
      (∀ packet, parse (0x01 :: body) = .ok packet ↔ layout.Holds packet) ∧
        ∀ other : Legacy.Layout, other.Fits → other.wire = 0x01 :: body → other = layout) ∧
    ((∀ layout : Legacy.Layout, layout.Fits → layout.wire = 0x01 :: body → ¬ layout.Readable) →
      (∃ cause, parse (0x01 :: body) = .error (.malformed cause)) ∧
        ∀ expected, ∃ cause,
          (decode (0x01 :: body) expected).outcome = .error (.malformed cause)) ∧
    (∀ (keys : List MaskKey) (ciphertext : Bytes), .undefined ∉ keys →
      body = bigEndian 4 (MaskKey.maskOf keys) ++ 0x03 :: ciphertext →
      ∃ held, parse (0x01 :: body) =
          .ok ⟨.legacy, MaskKey.all.filter (· ∈ keys), ⟨held, ciphertext⟩⟩ ∧
        (decode (0x01 :: body) held).outcome = .ok ⟨held, ciphertext⟩ ∧
        (keys = [] → held = none) ∧
        (keys ≠ [] → ∃ context, held = some context ∧
          ∀ name value, context.values.find? name = some value ↔
            (∃ key ∈ keys, key.name = name) ∧ value = none)) := by
  have same : ∀ layout other : Legacy.Layout, layout.Fits → other.Fits →
      layout.wire = 0x01 :: body → other.wire = 0x01 :: body → other = layout := by
    intro layout other fits otherFits wire otherWire
    exact Legacy.Layout.wire_inj otherFits fits (otherWire.trans wire.symm)
  refine ⟨?_, fun layout fits wire => ⟨fun packet => ?_, ?_⟩, fun unreadable => ?_, ?_⟩
  · constructor
    · rintro ⟨packet, read⟩
      obtain ⟨layout, fits, wire, holds⟩ := Legacy.parse_eq_ok_iff_layout.mp read
      exact ⟨layout, fits, Legacy.Layout.exists_holds_iff.mp ⟨packet, holds⟩, wire⟩
    · rintro ⟨layout, fits, readable, wire⟩
      obtain ⟨packet, holds⟩ := Legacy.Layout.exists_holds_iff.mpr readable
      exact ⟨packet, Legacy.parse_eq_ok_iff_layout.mpr ⟨layout, fits, wire, holds⟩⟩
  · rw [Legacy.parse_eq_ok_iff_layout]
    constructor
    · rintro ⟨other, otherFits, otherWire, holds⟩
      exact same layout other fits otherFits wire otherWire ▸ holds
    · intro holds
      exact ⟨layout, fits, wire, holds⟩
  · intro other otherFits otherWire
    exact same layout other fits otherFits wire otherWire
  · apply Legacy.malformed_of_unread
    intro packet read
    obtain ⟨layout, fits, wire, holds⟩ := Legacy.parse_eq_ok_iff_layout.mp read
    exact unreadable layout fits wire (Legacy.Layout.exists_holds_iff.mp ⟨packet, holds⟩)
  · rintro keys ciphertext defined rfl
    obtain ⟨held, stands, read, opened⟩ := Legacy.parse_maskOf defined ciphertext
    exact ⟨held, read, opened, stands.of_maskOf⟩

/-- A layout whose mask names two keys, with a description in capitals. -/
def describedLayout : Legacy.Layout := ⟨6, some "B=y", [7, 7]⟩

/-- The wire of that layout behind its version. -/
def describedBody : Bytes := [0, 0, 0, 6, 1, 0, 3, 66, 61, 121, 3, 7, 7]

/-- The context of that wire. -/
def describedPacketContext : Context where
  values := ⟨[("b", some "y"), ("database_name", none), ("table_name", none)], by decide⟩
  named := by decide +kernel

/-- A layout whose description repeats, in capitals, a key that the mask names. -/
def repeatedLayout : Legacy.Layout := ⟨2, some "TABLE_NAME", []⟩

/-- The wire of that layout behind its version. -/
def repeatedBody : Bytes := [0, 0, 0, 2, 1, 0, 10, 84, 65, 66, 76, 69, 95, 78, 65, 77, 69, 3]

/-- A description of a key that the mask names cannot be read. -/
theorem not_readable_repeatedLayout : ¬ repeatedLayout.Readable := by
  intro readable
  obtain ⟨further, parsed, apart⟩ := readable "TABLE_NAME" rfl
  have known : Context.parse "TABLE_NAME" =
      .ok (.single "table_name" none (by decide +kernel)) := by decide +kernel
  obtain rfl := Except.ok.inj (known.symm.trans parsed)
  exact apart "table_name" ⟨.tableName, by decide, rfl⟩ (by decide)

/-- A description adds its entry to the keys of the mask, and is malformed where it repeats one of
them. A mask of keys that are listed out of order and twice is read as those keys. -/
theorem parse_legacyLayout_described :
    describedLayout.Fits ∧ describedLayout.wire = 0x01 :: describedBody ∧
    describedLayout.Holds
      ⟨.legacy, [.tableName, .databaseName], ⟨some describedPacketContext, [7, 7]⟩⟩ ∧
    (∃ packet, parse (0x01 :: describedBody) = .ok packet) ∧
    repeatedLayout.wire = 0x01 :: repeatedBody ∧
    (∃ cause, parse (0x01 :: repeatedBody) = .error (.malformed cause)) ∧
    ∃ held, parse [0x01, 0, 0, 1, 2, 3, 9] =
      .ok ⟨.legacy, [.tableName, .customerToken], ⟨held, [9]⟩⟩ := by
  have fits : describedLayout.Fits := by
    refine ⟨MaskKey.resolvable_iff_and_knownBits.mpr (by decide), fun text held => ?_⟩
    obtain rfl := Option.some.inj held
    decide
  have wire : describedLayout.wire = 0x01 :: describedBody := by decide +kernel
  have read : parse (0x01 :: describedBody) =
      .ok ⟨.legacy, [.tableName, .databaseName], ⟨some describedPacketContext, [7, 7]⟩⟩ := by
    decide +kernel
  obtain ⟨readIff, laidOut, -, -⟩ := parse_legacyLayout describedBody
  have holds := ((laidOut describedLayout fits wire).1 _).mp read
  have readable : describedLayout.Readable := Legacy.Layout.exists_holds_iff.mp ⟨_, holds⟩
  have repeatedFits : repeatedLayout.Fits := by
    refine ⟨MaskKey.resolvable_iff_and_knownBits.mpr (by decide), fun text held => ?_⟩
    obtain rfl := Option.some.inj held
    decide
  have repeatedWire : repeatedLayout.wire = 0x01 :: repeatedBody := by decide +kernel
  obtain ⟨-, repeatedOnly, malformed, -⟩ := parse_legacyLayout repeatedBody
  have unreadable : ∀ layout : Legacy.Layout, layout.Fits →
      layout.wire = 0x01 :: repeatedBody → ¬ layout.Readable := by
    intro layout layoutFits layoutWire
    obtain ⟨-, only⟩ := repeatedOnly repeatedLayout repeatedFits repeatedWire
    have same := only layout layoutFits layoutWire
    exact same ▸ not_readable_repeatedLayout
  obtain ⟨-, -, -, masked⟩ := parse_legacyLayout [0, 0, 1, 2, 3, 9]
  obtain ⟨held, maskRead, -⟩ :=
    masked [.customerToken, .tableName, .customerToken] [9] (by decide) (by decide)
  exact ⟨fits, wire, holds, readIff.mpr ⟨describedLayout, fits, readable, wire⟩, repeatedWire,
    (malformed unreadable).1, held, maskRead⟩

end AeadEnvelope.TagLength
