import AeadEnvelope.Context.Fill
import AeadEnvelope.Proofs.Context.Agreement

/-!
# Completing a context

A key of a base context is obstructed if it is a placeholder that is given no value, or has a value
and is named again (`Obstruction`). The base is completed by an additional context exactly when no
key is obstructed (`fill_eq_ok_iff`), and otherwise the least such key is reported
(`fill_eq_error_iff`). The values that a packet leaves open are what an expected context has under
the placeholders of the packet (`atPlaceholders`). Main statements: where the two agree, the packet
is completed by those values into the expected context (`fill_atPlaceholders`), or the least key
that is still without a value is reported (`fill_atPlaceholders_missing`); and a base agrees with
what it was completed into exactly when it was given no keys beside its own (`agrees_fill_iff`).
-/
namespace AeadEnvelope

namespace Dictionary

variable {α β : Type}

/-- The entries whose keys are chosen. -/
def restrict (chosen : String → Bool) (dictionary : Dictionary α) : Dictionary α :=
  ⟨dictionary.entries.filter fun entry => chosen entry.1, dictionary.ascending.filter _⟩

/-- A chosen key finds what it did, and all others find nothing. -/
theorem find?_restrict (chosen : String → Bool) (dictionary : Dictionary α) (key : String) :
    (dictionary.restrict chosen).find? key =
      if chosen key = true then dictionary.find? key else none := by
  ext value
  rw [find?_eq_some_iff, restrict, List.mem_filter]
  by_cases kept : chosen key = true
  · rw [if_pos kept, find?_eq_some_iff]
    exact and_iff_left kept
  · rw [if_neg kept]
    simp [kept]

/-- The first thing found among the entries is found at the least key at which there is one. -/
theorem findSome?_eq_some_iff {dictionary : Dictionary α} {find : String × α → Option β}
    {found : β} :
    dictionary.entries.findSome? find = some found ↔
      ∃ entry ∈ dictionary.entries, find entry = some found ∧
        ∀ other ∈ dictionary.entries, other.1 < entry.1 → find other = none := by
  have ascending := dictionary.ascending
  rw [List.findSome?_eq_some_iff]
  constructor
  · rintro ⟨front, entry, back, split, here, earlier⟩
    rw [split, List.pairwise_append] at ascending
    have above := (List.pairwise_cons.mp ascending.2.1).1
    refine ⟨entry, by simp [split], here, fun other listed below => ?_⟩
    rw [split, List.mem_append, List.mem_cons] at listed
    rcases listed with before | rfl | after
    · exact earlier other before
    · exact absurd below (String.lt_irrefl _)
    · exact absurd below (String.lt_asymm (above other after))
  · rintro ⟨entry, listed, here, least⟩
    obtain ⟨front, back, split⟩ := List.append_of_mem listed
    rw [split, List.pairwise_append] at ascending
    refine ⟨front, entry, back, split, here, fun other before => ?_⟩
    have below : other.1 < entry.1 := ascending.2.2 other before entry (by simp)
    exact least other (by simp [split, before]) below

end Dictionary

namespace Context

variable {base additional complete packet expected : Context}

/-- What keeps a base context from being completed by an additional one: the key and the fault
there. -/
inductive Obstruction (base additional : Context) : String → Fault → Prop where
  /-- A placeholder of the base is not given a value. -/
  | missing {key : String} (vacant : base.values.find? key = some none)
    (unsupplied : ∀ value, additional.values.find? key ≠ some (some value)) :
    Obstruction base additional key (.missingAdditionalValue key)
  /-- A key of which the base has the value is named again. -/
  | conflicting {key value : String} (held : base.values.find? key = some (some value))
    (named : additional.values.find? key ≠ none) :
    Obstruction base additional key (.conflictingAdditionalValue key)

/-- The fault of an entry of the base is what obstructs its key. -/
theorem obstruction_iff {key : String} {fault : Fault} :
    base.Obstruction additional key fault ↔
      ∃ value, base.values.find? key = some value ∧
        entryFault? additional (key, value) = some fault := by
  constructor
  · rintro (⟨vacant, unsupplied⟩ | ⟨held, named⟩)
    · refine ⟨none, vacant, ?_⟩
      rcases given : additional.values.find? key with _ | _ | value
      · simp [entryFault?, given]
      · simp [entryFault?, given]
      · exact absurd given (unsupplied value)
    · refine ⟨_, held, ?_⟩
      obtain ⟨given, found⟩ := Option.ne_none_iff_exists'.mp named
      simp [entryFault?, found]
  · rintro ⟨value, held, here⟩
    cases value with
    | none =>
      rcases given : additional.values.find? key with _ | _ | value <;>
        simp only [entryFault?, given, Option.some.injEq, reduceCtorEq] at here
      · exact here ▸ .missing held (by simp [given])
      · exact here ▸ .missing held (by simp [given])
    | some value =>
      rcases given : additional.values.find? key with _ | other <;>
        simp only [entryFault?, given, Option.some.injEq, reduceCtorEq] at here
      exact here ▸ .conflicting held (by simp [given])

/-- Completing fails exactly for what obstructs the least key that is obstructed. -/
theorem fill_eq_error_iff {fault : Fault} :
    base.fill additional = .error fault ↔
      ∃ key, base.Obstruction additional key fault ∧
        ∀ other otherFault, base.Obstruction additional other otherFault → key ≤ other := by
  have failed : base.fill additional = .error fault ↔ base.fillFault? additional = some fault := by
    rw [fill]
    cases base.fillFault? additional <;> simp
  rw [failed, fillFault?, entries, Dictionary.findSome?_eq_some_iff]
  constructor
  · rintro ⟨⟨key, value⟩, listed, here, least⟩
    have held := Dictionary.find?_eq_some_iff.mpr listed
    refine ⟨key, obstruction_iff.mpr ⟨value, held, here⟩, fun other otherFault obstructed => ?_⟩
    obtain ⟨otherValue, otherHeld, there⟩ := obstruction_iff.mp obstructed
    apply String.not_lt.mp
    intro below
    rw [least _ (Dictionary.find?_eq_some_iff.mp otherHeld) below] at there
    cases there
  · rintro ⟨key, obstructed, least⟩
    obtain ⟨value, held, here⟩ := obstruction_iff.mp obstructed
    refine ⟨(key, value), Dictionary.find?_eq_some_iff.mp held, here, ?_⟩
    rintro ⟨other, otherValue⟩ listed below
    have otherHeld := Dictionary.find?_eq_some_iff.mpr listed
    cases there : entryFault? additional (other, otherValue) with
    | none => rfl
    | some otherFault =>
      have above := least other otherFault (obstruction_iff.mpr ⟨otherValue, otherHeld, there⟩)
      exact absurd below (String.not_lt.mpr above)

/-- There is no fault exactly when no key is obstructed. -/
theorem fillFault?_eq_none_iff :
    base.fillFault? additional = none ↔ ∀ key fault, ¬ base.Obstruction additional key fault := by
  rw [fillFault?, entries, List.findSome?_eq_none_iff]
  constructor
  · intro passed key fault obstructed
    obtain ⟨value, held, here⟩ := obstruction_iff.mp obstructed
    rw [passed _ (Dictionary.find?_eq_some_iff.mp held)] at here
    cases here
  · rintro unobstructed ⟨key, value⟩ listed
    have held := Dictionary.find?_eq_some_iff.mpr listed
    cases here : entryFault? additional (key, value) with
    | none => rfl
    | some fault =>
      exact absurd (obstruction_iff.mpr ⟨value, held, here⟩) (unobstructed key fault)

/-- Completing succeeds exactly when nothing obstructs it. -/
theorem fill_eq_ok_iff :
    base.fill additional = .ok complete ↔
      (∀ key fault, ¬ base.Obstruction additional key fault) ∧
        base.filled additional = complete := by
  rw [← fillFault?_eq_none_iff, fill]
  cases base.fillFault? additional <;> simp

/-- A key of the base finds its own value or else the one it is given, and other keys find what the
additional context has. -/
theorem find?_filled (base additional : Context) (key : String) :
    (base.filled additional).values.find? key =
      ((base.values.find? key).map fun value =>
        value.or (additional.values.find? key).join).or (additional.values.find? key) := by
  rw [filled, union, Dictionary.find?_union, map, Dictionary.find?_map]

/-- The entries of a completed context are, in some order, those of the base, with the values that
its placeholders are given, and those of the additional context under other keys. -/
theorem entries_filled_perm (base additional : Context) :
    (base.filled additional).entries.Perm
      ((base.entries.map fun entry =>
          (entry.1, entry.2.or (additional.values.find? entry.1).join)) ++
        additional.entries.filter fun entry => !base.values.contains entry.1) := by
  let change : String → Option String → Option String := fun key value =>
    value.or (additional.values.find? key).join
  have joined := Dictionary.union_perm (base.values.map change) additional.values
  simp only [Dictionary.contains_map] at joined
  exact joined

/-- The keys of a completed context are those of both. -/
theorem mem_keys_filled {key : String} :
    key ∈ (base.filled additional).keys ↔ key ∈ base.keys ∨ key ∈ additional.keys := by
  simp only [mem_keys_iff, ← Option.isSome_iff_exists, find?_filled, Option.isSome_or,
    Option.isSome_map, Bool.or_eq_true]

/-- What a context has under the placeholders of a template. -/
def atPlaceholders (context template : Context) : Context :=
  ⟨context.values.restrict fun key => template.values.find? key == some none,
    fun entry member => context.named entry (List.mem_filter.mp member).1⟩

/-- A placeholder of the template finds what it did, and all other keys find nothing. -/
theorem find?_atPlaceholders (context template : Context) (key : String) :
    (context.atPlaceholders template).values.find? key =
      if template.values.find? key = some none then context.values.find? key else none := by
  simp only [atPlaceholders, Dictionary.find?_restrict, beq_iff_eq]

/-- What an agreeing context has under a placeholder of the packet. -/
theorem find?_atPlaceholders_of_agrees (agreed : packet.Agrees expected) {key : String}
    (vacant : packet.values.find? key = some none) :
    ∃ value, expected.values.find? key = some value ∧
      (expected.atPlaceholders packet).values.find? key = some value := by
  have held : key ∈ expected.keys := (agreed.sameKeys key).mp (mem_keys_iff.mpr ⟨none, vacant⟩)
  obtain ⟨value, theirs⟩ := mem_keys_iff.mp held
  refine ⟨value, theirs, ?_⟩
  rw [find?_atPlaceholders, if_pos vacant, theirs]

/-- Under a key that is no placeholder of the packet there is nothing. -/
theorem find?_atPlaceholders_eq_none {key : String}
    (bound : packet.values.find? key ≠ some none) :
    (expected.atPlaceholders packet).values.find? key = none := by
  rw [find?_atPlaceholders, if_neg bound]

/-- Where two contexts agree, the packet is kept from being completed by what the other one has
under its placeholders only where that has a placeholder as well. -/
theorem obstruction_atPlaceholders_iff (agreed : packet.Agrees expected) {key : String}
    {fault : Fault} :
    packet.Obstruction (expected.atPlaceholders packet) key fault ↔
      (expected.atPlaceholders packet).values.find? key = some none ∧
        fault = .missingAdditionalValue key := by
  constructor
  · rintro (⟨vacant, unsupplied⟩ | ⟨held, named⟩)
    · obtain ⟨value, -, given⟩ := find?_atPlaceholders_of_agrees agreed vacant
      cases value with
      | none => exact ⟨given, rfl⟩
      | some value => exact absurd given (unsupplied value)
    · exact absurd (find?_atPlaceholders_eq_none (by simp [held])) named
  · rintro ⟨found, rfl⟩
    have vacant : packet.values.find? key = some none := by
      apply Decidable.byContradiction
      intro bound
      rw [find?_atPlaceholders_eq_none bound] at found
      cases found
    exact .missing vacant (by simp [found])

/-- A packet is completed by what an agreeing context has under its placeholders into that context,
provided that none of those is without a value. -/
theorem fill_atPlaceholders (agreed : packet.Agrees expected)
    (supplied : ∀ key, (expected.atPlaceholders packet).values.find? key ≠ some none) :
    packet.fill (expected.atPlaceholders packet) = .ok expected := by
  have unobstructed : ∀ key fault,
      ¬ packet.Obstruction (expected.atPlaceholders packet) key fault := fun key fault obstructed =>
    supplied key ((obstruction_atPlaceholders_iff agreed).mp obstructed).1
  refine fill_eq_ok_iff.mpr ⟨unobstructed, ext_find? fun key => ?_⟩
  rw [find?_filled]
  cases ours : packet.values.find? key with
  | none =>
    have missing : key ∉ expected.keys :=
      mt (agreed.sameKeys key).mpr (not_mem_keys_iff.mpr ours)
    rw [not_mem_keys_iff.mp missing, find?_atPlaceholders_eq_none (by simp [ours])]
    rfl
  | some value =>
    cases value with
    | none =>
      obtain ⟨value, theirs, given⟩ := find?_atPlaceholders_of_agrees agreed ours
      rw [theirs, given]
      rfl
    | some value =>
      rw [agreed.sameValues key value ours]
      rfl

/-- Where an agreeing context has placeholders of the packet without a value as well, completing
the packet by what it has there fails at the least one of them. -/
theorem fill_atPlaceholders_missing (agreed : packet.Agrees expected)
    (vacant : ∃ key, (expected.atPlaceholders packet).values.find? key = some none) :
    ∃ key, (expected.atPlaceholders packet).values.find? key = some none ∧
      (∀ other, (expected.atPlaceholders packet).values.find? other = some none → key ≤ other) ∧
      packet.fill (expected.atPlaceholders packet) = .error (.missingAdditionalValue key) := by
  obtain ⟨somewhere, without⟩ := vacant
  have obstructed := (obstruction_atPlaceholders_iff agreed).mpr ⟨without, rfl⟩
  cases outcome : packet.fill (expected.atPlaceholders packet) with
  | ok complete => exact absurd obstructed ((fill_eq_ok_iff.mp outcome).1 somewhere _)
  | error fault =>
    obtain ⟨key, first, least⟩ := fill_eq_error_iff.mp outcome
    obtain ⟨found, rfl⟩ := (obstruction_atPlaceholders_iff agreed).mp first
    refine ⟨key, found, fun other missing => ?_, rfl⟩
    exact least other _ ((obstruction_atPlaceholders_iff agreed).mpr ⟨missing, rfl⟩)

/-- A context with a canonical text agrees with what it was completed into exactly when the
additional context has no keys of its own. -/
theorem agrees_fill_iff {text : String} (written : base.canonical = .ok text)
    (filled : base.fill additional = .ok complete) :
    base.Agrees complete ↔ ∀ key ∈ additional.keys, key ∈ base.keys := by
  obtain ⟨-, rfl⟩ := fill_eq_ok_iff.mp filled
  constructor
  · intro agreed key added
    exact (agreed.sameKeys key).mpr (mem_keys_filled.mpr (.inr added))
  · intro within
    have sameKeys : ∀ key, key ∈ base.keys ↔ key ∈ (base.filled additional).keys := by
      intro key
      rw [mem_keys_filled]
      exact ⟨.inl, fun held => held.elim id (within key)⟩
    refine ⟨⟨text, written⟩, sameKeys, fun key held => ?_, fun key value held => ?_⟩
    · exact hasSeparator_of_mem_keys written ((sameKeys key).mpr held)
    · rw [find?_filled, held]
      rfl

/-- The canonical text of a base that is completed is that of the completed context. -/
theorem canonicalWith_of_fill (filled : base.fill additional = .ok complete) :
    base.canonicalWith additional = complete.canonical := by
  rw [canonicalWith, filled]
  rfl

/-- Associated data of a context are the bytes of its canonical text with what it is given. -/
theorem associatedData_eq_map (base : Context) (given : Option Context) :
    associatedData (some base) given =
      (base.canonicalWith (given.getD empty)).map fun text => some (utf8 text) := by
  rw [associatedData]
  cases base.canonicalWith (given.getD empty) <;> rfl

/-- Associated data of a context that is completed are the bytes of the canonical text of the
complete one, and there are none where that has none. -/
theorem associatedData_of_fill (filled : base.fill additional = .ok complete) :
    associatedData (some base) (some additional) =
      complete.canonical.map fun text => some (utf8 text) := by
  rw [associatedData_eq_map, Option.getD_some, canonicalWith_of_fill filled]

end Context

end AeadEnvelope
