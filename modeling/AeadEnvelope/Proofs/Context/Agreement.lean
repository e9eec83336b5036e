import AeadEnvelope.Context.Agreement
import AeadEnvelope.Proofs.Context.CanonicalText

/-!
# What agreement of contexts means

Two contexts are compared by their canonical texts. Since a context is read back from its
canonical text, the comparison decides a relation between the keys and the values of the two
contexts (`Agrees`), in which neither the order of a text nor the case of a key plays a part.
Main statement: the check of a packet's context succeeds exactly when both contexts are absent or
both are there and agree, and otherwise reports a mismatch and nothing else
(`verify_outcome_eq_ok_iff`).
-/
namespace AeadEnvelope.Context

/-- What it takes for the context of a packet to agree with an expected one. -/
structure Agrees (packet expected : Context) : Prop where
  /-- The context of the packet has a canonical text. -/
  written : ∃ text, packet.canonical = .ok text
  /-- Both have the same keys. -/
  sameKeys : ∀ key, key ∈ packet.keys ↔ key ∈ expected.keys
  /-- No expected key has a separator. -/
  plainKeys : ∀ key ∈ expected.keys, hasSeparator key = false
  /-- Every value of the packet is expected under its key; a placeholder asks for none. -/
  sameValues : ∀ key value, packet.values.find? key = some (some value) →
    expected.values.find? key = some (some value)

/-- A text is a key of a context exactly when it finds something. -/
theorem mem_keys_iff {context : Context} {key : String} :
    key ∈ context.keys ↔ ∃ value, context.values.find? key = some value :=
  Dictionary.contains_eq_true_iff_mem.symm.trans Dictionary.contains_eq_true_iff

/-- A text is no key of a context exactly when it finds nothing. -/
theorem not_mem_keys_iff {context : Context} {key : String} :
    key ∉ context.keys ↔ context.values.find? key = none := by
  rw [mem_keys_iff, Option.eq_none_iff_forall_ne_some, not_exists]

/-- Keys of a context with a canonical text have no separators. -/
theorem hasSeparator_of_mem_keys {context : Context} {text : String}
    (written : context.canonical = .ok text) {key : String} (held : key ∈ context.keys) :
    hasSeparator key = false := by
  obtain ⟨entry, listed, rfl⟩ := List.mem_map.mp held
  exact (offends_eq_false_iff.mp ((canonical_eq_ok_iff.mp written).1 entry listed)).1

/-- What a key finds in a context whose values are left out at the placeholders of a template. -/
theorem find?_shapedLike (context template : Context) (key : String) :
    (context.shapedLike template).values.find? key =
      (context.values.find? key).map fun value =>
        if template.values.find? key = some none then none else value :=
  Dictionary.find?_map _ context.values key

/-- Leaving out values keeps the keys. -/
theorem keys_shapedLike (context template : Context) :
    (context.shapedLike template).keys = context.keys := by
  simp only [keys, shapedLike, map, entries, Dictionary.map, List.map_map]
  rfl

/-- A context agrees with another one exactly when it has a canonical text and the other one,
its values left out at the placeholders, is the same context. -/
theorem agrees_iff_shapedLike_eq {packet expected : Context} :
    packet.Agrees expected ↔
      (∃ text, packet.canonical = .ok text) ∧ expected.shapedLike packet = packet := by
  constructor
  · rintro ⟨written, sameKeys, -, sameValues⟩
    refine ⟨written, ext_find? fun key => ?_⟩
    rw [find?_shapedLike]
    cases ours : packet.values.find? key with
    | none =>
      have missing := not_mem_keys_iff.mp (mt (sameKeys key).mpr (not_mem_keys_iff.mpr ours))
      rw [missing]
      rfl
    | some value =>
      obtain ⟨other, theirs⟩ := mem_keys_iff.mp ((sameKeys key).mp (mem_keys_iff.mpr ⟨_, ours⟩))
      cases value with
      | none => simp [theirs]
      | some value => simp [sameValues key value ours]
  · rintro ⟨⟨text, written⟩, same⟩
    have keys : packet.keys = expected.keys := by rw [← keys_shapedLike expected packet, same]
    refine ⟨⟨text, written⟩, fun key => by rw [keys], fun key held => ?_, fun key value ours => ?_⟩
    · exact hasSeparator_of_mem_keys written (keys ▸ held)
    · have found := find?_shapedLike expected packet key
      rw [same, ours] at found
      obtain ⟨other, theirs, kept⟩ := Option.map_eq_some_iff.mp found.symm
      simp only [Option.some.injEq, reduceCtorEq, if_false] at kept
      rw [theirs, kept]

/-- The comparison of two contexts succeeds exactly when they agree. -/
theorem compare_outcome_eq_ok_iff {packet expected : Context} :
    (packet.compare expected).outcome = .ok () ↔ packet.Agrees expected := by
  rw [agrees_iff_shapedLike_eq, compare]
  split
  · next ours theirs left right =>
    constructor
    · intro accepted
      split at accepted
      · next same =>
        exact ⟨⟨ours, left⟩, canonical_injective (same ▸ right) left⟩
      · cases accepted
    · rintro ⟨-, same⟩
      rw [same, left] at right
      simp [Except.ok.inj right]
  · next fault left => simp [left]
  · next ours fault left right =>
    simp only [reduceCtorEq, false_iff, not_and]
    intro _ same
    rw [same, left] at right
    cases right

/-- The comparison of two contexts succeeds or reports a mismatch. -/
theorem compare_outcome_cases (packet expected : Context) :
    (packet.compare expected).outcome = .ok () ∨
      (packet.compare expected).outcome = .error .contextMismatch := by
  unfold compare
  split
  · dsimp only
    split
    · exact .inl rfl
    · exact .inr rfl
  · exact .inr rfl
  · exact .inr rfl

/-- The check of a packet's context succeeds or reports a mismatch. -/
theorem verify_outcome_cases (packet expected : Option Context) :
    (verify packet expected).outcome = .ok () ∨
      (verify packet expected).outcome = .error .contextMismatch := by
  cases packet with
  | none => cases expected <;> simp [verify]
  | some ours =>
    cases expected with
    | none => exact .inr rfl
    | some theirs => exact compare_outcome_cases ours theirs

/-- The check of a packet's context against an expected one that is there. -/
theorem verify_some_outcome_eq_ok_iff {packet : Option Context} {expected : Context} :
    (verify packet (some expected)).outcome = .ok () ↔
      ∃ ours, packet = some ours ∧ ours.Agrees expected := by
  cases packet with
  | none => simp [verify]
  | some ours => simp [verify, compare_outcome_eq_ok_iff]

/-- A context with a canonical text agrees with itself. -/
theorem agrees_self {context : Context} {text : String} (written : context.canonical = .ok text) :
    context.Agrees context :=
  ⟨⟨text, written⟩, fun _ => .rfl, fun _ => hasSeparator_of_mem_keys written, fun _ _ => id⟩

/-- A context with a canonical text, or the lack of one, is accepted where it is expected itself. -/
theorem verify_self {held : Option Context}
    (written : ∀ context, held = some context → ∃ text, context.canonical = .ok text) :
    (verify held held).outcome = .ok () := by
  cases held with
  | none => rfl
  | some context =>
    obtain ⟨text, found⟩ := written context rfl
    exact verify_some_outcome_eq_ok_iff.mpr ⟨context, rfl, agrees_self found⟩

/-- A placeholder agrees with whatever stands under its key. -/
theorem agrees_placeholder {key : String} (value : Option String) (named : IsKey key)
    (plain : hasSeparator key = false) : (single key none named).Agrees (single key value named) := by
  have placed : offends (key, none) = false := offends_eq_false_iff.mpr ⟨plain, by simp⟩
  refine ⟨⟨_, canonical_single named placed⟩, fun _ => .rfl, ?_, ?_⟩
  · rintro _ (_ | ⟨_, impossible⟩)
    · exact plain
    · cases impossible
  · intro other held found
    have listed := Dictionary.find?_eq_some_iff.mp found
    cases List.eq_of_mem_singleton listed

/-- The check of a packet's context decides agreement: it succeeds exactly when both contexts are
absent or both are there and agree, and in every other case it reports a mismatch. -/
theorem verify_outcome_eq_ok_iff (packet expected : Option Context) :
    ((verify packet expected).outcome = .ok () ↔
      (packet = none ∧ expected = none) ∨
        ∃ ours theirs, packet = some ours ∧ expected = some theirs ∧ ours.Agrees theirs) ∧
      ((verify packet expected).outcome ≠ .ok () →
        (verify packet expected).outcome = .error .contextMismatch) := by
  constructor
  · cases expected with
    | none => cases packet <;> simp [verify]
    | some theirs => simp [verify_some_outcome_eq_ok_iff]
  · exact (verify_outcome_cases packet expected).resolve_left

end AeadEnvelope.Context
