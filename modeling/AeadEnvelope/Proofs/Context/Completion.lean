import AeadEnvelope.Proofs.ByteOrder
import AeadEnvelope.Proofs.Context.Filling
import AeadEnvelope.Proofs.Outcome

/-!
# Completing a context key by key

What a key finds in a completed context depends on what it finds in the base and in the additional
context alone (`Joins`), and a base is completed exactly if every key finds something or nothing in
this way (`fill_eq_ok_iff_joins`). Main statements: when a base is completed, into what, and which
key is to blame where it is not (`fill_completion`); and a base that is completed by one context and
then by another one is completed into the same by both of them joined, however many there are
(`fill_stages`).
-/
namespace AeadEnvelope.Context

variable {base additional complete first second middle : Context} {key : String}
  {left right found : Option (Option String)}

/-- What a key finds in a completed context, from what it finds in the base and in the additional
one. -/
inductive Joins : Option (Option String) → Option (Option String) → Option (Option String) →
    Prop where
  /-- A key that the base does not have is carried over as it is, or is missing in both. -/
  | carried (given : Option (Option String)) : Joins none given given
  /-- A placeholder of the base takes the value that it is given. -/
  | supplied (value : String) : Joins (some none) (some (some value)) (some (some value))
  /-- A value of the base stays, and is not given again. -/
  | kept (value : String) : Joins (some (some value)) none (some (some value))

/-- A key of the base can be completed. -/
inductive Completable (base additional : Context) (key : String) : Prop where
  /-- It is a placeholder, which is given a value. -/
  | supplied {value : String} (vacant : base.values.find? key = some none)
    (given : additional.values.find? key = some (some value))
  /-- It has a value, and the additional context does not have the key. -/
  | kept {value : String} (held : base.values.find? key = some (some value))
    (unnamed : additional.values.find? key = none)

/-- The fault of a key of the base that cannot be completed, by what the base has under it. -/
def incompletion (key : String) : Option String → Fault
  | none => .missingAdditionalValue key
  | some _ => .conflictingAdditionalValue key

/-- What a completed context has to do with the base and the additional context. -/
structure Completion (base additional complete : Context) : Prop where
  /-- The keys are those of both. -/
  keys : ∀ key, key ∈ complete.keys ↔ key ∈ base.keys ∨ key ∈ additional.keys
  /-- Values of the base stay. -/
  kept : ∀ key value, base.values.find? key = some (some value) →
    complete.values.find? key = some (some value)
  /-- Placeholders of the base take what the additional context has. -/
  supplied : ∀ key, base.values.find? key = some none →
    complete.values.find? key = additional.values.find? key
  /-- Other keys are carried over as they are. -/
  carried : ∀ key, key ∉ base.keys → complete.values.find? key = additional.values.find? key
  /-- The placeholders are those of the additional context under other keys than the base has. -/
  placeholders : ∀ key, complete.values.find? key = some none ↔
    key ∉ base.keys ∧ additional.values.find? key = some none

/-- A key finds one thing in a completed context. -/
theorem Joins.unique {other : Option (Option String)} (joins : Joins left right found)
    (again : Joins left right other) : found = other := by
  cases joins <;> cases again <;> rfl

/-- What is found in the base and the additional context is found joined in the completed one. -/
theorem Joins.eq_or (joins : Joins left right found) :
    found = (left.map fun value => value.or right.join).or right := by
  cases joins <;> rfl

/-- A key finds something in a completed context exactly if it does in one of both. -/
theorem Joins.isSome_eq (joins : Joins left right found) :
    found.isSome = (left.isSome || right.isSome) := by
  cases joins <;> simp

/-- A key without a value in the base finds what it does in the additional context. -/
theorem Joins.eq_right (joins : Joins left right found)
    (valueless : ∀ value, left ≠ some (some value)) : found = right := by
  cases joins with
  | carried => rfl
  | supplied => rfl
  | kept value => exact absurd rfl (valueless value)

/-- Only a placeholder of the additional context that the base does not have is left as one. -/
theorem Joins.eq_vacant_iff (joins : Joins left right found) :
    found = some none ↔ left = none ∧ right = some none := by
  cases joins <;> simp

/-- A key of the base is obstructed exactly if it cannot be completed, for what the base has under
it. -/
theorem obstruction_iff_not_completable {fault : Fault} :
    base.Obstruction additional key fault ↔
      ∃ value, base.values.find? key = some value ∧ ¬ base.Completable additional key ∧
        fault = incompletion key value := by
  constructor
  · rintro (⟨vacant, unsupplied⟩ | ⟨held, named⟩)
    · refine ⟨none, vacant, ?_, rfl⟩
      rintro (⟨_, given⟩ | ⟨held, _⟩)
      · exact unsupplied _ given
      · cases vacant.symm.trans held
    · refine ⟨_, held, ?_, rfl⟩
      rintro (⟨vacant, _⟩ | ⟨_, unnamed⟩)
      · cases vacant.symm.trans held
      · exact named unnamed
  · rintro ⟨value, held, stuck, rfl⟩
    cases value with
    | none => exact .missing held fun _ given => stuck (.supplied held given)
    | some value => exact .conflicting held fun unnamed => stuck (.kept held unnamed)

/-- No key is obstructed exactly if all keys of the base can be completed. -/
theorem unobstructed_iff_completable :
    (∀ key fault, ¬ base.Obstruction additional key fault) ↔
      ∀ key ∈ base.keys, base.Completable additional key := by
  simp only [obstruction_iff_not_completable, mem_keys_iff]
  constructor
  · rintro unobstructed key ⟨value, held⟩
    by_contra stuck
    exact unobstructed key _ ⟨value, held, stuck, rfl⟩
  · rintro completable key fault ⟨value, held, stuck, -⟩
    exact stuck (completable key ⟨value, held⟩)

/-- All keys of the base can be completed exactly if every key joins with what the additional
context has. -/
theorem completable_iff_joins :
    (∀ key ∈ base.keys, base.Completable additional key) ↔
      ∀ key, ∃ found, Joins (base.values.find? key) (additional.values.find? key) found := by
  constructor
  · intro completable key
    cases held : base.values.find? key with
    | none => exact ⟨_, .carried _⟩
    | some value =>
      rcases completable key (mem_keys_iff.mpr ⟨value, held⟩) with ⟨vacant, given⟩ | ⟨same, unnamed⟩
      · rw [← held, vacant, given]
        exact ⟨_, .supplied _⟩
      · rw [← held, same, unnamed]
        exact ⟨_, .kept _⟩
  · intro joins key listed
    obtain ⟨value, held⟩ := mem_keys_iff.mp listed
    obtain ⟨found, joined⟩ := joins key
    rw [held] at joined
    cases value with
    | none =>
      generalize given : additional.values.find? key = other at joined
      cases joined
      exact .supplied held given
    | some value =>
      generalize given : additional.values.find? key = other at joined
      cases joined
      exact .kept held given

/-- A base is completed exactly if every key joins with what the additional context has. -/
theorem exists_fill_iff_joins :
    (∃ complete, base.fill additional = .ok complete) ↔
      ∀ key, ∃ found, Joins (base.values.find? key) (additional.values.find? key) found := by
  rw [← completable_iff_joins, ← unobstructed_iff_completable]
  simp only [fill_eq_ok_iff]
  exact ⟨fun ⟨_, unobstructed, _⟩ => unobstructed, fun unobstructed => ⟨_, unobstructed, rfl⟩⟩

/-- A base is completed into a context exactly if every key finds there what joins with what it
finds in both. -/
theorem fill_eq_ok_iff_joins :
    base.fill additional = .ok complete ↔
      ∀ key, Joins (base.values.find? key) (additional.values.find? key)
        (complete.values.find? key) := by
  have found : ∀ key other, Joins (base.values.find? key) (additional.values.find? key) other →
      (base.filled additional).values.find? key = other := fun key other joined => by
    rw [find?_filled, joined.eq_or]
  rw [fill_eq_ok_iff, unobstructed_iff_completable, completable_iff_joins]
  constructor
  · rintro ⟨joins, rfl⟩ key
    obtain ⟨other, joined⟩ := joins key
    rw [found key other joined]
    exact joined
  · intro joins
    exact ⟨fun key => ⟨_, joins key⟩, ext_find? fun key => found key _ (joins key)⟩

/-- Where all keys of the base can be completed, a context is a completion exactly if every key
finds there what joins with what it finds in both. -/
theorem completion_iff_joins (completable : ∀ key ∈ base.keys, base.Completable additional key) :
    Completion base additional complete ↔
      ∀ key, Joins (base.values.find? key) (additional.values.find? key)
        (complete.values.find? key) := by
  constructor
  · intro completion key
    obtain ⟨found, joined⟩ := completable_iff_joins.mp completable key
    have same : complete.values.find? key = found := by
      generalize held : base.values.find? key = ours at joined
      generalize given : additional.values.find? key = theirs at joined
      cases joined with
      | carried => exact (completion.carried key (not_mem_keys_iff.mpr held)).trans given
      | supplied => exact (completion.supplied key held).trans given
      | kept value => exact completion.kept key value held
    rw [same]
    exact joined
  · intro joins
    refine ⟨fun key => ?_, fun key value held => ?_, fun key vacant => ?_, fun key missing => ?_,
      fun key => ?_⟩
    · simp only [mem_keys_iff, ← Option.isSome_iff_exists, (joins key).isSome_eq, Bool.or_eq_true]
    · rw [(joins key).eq_or, held]
      rfl
    · exact (joins key).eq_right (by simp [vacant])
    · exact (joins key).eq_right (by simp [not_mem_keys_iff.mp missing])
    · rw [not_mem_keys_iff]
      exact (joins key).eq_vacant_iff

/-- Completing a context, exactly. It succeeds exactly if every key of the base is either a
placeholder that is given a value, or has a value and is not named again; otherwise the least key in
the order of bytes for which this is not so is reported, as lacking a value or as being given a
second one. The completed context has the keys of both, those of the base with its values or else
those that they are given, and the others as they are. Its canonical text is what is written, and
bound as associated data; where there is no completed context its fault is reported instead, so a
separator is only ever found in one that there is. -/
theorem fill_completion (base additional : Context) :
    ((∃ complete, base.fill additional = .ok complete) ↔
      ∀ key ∈ base.keys, base.Completable additional key) ∧
    (∀ fault, base.fill additional = .error fault ↔
      ∃ key value, base.values.find? key = some value ∧ ¬ base.Completable additional key ∧
        (∀ other ∈ base.keys, ¬ base.Completable additional other →
          BytesBefore (utf8 key) (utf8 other) ∨ key = other) ∧
        fault = incompletion key value) ∧
    (∀ complete, base.fill additional = .ok complete ↔
      (∀ key ∈ base.keys, base.Completable additional key) ∧
        Completion base additional complete) ∧
    (∀ complete, base.fill additional = .ok complete →
      base.canonicalWith additional = complete.canonical) ∧
    (∀ fault, base.fill additional = .error fault →
      base.canonicalWith additional = .error fault) ∧
    (∀ keys, base.canonicalWith additional = .error (.forbiddenCharacter keys) →
      ∃ complete, base.fill additional = .ok complete ∧
        complete.canonical = .error (.forbiddenCharacter keys)) ∧
    ∀ given : Option Context, given.getD empty = additional →
      associatedData (some base) given =
        (base.canonicalWith additional).map fun text => some (utf8 text) := by
  refine ⟨?_, fun fault => ?_, fun complete => ?_, fun complete filled => ?_,
    fun fault failed => ?_, fun keys refused => ?_, ?_⟩
  · rw [exists_fill_iff_joins, completable_iff_joins]
  · rw [fill_eq_error_iff]
    simp only [obstruction_iff_not_completable, mem_keys_iff, ← le_iff_lex_utf8]
    constructor
    · rintro ⟨key, ⟨value, held, stuck, rfl⟩, least⟩
      refine ⟨key, value, held, stuck, ?_, rfl⟩
      rintro other ⟨found, there⟩ alsoStuck
      exact least other _ ⟨found, there, alsoStuck, rfl⟩
    · rintro ⟨key, value, held, stuck, least, rfl⟩
      refine ⟨key, ⟨value, held, stuck, rfl⟩, ?_⟩
      rintro other _ ⟨found, there, alsoStuck, rfl⟩
      exact least other ⟨found, there⟩ alsoStuck
  · rw [fill_eq_ok_iff_joins]
    constructor
    · intro joins
      have completable := completable_iff_joins.mpr fun key => ⟨_, joins key⟩
      exact ⟨completable, (completion_iff_joins completable).mpr joins⟩
    · rintro ⟨completable, completion⟩
      exact (completion_iff_joins completable).mp completion
  · exact canonicalWith_of_fill filled
  · rw [canonicalWith, failed]
    rfl
  · rcases Outcome.bind_eq_error_iff.mp refused with failed | written
    · -- The fault of a base that is not completed is never about a separator.
      obtain ⟨key, obstructed, -⟩ := fill_eq_error_iff.mp failed
      cases obstructed
    · exact written
  · rintro given rfl
    exact associatedData_eq_map base given

/-- A context with two placeholders around a value. -/
def partialContext : Context where
  values := ⟨[("a", none), ("b", some "1"), ("c", none)], by decide⟩
  named := by decide +kernel

/-- A context that gives that value again and leaves the later placeholder open. -/
def clashingContext : Context where
  values := ⟨[("a", some "x"), ("b", some "2")], by decide⟩
  named := by decide +kernel

/-- A context with a value for both placeholders, one of them empty, and one of its own. -/
def supplyingContext : Context where
  values := ⟨[("a", some "x"), ("c", some ""), ("d", none)], by decide⟩
  named := by decide +kernel

/-- A context with a value for both placeholders, one of them with a separator. -/
def markedContext : Context where
  values := ⟨[("a", some "x|y"), ("c", some "")], by decide⟩
  named := by decide +kernel

/-- A value that is given again is reported in front of a greater key that is left open; an empty
value completes a placeholder, and a placeholder under a new key is carried over; and a separator in
a value that is given is found in the completed context. -/
theorem fill_completion_clashing :
    (∃ value, partialContext.values.find? "b" = some value ∧
      ¬ partialContext.Completable clashingContext "b" ∧
      Fault.conflictingAdditionalValue "b" = incompletion "b" value) ∧
    partialContext.canonicalWith clashingContext = .error (.conflictingAdditionalValue "b") ∧
    (∃ complete, partialContext.fill supplyingContext = .ok complete ∧
      Completion partialContext supplyingContext complete ∧
      complete.canonical = .ok "a=x|b=1|c=|d") ∧
    ∃ complete, partialContext.fill markedContext = .ok complete ∧
      complete.canonical = .error (.forbiddenCharacter ["a"]) := by
  have clashed : partialContext.fill clashingContext =
      .error (.conflictingAdditionalValue "b") := by decide +kernel
  have filled : partialContext.fill supplyingContext =
      .ok (partialContext.filled supplyingContext) := by decide +kernel
  have marked : partialContext.canonicalWith markedContext =
      .error (.forbiddenCharacter ["a"]) := by decide +kernel
  obtain ⟨-, reported, -, -, sameFault, -⟩ := fill_completion partialContext clashingContext
  obtain ⟨-, -, completed, written, -⟩ := fill_completion partialContext supplyingContext
  obtain ⟨-, -, -, -, -, separated, -⟩ := fill_completion partialContext markedContext
  obtain ⟨key, value, held, stuck, -, same⟩ := (reported _).mp clashed
  have here : key = "b" := by
    cases value <;> cases same
    rfl
  subst here
  refine ⟨⟨value, held, stuck, same⟩, sameFault _ clashed, ?_, separated _ marked⟩
  refine ⟨_, filled, ((completed _).mp filled).2, ?_⟩
  rw [← written _ filled]
  decide +kernel

/-- What a completed context finds joins with a further context exactly as the additional context
does, before it is joined with the base. -/
theorem Joins.join_iff {middle next result : Option (Option String)}
    (joins : Joins left right middle) :
    Joins middle next result ↔ ∃ both, Joins right next both ∧ Joins left both result := by
  cases joins with
  | carried =>
    constructor
    · exact fun joined => ⟨result, joined, .carried result⟩
    · rintro ⟨both, joined, ⟨⟩⟩
      exact joined
  | supplied value =>
    constructor
    · rintro ⟨⟩
      exact ⟨_, .kept value, .supplied value⟩
    · rintro ⟨both, joined, ⟨⟩⟩
      exact joined
  | kept value =>
    constructor
    · rintro ⟨⟩
      exact ⟨none, .carried none, .kept value⟩
    · rintro ⟨both, ⟨⟩, joined⟩
      exact joined

/-- A completed context is completed by a further one exactly if the additional context is, and the
base by what becomes of it. -/
theorem fill_iff_of_fill (filled : base.fill first = .ok middle) :
    middle.fill second = .ok complete ↔
      ∃ combined, first.fill second = .ok combined ∧ base.fill combined = .ok complete := by
  rw [fill_eq_ok_iff_joins] at filled
  simp only [fill_eq_ok_iff_joins]
  constructor
  · intro again
    have both := fun key => (filled key).join_iff.mp (again key)
    have joins : ∀ key, ∃ found, Joins (first.values.find? key) (second.values.find? key) found :=
      fun key => (both key).imp fun _ found => found.1
    obtain ⟨combined, done⟩ := exists_fill_iff_joins.mpr joins
    rw [fill_eq_ok_iff_joins] at done
    refine ⟨combined, done, fun key => ?_⟩
    obtain ⟨found, joined, whole⟩ := both key
    rw [(done key).unique joined]
    exact whole
  · rintro ⟨combined, done, whole⟩ key
    exact (filled key).join_iff.mpr ⟨_, done key, whole key⟩

/-- A base that is completed by contexts one after the other is completed into the same by what the
first of them is completed into by the others. -/
theorem fill_of_foldlM_fill {later : List Context} (filled : base.fill first = .ok middle)
    (rest : later.foldlM fill middle = .ok complete) :
    ∃ combined, later.foldlM fill first = .ok combined ∧ base.fill combined = .ok complete := by
  induction later generalizing first middle with
  | nil =>
    cases rest
    exact ⟨first, rfl, filled⟩
  | cons second later step =>
    rw [List.foldlM_cons, Outcome.bind_eq_ok_iff] at rest
    obtain ⟨next, again, further⟩ := rest
    obtain ⟨both, joined, whole⟩ := (fill_iff_of_fill filled).mp again
    obtain ⟨combined, done, completed⟩ := step whole further
    refine ⟨combined, ?_, completed⟩
    rw [List.foldlM_cons, joined]
    exact done

/-- Completing in stages. Where a base is completed by a first context, a second one completes the
result exactly if it completes the first one and the base is completed by both of them together,
and then into the same. So whatever a base is completed into by one or more contexts, one after the
other, it is completed into by the first of them completed by the others, with the same canonical
text and the same associated data. -/
theorem fill_stages (base first : Context) :
    (∀ second middle complete : Context, base.fill first = .ok middle →
      (middle.fill second = .ok complete ↔
        ∃ combined, first.fill second = .ok combined ∧ base.fill combined = .ok complete)) ∧
    ∀ (later : List Context) (complete : Context),
      (first :: later).foldlM fill base = .ok complete →
      ∃ combined, later.foldlM fill first = .ok combined ∧ base.fill combined = .ok complete ∧
        base.canonicalWith combined = complete.canonical ∧
        associatedData (some base) (some combined) =
          complete.canonical.map fun text => some (utf8 text) := by
  constructor
  · intro second middle complete filled
    exact fill_iff_of_fill filled
  · intro later complete staged
    rw [List.foldlM_cons, Outcome.bind_eq_ok_iff] at staged
    obtain ⟨middle, filled, rest⟩ := staged
    obtain ⟨combined, joined, whole⟩ := fill_of_foldlM_fill filled rest
    exact ⟨combined, joined, whole, canonicalWith_of_fill whole, associatedData_of_fill whole⟩

/-- A context with a value for the placeholder that the earlier one brings in, and another one. -/
def secondContext : Context where
  values := ⟨[("d", some "y"), ("e", none)], by decide⟩
  named := by decide +kernel

/-- A context with a value for that placeholder. -/
def thirdContext : Context where
  values := ⟨[("e", some "z")], by decide⟩
  named := by decide +kernel

/-- A context is completed by three others, of which the second and the third have values for the
placeholders of the one before. -/
theorem fill_stages_thrice :
    (∃ middle complete, partialContext.fill supplyingContext = .ok middle ∧
      middle.fill secondContext = .ok complete ∧
      ∃ combined, supplyingContext.fill secondContext = .ok combined ∧
        partialContext.fill combined = .ok complete) ∧
    ∃ combined, [secondContext, thirdContext].foldlM fill supplyingContext = .ok combined ∧
      associatedData (some partialContext) (some combined) =
        .ok (some (utf8 "a=x|b=1|c=|d=y|e=z")) := by
  let middle := partialContext.filled supplyingContext
  let complete := middle.filled secondContext
  have filled : partialContext.fill supplyingContext = .ok middle := by decide +kernel
  have again : middle.fill secondContext = .ok complete := by decide +kernel
  have staged : [supplyingContext, secondContext, thirdContext].foldlM fill partialContext =
      .ok (complete.filled thirdContext) := by decide +kernel
  have written : (complete.filled thirdContext).canonical = .ok "a=x|b=1|c=|d=y|e=z" := by
    decide +kernel
  obtain ⟨twice, often⟩ := fill_stages partialContext supplyingContext
  obtain ⟨combined, joined, -, -, bound⟩ := often _ _ staged
  rw [written] at bound
  exact ⟨⟨middle, complete, filled, again, (twice _ _ _ filled).mp again⟩, combined, joined, bound⟩

end AeadEnvelope.Context
