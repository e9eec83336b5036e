/-!
# Outcomes of successive steps

Steps that may fail succeed together exactly when each of them does on what the one before it left
(`bind_eq_ok_iff`), a step that is repeated fails at the first item that it does not accept
(`FirstFault`), and a step on a value that may be absent succeeds on an absent one
(`mapM_eq_ok_iff`). What is known to lead to values and to faults tells when it does, if one of both
is always the case (`determined`).
-/
namespace AeadEnvelope.Outcome

variable {ε α β : Type}

/-- Where a value is accepted or a fault is found, an outcome that follows them is that value exactly
if it is accepted, and that fault exactly if it is found. -/
theorem determined {outcome : Except ε α} {accepted : α → Prop} {refused : ε → Prop}
    (total : (∃ fault, refused fault) ∨ ∃ value, accepted value)
    (accepts : ∀ value, accepted value → outcome = .ok value)
    (refuses : ∀ fault, refused fault → outcome = .error fault) :
    (∀ value, outcome = .ok value ↔ accepted value) ∧
      ∀ fault, outcome = .error fault ↔ refused fault := by
  rcases total with ⟨found, holds⟩ | ⟨found, holds⟩
  · have failed := refuses found holds
    constructor
    · intro value
      refine ⟨fun done => ?_, accepts value⟩
      rw [failed] at done
      cases done
    · intro fault
      refine ⟨fun other => ?_, refuses fault⟩
      rw [failed] at other
      exact Except.error.inj other ▸ holds
  · have done := accepts found holds
    constructor
    · intro value
      refine ⟨fun other => ?_, accepts value⟩
      rw [done] at other
      exact Except.ok.inj other ▸ holds
    · intro fault
      refine ⟨fun failed => ?_, refuses fault⟩
      rw [done] at failed
      cases failed

/-- Two steps succeed exactly when the first one does and the second one does on its value. -/
theorem bind_eq_ok_iff {first : Except ε α} {next : α → Except ε β} {result : β} :
    (first >>= next) = .ok result ↔ ∃ value, first = .ok value ∧ next value = .ok result := by
  cases first <;> simp [bind, Except.bind]

/-- Two steps fail exactly when the first one does, or the second one does on its value. -/
theorem bind_eq_error_iff {first : Except ε α} {next : α → Except ε β} {fault : ε} :
    (first >>= next) = .error fault ↔
      first = .error fault ∨ ∃ value, first = .ok value ∧ next value = .error fault := by
  cases first <;> simp [bind, Except.bind]

/-- A step that is repeated for every item fails exactly at the first item that it fails at, on what
the items before it left. -/
theorem foldlM_eq_error_iff {step : β → α → Except ε β} {items : List α} {start : β} {fault : ε} :
    items.foldlM step start = .error fault ↔
      ∃ earlier item later state, items = earlier ++ item :: later ∧
        earlier.foldlM step start = .ok state ∧ step state item = .error fault := by
  induction items generalizing start with
  | nil =>
    constructor
    · exact nofun
    · rintro ⟨earlier, item, later, state, split, -⟩
      exact absurd split.symm (List.append_ne_nil_of_right_ne_nil _ (List.cons_ne_nil _ _))
  | cons item later induction =>
    rw [List.foldlM_cons, bind_eq_error_iff]
    constructor
    · rintro (failed | ⟨middle, first, rest⟩)
      · exact ⟨[], item, later, start, rfl, rfl, failed⟩
      · obtain ⟨earlier, other, behind, state, rfl, front, failed⟩ := induction.mp rest
        refine ⟨item :: earlier, other, behind, state, rfl, ?_, failed⟩
        rw [List.foldlM_cons, first]
        exact front
    · rintro ⟨earlier, other, behind, state, split, front, failed⟩
      cases earlier with
      | nil =>
        obtain ⟨rfl, rfl⟩ := List.cons.inj split
        cases front
        exact .inl failed
      | cons first earlier =>
        obtain ⟨rfl, rfl⟩ := List.cons.inj split
        rw [List.foldlM_cons, bind_eq_ok_iff] at front
        obtain ⟨middle, here, rest⟩ := front
        exact .inr ⟨middle, here, induction.mpr ⟨earlier, other, behind, state, rfl, rest, failed⟩⟩

/-- The fault of the first item that is refused, behind items that are accepted one after the
other. -/
inductive FirstFault (accepted : List α → Prop) (refused : List α → α → ε → Prop) :
    List α → ε → Prop where
  /-- The items before it are accepted. -/
  | behind {earlier later : List α} {item : α} {fault : ε} (front : accepted earlier)
    (here : refused earlier item fault) :
    FirstFault accepted refused (earlier ++ item :: later) fault

/-- A step that is repeated from a start fails exactly for the first item that is refused, where the
items it gets through are those that are accepted, and it fails behind them as these tell. -/
theorem foldlM_eq_error_iff_firstFault {step : β → α → Except ε β} {start : β}
    {accepted : List α → Prop} {refused : List α → α → ε → Prop}
    (accepts : ∀ items, (∃ state, items.foldlM step start = .ok state) ↔ accepted items)
    (refuses : ∀ items state, items.foldlM step start = .ok state →
      ∀ item fault, step state item = .error fault ↔ refused items item fault)
    {items : List α} {fault : ε} :
    items.foldlM step start = .error fault ↔ FirstFault accepted refused items fault := by
  rw [foldlM_eq_error_iff]
  constructor
  · rintro ⟨earlier, item, later, state, rfl, front, failed⟩
    exact .behind ((accepts earlier).mp ⟨state, front⟩)
      ((refuses earlier state front item fault).mp failed)
  · intro first
    cases first with
    | @behind earlier later item fault front here =>
      obtain ⟨state, reached⟩ := (accepts earlier).mpr front
      have failed := (refuses earlier state reached item fault).mpr here
      exact ⟨earlier, item, later, state, rfl, reached, failed⟩

/-- An outcome whose fault is renamed succeeds exactly when it did before. -/
theorem mapError_eq_ok_iff {δ : Type} {outcome : Except ε α} {rename : ε → δ} {value : α} :
    outcome.mapError rename = .ok value ↔ outcome = .ok value := by
  cases outcome with
  | error cause => exact ⟨nofun, nofun⟩
  | ok found =>
    constructor
    · exact fun same => congrArg Except.ok (Except.ok.inj same)
    · exact fun same => congrArg Except.ok (Except.ok.inj same)

/-- An outcome whose value is mapped succeeds exactly when it did before, with the mapped value. -/
theorem map_eq_ok_iff {change : α → β} {outcome : Except ε α} {result : β} :
    outcome.map change = .ok result ↔ ∃ value, outcome = .ok value ∧ change value = result := by
  cases outcome <;> simp [Except.map]

/-- A step on a value that may be absent succeeds exactly when the value and the result are both
absent, or both there and the step leads from the one to the other. -/
theorem mapM_eq_ok_iff {step : α → Except ε β} {item : Option α} {result : Option β} :
    item.mapM step = .ok result ↔
      (item = none ∧ result = none) ∨
        ∃ value found, item = some value ∧ result = some found ∧ step value = .ok found := by
  cases item with
  | none => simp [pure, Except.pure, eq_comm]
  | some value =>
    cases outcome : step value <;> simp [outcome, Functor.map, Except.map, eq_comm]

/-- A step on a value that is there succeeds exactly when it does on the value. -/
theorem mapM_some_eq_ok_iff {step : α → Except ε β} {value : α} {result : Option β} :
    (some value).mapM step = .ok result ↔
      ∃ found, step value = .ok found ∧ result = some found := by
  cases outcome : step value <;> simp [outcome, Functor.map, Except.map, eq_comm]

/-- What a step on a value that may be absent leads to comes from a value that is there. -/
theorem exists_of_mapM_some {step : α → Except ε β} {item : Option α} {found : β}
    (done : item.mapM step = .ok (some found)) :
    ∃ value, item = some value ∧ step value = .ok found := by
  obtain ⟨-, ⟨⟩⟩ | ⟨value, _, rfl, ⟨⟩, made⟩ := mapM_eq_ok_iff.mp done
  exact ⟨value, rfl, made⟩

/-- A step on a value that may be absent leaves it there or absent as it was. -/
theorem isSome_of_mapM {step : α → Except ε β} {item : Option α} {result : Option β}
    (done : item.mapM step = .ok result) : result.isSome = item.isSome := by
  rcases mapM_eq_ok_iff.mp done with ⟨rfl, rfl⟩ | ⟨_, _, rfl, rfl, -⟩
  · rfl
  · rfl

/-- A step on what may be there succeeds if it does on whatever is there. -/
theorem exists_mapM {step : α → Except ε β} {item : Option α}
    (each : ∀ found, item = some found → ∃ made, step found = .ok made) :
    ∃ result, item.mapM step = .ok result := by
  cases item with
  | none => exact ⟨none, rfl⟩
  | some found =>
    obtain ⟨made, done⟩ := each found rfl
    exact ⟨some made, mapM_eq_ok_iff.mpr (.inr ⟨found, made, rfl, rfl, done⟩)⟩

end AeadEnvelope.Outcome
