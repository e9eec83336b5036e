import AeadEnvelope.Session

/-!
# Steps that fail

A step keeps the session it starts from unless it succeeds (`perform_keeps`): steps of every kind
are made of a few that do (`replace_keeps`, `report_keeps`, `openUnder_keeps`, `openFrame_keeps`).
What comes of later steps depends on earlier ones only through the session they leave
(`performAll_append`). Main statement: steps that fail can be left out of a run, for the others come
to the same and leave the same session (`run_succeeding`), and so whatever follows them comes to the
same (`performAll_succeeding`).
-/
namespace AeadEnvelope.Session

/-- Whether a step did what it is for. -/
def Progress.succeeded (progress : Progress) : Bool := progress.result.isOk

/-- What comes of a step leaves a session as it was unless the step succeeds. -/
structure Progress.Keeps (progress : Progress) (session : Session) : Prop where
  /-- Where the step fails, the session is the same. -/
  same : progress.succeeded = false → progress.session = session

variable {α : Type}

/-- A step that is refused keeps the session. -/
theorem refuse_keeps (session : Session) (fault : Fault) : (session.refuse fault).Keeps session :=
  ⟨fun _ => rfl⟩

/-- A step that replaces parts of the session keeps it where there is no result. -/
theorem replace_keeps (session : Session) (outcome : Except Fault α) (change : α → Session) :
    (session.replace outcome change).Keeps session := by
  cases outcome with
  | error fault => exact refuse_keeps session fault
  | ok value => exact ⟨nofun⟩

/-- A step that says a result keeps the session. -/
theorem report_keeps (session : Session) (outcome : Except Fault α) (say : α → Answer) :
    (session.report outcome say).Keeps session := by
  cases outcome with
  | error fault => exact refuse_keeps session fault
  | ok value => exact ⟨fun _ => rfl⟩

/-- A tag/length wire that is not opened leaves the session as it was. -/
theorem openUnder_keeps (session : Session) (expected : Option Context) :
    (session.openUnder expected).Keeps session := by
  rw [openUnder]
  cases (TagLength.decode session.wire expected).outcome with
  | error fault => exact ⟨fun _ => rfl⟩
  | ok envelope => exact ⟨nofun⟩

/-- A varint wire that is not opened leaves the session as it was. -/
theorem openFrame_keeps (session : Session) (expected : Option (List (String × String))) :
    (session.openFrame expected).Keeps session := by
  rw [openFrame]
  cases (VarintFrame.decode .standard session.wire expected).outcome with
  | error fault => exact ⟨fun _ => rfl⟩
  | ok frame => exact ⟨nofun⟩

/-- A step that fails leaves the session as it was. -/
theorem perform_keeps (session : Session) (step : Step) : (session.perform step).Keeps session := by
  cases step with
  | context | ciphertext | nest | encode | encodePairs | encodeFrame | wire | truncate | splice =>
    rw [perform]
    exact replace_keeps ..
  | associatedData | inspect =>
    rw [perform]
    exact report_keeps ..
  | decodeOwn => exact openUnder_keeps ..
  | decodeFrame expected => exact openFrame_keeps ..
  | fill additional =>
    rw [perform]
    cases session.context with
    | none => exact ⟨fun _ => rfl⟩
    | some base => exact replace_keeps ..
  | decode expected =>
    rw [perform]
    cases expected.build with
    | error fault => exact refuse_keeps session fault
    | ok context => exact openUnder_keeps ..

/-- The session that steps leave when they are done one after the other. -/
def after (session : Session) (steps : List Step) : Session :=
  steps.foldl (fun current step => (current.perform step).session) session

/-- What comes of steps behind others is what comes of them in the session that those leave. -/
theorem performAll_append (session : Session) (steps later : List Step) :
    session.performAll (steps ++ later) =
      session.performAll steps ++ (session.after steps).performAll later := by
  induction steps generalizing session with
  | nil => rfl
  | cons step steps rest =>
    rw [List.cons_append, performAll, performAll, List.cons_append, rest]
    rfl

/-- The steps that do not fail where all are done one after the other. -/
def succeeding (session : Session) : List Step → List Step
  | [] => []
  | step :: later =>
    let progress := session.perform step
    let others := progress.session.succeeding later
    if progress.succeeded then step :: others else others

/-- Without the steps that fail the others come to the same and leave the same session. -/
theorem run_succeeding (session : Session) (steps : List Step) :
    session.performAll (session.succeeding steps) =
        (session.performAll steps).filter Progress.succeeded ∧
      session.after (session.succeeding steps) = session.after steps := by
  induction steps generalizing session with
  | nil => exact ⟨rfl, rfl⟩
  | cons step steps rest =>
    obtain ⟨others, left⟩ := rest (session.perform step).session
    have reached : ∀ later,
        session.after (step :: later) = (session.perform step).session.after later := fun _ => rfl
    rw [succeeding, performAll, reached]
    cases done : (session.perform step).succeeded with
    | true =>
      rw [if_pos rfl, performAll, others, List.filter_cons_of_pos done, reached, left]
      exact ⟨rfl, rfl⟩
    | false =>
      -- The others start from the same session, whether or not the step is left out.
      have kept := (perform_keeps session step).same done
      have failed : ¬ (session.perform step).succeeded = true := by simp [done]
      rw [if_neg nofun, List.filter_cons_of_neg failed, ← others, ← left, kept]
      exact ⟨rfl, rfl⟩

/-- Steps that fail can be left out of a run: the others come to the same, and so do all steps that
follow, which may fail as before. -/
theorem performAll_succeeding (session : Session) (steps later : List Step) :
    session.performAll (session.succeeding steps ++ later) =
      (session.performAll steps).filter Progress.succeeded ++
        (session.after steps).performAll later := by
  obtain ⟨others, left⟩ := session.run_succeeding steps
  rw [performAll_append, others, left]

end AeadEnvelope.Session
