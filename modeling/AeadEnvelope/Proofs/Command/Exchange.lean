import AeadEnvelope.Proofs.Command.Effects

/-!
# Commands that make one thing of another

`pack` and `seal` make a wire of a ciphertext, `unpack` and `open` a ciphertext of a wire. What each
of them makes of an input depends on its settings alone (`Settings.Packs`, `Settings.Unpacks`,
`Settings.Seals` and `Settings.Opens`). Main statements: where the input can be read, each of them
leaves what it makes, or fails (`run_pack`, `run_unpack`, `run_seal` and `run_open`).
-/
namespace AeadEnvelope.Command

variable {σ File : Type} {host : Host (StateM σ)} {files : Files σ File} {before after : σ}
  {report : Report} {settings : Settings} {path : String} {input : Bytes}

/-- The pairs of the context under a text, if there is one. -/
def HasPairs (text : Option String) (pairs : Option (List (String × String))) : Prop :=
  ∃ context, text.mapM Context.parse = .ok context ∧ context.mapM Plan.pairsOf = .ok pairs

namespace Plan

/-- The context of a command that has to be told where to write. -/
def contextToWrite (options : Options) : Except Complaint (Option Context) := do
  requireOutput options
  contextOf options

/-- The pairs of the context of a command, if one is given. -/
def pairsIn (options : Options) : Except Complaint (Option (List (String × String))) := do
  let context ← contextOf options
  context.mapM pairsOf

/-- The pairs of the context of a command that has to be told where to write. -/
def pairsToWrite (options : Options) : Except Complaint (Option (List (String × String))) := do
  requireOutput options
  pairsIn options

/-- An operation that has no fault leaves no complaint. -/
theorem orFault_eq_ok_iff {α : Type} {outcome : Except Fault α} {value : α} :
    orFault outcome = .ok value ↔ outcome = .ok value := Outcome.mapError_eq_ok_iff

/-- The context of the options is the one that their text is read as. -/
theorem contextOf_eq_ok_iff {options : Options} {context : Option Context} :
    contextOf options = .ok context ↔ options.context.mapM Context.parse = .ok context :=
  orFault_eq_ok_iff

/-- The pairs of the options are those of the context that their text is read as. -/
theorem pairsIn_eq_ok_iff {options : Options} {pairs : Option (List (String × String))} :
    pairsIn options = .ok pairs ↔ HasPairs options.context pairs := by
  simp only [pairsIn, Outcome.bind_eq_ok_iff, contextOf_eq_ok_iff, HasPairs]

/-- `pack` writes a tag/length wire of its input and the context of its options. -/
theorem ofArguments_pack (later : List String) :
    ofArguments ("pack" :: later) = orComplaint (onOptions later contextToWrite
      fun context ciphertext => orFault (TagLength.Current.encode ⟨context, ciphertext⟩)) := by
  simp only [ofArguments, pack, onOptions, contextToWrite, bind_assoc]
  rfl

/-- `unpack` opens its input as a tag/length wire under the context of its options. -/
theorem ofArguments_unpack (later : List String) :
    ofArguments ("unpack" :: later) = orComplaint (onOptions later contextOf
      fun expected wire =>
        orFault ((TagLength.decode wire expected).outcome.map Envelope.ciphertext)) := rfl

/-- `seal` writes a varint wire of its input and the pairs of its options. -/
theorem ofArguments_seal (later : List String) :
    ofArguments ("seal" :: later) = orComplaint (onOptions later pairsToWrite
      fun pairs ciphertext => orFault (VarintFrame.encodePairs ciphertext pairs)) := by
  simp only [ofArguments, sealing, onOptions, pairsToWrite, pairsIn, bind_assoc]
  rfl

/-- `open` opens its input as a varint wire under the pairs of its options. -/
theorem ofArguments_open (later : List String) :
    ofArguments ("open" :: later) = orComplaint (onOptions later pairsIn
      fun pairs wire => orFault
        ((VarintFrame.decode .standard wire pairs).outcome.map VarintFrame.ciphertext)) := by
  simp only [ofArguments, opening, onOptions, pairsIn, bind_assoc]
  rfl

/-- A command that is told where to write only needs its context to be read. -/
theorem contextToWrite_eq_ok_iff (named : settings.last .output = some path)
    {context : Option Context} :
    contextToWrite settings.options = .ok context ↔
      (settings.last .context).mapM Context.parse = .ok context := by
  have told : settings.options.output = some path := named
  rw [contextToWrite, requireOutput, told]
  exact contextOf_eq_ok_iff

/-- A command that is told where to write only needs the pairs of its context. -/
theorem pairsToWrite_eq_ok_iff (named : settings.last .output = some path)
    {pairs : Option (List (String × String))} :
    pairsToWrite settings.options = .ok pairs ↔ HasPairs (settings.last .context) pairs := by
  have told : settings.options.output = some path := named
  rw [pairsToWrite, requireOutput, told]
  exact pairsIn_eq_ok_iff

/-- A context has pairs exactly if each of its keys has a value, and the pairs are then the keys
with their values. -/
theorem pairsOf_eq_ok_iff {context : Context} {pairs : List (String × String)} :
    pairsOf context = .ok pairs ↔
      context.entries = pairs.map fun pair => (pair.1, some pair.2) := by
  unfold pairsOf
  induction context.entries generalizing pairs with
  | nil =>
    cases pairs <;> simp [pure, Except.pure]
  | cons entry later step =>
    obtain ⟨key, value⟩ := entry
    rw [List.mapM_cons, Outcome.bind_eq_ok_iff]
    simp only [Outcome.bind_eq_ok_iff, step]
    cases value with
    | none => cases pairs <;> simp
    | some value =>
      constructor
      · rintro ⟨_, ⟨⟩, rest, same, ⟨⟩⟩
        rw [same, List.map_cons]
      · intro same
        cases pairs with
        | nil => cases same
        | cons pair rest =>
          obtain ⟨⟨⟩, behind⟩ := List.cons.inj same
          exact ⟨pair, rfl, rest, behind, rfl⟩

end Plan

namespace Settings

/-- What `pack` makes of an input: a tag/length wire of it and the context. -/
def Packs (settings : Settings) (input wire : Bytes) : Prop :=
  ∃ context, (settings.last .context).mapM Context.parse = .ok context ∧
    TagLength.Current.encode ⟨context, input⟩ = .ok wire

/-- What `unpack` makes of an input: the ciphertext of a tag/length wire that is accepted where the
context is expected. -/
def Unpacks (settings : Settings) (wire ciphertext : Bytes) : Prop :=
  ∃ expected, (settings.last .context).mapM Context.parse = .ok expected ∧
    ∃ envelope, (TagLength.decode wire expected).outcome = .ok envelope ∧
      envelope.ciphertext = ciphertext

/-- What `seal` makes of an input: a varint wire of it and the pairs. -/
def Seals (settings : Settings) (input wire : Bytes) : Prop :=
  ∃ pairs, HasPairs (settings.last .context) pairs ∧ VarintFrame.encodePairs input pairs = .ok wire

/-- What `open` makes of an input: the ciphertext of a varint wire that is accepted where the pairs
are expected. -/
def Opens (settings : Settings) (wire ciphertext : Bytes) : Prop :=
  ∃ pairs, HasPairs (settings.last .context) pairs ∧
    ∃ frame, (VarintFrame.decode .standard wire pairs).outcome = .ok frame ∧
      frame.ciphertext = ciphertext

/-- `pack` works on the context that its text is read as. -/
theorem packs_iff (named : settings.last .output = some path) {wire : Bytes} :
    (∃ context, Plan.contextToWrite settings.options = .ok context ∧
      Plan.orFault (TagLength.Current.encode ⟨context, input⟩) = .ok wire) ↔
        settings.Packs input wire := by
  simp only [Plan.contextToWrite_eq_ok_iff named, Plan.orFault_eq_ok_iff, Packs]

/-- `unpack` works under the context that its text is read as. -/
theorem unpacks_iff {ciphertext : Bytes} :
    (∃ expected, Plan.contextOf settings.options = .ok expected ∧
      Plan.orFault ((TagLength.decode input expected).outcome.map Envelope.ciphertext) =
        .ok ciphertext) ↔
      settings.Unpacks input ciphertext := by
  simp only [Plan.contextOf_eq_ok_iff, Plan.orFault_eq_ok_iff, Outcome.map_eq_ok_iff, Unpacks,
    options]

/-- `seal` works on the pairs of the context that its text is read as. -/
theorem seals_iff (named : settings.last .output = some path) {wire : Bytes} :
    (∃ pairs, Plan.pairsToWrite settings.options = .ok pairs ∧
      Plan.orFault (VarintFrame.encodePairs input pairs) = .ok wire) ↔
        settings.Seals input wire := by
  simp only [Plan.pairsToWrite_eq_ok_iff named, Plan.orFault_eq_ok_iff, Seals]

/-- `open` works under the pairs of the context that its text is read as. -/
theorem opens_iff {ciphertext : Bytes} :
    (∃ pairs, Plan.pairsIn settings.options = .ok pairs ∧
      Plan.orFault
          ((VarintFrame.decode .standard input pairs).outcome.map VarintFrame.ciphertext) =
        .ok ciphertext) ↔
      settings.Opens input ciphertext := by
  simp only [Plan.pairsIn_eq_ok_iff, Plan.orFault_eq_ok_iff, Outcome.map_eq_ok_iff, Opens, options]

end Settings

section Runs

variable (lawful : host.Lawful files) (known : settings.Known)
  (held : host.read (Plan.inputOf settings.options) before = (.ok input, before))

include lawful known held

/-- A run of `pack` leaves the wire of its input. -/
theorem run_pack (named : settings.last .output = some path)
    (ran : run host ("pack" :: settings.arguments) before = (report, after)) :
    Leaves host files (settings.Packs input) before (Plan.outputOf settings.options) report
      after := by
  rw [run, Plan.ofArguments_pack] at ran
  exact (Plan.leaves_onOptions lawful known held ran).congr fun _ => Settings.packs_iff named

/-- A run of `unpack` leaves the ciphertext of its input. -/
theorem run_unpack (ran : run host ("unpack" :: settings.arguments) before = (report, after)) :
    Leaves host files (settings.Unpacks input) before (Plan.outputOf settings.options) report
      after := by
  rw [run, Plan.ofArguments_unpack] at ran
  exact (Plan.leaves_onOptions lawful known held ran).congr fun _ => Settings.unpacks_iff

/-- A run of `seal` leaves the wire of its input. -/
theorem run_seal (named : settings.last .output = some path)
    (ran : run host ("seal" :: settings.arguments) before = (report, after)) :
    Leaves host files (settings.Seals input) before (Plan.outputOf settings.options) report
      after := by
  rw [run, Plan.ofArguments_seal] at ran
  exact (Plan.leaves_onOptions lawful known held ran).congr fun _ => Settings.seals_iff named

/-- A run of `open` leaves the ciphertext of its input. -/
theorem run_open (ran : run host ("open" :: settings.arguments) before = (report, after)) :
    Leaves host files (settings.Opens input) before (Plan.outputOf settings.options) report
      after := by
  rw [run, Plan.ofArguments_open] at ran
  exact (Plan.leaves_onOptions lawful known held ran).congr fun _ => Settings.opens_iff

end Runs

end AeadEnvelope.Command
