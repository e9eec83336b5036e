import AeadEnvelope.Proofs.Command.Exchange

/-!
# The command line fails closed

A command line is answered at once, or shows what it finds in an input, or is of a command that
leaves a result where its options say (`Plan.ofArguments_cases`). In each case everything that can
fail comes before what is shown or written.

Main statement: a run that fails shows nothing and changes no file, one that succeeds writes at
most the file that the last `--output` leads to, and a ciphertext is given out only if its wire was
accepted under the context of the last `--context` (`run_failsClosed`).
-/
namespace AeadEnvelope.Command

variable {σ File : Type} {host : Host (StateM σ)} {files : Files σ File} {before after : σ}
  {report : Report} {arguments : List String}

namespace Plan

/-- Whatever `canonicalize` shows is known at once. -/
theorem eq_shown_of_canonicalize {plan : Plan} (planned : canonicalize arguments = .ok plan) :
    ∃ text, plan = finish (.shown text) := by
  cases arguments with
  | nil => cases planned
  | cons text later =>
    simp only [canonicalize, Outcome.bind_eq_ok_iff] at planned
    obtain ⟨context, -, planned⟩ := planned
    split at planned
    · simp only [Outcome.bind_eq_ok_iff] at planned
      obtain ⟨pairs, -, bound, -, planned⟩ := planned
      cases bound with
      | none => exact ⟨_, (Except.ok.inj planned).symm⟩
      | some bytes => exact ⟨_, (Except.ok.inj planned).symm⟩
    · simp only [Outcome.bind_eq_ok_iff] at planned
      obtain ⟨canonical, -, planned⟩ := planned
      exact ⟨_, (Except.ok.inj planned).symm⟩

/-- The commands that leave a result where their options say. -/
def exchanges : List String := ["pack", "unpack", "seal", "open"]

/-- A command line is answered at once, or looks at an input for the standard output, or is of a
command that leaves a result where its options say. -/
theorem ofArguments_cases (arguments : List String) :
    (∃ report, ofArguments arguments = finish report ∧
      (report.exitCode ≠ 0 → report.output = [])) ∨
    (∃ input work, ofArguments arguments = process input work .standard) ∨
    ∃ command ∈ exchanges, ∃ later, arguments = command :: later ∧
      ∃ (β : Type) (check : Options → Except Complaint β)
        (work : β → Bytes → Except Complaint Bytes),
        ofArguments arguments = orComplaint (onOptions later check work) := by
  cases arguments with
  | nil => exact .inl ⟨_, rfl, fun _ => rfl⟩
  | cons command later =>
    by_cases exchanging : command ∈ exchanges
    · have four : command = "pack" ∨ command = "unpack" ∨ command = "seal" ∨ command = "open" := by
        simpa [exchanges] using exchanging
      refine .inr (.inr ⟨command, exchanging, later, rfl, ?_⟩)
      rcases four with rfl | rfl | rfl | rfl
      · exact ⟨_, _, _, ofArguments_pack later⟩
      · exact ⟨_, _, _, ofArguments_unpack later⟩
      · exact ⟨_, _, _, ofArguments_seal later⟩
      · exact ⟨_, _, _, ofArguments_open later⟩
    simp only [exchanges, List.mem_cons, List.not_mem_nil, or_false, not_or] at exchanging
    obtain ⟨packing, unpacking, sealing, opening⟩ := exchanging
    -- The other commands are answered at once, but `inspect` has an input to look at.
    simp only [ofArguments, packing, unpacking, sealing, opening, if_false]
    split
    · cases planned : canonicalize later with
      | error complaint => exact .inl ⟨_, rfl, fun _ => rfl⟩
      | ok plan =>
        obtain ⟨text, rfl⟩ := eq_shown_of_canonicalize planned
        exact .inl ⟨_, rfl, fun failed => absurd rfl failed⟩
    split
    · cases later with
      | nil => exact .inl ⟨_, rfl, fun _ => rfl⟩
      | cons path rest => exact .inr (.inl ⟨_, _, rfl⟩)
    split
    · exact .inl ⟨_, rfl, fun _ => rfl⟩
    split
    · exact .inl ⟨_, rfl, fun failed => absurd rfl failed⟩
    · exact .inl ⟨_, rfl, fun _ => rfl⟩

end Plan

/-- A run neither shows nor writes anything before all of its work succeeded. -/
structure FailsClosed (host : Host (StateM σ)) (files : Files σ File) (arguments : List String)
    (before : σ) (report : Report) (after : σ) : Prop where
  /-- A run that fails shows nothing and changes no file. -/
  refused : report.exitCode ≠ 0 → report.output = [] ∧ after = before
  /-- A run that succeeds changes no file but the one that the last `--output` leads to. -/
  written : report.exitCode = 0 → after = before ∨
    ∃ command ∈ Plan.exchanges, ∃ (settings : Settings) (path : String) (result : Bytes),
      arguments = command :: settings.arguments ∧ settings.Known ∧
        settings.last .output = some path ∧
        Delivered files result before (.file path) report after
  /-- What `unpack` leaves is the ciphertext of a wire that is accepted under the context. -/
  unpacked : ∀ later, arguments = "unpack" :: later → report.exitCode = 0 →
    ∃ (settings : Settings) (wire ciphertext : Bytes),
      settings.Known ∧ settings.arguments = later ∧
        host.read (Plan.inputOf settings.options) before = (.ok wire, before) ∧
        settings.Unpacks wire ciphertext ∧
        Delivered files ciphertext before (Plan.outputOf settings.options) report after
  /-- What `open` leaves is the ciphertext of a wire that is accepted under the pairs of the
  context. -/
  opened : ∀ later, arguments = "open" :: later → report.exitCode = 0 →
    ∃ (settings : Settings) (wire ciphertext : Bytes),
      settings.Known ∧ settings.arguments = later ∧
        host.read (Plan.inputOf settings.options) before = (.ok wire, before) ∧
        settings.Opens wire ciphertext ∧
        Delivered files ciphertext before (Plan.outputOf settings.options) report after

/-- A result that is left where options say is shown without a change, or their output is a file
that has it. -/
theorem Delivered.of_options {result : Bytes} {options : Options}
    (delivered : Delivered files result before (Plan.outputOf options) report after) :
    after = before ∨ ∃ path, options.output = some path ∧
      Delivered files result before (.file path) report after := by
  cases named : options.output with
  | none =>
    rw [Plan.outputOf, named] at delivered
    cases delivered
    exact .inl rfl
  | some path =>
    rw [Plan.outputOf, named] at delivered
    exact .inr ⟨path, rfl, delivered⟩

/-- A run changes nothing and shows something only if it succeeds, or it leaves its result in the
file that the last `--output` of its command leads to. -/
theorem run_cases (lawful : host.Lawful files)
    (ran : run host arguments before = (report, after)) :
    (after = before ∧ (report.exitCode ≠ 0 → report.output = [])) ∨
      ∃ command ∈ Plan.exchanges, ∃ (settings : Settings) (path : String) (result : Bytes),
        arguments = command :: settings.arguments ∧ settings.Known ∧
          settings.last .output = some path ∧
          Delivered files result before (.file path) report after := by
  rw [run] at ran
  -- Only the last kind of plan can have a file as its output, the one that the options name.
  rcases Plan.ofArguments_cases arguments with
    ⟨shown, planned, silent⟩ | ⟨input, work, planned⟩ |
    ⟨command, exchanging, later, rfl, β, check, work, planned⟩
  · rw [planned] at ran
    obtain ⟨rfl, rfl⟩ := Prod.mk.inj ran
    exact .inl ⟨rfl, silent⟩
  · rw [planned] at ran
    rcases Plan.carryOut_process_cases lawful ran with
      ⟨complaint, rfl, rfl⟩ | ⟨bytes, result, -, -, delivered⟩
    · exact .inl ⟨rfl, fun _ => rfl⟩
    · cases delivered
      exact .inl ⟨rfl, fun failed => absurd rfl failed⟩
  · rw [planned] at ran
    rcases Plan.carryOut_onOptions_cases lawful ran with
      ⟨complaint, rfl, rfl⟩ |
      ⟨settings, bytes, result, known, rfl, -, -, delivered⟩
    · exact .inl ⟨rfl, fun _ => rfl⟩
    · rcases delivered.of_options with unchanged | ⟨path, named, left⟩
      · exact .inl ⟨unchanged, fun failed => absurd delivered.exitCode failed⟩
      · exact .inr ⟨command, exchanging, settings, path, result, rfl, known, named, left⟩

/-- A run on a lawful host fails closed. -/
theorem run_failsClosed (lawful : host.Lawful files)
    (ran : run host arguments before = (report, after)) :
    FailsClosed host files arguments before report after where
  refused := by
    intro failed
    rcases run_cases lawful ran with
      ⟨unchanged, silent⟩ | ⟨command, -, settings, path, result, -, -, -, delivered⟩
    · exact ⟨silent failed, unchanged⟩
    · exact absurd delivered.exitCode failed
  written := by
    intro succeeded
    exact (run_cases lawful ran).imp_left And.left
  unpacked := by
    rintro later rfl succeeded
    rw [run, Plan.ofArguments_unpack] at ran
    rcases Plan.carryOut_onOptions_cases lawful ran with
      ⟨complaint, rfl, -⟩ | ⟨settings, wire, ciphertext, known, given, held, worked, delivered⟩
    · cases succeeded
    · exact ⟨settings, wire, ciphertext, known, given, held, Settings.unpacks_iff.mp worked,
        delivered⟩
  opened := by
    rintro later rfl succeeded
    rw [run, Plan.ofArguments_open] at ran
    rcases Plan.carryOut_onOptions_cases lawful ran with
      ⟨complaint, rfl, -⟩ | ⟨settings, wire, ciphertext, known, given, held, worked, delivered⟩
    · cases succeeded
    · exact ⟨settings, wire, ciphertext, known, given, held, Settings.opens_iff.mp worked,
        delivered⟩

/-- A directory with a tag/length wire in it, of the context `k=v` and one byte of ciphertext. -/
def savedWire : Directory :=
  Dictionary.empty.insert "wire" [2, 0, 0, 0, 0, 2, 0, 0, 0, 3, 107, 61, 118, 4, 0, 0, 0, 1, 7]

/-- A command line that gives two options twice, and one of them first with the name of another as
its value. -/
def unpackSaved : List String :=
  ["unpack", "-c", "-o", "--context", "K=v", "-o", "old", "-i", "wire", "-o", "./out"]

/-- The last options count, and only the ciphertext in the accepted wire is written. -/
theorem run_failsClosed_unpackSaved :
    (Directory.host []).Lawful Directory.files ∧
      run (Directory.host []) unpackSaved savedWire =
        (⟨0, [], "Wrote 1 bytes to ./out\n"⟩, savedWire.insert "out" [7]) ∧
      FailsClosed (Directory.host []) Directory.files unpackSaved savedWire
        ⟨0, [], "Wrote 1 bytes to ./out\n"⟩ (savedWire.insert "out" [7]) := by
  have lawful := Directory.lawful_host []
  have ran : @Eq (Report × Directory) (run (Directory.host []) unpackSaved savedWire)
      (⟨0, [], "Wrote 1 bytes to ./out\n"⟩, savedWire.insert "out" [7]) := by decide +kernel
  exact ⟨lawful, ran, run_failsClosed lawful ran⟩

end AeadEnvelope.Command
