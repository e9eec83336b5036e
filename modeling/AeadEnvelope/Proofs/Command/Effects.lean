import AeadEnvelope.Command.Run
import AeadEnvelope.Proofs.Command.Settings
import AeadEnvelope.Proofs.Outcome

/-!
# What a run leaves behind

A host is lawful over the files of its states if reading changes nothing and a write either has
no effect or leaves one file with all the bytes (`Host.Lawful`); a directory in memory is such a
host (`Directory.lawful_host`). A command that takes options is a plan to do some work on an
input (`Plan.onOptions`), and the result is left where the options say (`Delivered`).

Main statements: the work of a command with options is done on what its settings name, or nothing
is changed at all (`Plan.carryOut_onOptions_cases`), and where the input can be read it depends on
the check and the work alone which of the two it is (`Plan.leaves_onOptions`).
-/
namespace AeadEnvelope.Command

/-- How files are found in the states of a host. -/
structure Files (σ File : Type) where
  /-- The file that a path leads to, unless no file can be there. -/
  ofPath : String → Option File
  /-- The bytes of a file, if it is there. -/
  content : σ → File → Option Bytes

variable {σ File : Type}

/-- Of all files only the one that a path leads to is another one afterwards, and has the given
bytes. -/
def Files.Replaced (files : Files σ File) (path : String) (bytes : Bytes) (before after : σ) :
    Prop :=
  ∃ file, files.ofPath path = some file ∧ files.content after file = some bytes ∧
    ∀ other, other ≠ file → files.content after other = files.content before other

/-- What a command relies on: reading leaves everything as it is and gives all of a file, and a
write fails without effect or leaves all the bytes. -/
structure Host.Lawful (host : Host (StateM σ)) (files : Files σ File) : Prop where
  /-- Reading the standard input leaves everything as it is. -/
  standardInput : ∀ state, (host.standardInput state).2 = state
  /-- Reading a file leaves everything as it is. -/
  readFile : ∀ path state, (host.readFile path state).2 = state
  /-- A file that is there is read entirely. -/
  readFile_content : ∀ path file bytes state, files.ofPath path = some file →
    files.content state file = some bytes → host.readFile path state = (.ok bytes, state)
  /-- A write fails without effect or leaves all the bytes. -/
  writeFile : ∀ path bytes before,
    (∃ failure, host.writeFile path bytes before = (.error failure, before)) ∨
      ∃ after, host.writeFile path bytes before = (.ok (), after) ∧
        files.Replaced path bytes before after

namespace Directory

/-- The files of a directory, by the shortest paths to them. -/
def files : Files Directory String where
  ofPath path :=
    match Place.ofPath path with
    | .ok (.location location false) => some location.path
    | _ => none
  content directory path := directory.find? path

/-- A path to a file leads to a name in a directory. -/
theorem ofPath_of_files {path file : String} (led : files.ofPath path = some file) :
    ∃ location, Place.ofPath path = .ok (.location location false) ∧ location.path = file := by
  simp only [files] at led
  split at led
  · next location place => exact ⟨location, place, Option.some.inj led⟩
  · cases led

/-- A directory in memory is a lawful host. -/
theorem lawful_host (input : Bytes) : (host input).Lawful files where
  standardInput _ := rfl
  readFile _ _ := rfl
  readFile_content := by
    intro path file bytes directory led held
    obtain ⟨location, place, rfl⟩ := ofPath_of_files led
    have found : directory.find? location.path = some bytes := held
    simp only [host, Directory.readFile, place, found]
  writeFile := by
    intro path bytes directory
    simp only [host, Directory.writeFile]
    cases found : destination path directory with
    | error failure => exact .inl ⟨failure, rfl⟩
    | ok location =>
      have led : files.ofPath path = some location.path := by
        simp only [files, ofPath_of_destination found]
      refine .inr ⟨_, rfl, location.path, led, ?_, ?_⟩
      · simp [files, Dictionary.find?_insert]
      · intro other apart
        simp [files, Dictionary.find?_insert, apart]

end Directory

/-- A result is left on the standard output, or as all of one file. -/
inductive Delivered (files : Files σ File) (result : Bytes) (before : σ) :
    Output → Report → σ → Prop where
  /-- The standard output has the result, and no file is another one. -/
  | standard : Delivered files result before .standard ⟨0, result, ""⟩ before
  /-- The file that the path leads to has the result, and no other file is another one. -/
  | file {path : String} {after : σ} (replaced : files.Replaced path result before after) :
    Delivered files result before (.file path)
      ⟨0, [], s!"Wrote {result.length} bytes to {path}\n"⟩ after

/-- A result that is left is left with the exit code of success. -/
theorem Delivered.exitCode {files : Files σ File} {result : Bytes} {before after : σ}
    {output : Output} {report : Report}
    (delivered : Delivered files result before output report after) : report.exitCode = 0 := by
  cases delivered <;> rfl

/-- Whatever the result is, it can be written where it should go. -/
def Host.Writable (host : Host (StateM σ)) (output : Output) (before : σ) : Prop :=
  ∀ path, output = .file path → ∀ result, ∃ after,
    host.writeFile path result before = (.ok (), after)

/-- In a directory a file can be written under every path that leads to a name it can have. -/
theorem Directory.writable_host {input : Bytes} {path : String} {directory : Directory}
    {location : Location} (found : destination path directory = .ok location) :
    (host input).Writable (.file path) directory := by
  rintro _ ⟨⟩ result
  refine ⟨directory.insert location.path result, ?_⟩
  simp only [host, Directory.writeFile, found]

namespace Host.Lawful

variable {host : Host (StateM σ)} {files : Files σ File} {before after : σ} {report : Report}

/-- Reading an input leaves everything as it is. -/
theorem read (lawful : host.Lawful files) (input : Input) (state : σ) :
    ∃ outcome, host.read input state = (outcome, state) := by
  cases input with
  | standard => exact ⟨_, Prod.ext rfl (lawful.standardInput state)⟩
  | file path => exact ⟨_, Prod.ext rfl (lawful.readFile path state)⟩

/-- A result is left where it should go, or its file cannot be written and nothing is changed. -/
theorem deliver (lawful : host.Lawful files) (result : Bytes) (output : Output) (before : σ) :
    (∃ path failure, output = .file path ∧
      host.writeFile path result before = (.error failure, before) ∧
      host.deliver result output before = (.complaint (.host failure), before)) ∨
    ∃ report after, host.deliver result output before = (report, after) ∧
      Delivered files result before output report after := by
  cases output with
  | standard => exact .inr ⟨_, _, rfl, .standard⟩
  | file path =>
    rcases lawful.writeFile path result before with ⟨failure, failed⟩ | ⟨after, done, replaced⟩
    · refine .inl ⟨path, failure, rfl, failed, ?_⟩
      simp only [Host.deliver, bind, StateT.bind, failed]
      rfl
    · refine .inr ⟨_, after, ?_, .file replaced⟩
      simp only [Host.deliver, bind, StateT.bind, done]
      rfl

/-- A file is read as what was written to it. -/
theorem readFile_of_replaced (lawful : host.Lawful files) {path : String} {bytes : Bytes}
    (replaced : files.Replaced path bytes before after) :
    host.readFile path after = (.ok bytes, after) := by
  obtain ⟨file, led, content, -⟩ := replaced
  exact lawful.readFile_content path file bytes after led content

end Host.Lawful

variable {host : Host (StateM σ)} {files : Files σ File} {before after : σ} {report : Report}

/-- A run leaves what its command makes of an input, or ends with a complaint where that makes
nothing or what it makes cannot be written. -/
inductive Leaves (host : Host (StateM σ)) (files : Files σ File) (made : Bytes → Prop) (before : σ)
    (output : Output) : Report → σ → Prop where
  /-- What is made is left. -/
  | made {result : Bytes} {report : Report} {after : σ} (makes : made result)
    (delivered : Delivered files result before output report after) :
    Leaves host files made before output report after
  /-- There is nothing to leave. -/
  | nothing {complaint : Complaint} (refused : ∀ result, ¬ made result) :
    Leaves host files made before output (.complaint complaint) before
  /-- What is made cannot be written. -/
  | blocked {complaint : Complaint} (unwritable : ¬ host.Writable output before) :
    Leaves host files made before output (.complaint complaint) before

namespace Leaves

variable {made other : Bytes → Prop} {output : Output}

/-- What a command makes can be said in another way. -/
theorem congr (same : ∀ result, made result ↔ other result)
    (leaves : Leaves host files made before output report after) :
    Leaves host files other before output report after := by
  cases leaves with
  | made makes delivered => exact .made ((same _).mp makes) delivered
  | nothing refused => exact .nothing fun result makes => refused result ((same result).mpr makes)
  | blocked unwritable => exact .blocked unwritable

/-- A run that can write succeeds exactly if its command makes something. -/
theorem exitCode_eq_zero_iff (leaves : Leaves host files made before output report after)
    (writable : host.Writable output before) : report.exitCode = 0 ↔ ∃ result, made result := by
  cases leaves with
  | @made result _ _ makes delivered =>
    exact ⟨fun _ => ⟨result, makes⟩, fun _ => delivered.exitCode⟩
  | nothing refused => exact ⟨nofun, fun ⟨result, makes⟩ => absurd makes (refused result)⟩
  | blocked unwritable => exact absurd writable unwritable

/-- A run that succeeds leaves what its command makes. -/
theorem exists_delivered (leaves : Leaves host files made before output report after)
    (succeeded : report.exitCode = 0) :
    ∃ result, made result ∧ Delivered files result before output report after := by
  cases leaves with
  | made makes delivered => exact ⟨_, makes, delivered⟩
  | nothing => cases succeeded
  | blocked => cases succeeded

/-- A run that can write leaves the only thing that its command makes. -/
theorem delivered_of_unique (leaves : Leaves host files made before output report after)
    (writable : host.Writable output before) {result : Bytes} (makes : made result)
    (unique : ∀ other, made other → other = result) :
    Delivered files result before output report after := by
  have succeeded := (leaves.exitCode_eq_zero_iff writable).mpr ⟨result, makes⟩
  obtain ⟨other, found, delivered⟩ := leaves.exists_delivered succeeded
  exact unique other found ▸ delivered

/-- A run whose command makes nothing fails and changes nothing. -/
theorem failed_of_nothing (leaves : Leaves host files made before output report after)
    (refused : ∀ result, ¬ made result) : report.exitCode = 1 ∧ after = before := by
  cases leaves with
  | made makes => exact absurd makes (refused _)
  | nothing => exact ⟨rfl, rfl⟩
  | blocked => exact ⟨rfl, rfl⟩

end Leaves

namespace Plan

variable {input : Input} {work : Bytes → Except Complaint Bytes} {output : Output}

/-- An input that is read is worked on, and the result is left where it should go. -/
theorem carryOut_process_of_read {bytes : Bytes}
    (held : host.read input before = (.ok bytes, before)) :
    (process input work output).carryOut host before =
      match work bytes with
      | .error complaint => (.complaint complaint, before)
      | .ok result => host.deliver result output before := by
  simp only [carryOut, bind, StateT.bind, held]
  cases work bytes <;> rfl

/-- Work on an input that is read leaves its result. -/
theorem leaves_process (lawful : host.Lawful files) {bytes : Bytes}
    (held : host.read input before = (.ok bytes, before))
    (ran : (process input work output).carryOut host before = (report, after)) :
    Leaves host files (fun result => work bytes = .ok result) before output report after := by
  rw [carryOut_process_of_read held] at ran
  cases worked : work bytes with
  | error complaint =>
    rw [worked] at ran
    obtain ⟨rfl, rfl⟩ := Prod.mk.inj ran
    exact .nothing fun result => nofun
  | ok result =>
    rw [worked] at ran
    rcases lawful.deliver result output before with
      ⟨path, failure, named, failed, ended⟩ | ⟨left, state, ended, delivered⟩
    · obtain ⟨rfl, rfl⟩ := Prod.mk.inj (ended.symm.trans ran)
      refine .blocked fun writable => ?_
      obtain ⟨after, written⟩ := writable path named result
      cases failed.symm.trans written
    · obtain ⟨rfl, rfl⟩ := Prod.mk.inj (ended.symm.trans ran)
      exact .made rfl delivered

/-- Work on an input ends with a complaint and without effect, or the input was read and the result
of the work on it is left where it should go. -/
theorem carryOut_process_cases (lawful : host.Lawful files)
    (ran : (process input work output).carryOut host before = (report, after)) :
    (∃ complaint, report = .complaint complaint ∧ after = before) ∨
      ∃ bytes result, host.read input before = (.ok bytes, before) ∧ work bytes = .ok result ∧
        Delivered files result before output report after := by
  obtain ⟨outcome, held⟩ := lawful.read input before
  cases outcome with
  | error failure =>
    have ended : (process input work output).carryOut host before =
        (.complaint (.host failure), before) := by
      simp only [carryOut, bind, StateT.bind, held]
      rfl
    obtain ⟨rfl, rfl⟩ := Prod.mk.inj (ended.symm.trans ran)
    exact .inl ⟨_, rfl, rfl⟩
  | ok bytes =>
    cases leaves_process lawful held ran with
    | made worked delivered => exact .inr ⟨bytes, _, held, worked, delivered⟩
    | nothing => exact .inl ⟨_, rfl, rfl⟩
    | blocked => exact .inl ⟨_, rfl, rfl⟩

/-- The plan to work on an input once the options say what the work depends on. -/
def onOptions {β : Type} (arguments : List String) (check : Options → Except Complaint β)
    (work : β → Bytes → Except Complaint Bytes) : Except Complaint Plan := do
  let options ← Options.parse arguments
  let bound ← check options
  return process (inputOf options) (work bound) (outputOf options)

/-- There is such a plan exactly for known settings that pass the check. -/
theorem onOptions_eq_ok_iff {β : Type} {arguments : List String}
    {check : Options → Except Complaint β} {work : β → Bytes → Except Complaint Bytes}
    {plan : Plan} :
    onOptions arguments check work = .ok plan ↔
      ∃ settings : Settings, settings.Known ∧ settings.arguments = arguments ∧
        ∃ bound, check settings.options = .ok bound ∧
          plan = process (inputOf settings.options) (work bound) (outputOf settings.options) := by
  simp only [onOptions, Outcome.bind_eq_ok_iff, Options.parse_eq_ok_iff, pure, Except.pure,
    Except.ok.injEq, @eq_comm _ plan]
  constructor
  · rintro ⟨_, ⟨settings, known, given, rfl⟩, bound, checked, made⟩
    exact ⟨settings, known, given, bound, checked, made⟩
  · rintro ⟨settings, known, given, bound, checked, made⟩
    exact ⟨_, ⟨settings, known, given, rfl⟩, bound, checked, made⟩

/-- Such a plan ends with a complaint and without effect, or the work is done on what the settings
name and its result is left where they say. -/
theorem carryOut_onOptions_cases {β : Type} {arguments : List String}
    {check : Options → Except Complaint β} {work : β → Bytes → Except Complaint Bytes}
    (lawful : host.Lawful files)
    (ran : (orComplaint (onOptions arguments check work)).carryOut host before = (report, after)) :
    (∃ complaint, report = .complaint complaint ∧ after = before) ∨
      ∃ (settings : Settings) (bytes result : Bytes), settings.Known ∧
        settings.arguments = arguments ∧
        host.read (inputOf settings.options) before = (.ok bytes, before) ∧
        (∃ bound, check settings.options = .ok bound ∧ work bound bytes = .ok result) ∧
        Delivered files result before (outputOf settings.options) report after := by
  cases planned : onOptions arguments check work with
  | error complaint =>
    rw [planned] at ran
    obtain ⟨rfl, rfl⟩ := Prod.mk.inj ran
    exact .inl ⟨complaint, rfl, rfl⟩
  | ok plan =>
    obtain ⟨settings, known, given, bound, checked, rfl⟩ := onOptions_eq_ok_iff.mp planned
    rw [planned] at ran
    rcases carryOut_process_cases lawful ran with ended | ⟨bytes, result, held, worked, delivered⟩
    · exact .inl ended
    · exact .inr ⟨settings, bytes, result, known, given, held, ⟨bound, checked, worked⟩, delivered⟩

/-- Where the input can be read, such a plan leaves what the check and the work come to. -/
theorem leaves_onOptions {β : Type} {settings : Settings} {bytes : Bytes}
    {check : Options → Except Complaint β} {work : β → Bytes → Except Complaint Bytes}
    (lawful : host.Lawful files) (known : settings.Known)
    (held : host.read (inputOf settings.options) before = (.ok bytes, before))
    (ran : (orComplaint (onOptions settings.arguments check work)).carryOut host before =
      (report, after)) :
    Leaves host files
      (fun result => ∃ bound, check settings.options = .ok bound ∧ work bound bytes = .ok result)
      before (outputOf settings.options) report after := by
  have read := Options.parse_eq_ok_iff.mpr ⟨settings, known, rfl, rfl⟩
  cases checked : check settings.options with
  | error complaint =>
    have planned : onOptions settings.arguments check work = .error complaint := by
      simp only [onOptions, read, bind, Except.bind, checked]
    rw [planned] at ran
    obtain ⟨rfl, rfl⟩ := Prod.mk.inj ran
    refine .nothing ?_
    rintro result ⟨bound, ⟨⟩, -⟩
  | ok bound =>
    have planned : onOptions settings.arguments check work =
        .ok (process (inputOf settings.options) (work bound) (outputOf settings.options)) :=
      onOptions_eq_ok_iff.mpr ⟨settings, known, rfl, bound, checked, rfl⟩
    rw [planned] at ran
    refine (leaves_process lawful held ran).congr fun result => ⟨fun worked => ?_, ?_⟩
    · exact ⟨bound, rfl, worked⟩
    · rintro ⟨_, ⟨⟩, worked⟩
      exact worked

end Plan

end AeadEnvelope.Command
