import AeadEnvelope.Binary.Hex
import AeadEnvelope.Command.Options
import AeadEnvelope.Command.Usage
import AeadEnvelope.Summary

/-!
# What a command line asks for

The arguments of a command line are turned into a plan: either all is known at once, or there is
an input to be read and work to be done on it. The arguments decide everything else, so whatever
is wrong with them is found before any input is read.
-/
namespace AeadEnvelope.Command

/-- What a command leaves besides files. -/
structure Report where
  /-- The exit code. -/
  exitCode : UInt8
  /-- What it writes to the standard output. -/
  output : Bytes
  /-- What it writes to the standard error output. -/
  messages : String
deriving DecidableEq

namespace Report

/-- A command that did its work and shows a text. -/
def shown (text : String) : Report := ⟨0, utf8 text, ""⟩

/-- A command that ends with a complaint. -/
def complaint (complaint : Complaint) : Report :=
  ⟨1, [], "error: " ++ complaint.message ++ "\n"⟩

end Report

/-- Where an input comes from. -/
inductive Input where
  /-- From the standard input. -/
  | standard
  /-- From a file. -/
  | file (path : String)
deriving DecidableEq

/-- Where the result of the work goes. -/
inductive Output where
  /-- To the standard output. -/
  | standard
  /-- To a file. -/
  | file (path : String)
deriving DecidableEq

/-- What a command line asks for. -/
inductive Plan where
  /-- There is nothing to read. -/
  | finish (report : Report)
  /-- An input is to be worked on. -/
  | process (input : Input) (work : Bytes → Except Complaint Bytes) (output : Output)

namespace Plan

/-- End with a complaint instead of a plan that cannot be made. -/
def orComplaint : Except Complaint Plan → Plan
  | .ok plan => plan
  | .error complaint => finish (.complaint complaint)

/-- Let the fault of an operation be a complaint. -/
def orFault {α : Type} (outcome : Except Fault α) : Except Complaint α :=
  outcome.mapError Complaint.fault

/-- The pairs of a context in which every key has to have a value. -/
def pairsOf (context : Context) : Except Complaint (List (String × String)) :=
  context.entries.mapM fun entry =>
    match entry.2 with
    | some value => .ok (entry.1, value)
    | none => .error (.missingValue entry.1)

/-- The context of a command, if one is given. -/
def contextOf (options : Options) : Except Complaint (Option Context) :=
  orFault (options.context.mapM Context.parse)

/-- The input that the options name. -/
def inputOf (options : Options) : Input :=
  match options.input with
  | none => .standard
  | some path => .file path

/-- The output that the options name. -/
def outputOf (options : Options) : Output :=
  match options.output with
  | none => .standard
  | some path => .file path

/-- Refuse options that do not say where to write. -/
def requireOutput (options : Options) : Except Complaint Unit :=
  match options.output with
  | none => .error .missingOutput
  | some _ => .ok ()

/-- Show the canonical text of a context, or its associated data in the varint dialect. -/
def canonicalize (arguments : List String) : Except Complaint Plan := do
  match arguments with
  | [] => .error .missingContext
  | text :: later => do
    let context ← orFault (Context.parse text)
    if later.head? = some "--varint" then do
      let pairs ← pairsOf context
      match ← orFault (AssociatedData.canonicalize .standard (some pairs)) with
      | some bytes => return finish (.shown (toHex bytes ++ "\n"))
      | none => return finish (.shown "(no context)\n")
    else do
      let canonical ← orFault context.canonical
      return finish (.shown (canonical ++ "\n"))

/-- Write a ciphertext as a tag/length wire. -/
def pack (arguments : List String) : Except Complaint Plan := do
  let options ← Options.parse arguments
  requireOutput options
  let context ← contextOf options
  return process (inputOf options)
    (fun ciphertext => orFault (TagLength.Current.encode ⟨context, ciphertext⟩))
    (outputOf options)

/-- Open a tag/length wire for its ciphertext. -/
def unpack (arguments : List String) : Except Complaint Plan := do
  let options ← Options.parse arguments
  let expected ← contextOf options
  return process (inputOf options)
    (fun wire => orFault ((TagLength.decode wire expected).outcome.map Envelope.ciphertext))
    (outputOf options)

/-- Write a ciphertext as a varint wire. -/
def sealing (arguments : List String) : Except Complaint Plan := do
  let options ← Options.parse arguments
  requireOutput options
  let context ← contextOf options
  let pairs ← context.mapM pairsOf
  return process (inputOf options)
    (fun ciphertext => orFault (VarintFrame.encodePairs ciphertext pairs))
    (outputOf options)

/-- Open a varint wire for its ciphertext. -/
def opening (arguments : List String) : Except Complaint Plan := do
  let options ← Options.parse arguments
  let context ← contextOf options
  let pairs ← context.mapM pairsOf
  return process (inputOf options)
    (fun wire =>
      orFault ((VarintFrame.decode .standard wire pairs).outcome.map VarintFrame.ciphertext))
    (outputOf options)

/-- A line of a table of two columns, if the second one holds anything. -/
def listLine (title : String) (names : List String) : String :=
  if names = [] then "" else title ++ ", ".intercalate names ++ "\n"

/-- A summary as a table. -/
def summaryText (summary : Summary) : String :=
  "Context Envelope\n" ++
  "================\n" ++
  s!"Dialect:          {summary.dialect.name}\n" ++
  s!"Version byte:     {byteText summary.version}\n" ++
  s!"Context:          {summary.contextText}\n" ++
  listLine "Legacy key bits:  " (summary.keys.map MaskKey.name) ++
  listLine "Placeholders:     " summary.placeholders ++
  "\n" ++
  s!"Total Size:       {summary.totalLength} bytes\n" ++
  s!"Ciphertext Size:  {summary.ciphertextLength} bytes\n"

/-- Show the summary of a wire. -/
def inspect (arguments : List String) : Except Complaint Plan :=
  match arguments with
  | [] => .error .missingFilePath
  | path :: _ => .ok (process (.file path)
      (fun wire => (orFault (Summary.ofWire wire)).map fun summary => utf8 (summaryText summary))
      .standard)

/-- The plan of a command line without the name of the program. -/
def ofArguments : List String → Plan
  | [] => finish ⟨1, [], usage⟩
  | command :: later =>
    if command = "canonicalize" then orComplaint (canonicalize later)
    else if command = "pack" then orComplaint (pack later)
    else if command = "unpack" then orComplaint (unpack later)
    else if command = "seal" then orComplaint (sealing later)
    else if command = "open" then orComplaint (opening later)
    else if command = "inspect" then orComplaint (inspect later)
    else if command = "--help" ∨ command = "-h" then finish ⟨0, [], usage⟩
    else if command = "--version" ∨ command = "-V" then
      finish (.shown ("ctxenv " ++ version ++ "\n"))
    else
      let refused := Report.complaint .unknownCommand
      finish { refused with
        messages := s!"error: unknown command '{command}'\n" ++ usage ++ refused.messages }

end Plan

end AeadEnvelope.Command
