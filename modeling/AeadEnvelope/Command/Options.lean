import AeadEnvelope.Command.Complaint

/-!
# Options of a command

A command that reads and writes takes a context, an input and an output. Each option is followed
by its value, which is taken as it stands even if it looks like an option, and the last
occurrence of an option counts.
-/
namespace AeadEnvelope.Command

/-- What the options of a command say. -/
structure Options where
  /-- Text of the context, if one is given. -/
  context : Option String
  /-- Path to read from, instead of the standard input. -/
  input : Option String
  /-- Path to write to, instead of the standard output. -/
  output : Option String
deriving DecidableEq

/-- An option by what its value is. -/
inductive OptionName where
  /-- The value is the text of the context. -/
  | context
  /-- The value is the path to read from. -/
  | input
  /-- The value is the path to write to. -/
  | output
deriving DecidableEq

namespace OptionName

/-- The option that an argument stands for. -/
def ofArgument? (argument : String) : Option OptionName :=
  if argument = "--context" ∨ argument = "-c" then some context
  else if argument = "--input" ∨ argument = "-i" then some input
  else if argument = "--output" ∨ argument = "-o" then some output
  else none

/-- The complaint that the value of the option is missing. -/
def complaint : OptionName → Complaint
  | context => .missingContext
  | input => .missingInputPath
  | output => .missingOutputPath

end OptionName

namespace Options

/-- No option is given. -/
def unset : Options := ⟨none, none, none⟩

/-- The options with one more that counts instead of any given before. -/
def set (options : Options) (name : OptionName) (value : String) : Options :=
  match name with
  | .context => { options with context := some value }
  | .input => { options with input := some value }
  | .output => { options with output := some value }

/-- Read the arguments that follow those from which some options were read. -/
def parseAfter (options : Options) : List String → Except Complaint Options
  | [] => .ok options
  | [argument] =>
    match OptionName.ofArgument? argument with
    | none => .error (.unknownOption argument)
    | some name => .error name.complaint
  | argument :: value :: later =>
    match OptionName.ofArgument? argument with
    | none => .error (.unknownOption argument)
    | some name => parseAfter (options.set name value) later

/-- Read the arguments of a command. -/
def parse (arguments : List String) : Except Complaint Options := parseAfter unset arguments

end Options

end AeadEnvelope.Command
