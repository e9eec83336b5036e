import AeadEnvelope.Fault

/-!
# Complaints of the command line

Why a command ends without having done its work, by cause.
-/
namespace AeadEnvelope.Command

/-- Why a file or the standard input cannot be used. -/
inductive HostFailure where
  /-- The file, or the directory it should stand in, is missing. -/
  | missing
  /-- A file stands where a directory should. -/
  | notDirectory
  /-- A directory stands where a file should. -/
  | isDirectory
  /-- The path, or a name in it, has too many bytes. -/
  | nameTooLong
  /-- There is a null character in the path. -/
  | nullInPath
  /-- Any other cause, in the words of the system. -/
  | other (description : String)
deriving DecidableEq

/-- The words for a failure of the system. -/
def HostFailure.message : HostFailure → String
  | missing => "No such file or directory (os error 2)"
  | notDirectory => "Not a directory (os error 20)"
  | isDirectory => "Is a directory (os error 21)"
  | nameTooLong => "File name too long (os error 36)"
  | nullInPath => "file name contained an unexpected NUL byte"
  | other description => description

/-- Why a command ends without having done its work. -/
inductive Complaint where
  /-- There is no command of that name. -/
  | unknownCommand
  /-- A context should follow. -/
  | missingContext
  /-- The path of the input should follow. -/
  | missingInputPath
  /-- The path of the output should follow. -/
  | missingOutputPath
  /-- The path of the file to look at should follow. -/
  | missingFilePath
  /-- The command has no such option. -/
  | unknownOption (argument : String)
  /-- The command needs to know where to write. -/
  | missingOutput
  /-- A key of a context for the varint dialect has no value. -/
  | missingValue (key : String)
  /-- An operation failed. -/
  | fault (fault : Fault)
  /-- The system failed. -/
  | host (failure : HostFailure)
deriving DecidableEq

/-- The words for a complaint. -/
def Complaint.message : Complaint → String
  | unknownCommand => "unknown command"
  | missingContext => "missing context"
  | missingInputPath => "missing input path"
  | missingOutputPath => "missing output path"
  | missingFilePath => "missing file path"
  | unknownOption argument => s!"unknown option: {argument}"
  | missingOutput => "missing --output"
  | missingValue key => s!"varint contexts need a value for key '{key}'"
  | fault cause => cause.message
  | host failure => failure.message

end AeadEnvelope.Command
