import AeadEnvelope.Command.Run

/-!
# The program

The command line on the files and the streams of the system.
-/
namespace AeadEnvelope.Command

/-- All that a stream still holds, behind what was read of it. -/
partial def readToEnd (stream : IO.FS.Stream) (before : ByteArray) : IO ByteArray := do
  let chunk ← stream.read 65536
  if chunk.isEmpty then return before else readToEnd stream (before ++ chunk)

/-- A failure of the system by its number, or else in the words of the system. Some calls give the
number with a minus sign. -/
def numbered (code : UInt32) (details : String) : HostFailure :=
  match code.toInt32.toInt.natAbs with
  | 20 => .notDirectory
  | 21 => .isDirectory
  | 36 => .nameTooLong
  | number => .other s!"{details.capitalize} (os error {number})"

/-- The cause of a failure of the system. -/
def failureOf : IO.Error → HostFailure
  | .noFileOrDirectory .. => .missing
  | .inappropriateType _ code details => numbered code details
  | .invalidArgument _ code details => numbered code details
  | .permissionDenied _ code details => numbered code details
  | .resourceExhausted _ code details => numbered code details
  | failure => .other (toString failure)

/-- Let a failure of the system be a value. -/
def attempt {α : Type} (action : IO α) : IO (Except HostFailure α) := do
  try return .ok (← action) catch failure => return .error (failureOf failure)

/-- The files and the standard input of the system. -/
def systemHost : Host IO where
  standardInput := attempt do return (← readToEnd (← IO.getStdin) .empty).data.toList
  readFile path := attempt do return (← IO.FS.readBinFile path).data.toList
  writeFile path content := attempt (IO.FS.writeBinFile path ⟨content.toArray⟩)

end AeadEnvelope.Command

open AeadEnvelope.Command in
/-- Carry out the command line that the program was started with. -/
def main (arguments : List String) : IO UInt32 := do
  let report ← run systemHost arguments
  let output ← IO.getStdout
  output.write ⟨report.output.toArray⟩
  output.flush
  IO.eprint report.messages
  return report.exitCode.toUInt32
