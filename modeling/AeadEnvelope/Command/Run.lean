import AeadEnvelope.Command.Host
import AeadEnvelope.Command.Plan

/-!
# Carrying out a command line

The input is read, the work is done, and only then is anything written: one file, or the standard
output.
-/
namespace AeadEnvelope.Command

variable {m : Type → Type}

/-- Read the input of a plan. -/
def Host.read (host : Host m) : Input → m (Except HostFailure Bytes)
  | .standard => host.standardInput
  | .file path => host.readFile path

variable [Monad m]

/-- Leave the result of the work where it should go. -/
def Host.deliver (host : Host m) (result : Bytes) : Output → m Report
  | .standard => return ⟨0, result, ""⟩
  | .file path => do
    match ← host.writeFile path result with
    | .error failure => return .complaint (.host failure)
    | .ok () => return ⟨0, [], s!"Wrote {result.length} bytes to {path}\n"⟩

/-- Carry out a plan. -/
def Plan.carryOut (host : Host m) : Plan → m Report
  | .finish report => return report
  | .process input work output => do
    match ← host.read input with
    | .error failure => return .complaint (.host failure)
    | .ok bytes =>
      match work bytes with
      | .error complaint => return .complaint complaint
      | .ok result => host.deliver result output

/-- Carry out a command line without the name of the program. -/
def run (host : Host m) (arguments : List String) : m Report :=
  (Plan.ofArguments arguments).carryOut host

end AeadEnvelope.Command
