import AeadEnvelope.Command.Complaint

/-!
# Places that paths lead to

A path is followed step by step through directories. Only the directory that a command runs in,
the ones above it and the root are known to be directories, so a path leads to one of them, to a
name in one of them, or through such a name to a place behind it. Which of the three it is does
not depend on the files that are there.
-/
namespace AeadEnvelope.Command

/-- The most bytes that a name may have. -/
def longestName : Nat := 255

/-- The most bytes that a path may have. -/
def longestPath : Nat := 4095

/-- A name in a directory. -/
structure Location where
  /-- The way to the directory: none, the root, or one level up and another one any number of
  times. -/
  parent : String
  /-- The name in that directory. -/
  name : String
deriving DecidableEq

namespace Location

/-- The shortest path to a location. -/
def path (location : Location) : String := location.parent ++ location.name

/-- Whether no file can have such a name. -/
def tooLong (location : Location) : Bool := decide (longestName < location.name.utf8ByteSize)

end Location

/-- Where a path leads. -/
inductive Place where
  /-- To a directory. -/
  | directory
  /-- To a name in a directory, with a slash behind it if it should name a directory too. -/
  | location (location : Location) (slashed : Bool)
  /-- To a place behind a name, which should name a directory. -/
  | behind (location : Location)
deriving DecidableEq

namespace Place

/-- The way to the directory above one. The root has none above it. -/
def levelUp (parent : String) : String := if parent = "/" then parent else parent ++ "../"

/-- Where the steps of a path lead from a directory. A step without characters stays there. -/
def ofSteps (parent : String) : List String → Place
  | [] => .directory
  | step :: later =>
    if step = "" ∨ step = "." then ofSteps parent later
    else if step = ".." then ofSteps (levelUp parent) later
    else if later.all String.isEmpty then .location ⟨parent, step⟩ (!later.isEmpty)
    else .behind ⟨parent, step⟩

/-- Where a path leads from the directory that a command runs in. -/
def ofPath (path : String) : Except HostFailure Place :=
  if '\x00' ∈ path.toList then .error .nullInPath
  else if path = "" then .error .missing
  else if longestPath < path.utf8ByteSize then .error .nameTooLong
  else
    let start := if path.toList.head? = some '/' then "/" else ""
    .ok (ofSteps start ((path.toList.splitOn '/').map String.ofList))

end Place

end AeadEnvelope.Command
