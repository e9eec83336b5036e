import AeadEnvelope.Binary.Bytes
import AeadEnvelope.Command.Place
import AeadEnvelope.Dictionary

/-!
# Where a command runs

A command reads its input from a host and leaves its output there. One host is a directory of
files held in memory, whose paths are followed as a file system follows them.
-/
namespace AeadEnvelope.Command

/-- What a command needs of its surroundings. -/
structure Host (m : Type → Type) where
  /-- All of the standard input. -/
  standardInput : m (Except HostFailure Bytes)
  /-- All of a file. -/
  readFile : (path : String) → m (Except HostFailure Bytes)
  /-- Make a file of the given bytes, in place of one that may be there. -/
  writeFile : (path : String) → (content : Bytes) → m (Except HostFailure Unit)

/-- Files by the shortest paths to them from the directory that a command runs in. -/
abbrev Directory := Dictionary Bytes

namespace Directory

/-- Why no file is found at a location, or nothing behind it. -/
def obstacle (directory : Directory) (location : Location) : HostFailure :=
  if location.tooLong then .nameTooLong
  else if directory.contains location.path then .notDirectory
  else .missing

/-- All of the file that a path leads to. -/
def readFile (path : String) (directory : Directory) : Except HostFailure Bytes :=
  match Place.ofPath path with
  | .error failure => .error failure
  | .ok .directory => .error .isDirectory
  | .ok (.behind location) => .error (directory.obstacle location)
  | .ok (.location location true) => .error (directory.obstacle location)
  | .ok (.location location false) =>
    match directory.find? location.path with
    | some content => .ok content
    | none => .error (directory.obstacle location)

/-- Where a file can be written under a path. A path that ends in a slash never names a file. -/
def destination (path : String) (directory : Directory) : Except HostFailure Location :=
  match Place.ofPath path with
  | .error failure => .error failure
  | .ok .directory => .error .isDirectory
  | .ok (.behind location) => .error (directory.obstacle location)
  | .ok (.location _ true) => .error .isDirectory
  | .ok (.location location false) =>
    if location.tooLong then .error .nameTooLong else .ok location

/-- The directory with a file of the given bytes under a path, or as it was. -/
def writeFile (path : String) (content : Bytes) (directory : Directory) :
    Except HostFailure Unit × Directory :=
  match destination path directory with
  | .error failure => (.error failure, directory)
  | .ok location => (.ok (), directory.insert location.path content)

/-- A path under which a file can be written leads to its location. -/
theorem ofPath_of_destination {path : String} {directory : Directory} {location : Location}
    (found : destination path directory = .ok location) :
    Place.ofPath path = .ok (.location location false) := by
  rw [destination] at found
  split at found
  case h_5 place =>
    split at found
    · contradiction
    · obtain rfl := Except.ok.inj found
      exact place
  all_goals contradiction

/-- The directory as a host with the given standard input. -/
def host (input : Bytes) : Host (StateM Directory) where
  standardInput := fun directory => (.ok input, directory)
  readFile := fun path directory => (readFile path directory, directory)
  writeFile := writeFile

/-- Files in the directory itself that were not there before with the same bytes. -/
def changes (before after : Directory) : List (String × Bytes) :=
  after.entries.filter fun entry =>
    !entry.1.toList.contains '/' && before.find? entry.1 != some entry.2

end Directory

end AeadEnvelope.Command
