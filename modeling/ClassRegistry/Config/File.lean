import ClassRegistry.Config.Document
import ClassRegistry.FileTree

/-!
# Configuration files

A project's settings stand in a file of a fixed name, in the directory that a run starts from or in
one above it. The search ends at the first such file, and at the top of a working copy.
-/

namespace ClassRegistry

/-- Why there are no settings to go on with. -/
inductive ConfigError where
  | unreadable (error : FileError)
  | malformed (path : Path) (fault : Json.Fault)
  | flawed (flaw : ConfigFlaw)
  deriving DecidableEq, Repr

/-- The wording of an error. -/
def ConfigError.message : ConfigError → String
  | .unreadable error => error.message
  | .malformed path fault =>
    "Failed to parse config file: " ++ Text.quoted true path.text ++ ": " ++ fault.message
  | .flawed flaw => flaw.message

/-- Settings, and whether a file was there to set them. -/
structure LoadedConfig where
  config : Config
  isFromFile : Bool
  deriving DecidableEq, Repr

namespace Config

/-- The name of what stands at the top of a working copy. -/
def workingCopyMark : String := ".git"

/-- The configuration file of the first directory that has one, none when a directory before it is
the top of a working copy. -/
def findIn? (tree : FileTree) : List Path → Option Path
  | [] => none
  | directory :: above =>
    if tree.contains (directory.join ⟨fileName⟩) then some (directory.join ⟨fileName⟩)
    else if tree.contains (directory.join ⟨workingCopyMark⟩) then none
    else findIn? tree above

/-- The configuration file of a directory, or the nearest one above it. -/
def find? (tree : FileTree) (start : Path) : Option Path :=
  findIn? tree start.ancestors

/-- The settings of a configuration file. -/
def readFile (tree : FileTree) (path : Path) : Except ConfigError Config :=
  match tree.readText path with
  | .error error => .error (.unreadable error)
  | .ok document =>
    match parse document with
    | .error fault => .error (.malformed path fault)
    | .ok config =>
      match config.flaw? with
      | some flaw => .error (.flawed flaw)
      | none => .ok config

/-- The settings of a directory. -/
def load (tree : FileTree) (start : Path) : Except ConfigError LoadedConfig :=
  match find? tree start with
  | some path => (readFile tree path).map fun config => ⟨config, true⟩
  | none => .ok ⟨standard, false⟩

end Config

end ClassRegistry
