import ClassRegistry.FileTree
import ClassRegistry.Generated.Render

/-!
# Output

What becomes of generated units: they are written into a directory, where a file that already has
the right contents is left alone, or only compared with what is there.

Main statement: a unit is up to date exactly when writing it would change nothing.
-/

namespace ClassRegistry

/-- What writing a file amounted to. -/
inductive WriteOutcome where
  | created
  | updated
  | unchanged
  deriving DecidableEq, Repr

/-- A file that was written or left alone. -/
structure WriteRecord where
  path : Path
  outcome : WriteOutcome
  deriving DecidableEq, Repr

/-- Why a unit could not be written. -/
inductive OutputError where
  | directory (path : Path) (error : FileError)
  | file (path : Path) (error : FileError)
  deriving DecidableEq, Repr

/-- What failed. -/
def OutputError.summary : OutputError → String
  | .directory path _ => "Failed to create output directory: " ++ path.text
  | .file path _ => "Failed to write file: " ++ path.text

/-- The cause of the failure. -/
def OutputError.cause : OutputError → FileError
  | .directory _ error | .file _ error => error

/-- The wording of an error. -/
def OutputError.message (e : OutputError) : String :=
  e.summary ++ ": " ++ e.cause.message

namespace GeneratedUnit

/-- Where a unit belongs. -/
def path (outDir : Path) (u : GeneratedUnit) : Path :=
  outDir.join ⟨u.fileName⟩

/-- Whether the file of a unit holds its contents. -/
def isUpToDate (tree : FileTree) (outDir : Path) (u : GeneratedUnit) : Bool :=
  match tree.readText (u.path outDir) with
  | .ok text => text = u.contents
  | .error _ => false

/-- What writing a unit amounts to. A file that is no text counts as if it were not there. -/
def outcome (tree : FileTree) (outDir : Path) (u : GeneratedUnit) : WriteOutcome :=
  match tree.readText (u.path outDir) with
  | .ok text => if text = u.contents then .unchanged else .updated
  | .error _ => .created

/-- Writes a unit unless it is up to date, in a directory that is there. -/
def writeFile (tree : FileTree) (outDir : Path) (u : GeneratedUnit) :
    Except OutputError WriteRecord × FileTree :=
  let path := u.path outDir
  match u.outcome tree outDir with
  | .unchanged => (.ok ⟨path, .unchanged⟩, tree)
  | outcome =>
    match tree.write path u.contents.toUTF8 with
    | .ok tree => (.ok ⟨path, outcome⟩, tree)
    | .error error => (.error (.file path error), tree)

/-- Writes a unit into a directory, which is made when it is missing. -/
def write (tree : FileTree) (outDir : Path) (u : GeneratedUnit) :
    Except OutputError WriteRecord × FileTree :=
  match tree.makeDirectories outDir with
  | (.error error, tree) => (.error (.directory outDir error), tree)
  | (.ok (), tree) => u.writeFile tree outDir

end GeneratedUnit

/-! ## Several units -/

/-- What came of writing units: a record for each one that was written, and what stopped the
others. -/
structure WritePass where
  records : List WriteRecord
  failure? : Option OutputError
  tree : FileTree

/-- Writes units one after the other up to the first failure. -/
def writeUnits (tree : FileTree) (outDir : Path) : List GeneratedUnit → WritePass
  | [] => ⟨[], none, tree⟩
  | u :: rest =>
    match u.write tree outDir with
    | (.error error, tree) => ⟨[], some error, tree⟩
    | (.ok record, tree) =>
      let pass := writeUnits tree outDir rest
      { pass with records := record :: pass.records }

/-- The number of files that were not as they should be. -/
def changedCount (records : List WriteRecord) : Nat :=
  records.countP fun record => record.outcome ≠ .unchanged

/-- What a comparison found. -/
structure CheckPass where
  checked : Nat
  /-- The files that are missing or hold something else. -/
  stale : List Path
  deriving DecidableEq, Repr

/-- Compares units with the files that are there. -/
def checkUnits (tree : FileTree) (outDir : Path) (units : List GeneratedUnit) : CheckPass where
  checked := units.length
  stale := (units.filter fun u => !u.isUpToDate tree outDir).map (·.path outDir)

/-- A unit is up to date when writing it would change nothing. -/
theorem GeneratedUnit.isUpToDate_iff {tree : FileTree} {outDir : Path} {u : GeneratedUnit} :
    u.isUpToDate tree outDir = true ↔ u.outcome tree outDir = .unchanged := by
  unfold isUpToDate outcome
  split
  · simp
  · simp

end ClassRegistry
