import ClassRegistry.Run

/-!
# The program

Reads from disk what a command may need to see, runs the command on that, and writes what has
changed back. Nothing is decided here.
-/

namespace ClassRegistry

namespace Disk

/-- What was read so far. -/
structure Snapshot where
  entries : List (Address × Entry)
  /-- The directories of which everything below was read. -/
  walked : List Address

/-- The path of an address. -/
def addressPath (address : Address) : String :=
  "/" ++ "/".intercalate address

/-- The address of an absolute path without links. -/
def pathAddress (path : String) : Address :=
  (Path.mk path).names.filter (· ≠ "")

/-- Whether the contents of a file may be asked for. -/
def isOfInterest (name : String) : Bool :=
  name = Config.fileName || hasEnding name "ts" || hasEnding name "tsx" || isGeneratedName name

/-- The entry at an address, when there is one. A link is read as one to the place it leads to in
the end, or to itself when there is none. -/
def readEntry (address : Address) : IO (Option Entry) := do
  let item := IO.FS.DirEntry.mk (addressPath address.dropLast) (address.getLast?.getD "")
  match ← item.path.symlinkMetadata.toBaseIO with
  | .error _ => return none
  | .ok found =>
    match found.type with
    | .dir => return some .directory
    | .symlink =>
      match ← item.path.metadata.toBaseIO with
      | .ok _ => return some (.link ⟨toString (← IO.FS.realPath item.path)⟩)
      | .error _ => return some (.link ⟨item.fileName⟩)
    | _ =>
      if isOfInterest item.fileName then
        match ← (IO.FS.readBinFile item.path).toBaseIO with
        | .ok contents => return some (.file contents)
        | .error _ => return some (.file .empty)
      else return some (.file .empty)

/-- Adds the entry at an address, unless it is known. -/
def addEntry (s : Snapshot) (address : Address) : IO (Snapshot × Option Entry) := do
  match s.entries.find? (·.1 = address) with
  | some item => return (s, some item.2)
  | none =>
    match ← readEntry address with
    | some entry => return ({ s with entries := (address, entry) :: s.entries }, some entry)
    | none => return (s, none)

mutual

/-- Reads the entries that the names of a path lead through, and gives the last one's address. -/
partial def readAlong (s : Snapshot) (address : Address) :
    List String → IO (Snapshot × Option Address)
  | [] => return (s, some address)
  | name :: rest => do
    if name = "" || name = "." then readAlong s address rest
    else if name = ".." then readAlong s address.dropLast rest
    else
      let (s, entry) ← addEntry s (address ++ [name])
      match entry with
      | some (.link target) =>
        if target.isAbsolute then
          let (s, reached) ← readAlong s [] target.names
          match reached with
          | some address => readAlong s address rest
          | none => return (s, none)
        else return (s, none)
      | some _ => readAlong s (address ++ [name]) rest
      | none => return (s, none)

/-- Reads everything below an address, and what links lead to from there. -/
partial def readBelow (s : Snapshot) (address : Address) : IO Snapshot := do
  if s.walked.contains address then return s
  let mut s := { s with walked := address :: s.walked }
  let items ← (do (← IO.FS.realPath (addressPath address)).readDir).toBaseIO
  for item in items.toOption.getD #[] do
    let place := address ++ [item.fileName]
    let (more, entry) ← addEntry s place
    s := more
    match entry with
    | some .directory => s ← readBelow s place
    | some (.link target) =>
      if target.isAbsolute then
        let (more, reached) ← readAlong s [] target.names
        s := more
        if let some address := reached then s ← readBelow s address
    | _ => pure ()
  return s

end

/-- Reads along a path from the working directory. -/
def readPath (workingDirectory : Address) (s : Snapshot) (p : Path) :
    IO (Snapshot × Option Address) :=
  readAlong s (FileTree.startOf workingDirectory p) p.names

/-- Reads along a path and everything below. -/
def readWhole (workingDirectory : Address) (s : Snapshot) (p : Path) : IO Snapshot := do
  match ← readPath workingDirectory s p with
  | (s, some address) => readBelow s address
  | (s, none) => return s

/-- The part of an include in front of the first name that may be a pattern. -/
def fixedPart (text : String) : String :=
  if Glob.hasWildcard text then
    "/".intercalate ((Path.mk text).names.takeWhile fun name =>
      !Glob.hasWildcard name && !name.toList.contains '[')
  else text

/-- The places that a command may read or write once its settings are known. -/
def places (tree : FileTree) (root : Path) (outDir : Option String) : List Path :=
  match Config.load tree root with
  | .error _ => []
  | .ok loaded =>
    root :: root.under ⟨outDir.getD loaded.config.outDir⟩ ::
      loaded.config.includes.map fun text => root.join ⟨fixedPart text⟩

/-- Reads what a command on a project may need. -/
def readProject (workingDirectory : Address) (options : ProjectOptions) (outDir : Option String) :
    IO FileTree := do
  let here := addressPath workingDirectory
  let (start, _) ← readPath [] ⟨[], []⟩ ⟨here⟩
  let mut s := start
  for directory in options.root.ancestors do
    for name in [Config.fileName, Config.workingCopyMark] do
      s := (← readPath workingDirectory s (directory.join ⟨name⟩)).1
  for place in places ⟨s.entries, workingDirectory⟩ options.root outDir do
    s ← readWhole workingDirectory s place
  return ⟨s.entries.reverse, workingDirectory⟩

/-- Reads what a command may need. -/
def read (workingDirectory : Address) : Command → IO FileTree
  | .generate options outDir _ => readProject workingDirectory options outDir
  | .list options => readProject workingDirectory options none
  | .init => readProject workingDirectory ⟨none, false⟩ none

/-- Writes what has changed. -/
def write (before after : FileTree) : IO Unit :=
  (after.changedSince before).forM fun (address, entry) =>
    match entry with
    | .directory => IO.FS.createDirAll (addressPath address)
    | .file contents => IO.FS.writeBinFile (addressPath address) contents
    | .link _ => pure ()

end Disk

/-- Runs a command on the files of the disk. -/
def Command.runOnDisk (command : Command) (isColored : Bool) : IO ExitStatus := do
  let workingDirectory := Disk.pathAddress (toString (← IO.currentDir))
  let before ← Disk.read workingDirectory command
  let r := command.run before
  Disk.write before r.tree
  IO.eprint r.log
  IO.print (r.output isColored command.isVerbose)
  return r.exitStatus

/-- Does what a command line asks for. -/
def runWords (words : List String) : IO ExitStatus := do
  match CommandLine.parse words with
  | .ok .overview | .ok .help =>
    IO.print overview
    return .success
  | .ok .version =>
    IO.println "reggen 0.1.0"
    return .success
  | .error error =>
    IO.eprintln ("error: " ++ error.message)
    return .error
  | .ok (.run command) =>
    let isColored := (← (← IO.getStdout).isTty) && (← IO.getEnv "NO_COLOR").isNone
    try command.runOnDisk isColored
    catch e =>
      IO.eprintln ("Error: " ++ toString e)
      return .error

end ClassRegistry

/-- Does what the words of the command line ask for. -/
def main (words : List String) : IO UInt32 := do
  return (← ClassRegistry.runWords words).code.toUInt32
