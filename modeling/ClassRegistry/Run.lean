import ClassRegistry.CommandLine
import ClassRegistry.Project
import ClassRegistry.Report

/-!
# Runs

What a command does to a file tree and what it has to say. Only `generate` without `--check`,
after a pass without any failure, and `init` change the tree.
-/

namespace ClassRegistry

/-- Why a command could not do its work. -/
inductive RunError where
  | config (error : ConfigError)
  | source (failure : SourceFailure)
  | output (error : OutputError)
  /-- There is a configuration file already. -/
  | configExists
  /-- The configuration file cannot be written. -/
  | configUnwritable (error : FileError)
  deriving DecidableEq, Repr

/-- The wording of an error. -/
def RunError.message : RunError → String
  | .config error => error.message
  | .source failure => failure.message
  | .output error => error.message
  | .configExists => Config.fileName ++ " already exists"
  | .configUnwritable error => error.message

/-- What a command came to. -/
structure Run where
  result : Except RunError CommandResult
  /-- What was to be said along the way. -/
  notices : List String
  /-- The files as they are afterwards. -/
  tree : FileTree

namespace Run

/-- The status that a run ends with. -/
def exitStatus (r : Run) : ExitStatus :=
  match r.result with
  | .ok result => result.exitStatus
  | .error _ => .error

/-- What a run prints as its result. -/
def output (r : Run) (isColored isVerbose : Bool) : String :=
  match r.result with
  | .ok result => result.text isColored isVerbose
  | .error _ => ""

/-- What a run says besides. -/
def log (r : Run) : String :=
  linesText <| r.notices ++ match r.result with
    | .ok _ => []
    | .error error => ["Error: " ++ error.message]

end Run

/-- The warnings of a scan, one line each. -/
def Scan.log (s : Scan) : List String :=
  s.warnings.map fun warning => "warning: " ++ warning.message

/-- What there is to say when a project was looked through. -/
def Project.notices (p : Project) (isVerbose : Bool) : List String :=
  (if isVerbose && !p.isConfigured then
    ["Note: No " ++ Config.fileName ++ " found, using default configuration"]
   else []) ++
  (if isVerbose then p.scan.log else []) ++
  (if p.scan.skipped = 0 then []
   else ["Warning: " ++ toString p.scan.skipped ++ " path(s) skipped due to access errors" ++
    if isVerbose then "" else " (use -v for details)"])

/-- What there is to say when the sources of a project were read. -/
def Project.parsedNotices (p : Project) (isVerbose : Bool) : List String :=
  p.notices isVerbose ++
    if isVerbose then ["Parsed " ++ toString p.scan.files.length ++ " source file(s)"] else []

/-- The root that options name, by default the working directory. -/
def ProjectOptions.root (o : ProjectOptions) : Path :=
  o.sourceRoot.getD ⟨"."⟩

/-- Runs what follows on a project and its declarations. -/
def withDeclarations (tree : FileTree) (o : ProjectOptions) (outDir : Option String)
    (next : Project → List ClassDeclaration → Run) : Run :=
  match Project.load tree o.root outDir with
  | .error error => ⟨.error (.config error), [], tree⟩
  | .ok p =>
    match p.declarations tree with
    | .error failure => ⟨.error (.source failure), p.notices o.isVerbose, tree⟩
    | .ok declarations => next p declarations

/-- Writes the units of a generation. -/
def writeGeneration (tree : FileTree) (p : Project) (isVerbose : Bool) (g : Generation) : Run :=
  let pass := writeUnits tree p.outDir g.units
  let notices := p.parsedNotices isVerbose
  match pass.failure? with
  | some error => ⟨.error (.output error), notices, pass.tree⟩
  | none =>
    let summary := .generated g.registries.length g.registries.memberCount (.written pass.records)
    let wrote := "Wrote " ++ toString (changedCount pass.records) ++ " of " ++
      toString pass.records.length ++ " file(s) in " ++ p.outDir.text
    ⟨.ok ⟨.ok summary, p.scan.files.length⟩,
      notices ++ if isVerbose then [wrote] else [], pass.tree⟩

/-- Compares the units of a generation with the files that are there. -/
def checkGeneration (tree : FileTree) (p : Project) (isVerbose : Bool) (g : Generation) : Run :=
  let summary := .generated g.registries.length g.registries.memberCount
    (.checked (checkUnits tree p.outDir g.units))
  ⟨.ok ⟨.ok summary, p.scan.files.length⟩, p.parsedNotices isVerbose, tree⟩

/-- Generates the files of a project, or only checks them. -/
def runGenerate (tree : FileTree) (o : ProjectOptions) (outDir : Option String) (isCheck : Bool) :
    Run :=
  withDeclarations tree o outDir fun p declarations =>
    match p.generation tree declarations with
    | .error error => ⟨.ok ⟨.error error, p.scan.files.length⟩, p.parsedNotices o.isVerbose, tree⟩
    | .ok g =>
      if isCheck then checkGeneration tree p o.isVerbose g
      else writeGeneration tree p o.isVerbose g

/-- Lists the registries of a project. -/
def runList (tree : FileTree) (o : ProjectOptions) : Run :=
  withDeclarations tree o none fun p declarations =>
    let outcome := (p.registries declarations).map Summary.listed
    ⟨.ok ⟨outcome, p.scan.files.length⟩, p.parsedNotices o.isVerbose, tree⟩

/-- Writes the usual settings into a configuration file in the working directory. -/
def runInit (tree : FileTree) : Run :=
  let path : Path := ⟨Config.fileName⟩
  if tree.contains path then ⟨.error .configExists, [], tree⟩
  else
    match tree.write path Config.standard.render.toUTF8 with
    | .error error => ⟨.error (.configUnwritable error), [], tree⟩
    | .ok tree => ⟨.ok ⟨.ok (.initialized true), 0⟩, [], tree⟩

namespace Command

/-- Whether a command is to tell more. -/
def isVerbose : Command → Bool
  | .generate options _ _ | .list options => options.isVerbose
  | .init => false

/-- Runs a command on a file tree. -/
def run (tree : FileTree) : Command → Run
  | .generate options outDir isCheck => runGenerate tree options outDir isCheck
  | .list options => runList tree options
  | .init => runInit tree

end Command

/-- The overview of the commands. -/
def overview : String :=
  linesText
    ["Generate name-to-instance registry tables from decorated TypeScript classes",
      "",
      "Usage: reggen [COMMAND]",
      "",
      "Commands:",
      "  generate  Generate registry lookup tables from decorated classes",
      "  list      List registries and their classes without writing files",
      "  init      Initialize a new .reggenrc.json configuration file",
      "  help      Print this message or the help of the given subcommand(s)",
      "",
      "Options:",
      "  -h, --help     Print help",
      "  -V, --version  Print version"]

end ClassRegistry
