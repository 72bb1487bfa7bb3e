import ClassRegistry.Config
import ClassRegistry.Output
import ClassRegistry.Report.Diagnostic

/-!
# Reports

What a command prints when it is done, and the status that it ends with.
-/

namespace ClassRegistry

/-- The status that a run ends with. -/
inductive ExitStatus where
  | success
  /-- Registrations are wrong, or generated files are out of date. -/
  | failure
  /-- The run could not do its work. -/
  | error
  deriving DecidableEq, Repr

/-- The number of a status. -/
def ExitStatus.code : ExitStatus → Nat
  | .success => 0
  | .failure => 1
  | .error => 2

/-- What became of the units of a pass. -/
inductive UnitsOutcome where
  | written (records : List WriteRecord)
  | checked (pass : CheckPass)
  deriving DecidableEq, Repr

/-- What a command achieved. -/
inductive Summary where
  | generated (registryCount classCount : Nat) (outcome : UnitsOutcome)
  | listed (registries : Registries)
  | initialized (isCreated : Bool)
  deriving DecidableEq, Repr

/-- How a command ended. -/
structure CommandResult where
  outcome : Except RegisterError Summary
  /-- The number of source files that were scanned. -/
  scanned : Nat

/-- The status that a command ends with. -/
def CommandResult.exitStatus (r : CommandResult) : ExitStatus :=
  match r.outcome with
  | .error _ => .failure
  | .ok (.generated _ _ (.checked pass)) => if pass.stale.isEmpty then .success else .failure
  | .ok _ => .success

namespace Report

/-- A number and the noun for it. -/
def counted (count : Nat) (one many : String) : String :=
  toString count ++ " " ++ if count = 1 then one else many

/-- The line of a success. -/
def successLine (isColored : Bool) (text : String) : String :=
  Style.paint isColored [.green] "✓" ++ " " ++ Style.paint isColored [.green] text

/-- The line of a pass that found no registered class. -/
def nothingLine (isColored : Bool) (scanned : Nat) : String :=
  successLine isColored
    ("Scanned " ++ counted scanned "source file" "source files" ++
      " - no registered classes found")

/-- Registries, their classes and the files they were found in. -/
def totals (registryCount classCount : Nat) (preposition : String) (scanned : Nat) : String :=
  counted registryCount "registry" "registries" ++ " (" ++ counted classCount "class" "classes" ++
    ") " ++ preposition ++ " " ++ counted scanned "source file" "source files"

/-- The line of a file that was written; files that were left alone are shown on demand. -/
def recordLine? (isColored isVerbose : Bool) (record : WriteRecord) : Option String :=
  let line (styles : List Style) (label : String) : String :=
    "  " ++ Style.paint isColored styles label ++ " " ++ record.path.text
  match record.outcome with
  | .created => some (line [.bold, .green] "created")
  | .updated => some (line [.bold, .yellow] "updated")
  | .unchanged => if isVerbose then some (line [.dimmed] "unchanged") else none

/-- The lines of a pass that wrote files. -/
def writtenLines (isColored isVerbose : Bool) (registryCount classCount scanned : Nat)
    (records : List WriteRecord) : List String :=
  records.filterMap (recordLine? isColored isVerbose) ++
  [if registryCount = 0 then nothingLine isColored scanned
   else successLine isColored ("Generated " ++ totals registryCount classCount "from" scanned)]

/-- The lines of a pass that compared files. -/
def checkedLines (isColored : Bool) (scanned : Nat) (pass : CheckPass) : List String :=
  let files := if pass.checked = 1 then "file is" else "files are"
  if pass.stale.isEmpty then
    [if pass.checked = 0 then nothingLine isColored scanned
     else successLine isColored (toString pass.checked ++ " generated " ++ files ++ " up to date")]
  else
    (pass.stale.map fun path =>
      "  " ++ Style.paint isColored [.bold, .yellow] "stale" ++ " " ++ path.text) ++
    [Style.paint isColored [.red] "✘" ++ " " ++ toString pass.stale.length ++ " of " ++
      toString pass.checked ++ " generated " ++ files ++ " out of date (run " ++
      Style.paint isColored [.cyan] "reggen generate" ++ " to update)"]

/-- The path of the helper namespace of a registry with the given first member. -/
def helperPath (registry : String) (canonical : Member) : String :=
  if canonical.scope.isEmpty then helperName registry
  else canonical.scope ++ "." ++ helperName registry

/-- The lines of a registry: its helper and base type, then its members in a column. -/
def registryLines (isColored : Bool) (r : Registry) : List String :=
  match r.canonical? with
  | none => []
  | some canonical =>
    let widths := r.members.map fun m => Text.width m.typeName.toList
    let widest := widths.foldl max 0
    [Style.paint isColored [.bold] r.name ++ " " ++ Style.paint isColored [.blue] "->" ++ " " ++
      Style.paint isColored [.dimmed]
        (helperPath r.name canonical ++ " (base: " ++ canonical.valueType ++ ")")] ++
    r.members.map fun m =>
      "  " ++ m.typeName ++ blanks (widest - Text.width m.typeName.toList) ++ "  " ++
        Style.paint isColored [.dimmed] m.context.location.render

/-- The lines of a pass that listed registries. -/
def listedLines (isColored : Bool) (scanned : Nat) (registries : Registries) : List String :=
  if registries.isEmpty then [nothingLine isColored scanned]
  else
    registries.flatMap (registryLines isColored) ++
    ["",
      successLine isColored
        ("Found " ++ totals registries.length registries.memberCount "in" scanned)]

end Report

/-- The lines of a summary. -/
def Summary.lines (isColored isVerbose : Bool) (scanned : Nat) : Summary → List String
  | .generated registryCount classCount (.written records) =>
    Report.writtenLines isColored isVerbose registryCount classCount scanned records
  | .generated _ _ (.checked pass) => Report.checkedLines isColored scanned pass
  | .listed registries => Report.listedLines isColored scanned registries
  | .initialized true => [Report.successLine isColored ("Created " ++ Config.fileName)]
  | .initialized false => []

/-- What a command prints. -/
def CommandResult.text (isColored isVerbose : Bool) (r : CommandResult) : String :=
  linesText <| match r.outcome with
    | .ok summary => summary.lines isColored isVerbose r.scanned
    | .error error => error.lines isColored

end ClassRegistry
