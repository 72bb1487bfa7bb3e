import ClassRegistry.Glob.Expansion

/-!
# Scanning for source files

Which files of a project are read: the includes say where to look, the ignores what to leave out,
and generated files and declaration files never count.
-/

namespace ClassRegistry

open Glob (Pattern PatternError)

/-- Where to look for source files. -/
structure ScanRequest where
  base : Path
  /-- Directories, files or patterns; without any the base itself is searched. -/
  includes : List String
  /-- Paths or patterns of what is left out. -/
  ignores : List String
  ignoreTestFiles : Bool

/-- What the user may want to know of a scan. -/
inductive ScanWarning where
  | invalidIgnore (pattern : String) (error : PatternError)
  | invalidInclude (pattern : String) (error : PatternError)
  | missingInclude (path : Path)
  | inaccessible (path : Path) (error : FileError)
  deriving DecidableEq

/-- The wording of a warning. -/
def ScanWarning.message : ScanWarning → String
  | .invalidIgnore pattern error =>
    "Invalid ignore pattern '" ++ pattern ++ "': " ++ error.message
  | .invalidInclude pattern error =>
    "Invalid glob pattern '" ++ pattern ++ "': " ++ error.message
  | .missingInclude path => "Include path does not exist: " ++ path.text
  | .inaccessible path error =>
    "Cannot access path: IO error for operation on " ++ path.text ++ ": " ++ error.message

/-- What a scan finds. -/
structure Scan where
  /-- In ascending order, each once. -/
  files : List String
  /-- The number of places that could not be searched. -/
  skipped : Nat
  warnings : List ScanWarning

/-! ## Names -/

/-- Patterns of the files that hold tests. -/
def testFilePatterns : List String :=
  ["**/*.test.tsx", "**/*.test.ts", "**/*.spec.tsx", "**/*.spec.ts", "**/__tests__/**"]

/-- Whether a file name ends with another text. -/
def hasEnding (name ending : String) : Bool :=
  ending.toList.isSuffixOf name.toList

/-- The name without its last dot and what follows it. -/
def stem? (name : String) : Option String :=
  match name.toList.reverse.dropWhile (· ≠ '.') with
  | [] => none
  | _ :: stem => some (String.ofList stem.reverse)

/-- Whether a file was generated, by its name: `Inventory.gen.ts`. -/
def isGeneratedName (name : String) : Bool :=
  (stem? name).any (hasEnding · ".gen")

/-- Whether a file only declares types, by its name. -/
def isDeclarationName (name : String) : Bool :=
  hasEnding name ".d.ts" || hasEnding name ".d.mts" || hasEnding name ".d.cts"

/-- Whether a path is that of a source file, by its name. -/
def isSourcePath (p : Path) : Bool :=
  match p.fileName? with
  | none => false
  | some name =>
    !isGeneratedName name && !isDeclarationName name &&
      ["ts", "tsx", "mts", "cts"].any fun extension => p.extension? = some extension

/-! ## Ignores -/

/-- What is left out of a scan. -/
structure IgnoreRules where
  /-- With everything below. -/
  paths : List Path
  patterns : List Pattern

/-- The ignores of a request that are patterns, each read. -/
def ScanRequest.ignorePatterns (r : ScanRequest) : List (String × Except PatternError Pattern) :=
  (r.ignores.filter Glob.hasWildcard).map fun text => (text, Pattern.parse text)

/-- What a request leaves out; an ignore that is no pattern is a path from the base on. -/
def ScanRequest.ignoreRules (r : ScanRequest) : IgnoreRules where
  paths := (r.ignores.filter fun text => !Glob.hasWildcard text).map fun text =>
    r.base.join ⟨text⟩
  patterns :=
    r.ignorePatterns.filterMap (·.2.toOption) ++
      if r.ignoreTestFiles then testFilePatterns.filterMap fun text => (Pattern.parse text).toOption
      else []

/-- Whether a path is left out. -/
def IgnoreRules.covers (rules : IgnoreRules) (p : Path) : Bool :=
  rules.paths.any p.startsWith || rules.patterns.any (·.matches p.text)

/-! ## Includes -/

/-- The places that an include names, and what is wrong with it. -/
def includedRoots (tree : FileTree) (base : Path) (text : String) : List Path × List ScanWarning :=
  let path := base.join ⟨text⟩
  if Glob.hasWildcard text then
    match Glob.directories tree path with
    | .ok roots => (roots, [])
    | .error error => ([], [.invalidInclude text error])
  else if tree.contains path then ([path], [])
  else ([], [.missingInclude path])

/-- The places that are searched. -/
def ScanRequest.roots (r : ScanRequest) (tree : FileTree) : List Path × List ScanWarning :=
  if r.includes.isEmpty then ([r.base], [])
  else
    let found := r.includes.map (includedRoots tree r.base)
    (found.flatMap (·.1), found.flatMap (·.2))

/-- What a search of a place comes upon. -/
structure Walk where
  paths : List Path
  /-- The directories that cannot be looked into. -/
  closed : List (Path × FileError)

/-- Why a path cannot be looked into, none when it can. -/
def accessError? (tree : FileTree) (p : Path) : Option FileError :=
  match tree.resolve p with
  | .ok _ => none
  | .error error => some error

/-- The path that names lead to. -/
def pathBelow (root : Path) (names : Address) : Path :=
  names.foldl (fun path name => path.join ⟨name⟩) root

/-- A place and everything below it, as far as the directories on the way can be looked into. Links
below are not followed. -/
def walk (tree : FileTree) (root : Path) : Walk :=
  match tree.resolve root with
  | .error error => ⟨[], [(root, error)]⟩
  | .ok address =>
    let met := (tree.below address).filter fun item =>
      (accessError? tree (pathBelow root item.1.dropLast)).isNone
    { paths := root :: met.map fun item => pathBelow root item.1
      closed := met.filterMap fun item =>
        if item.2 = .directory then
          let path := pathBelow root item.1
          (accessError? tree path).map fun error => (path, error)
        else none }

/-- Whether a path that was walked over is a source file to be read. -/
def isWanted (tree : FileTree) (rules : IgnoreRules) (p : Path) : Bool :=
  !rules.covers p && tree.isFile p && isSourcePath p

/-- Texts in ascending order, each once. -/
def sortedDistinct (texts : List String) : List String :=
  (texts.mergeSort fun a b => decide (a ≤ b)).eraseDups

/-- Looks for the source files of a project. -/
def scan (tree : FileTree) (r : ScanRequest) : Scan :=
  let ignoreWarnings := r.ignorePatterns.filterMap fun
    | (text, .error error) => some (.invalidIgnore text error)
    | (_, .ok _) => none
  let (roots, includeWarnings) := r.roots tree
  let walks := roots.map (walk tree)
  let accessWarnings := (walks.flatMap (·.closed)).map fun (path, error) =>
    .inaccessible path error
  let paths := walks.flatMap (·.paths)
  { files := sortedDistinct ((paths.filter (isWanted tree r.ignoreRules)).map (·.text))
    skipped := accessWarnings.length
    warnings := ignoreWarnings ++ includeWarnings ++ accessWarnings }

end ClassRegistry
