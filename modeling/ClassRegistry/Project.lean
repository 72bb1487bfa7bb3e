import ClassRegistry.Config.File
import ClassRegistry.Declaration.Extraction
import ClassRegistry.Generation
import ClassRegistry.Scan

/-!
# Projects

A project is a root directory, its settings and the source files that these settings lead to. Its
declarations are those of all files in the order of the files; a single file that cannot be read
fails the whole pass.
-/

namespace ClassRegistry

/-- A project that was looked through. -/
structure Project where
  root : Path
  config : Config
  /-- Whether a file was there to set the settings. -/
  isConfigured : Bool
  scan : Scan

/-- Why the declarations of a project cannot be told. -/
inductive SourceFailure where
  | unreadable (file : String) (error : FileError)
  | malformed (file : String) (error : SourceError)
  deriving DecidableEq, Repr

/-- The wording of a failure. -/
def SourceFailure.message : SourceFailure → String
  | .unreadable file error => "Failed to read file: " ++ file ++ ": " ++ error.message
  | .malformed file error => "Failed to parse file: " ++ file ++ ": " ++ error.message

namespace Project

/-- Reads the settings of a project and looks for its source files. An output directory that is
given takes the place of the one that is set. -/
def load (tree : FileTree) (root : Path) (outDir : Option String) : Except ConfigError Project :=
  (Config.load tree root).map fun loaded =>
    let config := { loaded.config with outDir := outDir.getD loaded.config.outDir }
    { root, config
      isConfigured := loaded.isFromFile
      scan := ClassRegistry.scan tree
        ⟨root, config.includes, config.ignores, config.ignoreTestFiles⟩ }

/-- The directory that generated files go to. -/
def outDir (p : Project) : Path :=
  p.root.under ⟨p.config.outDir⟩

/-- The declarations of one file. -/
def fileDeclarations (tree : FileTree) (file : String) :
    Except SourceFailure (List ClassDeclaration) :=
  match tree.readText ⟨file⟩ with
  | .error error => .error (.unreadable file error)
  | .ok text =>
    match (Source.ofText file text).declarations with
    | .error error => .error (.malformed file error)
    | .ok declarations => .ok declarations

/-- The declarations of all files. -/
def declarations (p : Project) (tree : FileTree) : Except SourceFailure (List ClassDeclaration) :=
  (p.scan.files.mapM (fileDeclarations tree)).map List.flatten

/-- The registries of a list of declarations. -/
def registries (p : Project) (declarations : List ClassDeclaration) :
    Except RegisterError Registries :=
  Registries.collect declarations p.config.collectOptions

/-- The registries of a list of declarations and their units. -/
def generation (p : Project) (tree : FileTree) (declarations : List ClassDeclaration) :
    Except RegisterError Generation :=
  generate tree.workingPath p.config.collectOptions (p.config.emitOptions p.outDir) declarations

end Project

end ClassRegistry
