import ClassRegistry.Generated.Render
import ClassRegistry.Glob.Pattern

/-!
# Configuration

What a project may set for itself, the usual settings, and which settings cannot be used.
-/

namespace ClassRegistry

open Glob (Pattern PatternError)

/-- The settings of a project. -/
structure Config where
  /-- Directories, files or patterns of what is scanned. -/
  includes : List String
  /-- Paths or patterns of what is left out of a scan. -/
  ignores : List String
  ignoreTestFiles : Bool
  /-- The directory that generated files go to. -/
  outDir : String
  /-- A decorator whose name contains this text is a register marker. -/
  marker : String
  /-- The parameter that carries the registry name. -/
  registryArgument : String
  /-- The extension of generated files, without its dot. -/
  extension : String
  /-- Refuse members without a base type. -/
  requireBaseType : Bool
  deriving DecidableEq, Repr

/-- Why settings cannot be used. -/
inductive ConfigFlaw where
  | ignorePattern (text : String) (error : PatternError)
  | includePattern (text : String) (error : PatternError)
  | emptyMarker
  /-- The registry argument is no identifier. -/
  | registryArgument (text : String)
  /-- The extension is empty or starts with a dot. -/
  | extension (text : String)
  deriving DecidableEq, Repr

/-- The wording of a flaw. -/
def ConfigFlaw.message : ConfigFlaw → String
  | .ignorePattern text error =>
    "Invalid glob pattern in 'ignores': \"" ++ text ++ "\": " ++ error.message
  | .includePattern text error =>
    "Invalid glob pattern in 'includes': \"" ++ text ++ "\": " ++ error.message
  | .emptyMarker => "'marker' must not be empty"
  | .registryArgument text => "'registryArgument' must be an identifier, got \"" ++ text ++ "\""
  | .extension text =>
    "'extension' must be a bare extension such as \"ts\", got \"" ++ text ++ "\""

namespace Config

/-- The name of the file that holds the settings of a project. -/
def fileName : String := ".reggenrc.json"

/-- The settings of a project that sets nothing. -/
def standard : Config where
  includes := ["src"]
  ignores := ["**/node_modules/**"]
  ignoreTestFiles := true
  outDir := "./src/generated"
  marker := CollectOptions.standard.marker
  registryArgument := CollectOptions.standard.registryArgument
  extension := "ts"
  requireBaseType := CollectOptions.standard.requireBaseType

/-- What is wrong with a text as a pattern. -/
def patternError? (text : String) : Option PatternError :=
  match Pattern.parse text with
  | .ok _ => none
  | .error error => some error

/-- The first flaw of the ignores; all of them have to be patterns. -/
def ignoresFlaw? (c : Config) : Option ConfigFlaw :=
  c.ignores.findSome? fun text => (patternError? text).map (.ignorePattern text)

/-- The first flaw of the includes; one without wildcards is a plain path. -/
def includesFlaw? (c : Config) : Option ConfigFlaw :=
  (c.includes.filter Glob.hasWildcard).findSome? fun text =>
    (patternError? text).map (.includePattern text)

/-- The flaw of the marker. -/
def markerFlaw? (c : Config) : Option ConfigFlaw :=
  if c.marker.isEmpty then some .emptyMarker else none

/-- The flaw of the registry argument. -/
def registryArgumentFlaw? (c : Config) : Option ConfigFlaw :=
  if Text.isName c.registryArgument then none else some (.registryArgument c.registryArgument)

/-- The flaw of the extension. -/
def extensionFlaw? (c : Config) : Option ConfigFlaw :=
  if c.extension.isEmpty || c.extension.toList.head? == some '.' then
    some (.extension c.extension)
  else none

/-- The first flaw of the settings. -/
def flaw? (c : Config) : Option ConfigFlaw :=
  c.ignoresFlaw? <|> c.includesFlaw? <|> c.markerFlaw? <|> c.registryArgumentFlaw? <|>
    c.extensionFlaw?

/-- How the settings have members recognised. -/
def collectOptions (c : Config) : CollectOptions :=
  ⟨c.marker, c.registryArgument, c.requireBaseType⟩

/-- How the settings have units written for a directory. -/
def emitOptions (c : Config) (outDir : Path) : EmitOptions :=
  ⟨c.extension, outDir⟩

end Config

end ClassRegistry
