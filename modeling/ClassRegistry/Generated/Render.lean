import ClassRegistry.Generated.Imports
import ClassRegistry.Generated.Specifier
import ClassRegistry.Registry

/-!
# Generated units

Each registry becomes one TypeScript file: a helper namespace with a single `Type` map from class
name to a fresh instance, in the order the members were found, typed by the base type of the first
member. Members of global scripts are referred to by name and the helper is nested in the namespace
of the first member. As soon as one member belongs to a module the file is a module too: it imports
what modules hand out and exports the helper at the top level.
-/

namespace ClassRegistry

/-- How units are written. -/
structure EmitOptions where
  /-- The file extension, without its dot. -/
  extension : String
  /-- The directory that the units go to; imports are relative to it. -/
  outDir : Path
  deriving DecidableEq, Repr

/-- One generated file. -/
structure GeneratedUnit where
  registry : String
  fileName : String
  contents : String
  deriving DecidableEq, Repr

/-- The first line of every unit. -/
def generatedHeader : String :=
  "// <auto-generated> reggen: do not edit by hand."

/-- The file name of the unit of a registry. -/
def generatedFileName (registry extension : String) : String :=
  registry ++ ".gen." ++ extension

/-- The helper namespace of a registry. -/
def helperName (registry : String) : String :=
  registry ++ "Helper"

/-- Each line ends with a line feed. -/
def linesText (lines : List String) : String :=
  String.join (lines.map (· ++ "\n"))

namespace Member

/-- The type of the map's values: the base type of the first member. -/
def valueType (canonical : Member) : String :=
  if canonical.baseType.isEmpty then "unknown" else canonical.baseType

/-- The class by its namespace and name. -/
def qualifiedName (m : Member) : String :=
  if m.scope.isEmpty then m.typeName else m.scope ++ "." ++ m.typeName

/-- The name under which the module of the class hands it out. -/
def exportName? (m : Member) : Option ExportName :=
  m.origin.bind (·.exportName)

/-- How a generated module refers to the class: an import is bound to the class name, a class of a
script is global. -/
def moduleReference (m : Member) : String :=
  match m.exportName? with
  | some _ => m.typeName
  | none => m.qualifiedName

end Member

/-- The `Type` map: one line per member, the class name beside a fresh instance. -/
def typeMapLines (indent valueType : String) (entries : List (String × String)) : List String :=
  let mapType := "Map<string, " ++ valueType ++ ">"
  [indent ++ "    export const Type: " ++ mapType ++ " = new " ++ mapType ++ "(["] ++
  (entries.map fun (key, reference) =>
    indent ++ "        [\"" ++ key ++ "\", new " ++ reference ++ "()],") ++
  [indent ++ "    ]);"]

/-- The unit of a registry whose members all belong to global scripts. -/
def scriptLines (registry : String) (canonical : Member) (members : List Member) : List String :=
  let nested := !canonical.scope.isEmpty
  let indent := if nested then "    " else ""
  let entries := members.map fun m => (m.typeName, m.typeName)
  [generatedHeader] ++
  (if nested then ["namespace " ++ canonical.scope ++ " \x7b"] else []) ++
  [indent ++ (if nested then "export " else "") ++ "namespace " ++ helperName registry ++
    " \x7b"] ++
  typeMapLines indent canonical.valueType entries ++
  [indent ++ "\x7d"] ++
  (if nested then ["\x7d"] else [])

/-- The specifier of the module that an import comes from. -/
def ImportSource.specifier (workingDirectory outDir : Path) : ImportSource → String
  | .file path => Path.specifier workingDirectory outDir ⟨path⟩
  | .package name => name

/-- Imports a member under its class name, when its module hands it out. -/
def importMember (workingDirectory outDir : Path) (table : ImportTable) (m : Member) :
    ImportTable :=
  match m.exportName? with
  | some exported =>
    table.add (Path.specifier workingDirectory outDir ⟨m.context.location.file⟩) m.typeName
      exported.imported
  | none => table

/-- Imports what stands behind the base type of the first member. -/
def importBase (workingDirectory outDir : Path) (table : ImportTable) (canonical : Member) :
    ImportTable :=
  match canonical.origin.bind (·.baseImport) with
  | some base => table.add (base.source.specifier workingDirectory outDir) base.name base.imported
  | none => table

/-- The imports of the unit of a registry: its members in order, then the base type. -/
def moduleImports (workingDirectory outDir : Path) (canonical : Member) (members : List Member) :
    ImportTable :=
  importBase workingDirectory outDir
    (members.foldl (importMember workingDirectory outDir) []) canonical

/-- The unit of a registry with a member that belongs to a module. -/
def moduleLines (workingDirectory outDir : Path) (registry : String) (canonical : Member)
    (members : List Member) : List String :=
  let table := moduleImports workingDirectory outDir canonical members
  let entries := members.map fun m => (m.typeName, m.moduleReference)
  [generatedHeader] ++ table.lines ++ [""] ++
  ["export namespace " ++ helperName registry ++ " \x7b"] ++
  typeMapLines "" canonical.valueType entries ++
  ["\x7d"]

namespace Registry

/-- Whether the unit has to be a module. -/
def needsModule (r : Registry) : Bool :=
  r.members.any (·.origin.isSome)

/-- The generated file of a registry, none without members. -/
def unit? (workingDirectory : Path) (options : EmitOptions) (r : Registry) :
    Option GeneratedUnit :=
  r.canonical?.map fun canonical =>
    let lines :=
      if r.needsModule then
        moduleLines workingDirectory options.outDir r.name canonical r.members
      else scriptLines r.name canonical r.members
    ⟨r.name, generatedFileName r.name options.extension, linesText lines⟩

end Registry

/-- The generated files of all registries, in order. -/
def Registries.units (workingDirectory : Path) (options : EmitOptions)
    (registries : Registries) : List GeneratedUnit :=
  registries.filterMap (·.unit? workingDirectory options)

end ClassRegistry
