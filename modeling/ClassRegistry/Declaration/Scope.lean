import ClassRegistry.Declaration
import ClassRegistry.Path
import ClassRegistry.Text.Name
import ClassRegistry.TypeScript.Syntax

/-!
# Module scopes

What a module binds at its top level by importing and hands out by exporting. A file that neither
imports nor exports is a global script and has no scope.
-/

namespace ClassRegistry

open TypeScript (Node Code Ident)

variable {code : Code}

/-- Whether an item makes its file a module. -/
def isModuleItem : Node code → Bool
  | .importNames .. | .exportDeclaration .. | .exportDefault .. | .exportNames ..
  | .moduleDeclaration .. => true
  | _ => false

/-- The names that an item binds by importing, with what they stand for and the module they come
from. -/
def importedBindings : Node code → List (String × ImportedName × String)
  | .importNames _ source bindings => bindings.map fun b => (b.localName, b.imported, source)
  | _ => []

/-- The name of a declaration that can be the name of a type. -/
def declaredTypeName? : Node code → Option String
  | .classDefinition _ _ (some name) _ _ _ _ _ _ => some name.name
  | .typeDeclaration _ name _ => some name.name
  | .namespaceBlock _ (.dotted first _) _ => some first
  | .namespaceBlock _ .globalScope _ => some "global"
  | _ => none

/-- The name of a default export. -/
def defaultName? : Node code → Option String
  | .classDefinition _ _ (some name) _ _ _ _ _ _ | .function _ (some name) _ _ _ _
  | .typeDeclaration _ name _ | .identifier name => some name.name
  | _ => none

/-- The export name that a text stands for in an export list. -/
def ExportName.ofText (text : String) : ExportName :=
  if text = "default" then .default else .named text

/-- The names that an item exports, with the names they are handed out by. Exports of another
module's names bind nothing here. -/
def exportedNames : Node code → List (String × ExportName)
  | .exportDeclaration _ declaration =>
    (declaredTypeName? declaration).toList.map fun name => (name, .named name)
  | .exportDefault _ value => (defaultName? value).toList.map fun name => (name, .default)
  | .exportNames _ bindings => bindings.map fun b => (b.localName, .ofText b.exportedName)
  | _ => []

/-- The name of the class that an item declares. -/
def itemClass? : Node code → Option (Ident code)
  | .classDefinition _ true name ..
  | .exportDeclaration _ (.classDefinition _ true name ..)
  | .exportDefault _ (.classDefinition _ true name ..) => name
  | _ => none

/-- The top level of a module. -/
structure ModuleScope where
  /-- In the order written. -/
  imports : List (String × ImportedName × String)
  /-- In the order written. -/
  exports : List (String × ExportName)
  /-- The places of the names of the classes that are declared at the top level. -/
  classes : List Nat

namespace ModuleScope

/-- The scope of a file, none for a global script. -/
def ofItems? (items : List (Node code)) : Option ModuleScope :=
  if items.any isModuleItem then
    some ⟨items.flatMap importedBindings, items.flatMap exportedNames,
      items.filterMap fun item => (itemClass? item).map (·.span.start)⟩
  else none

/-- What an imported name stands for; the last import of a name counts. -/
def import? (scope : ModuleScope) (name : String) : Option (ImportedName × String) :=
  (scope.imports.reverse.find? (·.1 = name)).map (·.2)

/-- The name by which a name is handed out; the first export of a name counts. -/
def export? (scope : ModuleScope) (name : String) : Option ExportName :=
  (scope.exports.find? (·.1 = name)).map (·.2)

/-- The file or the package that a specifier names in a file. -/
def sourceOf (file specifier : String) : ImportSource :=
  if specifier.toList.head? = some '.' then
    .file ((((Path.mk file).parent?).getD ⟨""⟩).join ⟨specifier⟩).text
  else .package specifier

/-- The name that a type starts with. -/
def rootName (type : String) : String :=
  String.ofList (type.toList.takeWhile Text.isNamePart)

/-- The import that makes a type of this file known elsewhere: the one it is imported with here, or
one from this file when it is exported. -/
def typeImport? (scope : ModuleScope) (file type : String) : Option TypeImport :=
  let name := rootName type
  match scope.import? name with
  | some (imported, specifier) => some ⟨name, imported, sourceOf file specifier⟩
  | none => (scope.export? name).map fun exported => ⟨name, exported.imported, .file file⟩

/-- What the class with the given name and place owes to its module. -/
def origin (scope : ModuleScope) (file : String) (name : Ident code) (baseType : Option String) :
    ModuleOrigin where
  exportName := if scope.classes.contains name.span.start then scope.export? name.name else none
  baseImport := baseType.bind (scope.typeImport? file)

end ModuleScope

end ClassRegistry
