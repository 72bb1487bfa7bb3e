/-!
# Class declarations

What the rest of the library knows of a class: where it stands, what it extends, how it is
decorated and how its module hands it out. No source text is needed from here on, so everything
that follows is a function of a list of these values.
-/

namespace ClassRegistry

/-- A place in a file; lines and columns count from one. -/
structure Location where
  file : String
  line : Nat
  column : Nat
  deriving DecidableEq, Repr, Inhabited

/-- The written form of a place, `file:line:column`. -/
def Location.render (l : Location) : String :=
  l.file ++ ":" ++ toString l.line ++ ":" ++ toString l.column

/-- A place together with the line of source text it points into. -/
structure SourceContext where
  location : Location
  sourceLine : String
  deriving DecidableEq, Repr, Inhabited

/-- How an argument of a decorator names the parameter it is for. -/
inductive ArgumentLabel where
  /-- An assignment, `@Register(registerTypeName = "Inventory")`. -/
  | equals (name : String)
  /-- A property of an object literal, `@Register({ registerTypeName: "Inventory" })`. -/
  | colon (name : String)
  deriving DecidableEq, Repr

/-- The parameter a label names. -/
def ArgumentLabel.name : ArgumentLabel → String
  | .equals name | .colon name => name

/-- What an argument of a decorator is, as far as a registry name can be read off it. -/
inductive ArgumentValue where
  /-- `Container.Member`, of which the last name counts. -/
  | member (name : String)
  /-- A literal: the value of a string, the source text of any other one. -/
  | literal (text : String)
  /-- A bare identifier. -/
  | identifier (name : String)
  /-- Anything else, described for a diagnostic. -/
  | other (description : String)
  deriving DecidableEq, Repr

/-- One argument of a decorator. -/
structure Argument where
  /-- The position in the call; the properties of an object literal share the position of the
  literal. -/
  index : Nat
  label : Option ArgumentLabel
  value : ArgumentValue
  deriving DecidableEq, Repr

/-- A decorator that is a dotted name or a call of one. -/
structure Marker where
  name : String
  arguments : List Argument
  deriving DecidableEq, Repr

/-- The name under which a module hands out a declaration. -/
inductive ExportName where
  | named (name : String)
  | default
  deriving DecidableEq, Repr

/-- What an import takes from the module it names. -/
inductive ImportedName where
  | named (name : String)
  | default
  /-- Everything under one name, `import * as models from "..."`. -/
  | everything
  deriving DecidableEq, Repr

/-- An exported name is imported by the same name. -/
def ExportName.imported : ExportName → ImportedName
  | .named name => .named name
  | .default => .default

/-- Where an import comes from. -/
inductive ImportSource where
  /-- A file of the project, as a path that is not yet normalised. -/
  | file (path : String)
  /-- A package, by the name it is imported with. -/
  | package (name : String)
  deriving DecidableEq, Repr

/-- A binding of the declaring module that a generated unit has to import as well. -/
structure TypeImport where
  /-- The name the declaring module knows it by. -/
  name : String
  imported : ImportedName
  source : ImportSource
  deriving DecidableEq, Repr

/-- What a class of a module owes to its module; classes of global scripts have none. -/
structure ModuleOrigin where
  /-- Absent unless the class is declared at the top level and exported. -/
  exportName : Option ExportName
  /-- The import behind the first base type, when the module binds it. -/
  baseImport : Option TypeImport
  deriving DecidableEq, Repr

/-- A class declaration as the collection pass sees it. -/
structure ClassDeclaration where
  /-- The dotted name of the innermost enclosing namespace, empty outside of any. -/
  scope : String
  name : String
  /-- The superclass first, then what is implemented, in the order written. -/
  baseTypes : List String
  markers : List Marker
  context : SourceContext
  origin : Option ModuleOrigin
  deriving DecidableEq, Repr

end ClassRegistry
