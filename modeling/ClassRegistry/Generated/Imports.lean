import ClassRegistry.Declaration

/-!
# Import tables

The imports of a generated module, gathered by module specifier in the order the specifiers were
first asked for. Each module gives at most one default binding and one binding of everything; the
first request for either wins. Named bindings are kept in order, each once.
-/

namespace ClassRegistry

/-- What is imported from one module. -/
structure ModuleImports where
  defaultName : Option String
  everythingName : Option String
  /-- Named bindings as written between the braces: `Foo` or `Bar as Foo`. -/
  named : List String
  deriving DecidableEq, Repr

/-- Nothing is imported. -/
def ModuleImports.none : ModuleImports :=
  ⟨.none, .none, []⟩

/-- The written form of a named binding. -/
def namedBinding (name localName : String) : String :=
  if name = localName then localName else name ++ " as " ++ localName

/-- Adds a binding to what is imported from one module. -/
def ModuleImports.add (imports : ModuleImports) (localName : String) :
    ImportedName → ModuleImports
  | .default => { imports with defaultName := imports.defaultName <|> some localName }
  | .everything => { imports with everythingName := imports.everythingName <|> some localName }
  | .named name =>
    let binding := namedBinding name localName
    if binding ∈ imports.named then imports
    else { imports with named := imports.named ++ [binding] }

/-- The import declarations for one module, one line each. -/
def ModuleImports.lines (specifier : String) (imports : ModuleImports) : List String :=
  let source := " from \"" ++ specifier ++ "\";"
  (imports.defaultName.toList.map fun name => "import " ++ name ++ source) ++
  (imports.everythingName.toList.map fun name => "import * as " ++ name ++ source) ++
  (if imports.named.isEmpty then []
   else ["import \x7b " ++ ", ".intercalate imports.named ++ " \x7d" ++ source])

/-- Imports by module specifier, in the order the specifiers were first asked for. -/
abbrev ImportTable := List (String × ModuleImports)

namespace ImportTable

/-- Asks for a binding from the module behind a specifier. -/
def add (table : ImportTable) (specifier localName : String) (imported : ImportedName) :
    ImportTable :=
  match table with
  | [] => [(specifier, ModuleImports.none.add localName imported)]
  | (known, imports) :: rest =>
    if known = specifier then (known, imports.add localName imported) :: rest
    else (known, imports) :: add rest specifier localName imported

/-- The import declarations, one line each. -/
def lines (table : ImportTable) : List String :=
  table.flatMap fun (specifier, imports) => imports.lines specifier

end ImportTable

end ClassRegistry
