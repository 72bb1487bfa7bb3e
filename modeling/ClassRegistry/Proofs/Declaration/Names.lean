import ClassRegistry.Proofs.Declaration.Extraction

/-!
# Names of types and names of modules

A type is a text. What it refers to are the names that its type names start with: those of the type
itself and those inside of its arguments. A module binds names at its top level, by imports and by
its own declarations, whatever kind of declaration it is.
-/

namespace ClassRegistry

open TypeScript (Node Code)

variable {code : Code}

/-! ## Names in types -/

mutual

/-- The names that the type names in a type start with. -/
def typeNames : Node code → List String
  | .typeReference _ root arguments => root.name :: typeNamesAll arguments
  | .compound _ _ parts => typeNamesAll parts
  | _ => []

/-- The names that the type names in several types start with. -/
def typeNamesAll : List (Node code) → List String
  | [] => []
  | node :: rest => typeNames node ++ typeNamesAll rest

end

/-- The names that the type names in a text start with, read as a type; none when it is no type. -/
def typeNamesOfText (text : String) : List String :=
  let named : Source := ⟨"", ("type T = " ++ text ++ ";").toList⟩
  match named.items with
  | .ok [.typeDeclaration _ _ parts] => typeNamesAll parts
  | _ => []

/-! ## Names at the top level -/

mutual

/-- The names that a pattern binds. -/
def patternNames : Node code → List String
  | .identifier ident => [ident.name]
  | .property _ _ value => patternNames value
  | .compound _ .pattern parts => patternNamesAll parts
  | .compound _ .element parts => patternNamesFirst parts
  | _ => []

/-- The names that several patterns bind. -/
def patternNamesAll : List (Node code) → List String
  | [] => []
  | node :: rest => patternNames node ++ patternNamesAll rest

/-- The names that the first of several nodes binds as a pattern. -/
def patternNamesFirst : List (Node code) → List String
  | [] => []
  | node :: _ => patternNames node

end

/-- The names that a declaration binds. -/
def declaredNames : Node code → List String
  | .classDefinition _ true (some name) _ _ _ _ _ _ | .function _ (some name) _ _ _ _
  | .typeDeclaration _ name _ => [name.name]
  | .namespaceBlock _ (.dotted first _) _ => [first]
  | .compound _ .variables declared => patternNamesAll declared
  | _ => []

/-- The names that an alias for a module or a namespace binds. -/
def aliasNames : Node code → List String
  | .compound _ .element parts => patternNamesFirst parts
  | _ => []

/-- The names that an item of a module binds. -/
def itemNames : Node code → List String
  | .importNames _ _ bindings => bindings.map (·.localName)
  | .moduleDeclaration _ parts => parts.flatMap aliasNames
  | .exportDeclaration _ declaration | .exportDefault _ declaration => declaredNames declaration
  | item => declaredNames item

/-- The names that a source binds at its top level, none when it cannot be read. -/
def Source.topLevelNames (s : Source) : List String :=
  match s.items with
  | .ok items => items.flatMap itemNames
  | .error _ => []

end ClassRegistry
