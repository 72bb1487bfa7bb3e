import ClassRegistry.Declaration.Marker
import ClassRegistry.Declaration.Scope
import ClassRegistry.Source

/-!
# Class declarations of a source file

A file is walked for its class declarations. They are listed in the order of the walk: a class comes
before the classes inside of it, and of its parts the decorators come first, then the members and
the heritage.
-/

namespace ClassRegistry

open TypeScript (Node Code Ident NamespaceName)

variable {code : Code}

/-- A class declaration in a tree. -/
structure ClassSite (code : Code) where
  /-- The dotted name of the innermost namespace around it, empty outside of any. -/
  scope : String
  name : Ident code
  decorators : List (Node code)
  superclass : Option (Node code)
  /-- The type arguments of the superclass. -/
  superArguments : Option (Node code)
  implemented : List (Node code)

/-- The scope inside of a namespace block. -/
def scopeWithin (scope : String) : NamespaceName → String
  | .dotted first rest => ".".intercalate (first :: rest)
  | .globalScope | .quoted => scope

mutual

/-- The class declarations in a tree that stands in a scope. -/
def classSites (scope : String) : Node code → List (ClassSite code)
  | .identifier _ | .string .. | .literal _ | .shorthand _ | .importNames .. | .exportNames .. => []
  | .template _ parts | .object _ parts | .typeDeclaration _ _ parts | .typeReference _ _ parts
  | .moduleDeclaration _ parts | .compound _ _ parts => classSitesAll scope parts
  | .member _ inner _ | .privateMember _ inner | .spread _ inner | .parenthesized _ inner
  | .computedKey _ inner | .decorator _ inner | .exportDeclaration _ inner
  | .exportDefault _ inner => classSites scope inner
  | .computedMember _ first second | .assignment _ _ first second | .property _ first second
  | .instantiation _ first second => classSites scope first ++ classSites scope second
  | .call _ callee types arguments =>
    classSites scope callee ++ classSitesAll scope arguments ++ classSitesAll scope types
  | .classDefinition _ isDeclaration name decorators parameters superclass superArguments
      implemented members =>
    let own : List (ClassSite code) := match isDeclaration, name with
      | true, some name => [⟨scope, name, decorators, superclass, superArguments, implemented⟩]
      | _, _ => []
    own ++ classSitesAll scope decorators ++ classSitesAll scope members ++
      classSitesOption scope superclass ++ classSitesAll scope parameters ++
      classSitesOption scope superArguments ++ classSitesAll scope implemented
  | .function _ _ decorators parameters types body =>
    classSitesAll scope parameters ++ classSitesAll scope decorators ++ classSitesAll scope body ++
      classSitesAll scope types
  | .field _ decorators key types value =>
    classSites scope key ++ classSitesAll scope value ++ classSitesAll scope types ++
      classSitesAll scope decorators
  | .doWhile _ body test => classSites scope test ++ classSites scope body
  | .namespaceBlock _ name body => classSitesAll (scopeWithin scope name) body

/-- The class declarations in trees that stand in a scope. -/
def classSitesAll (scope : String) : List (Node code) → List (ClassSite code)
  | [] => []
  | node :: rest => classSites scope node ++ classSitesAll scope rest

/-- The class declarations in a tree that may be missing. -/
def classSitesOption (scope : String) : Option (Node code) → List (ClassSite code)
  | none => []
  | some node => classSites scope node

end

namespace ClassSite

/-- The text of the superclass: its dotted name where it is one, otherwise its source text, and its
type arguments. -/
def superclassText? (site : ClassSite code) : Option String :=
  site.superclass.map fun node =>
    (dottedName? node).getD (String.ofList (node.span.text code)) ++
      (site.superArguments.map fun types => String.ofList (types.span.text code)).getD ""

/-- The texts of the base types, the superclass first. -/
def baseTypes (site : ClassSite code) : List String :=
  site.superclassText?.toList ++
    site.implemented.map fun node => String.ofList (node.span.text code)

end ClassSite

namespace Source

/-- The declaration that a class of the file gives. -/
def declaration (s : Source) (scope : Option ModuleScope) (site : ClassSite s.code) :
    ClassDeclaration where
  scope := site.scope
  name := site.name.name
  baseTypes := site.baseTypes
  markers := site.decorators.filterMap Marker.ofNode?
  context := s.context site.name.span.start
  origin := scope.map fun scope => scope.origin s.file site.name site.baseTypes.head?

/-- The declarations of the classes in the items of the file. -/
def declarationsOf (s : Source) (items : List (Node s.code)) : List ClassDeclaration :=
  (classSitesAll "" items).map (s.declaration (ModuleScope.ofItems? items))

/-- The class declarations of the file. -/
def declarations (s : Source) : Except SourceError (List ClassDeclaration) :=
  s.items.map s.declarationsOf

/-- The class declarations of several files, file by file. The first file that cannot be read stands
for all of them. -/
def allDeclarations (sources : List Source) : Except SourceError (List ClassDeclaration) :=
  List.flatten <$> sources.mapM declarations

end Source

end ClassRegistry
