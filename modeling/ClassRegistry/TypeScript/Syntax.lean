import ClassRegistry.Declaration
import ClassRegistry.TypeScript.Token

/-!
# Syntax trees

A tree keeps apart what a registration can depend on: names and member accesses, literals, calls,
object literals, assignments, classes with their heritage and decorators, namespaces, imports and
exports. Every other construct is a `compound` of its parts, with its form where a rule of the
grammar asks for it. Every node has the span of source text it was read from.
-/

namespace ClassRegistry.TypeScript

/-- The name of a namespace block. -/
inductive NamespaceName where
  /-- `namespace A.B.C`, by its first name and the names after it. -/
  | dotted (first : String) (rest : List String)
  /-- The global scope. -/
  | globalScope
  /-- A module that is named by a string. -/
  | quoted
  deriving DecidableEq, Repr

/-- A name that an import declaration binds. -/
structure ImportBinding where
  localName : String
  imported : ImportedName
  deriving DecidableEq, Repr

/-- A name that an export list hands out. -/
structure ExportBinding where
  localName : String
  exportedName : String
  /-- Whether the name is handed out as a type only. -/
  isType : Bool
  deriving DecidableEq, Repr

/-- The form of a construct that has no node of its own, as far as a rule of the grammar or the
order of its parts tells it from others. -/
inductive Form where
  /-- A construct that no rule asks for. -/
  | other
  /-- A construct that no rule asks for either, with its parts in another order than they are
  written in: a signature, a method of a class, an import type, an element in angle brackets, the
  parts of an arrow function, or expressions in parentheses that an arrow function holds once
  more. -/
  | rearranged
  /-- An arrow function that holds the expressions before it once more, as its parameters. -/
  | repeating
  /-- What could be read as nothing. -/
  | missing
  /-- What a declaration, a parameter or an assignment binds. -/
  | pattern
  /-- A pattern with what stands behind it: its type and its default. -/
  | element
  /-- Variables, with the word that declares them. -/
  | variables
  /-- `[a, b]` -/
  | list
  /-- A method or an accessor of an object literal. -/
  | method
  | arrow
  | unary
  | await
  | update
  | binary
  | conditional
  | new
  | superMember
  | optionalChain
  /-- `value as T`, `value satisfies T`, `value!` and `<T>value`. -/
  | cast
  | satisfaction
  | nonNull
  | assertion
  deriving DecidableEq, Repr

/-- A node of the tree of a source text. -/
inductive Node (code : Code) where
  /-- A name in an expression. -/
  | identifier (ident : Ident code)
  /-- A string literal, by its value. -/
  | string (span : Span) (value : String)
  /-- Any other literal, which is its source text. -/
  | literal (span : Span)
  /-- A template without a tag; the parts are what it interpolates. -/
  | template (span : Span) (parts : List (Node code))
  /-- `object.property` -/
  | member (span : Span) (object : Node code) (property : String)
  /-- `object.#property` -/
  | privateMember (span : Span) (object : Node code)
  /-- `object[key]` -/
  | computedMember (span : Span) (object key : Node code)
  | call (span : Span) (callee : Node code) (typeArguments arguments : List (Node code))
  /-- `...value` in a call, an array or an object literal. -/
  | spread (span : Span) (value : Node code)
  | parenthesized (span : Span) (inner : Node code)
  /-- An assignment; it is plain when its sign is `=`. -/
  | assignment (span : Span) (isPlain : Bool) (target value : Node code)
  | object (span : Span) (properties : List (Node code))
  /-- `key: value` in an object literal. -/
  | property (span : Span) (key value : Node code)
  /-- A name that stands for a property of this name in an object literal. -/
  | shorthand (ident : Ident code)
  /-- `[value]` as a key. -/
  | computedKey (span : Span) (value : Node code)
  /-- A class. A declaration has a name, an expression or a default export may have one. -/
  | classDefinition (span : Span) (isDeclaration : Bool) (name : Option (Ident code))
      (decorators typeParameters : List (Node code)) (superclass : Option (Node code))
      (superArguments : Option (Node code)) (implemented members : List (Node code))
  | decorator (span : Span) (expression : Node code)
  /-- A function of any kind. The types are its type parameters and its return type. -/
  | function (span : Span) (name : Option (Ident code))
      (decorators parameters types body : List (Node code))
  /-- A property of a class. -/
  | field (span : Span) (decorators : List (Node code)) (key : Node code)
      (types value : List (Node code))
  /-- A loop that tests at its end. -/
  | doWhile (span : Span) (body test : Node code)
  | namespaceBlock (span : Span) (name : NamespaceName) (body : List (Node code))
  /-- An interface, a type alias or an enumeration. -/
  | typeDeclaration (span : Span) (ident : Ident code) (parts : List (Node code))
  /-- A type that is named, by the first of its names, with its arguments. -/
  | typeReference (span : Span) (root : Ident code) (arguments : List (Node code))
  /-- `object<arguments>` without a call. -/
  | instantiation (span : Span) (object typeArguments : Node code)
  /-- An import from a module. -/
  | importNames (span : Span) (source : String) (bindings : List ImportBinding)
  | exportDeclaration (span : Span) (declaration : Node code)
  | exportDefault (span : Span) (value : Node code)
  /-- An export list of names of this module. -/
  | exportNames (span : Span) (bindings : List ExportBinding)
  /-- Any other import or export. -/
  | moduleDeclaration (span : Span) (parts : List (Node code))
  | compound (span : Span) (form : Form) (parts : List (Node code))

namespace Node

variable {code : Code}

/-- The stretch of source text a node was read from. -/
def span : Node code → Span
  | .identifier ident | .shorthand ident => ident.span
  | .string span _ | .literal span | .template span _ | .member span _ _ | .privateMember span _
  | .computedMember span _ _ | .call span _ _ _ | .spread span _ | .parenthesized span _
  | .assignment span _ _ _ | .object span _ | .property span _ _ | .computedKey span _
  | .classDefinition span _ _ _ _ _ _ _ _ | .decorator span _ | .function span _ _ _ _ _
  | .field span _ _ _ _ | .doWhile span _ _ | .namespaceBlock span _ _
  | .typeDeclaration span _ _ | .typeReference span _ _ | .instantiation span _ _
  | .importNames span _ _ | .exportDeclaration span _ | .exportDefault span _
  | .exportNames span _ | .moduleDeclaration span _ | .compound span _ _ => span

/-- The form of a node that is a compound. -/
def form? : Node code → Option Form
  | .compound _ form _ => some form
  | _ => none

/-- The parts of a compound. -/
def parts : Node code → List (Node code)
  | .compound _ _ parts => parts
  | _ => []

end Node

end ClassRegistry.TypeScript
