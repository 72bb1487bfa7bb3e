import ClassRegistry.Declaration
import ClassRegistry.Text.Blank
import ClassRegistry.TypeScript.Syntax

/-!
# Markers of syntax trees

A decorator is a marker when it is a dotted name or a call of one. Here the arguments of the call
are reduced to what a registry name can be read off.
-/

namespace ClassRegistry

open TypeScript (Node Code)

variable {code : Code}

/-- The dotted text of a name or of a chain of members. -/
def dottedName? : Node code → Option String
  | .identifier ident => some ident.name
  | .member _ object property => (dottedName? object).map (· ++ "." ++ property)
  | _ => none

namespace ArgumentValue

/-- What an expression is, by its form. -/
def ofNode : Node code → ArgumentValue
  | .member _ _ property => .member property
  | .computedMember .. => .other "a computed member access"
  | .privateMember .. => .other "a private member access"
  | .string _ value => .literal value
  | .literal span => .literal (String.ofList (span.text code))
  | .identifier ident => .identifier ident.name
  | .template .. => .other "a template literal"
  | .call .. => .other "a call expression"
  | .parenthesized .. => .other "a parenthesized expression"
  | _ => .other "an unsupported expression"

end ArgumentValue

/-- The name of a property with the given key; numbers and computed keys give none. -/
def propertyName? : Node code → Option String
  | .identifier ident => some ident.name
  | .string _ value => some value
  | _ => none

namespace Argument

/-- The argument that a property of an object literal stands for. -/
def ofProperty (index : Nat) : Node code → Argument
  | .spread .. => ⟨index, none, .other "a spread property"⟩
  | .property _ key value =>
    match propertyName? key with
    | some name => ⟨index, some (.colon name), .ofNode value⟩
    | none => ⟨index, none, .other "a computed property"⟩
  | .shorthand ident => ⟨index, some (.colon ident.name), .identifier ident.name⟩
  | _ => ⟨index, none, .other "an object member"⟩

/-- The arguments that an argument of a call stands for: one, or one for each property of an object
literal. -/
def ofNode (index : Nat) : Node code → List Argument
  | .spread .. => [⟨index, none, .other "a spread argument"⟩]
  | .assignment _ true (.identifier target) value =>
    [⟨index, some (.equals target.name), .ofNode value⟩]
  | .assignment _ true _ _ => [⟨index, none, .other "an assignment"⟩]
  | .object _ properties => properties.map (ofProperty index)
  | node => [⟨index, none, .ofNode node⟩]

end Argument

namespace Marker

/-- Whether a decorator is in parentheses, as told by the text of its span. -/
def isParenthesized (span : TypeScript.Span) (code : Code) : Bool :=
  (((span.text code).dropWhile (· = '@')).dropWhile Text.isBlank).head? = some '('

/-- The marker that a decorator is, if it is one. -/
def ofNode? : Node code → Option Marker
  | .decorator span expression =>
    if isParenthesized span code then none
    else match expression with
      | .call _ callee _ arguments =>
        (dottedName? callee).map fun name =>
          ⟨name, (arguments.mapIdx Argument.ofNode).flatten⟩
      | expression => (dottedName? expression).map fun name => ⟨name, []⟩
  | _ => none

end Marker

end ClassRegistry
