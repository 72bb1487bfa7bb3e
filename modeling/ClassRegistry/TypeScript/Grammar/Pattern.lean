import ClassRegistry.TypeScript.Grammar.Name

/-!
# Binding patterns and parameters

What a declaration or a function binds: a name, or a list or an object of patterns, each with a type
and a default where those may stand.
-/

namespace ClassRegistry.TypeScript.Grammar

open TypeScript.Parser

variable {code : Code}

/-- `= value`, which may be left out. -/
def initializer (rules : Rules code) : Parser code (List (Node code)) := do
  if ← eat .assign then return [← rules .assignment] else return []

/-- `: type`, which may be left out. -/
def typeAnnotation (rules : Rules code) : Parser code (List (Node code)) := do
  if ← eat .colon then return [← rules .type] else return []

/-- A question mark behind a pattern with brackets, which an ambient declaration may have. -/
def ambientMark : Parser code Unit := do
  if (← flags).isAmbient then
    let _ ← eat .question

/-- A pattern with a default. -/
def bindingElement (rules : Rules code) : Rule code := do
  let start ← here
  let pattern ← rules .binding
  let value ← initializer rules
  return .compound (← spanFrom start) .element (pattern :: value)

/-- `[a, , b = 1, ...rest]` -/
def listPattern (rules : Rules code) : Rule code := do
  let start ← here
  expect .bracketOpen
  let elements ← enclosed (commaSeparated (isAt .bracketClose) do
    if ← isAt .comma then return []
    else if ← eat .ellipsis then return [← rules .binding]
    else return [← bindingElement rules])
  expect .bracketClose
  ambientMark
  return .compound (← spanFrom start) .pattern elements.flatten

/-- A property of an object pattern. -/
def propertyPattern (rules : Rules code) : Rule code := do
  let start ← here
  if ← eat .ellipsis then
    rules .binding
  else
    let key ← key rules
    if ← eat .colon then
      let element ← bindingElement rules
      return .property (← spanFrom start) key element
    else match key with
      | .identifier _ =>
        let value ← initializer rules
        return .compound (← spanFrom start) .element (key :: value)
      | _ => unexpected "an identifier"

/-- `{ a, b: c = 1, ...rest }` -/
def objectPattern (rules : Rules code) : Rule code := do
  let start ← here
  expect .braceOpen
  let properties ← enclosed (commaSeparated (isAt .braceClose) (propertyPattern rules))
  expect .braceClose
  ambientMark
  return .compound (← spanFrom start) .pattern properties

/-- A pattern. -/
def binding (rules : Rules code) : Rule code := do
  match ← kind with
  | .sign .bracketOpen => listPattern rules
  | .sign .braceOpen => objectPattern rules
  | .word .. => return .identifier (← name true)
  | .broken fault => failWith fault
  | _ => unexpected "yield, an identifier, [ or \x7b"

/-- Whether a pattern is just a name. -/
def isNamePattern : Node code → Bool
  | .identifier _ => true
  | _ => false

/-- A decorator after another. -/
def decorators (rules : Rules code) : Parser code (List (Node code)) :=
  many do
    if ← isAt .at then return some (← rules .decorator) else return none

/-! ## Parameters -/

/-- A parameter without the decorators in front of it. -/
structure Parameter (code : Code) where
  start : Nat
  /-- The pattern, with its type and its default. -/
  parts : List (Node code)
  isName : Bool
  hasDefault : Bool

/-- `...rest` as a parameter. The parameters of a constructor have no default here. -/
def restParameter (rules : Rules code) (mayDefault : Bool) : Parser code (Parameter code) := do
  let start ← here
  expect .ellipsis
  let pattern ← rules .binding
  let value ← if mayDefault then initializer rules else pure []
  let annotation ← typeAnnotation rules
  if mayDefault then
    let _ ← eat .question
  return ⟨start, pattern :: value ++ annotation, false, false⟩

/-- A parameter that is not the rest of them. A type behind a default says nothing. -/
def singleParameter (rules : Rules code) : Parser code (Parameter code) := do
  visibility
  let start ← here
  let pattern ← rules .binding
  let early ← initializer rules
  let mark ← here
  if ← eat .question then
    unless early.isEmpty || (← flags).isAmbient do failAt mark .optionalPattern
  let annotation ← typeAnnotation rules
  let late ← initializer rules
  let annotation := if early.isEmpty then annotation else []
  return ⟨start, pattern :: annotation ++ early ++ late, isNamePattern pattern,
    !early.isEmpty || !late.isEmpty⟩

/-- A parameter of a function with its decorators. -/
def parameter (rules : Rules code) : Parser code (List (Node code) × Parameter code) := do
  let decorators ← decorators rules
  if ← isAt .ellipsis then return (decorators, ← restParameter rules true)
  else return (decorators, ← singleParameter rules)

/-- Parameters up to the closing parenthesis, which is not read. -/
def parameters (rules : Rules code) : Parser code (List (List (Node code) × Parameter code)) :=
  enclosed (commaSeparated (isAt .parenClose) (parameter rules))

/-- The nodes of the parameters of a function. -/
def parameterNodes (parameters : List (List (Node code) × Parameter code)) : List (Node code) :=
  (parameters.map fun (decorators, parameter) => decorators ++ parameter.parts).flatten

/-- Who may see a property; two of the words say nothing here. -/
def accessWords : List Keyword :=
  [.public_, .protected_, .private_, .in_, .out_]

/-- Reads a word that says who may see a property, and whether there was one that says so. -/
def access : Parser code Bool := do
  match ← modifier? accessWords with
  | some keyword => return keyword ≠ .in_ && keyword ≠ .out_
  | none => return false

/-- A parameter of a constructor. With a modifier it is a property as well, and then it is a
name. -/
def constructorParameter (rules : Rules code) : Parser code (List (Node code)) := do
  let decorators ← decorators rules
  if ← isAt .ellipsis then return decorators ++ (← restParameter rules false).parts
  let hasAccess ← access
  let isOverride := (← modifier? [.override_]).isSome
  let isReadonly := (← modifier? [.readonly_]).isSome
  let parameter ← singleParameter rules
  let isProperty := hasAccess || isOverride || isReadonly
  if isProperty && !parameter.isName && !parameter.hasDefault then
    failAt parameter.start .propertyPattern
  return decorators ++ parameter.parts

end ClassRegistry.TypeScript.Grammar
