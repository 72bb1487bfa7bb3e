import ClassRegistry.TypeScript.Grammar.Class
import ClassRegistry.TypeScript.Grammar.Operator

/-!
# Literals and arguments

Lists, objects, templates and regular expressions, and the arguments of calls.
-/

namespace ClassRegistry.TypeScript.Grammar

open TypeScript.Parser

variable {code : Code}

/-- An argument or an element: an expression, or what `...` spreads. -/
def spreadable (rules : Rules code) : Rule code := do
  let start ← here
  if ← eat .ellipsis then
    let value ← rules .assignment
    return .spread (← spanFrom start) value
  else rules .assignment

/-- The arguments of a call, in parentheses. -/
def callArguments (rules : Rules code) : Parser code (List (Node code)) := do
  let arguments ← enclosed do
    expect .parenOpen
    commaSeparated (isAt .parenClose) (spreadable rules)
  expect .parenClose
  return arguments

/-- `[a, , ...b]` -/
def listLiteral (rules : Rules code) : Rule code := do
  let start ← here
  expect .bracketOpen
  let elements ← enclosed (commaSeparated (isAt .bracketClose) do
    if ← isAt .comma then return .compound ⟨← here, ← here⟩ .other [] else spreadable rules)
  expect .bracketClose
  return .compound (← spanFrom start) .list elements

/-! ## Objects -/

/-- What may follow a key in an object literal when it is a name by itself. -/
def objectKeyForms : String :=
  "... , *,  (, [, :, , ?, =, an identifier, public, protected, private, readonly, <."

/-- A method of an object literal from its type parameters on. -/
def objectMethod (rules : Rules code) (kind : FunctionKind) (key : Node code) : Rule code := do
  let start ← here
  let method ← functionRest rules start kind none []
  return .compound (← spanFrom key.span.start) .method [key, method]

/-- An accessor that gets, from its key on. -/
def getter (rules : Rules code) (start : Nat) : Rule code := do
  let key ← key rules
  let parts ← functionParts rules .ordinary
  return .compound (← spanFrom start) .method (key :: parts.result ++ parts.body)

/-- An accessor that sets, from its key on. It has one parameter, before which the object itself
may be named. -/
def setter (rules : Rules code) (start : Nat) : Rule code := do
  let key ← key rules
  let parts ← functionParts rules .ordinary
  let parameters := (parts.parameters.take 2).flatMap (·.2.parts)
  return .compound (← spanFrom start) .method (key :: parameters ++ parts.body)

/-- A method or an accessor behind the word it starts with. -/
def markedMethod (rules : Rules code) (start : Nat) (word : Node code) : Rule code := do
  if isKey word "get" then getter rules start
  else if isKey word "set" then setter rules start
  else if isKey word "async" then
    let isGenerator ← eat .star
    objectMethod rules ⟨true, isGenerator⟩ (← key rules)
  else unexpected objectKeyForms

/-- Whether a key is a word. -/
def isWordKey : Node code → Bool
  | .identifier _ => true
  | _ => false

/-- Whether a property of an object literal goes on behind its key. -/
def continuesProperty (key : Node code) : Parser code Bool := do
  match ← kind with
  | .sign .parenOpen | .sign .bracketOpen | .sign .colon | .sign .comma | .sign .question
  | .sign .assign | .sign .star | .sign .less | .word .. | .string _ | .number => return true
  | .sign .braceClose => return isWordKey key
  | _ => return false

/-- A property of an object literal behind its key. -/
def propertyRest (rules : Rules code) (start : Nat) (key : Node code) : Rule code := do
  unless ← continuesProperty key do
    skipBroken
    let span ← spanFrom start
    return .property span key (Node.missing span)
  if ← eat .colon then
    let value ← rules .assignment
    return .property (← spanFrom start) key value
  if ← startsMethod then return ← objectMethod rules .ordinary key
  match key with
  | .identifier ident =>
    let _ ← eat .question
    if ← eat .assign then
      let value ← rules .assignment
      return .compound (← spanFrom start) .other [key, value]
    else if (← isAt .comma) || (← isAt .braceClose) then return .shorthand ident
    else markedMethod rules start key
  | _ => unexpected "identifier"

/-- A property of an object literal. -/
def objectProperty (rules : Rules code) : Rule code := do
  let start ← here
  if ← isAt .ellipsis then spreadable rules
  else if ← eat .star then objectMethod rules ⟨false, true⟩ (← key rules)
  else
    visibility
    propertyRest rules start (← key rules)

/-- `{ a, b: c, d() {}, ...e }` -/
def objectLiteral (rules : Rules code) : Rule code := do
  let start ← here
  expect .braceOpen
  let properties ← enclosed (commaSeparated (isAt .braceClose) (objectProperty rules))
  expect .braceClose
  return .object (← spanFrom start) properties

/-! ## Templates and regular expressions -/

/-- The expressions of a template. -/
def templateParts (rules : Rules code) (isTagged : Bool) : Parser code (List (Node code)) :=
  iterate (fun (parts : List (Node code)) => do
    if ← templatePiece isTagged then return .inr parts.reverse
    let part ← enclosed (rules .expression)
    continueTemplate
    return .inl (part :: parts)) []

/-- A template behind its tag, with the types that stand between them. -/
def taggedTemplate (rules : Rules code) (tag : Node code) (types : List (Node code)) :
    Rule code := do
  let parts ← templateParts rules true
  return .compound (← spanFrom tag.span.start) .other (tag :: types ++ parts)

/-- A regular expression; the current token is the sign it starts with. -/
def regex : Rule code := do
  let start ← here
  goto ((← state).reread Lexeme.regex)
  if (← kind) = .regex then
    advance
    return .literal (← spanFrom start)
  else fail .expressionExpected

end ClassRegistry.TypeScript.Grammar
