import ClassRegistry.TypeScript.Grammar.Type

/-!
# Functions

The part that functions and methods share, from their type parameters to their body, and the body of
an arrow function.
-/

namespace ClassRegistry.TypeScript.Grammar

open TypeScript.Parser

variable {code : Code}

/-- The kind of a function: whether it may wait and whether it may yield. -/
structure FunctionKind where
  isAsync : Bool
  isGenerator : Bool

/-- A function that does neither. -/
def FunctionKind.ordinary : FunctionKind :=
  ⟨false, false⟩

/-- Runs a parser among the parameters of a function. -/
def inParameters {α : Type} (kind : FunctionKind) (p : Parser code α) : Parser code α :=
  withFlags (fun f => { f with
    inAsync := kind.isAsync, inGenerator := kind.isGenerator, inParameters := true,
    inFunction := false }) p

/-- Runs a parser within the body of a function. -/
def inBody {α : Type} (kind : FunctionKind) (p : Parser code α) : Parser code α :=
  withArrowStart none <| withFlags (fun f => { f with
    inAsync := kind.isAsync, inGenerator := kind.isGenerator, inFunction := true,
    inStaticBlock := false }) p

/-- Items up to the end of a block. A block that the text cuts short ends with the text. -/
def blockItems (item : Rule code) : Parser code (List (Node code)) := do
  let items ← many do
    if (← isAt .braceClose) || (← isAtEnd) then return none
    else return some (← item)
  let _ ← eat .braceClose
  return items

/-- Statements in braces. -/
def block (rules : Rules code) : Rule code := do
  let start ← here
  let items ← enclosed do
    expect .braceOpen
    blockItems (rules .statement)
  return .compound (← spanFrom start) .other items

/-- The body of a function; a declaration without one ends like a statement. -/
def functionBody (rules : Rules code) : Parser code (List (Node code)) := do
  if ← isAt .braceOpen then return [← block rules]
  unless ← eatStatementEnd do failExpected "\x7b"
  return []

/-- What a function has from its type parameters on. -/
structure FunctionParts (code : Code) where
  typeParameters : List (Node code)
  parameters : List (List (Node code) × Parameter code)
  /-- The return type, if it is given. -/
  result : List (Node code)
  /-- The body, if there is one. -/
  body : List (Node code)

/-- The parts of a function from its type parameters on. -/
def functionParts (rules : Rules code) (kind : FunctionKind) :
    Parser code (FunctionParts code) := do
  let typeParameters ← typeParameters rules
  let parameters ← inParameters kind do
    expect .parenOpen
    parameters rules
  expect .parenClose
  let result ← returnAnnotation rules
  let body ← inBody kind (functionBody rules)
  return { typeParameters, parameters, result, body }

/-- A function from its type parameters on. -/
def functionRest (rules : Rules code) (start : Nat) (kind : FunctionKind)
    (name : Option (Ident code)) (decorators : List (Node code)) : Rule code := do
  let parts ← functionParts rules kind
  return .function (← spanFrom start) name decorators (parameterNodes parts.parameters)
    (parts.typeParameters ++ parts.result) parts.body

/-- What a place in the grammar asks of a function that starts with `function`. -/
inductive FunctionRole where
  /-- A declaration has a name. -/
  | declaration
  /-- A default export may have one. -/
  | defaultExport
  /-- An expression may have one, and has a body. -/
  | expression
  deriving DecidableEq

/-- A function that starts with `function`, which is the current token. -/
def functionDefinition (rules : Rules code) (start : Nat) (isAsync : Bool)
    (role : FunctionRole) : Rule code := do
  expectWord .function_
  let isGenerator ← eat .star
  let name ← if role = .declaration then some <$> name true else optionalName
  let node ← withFlags (fun f => { f with beforeColon := false })
    (functionRest rules start ⟨isAsync, isGenerator⟩ name [])
  match role, node with
  | .expression, .function _ _ _ _ _ [] => unexpected "\x7b"
  | _, node => return node

/-- Whether `async function` stands here, on one line. -/
def startsAsyncFunction : Parser code Bool := do
  let next ← following
  return (← isAtWord .async_) && (next.kind matches .word (some .function_) _) && !next.startsLine

/-- The body of an arrow function: a block or an expression. -/
def arrowBody (rules : Rules code) (isAsync : Bool) : Rule code :=
  inBody ⟨isAsync, false⟩ do
    if ← isAt .braceOpen then block rules else rules .assignment

end ClassRegistry.TypeScript.Grammar
