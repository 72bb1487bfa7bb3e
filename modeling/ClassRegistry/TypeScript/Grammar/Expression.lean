import ClassRegistry.TypeScript.Grammar.Member

/-!
# Expressions

Operators in front of and behind an operand, conditional expressions, assignments and lists of
expressions.
-/

namespace ClassRegistry.TypeScript.Grammar

open TypeScript.Parser

variable {code : Code}

/-! ## One operand -/

/-- `<T>value` or `<const>value`, the current token being the angle bracket. -/
def typeAssertion (rules : Rules code) : Rule code := do
  let start ← here
  let type ← inType do
    expect .less
    let type ← if ← eatWord .const_ then pure [] else pure [← rules .type]
    expect .greater
    return type
  let value ← rules .unary
  return .compound (← spanFrom start) (if type.isEmpty then .other else .assertion) (value :: type)

/-- `await value`; alone, and outside of functions that wait, `await` is a name. -/
def awaitExpression (rules : Rules code) : Rule code := do
  let start ← here
  let word ← anyName
  if ← isAt .star then fail .awaitStar
  let isAlone := (← isAtStatementEnd) || (← isAt .parenClose) || (← isAt .bracketClose) ||
    (← isAt .comma)
  if !(← flags).inAsync && isAlone then return .identifier word
  let value ← rules .unary
  return .compound (← spanFrom start) .await [value]

/-- Whether markup starts at an angle bracket. -/
def startsMarkup : Parser code Bool := do
  unless (← flags).markup && (← isAt .less) do return false
  let next ← following
  return next.kind.isWord || next.kind = .sign .greater

/-- An operand with members and calls, and with a sign behind it that counts it up or down. -/
def postfixExpression (rules : Rules code) : Rule code := do
  let start ← here
  let operand ← rules .leftHandSide
  if operand.form? = some .arrow || (← startsLine) then return operand
  if (← eat .increment) || (← eat .decrement) then
    return .compound (← spanFrom start) .update [operand]
  return operand

/-- An operand with operators in front of it or behind it. Behind most operators in front of it the
operand itself may be missing. -/
def unary (rules : Rules code) : Rule code := do
  let start ← here
  if (← isAt .less) && !(← flags).markup then typeAssertion rules
  else if ← startsMarkup then rules .markup
  else if (← eat .increment) || (← eat .decrement) then
    let operand ← rules .unary
    return .compound (← spanFrom start) .update [operand]
  else if (← kind).isUnaryOperator then
    advance
    let operand ← orGive (rules .unary) (Node.missing ⟨start, start⟩)
    return .compound (← spanFrom start) .unary [operand]
  else if ← isAtWord .await_ then awaitExpression rules
  else postfixExpression rules

/-! ## Assignments -/

/-- A conditional expression, or one with operators between its operands. -/
def conditional (rules : Rules code) : Rule code := do
  let test ← rules .binary
  if test.form? = some .arrow then return test
  if ← eat .question then conditionalRest rules test else return test

/-- Whether a value can start with a token behind `yield`. -/
def startsYielded : TokenKind → Bool
  | .word (some .this_) _ | .word (some .super_) _ | .word (some .null_) _
  | .word (some .true_) _ | .word (some .false_) _ | .word (some .function_) _
  | .word (some .class_) _ | .word (some .new_) _ | .word (some .import_) _
  | .word (some .typeof_) _ | .word (some .void_) _ | .word (some .delete_) _
  | .word (some .await_) _ | .word (some .yield_) _ | .word (some .throw_) _
  | .word none _ | .string _ | .number | .bigint | .regex | .template .. | .sign .parenOpen
  | .sign .bracketOpen | .sign .braceOpen | .sign .bang | .sign .tilde | .sign .plus
  | .sign .minus | .sign .increment | .sign .decrement | .sign .hash | .sign .less | .sign .star
  | .sign .slash | .sign .slashAssign => true
  | .word (some keyword) _ => keyword.isContextual
  | _ => false

/-- `yield value` or `yield* values`; a single value may be left out. -/
def yieldExpression (rules : Rules code) : Rule code := do
  let start ← here
  advance
  let flags ← flags
  if flags.inParameters && !flags.inFunction then failAt start .yieldInParameters
  if (← isAtStatementEnd) || !startsYielded (← kind) then
    return .compound (← spanFrom start) .other []
  let _ ← eat .star
  let value ← rules .assignment
  return .compound (← spanFrom start) .other [value]

/-- Whether an arrow function may start with a token. -/
def startsArrow : TokenKind → Bool
  | .word none _ | .word (some .yield_) _ | .sign .parenOpen => true
  | .word (some keyword) _ => keyword.isContextual
  | _ => false

/-- An expression without commas and without type parameters in front of it. -/
def plainAssignment (rules : Rules code) : Rule code := do
  if (← flags).inGenerator && (← isAtWord .yield_) then return ← yieldExpression rules
  match ← kind with
  | .broken fault => failWith fault
  | kind =>
    let start ← here
    withArrowStart (if startsArrow kind then some start else none) do
      let node ← conditional rules
      match node.form? with
      | some .arrow | some .conditional | some .binary | some .unary | some .update => return node
      | _ => assignmentRest rules node

/-- Whether type parameters of an arrow function stand here, in a text with markup. -/
def startsTypeParameters : Parser code Bool := lookahead do
  expect .less
  let _ ← eatWord .const_
  unless ← isAtAnyWord do return false
  advance
  if ← eatWord .extends_ then
    return !((← isAt .assign) || (← isAt .greater) || (← isAt .slash))
  else return (← isAt .comma) || (← isAt .assign)

/-- An arrow function with type parameters. -/
def genericArrow (rules : Rules code) : Rule code := do
  let start ← here
  let types ← typeParameters rules
  match (← plainAssignment rules).withTypeParameters start types with
  | some function => return function
  | none => unexpected "("

/-- An expression without commas. -/
def assignment (rules : Rules code) : Rule code := do
  unless ← isAt .less do return ← plainAssignment rules
  if (← flags).markup then
    if ← startsTypeParameters then genericArrow rules else plainAssignment rules
  else
    let generic ← if (← following).kind.isWord then attempt (some <$> genericArrow rules)
      else pure none
    match generic with
    | some function => return function
    | none => plainAssignment rules

/-- An expression. -/
def expression (rules : Rules code) : Rule code := do
  let first ← rules .assignment
  iterate (fun (node : Node code) => do
    if ← eat .comma then
      let next ← rules .assignment
      return .inl (.compound (← spanFrom first.span.start) .other [node, next])
    else return .inr node) first

end ClassRegistry.TypeScript.Grammar
