import ClassRegistry.TypeScript.Grammar.Target

/-!
# Operators

How strongly operators bind, what stands behind an operand, and assignments.
-/

namespace ClassRegistry.TypeScript

/-- The binding strength of a sign between two operands; higher binds tighter. -/
def Punctuator.binaryLevel? : Punctuator → Option Nat
  | .coalesce | .orOr => some 1
  | .andAnd => some 2
  | .pipe => some 3
  | .caret => some 4
  | .ampersand => some 5
  | .equal | .notEqual | .strictEqual | .strictNotEqual => some 6
  | .less | .lessEqual | .greater | .greaterEqual => some 7
  | .shiftLeft | .shiftRight | .shiftRightZero => some 8
  | .plus | .minus => some 9
  | .star | .slash | .percent => some 10
  | .power => some 11
  | _ => none

/-- Whether a sign assigns; the plain one has no operator in it. -/
def Punctuator.assigns : Punctuator → Bool
  | .assign | .plusAssign | .minusAssign | .starAssign | .slashAssign | .percentAssign
  | .powerAssign | .shiftLeftAssign | .shiftRightAssign | .shiftRightZeroAssign
  | .ampersandAssign | .pipeAssign | .caretAssign | .andAndAssign | .orOrAssign
  | .coalesceAssign => true
  | _ => false

/-- The level of comparisons, which `in`, `instanceof`, `as` and `satisfies` share. -/
def comparisonLevel : Nat := 7

namespace TokenKind

/-- Whether a token is a sign between two operands. -/
def isBinarySign : TokenKind → Bool
  | .sign p => p.binaryLevel?.isSome
  | _ => false

/-- The binding strength of the operator that a token is between two operands. -/
def binaryLevel? (allowIn : Bool) : TokenKind → Option Nat
  | .sign p => p.binaryLevel?
  | .word (some .instanceof_) _ => some comparisonLevel
  | .word (some .in_) _ => if allowIn then some comparisonLevel else none
  | _ => none

/-- Whether a token is an operator in front of its operand. -/
def isUnaryOperator : TokenKind → Bool
  | .sign .plus | .sign .minus | .sign .tilde | .sign .bang
  | .word (some .delete_) _ | .word (some .void_) _ | .word (some .typeof_) _ => true
  | _ => false

end TokenKind

namespace Grammar

open TypeScript.Parser

variable {code : Code}

/-- A cast behind an operand: `as T`, `as const` or `satisfies T`. -/
def castOf (rules : Rules code) (left : Node code) : Parser code (Option (Node code)) := do
  let start := left.span.start
  if ← startsLine then return none
  if ← eatWord .as_ then
    if ← eatWord .const_ then return some (.compound (← spanFrom start) .other [left])
    let type ← inType (rules .type)
    return some (.compound (← spanFrom start) .cast [left, type])
  if ← eatWord .satisfies_ then
    let type ← inType (rules .type)
    return some (.compound (← spanFrom start) .satisfaction [left, type])
  return none

/-- The operators behind an operand that bind tighter than a level. No power has an operand that
another operator stands in front of. -/
def operators (rules : Rules code) (level : Nat) (left : Node code) : Rule code :=
  iterate (fun (left : Node code) => do
    let cast ← if level < comparisonLevel then castOf rules left else pure none
    match cast, (← kind).binaryLevel? (← flags).allowIn with
    | some node, _ => return .inl node
    | none, none => return .inr left
    | none, some strength =>
      if strength ≤ level then return .inr left
      let isPower ← isAt .power
      advance
      if isPower && (left.form? = some .unary || left.form? = some .await) then
        fail .powerOfUnary
      let right ← rules (.operand (if isPower then strength - 1 else strength))
      return .inl (.compound (← spanFrom left.span.start) .binary [left, right])) left

/-- An operand with the operators behind it that bind tighter than a level. -/
def operand (rules : Rules code) (level : Nat) : Rule code := do
  operators rules level (← rules .unary)

/-- Goes on with an operand that is missing when an operator follows in its place. -/
def orMissing (p : Rule code) : Rule code := fun s =>
  match p s with
  | .done node after => .done node after
  | .failed fault after =>
    match after.token.kind with
    | .broken fault => failWith fault after
    | kind =>
      if (kind.binaryLevel? after.flags.allowIn).isSome then
        .done (Node.missing ⟨fault.offset, fault.offset⟩) after
      else .failed fault after

/-- An expression with operators between its operands. -/
def binary (rules : Rules code) : Rule code := do
  let left ← orMissing (rules .unary)
  if left.form? = some .arrow then return left
  operators rules 0 left

/-- The two values of a conditional expression behind its test; the question mark has been read. -/
def conditionalRest (rules : Rules code) (test : Node code) : Rule code := do
  let yes ← withFlags
    (fun f => { f with inConditional := true, beforeColon := true, allowIn := true })
    (rules .assignment)
  expect .colon
  let no ← withFlags (fun f => { f with inConditional := true, beforeColon := false })
    (rules .assignment)
  return .compound (← spanFrom test.span.start) .conditional [test, yes, no]

/-- An expression, and the value that is assigned to it if one is. -/
def assignmentRest (rules : Rules code) (left : Node code) : Rule code := do
  match ← kind with
  | .sign p =>
    if p.assigns then
      let target ← assignmentTarget (p = .assign) left
      advance
      let value ← rules .assignment
      return .assignment (← spanFrom left.span.start) (p = .assign) target value
    else return left
  | _ => return left

end Grammar

end ClassRegistry.TypeScript
