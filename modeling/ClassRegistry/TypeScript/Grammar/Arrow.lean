import ClassRegistry.TypeScript.Grammar.Literal

/-!
# Parentheses and arrow functions

What stands in parentheses is read once, as expressions and as patterns where only these fit. What
follows the parentheses then tells an arrow function from an expression and from a call.
-/

namespace ClassRegistry.TypeScript

variable {code : Code}

namespace Node

/-- Nodes side by side, which may have been written apart from each other. -/
def group (parts : List (Node code)) : Node code :=
  .compound ⟨0, 0⟩ .rearranged parts

/-- An arrow function within parentheses, behind the items that are its parameters. -/
def repeating (function : Node code) : Node code :=
  .compound function.span .repeating [function]

/-- Whether an arrow function among some nodes holds those before it once more. -/
def repeats (nodes : List (Node code)) : Bool :=
  nodes.any (·.form? = some .repeating)

/-- Expressions between commas in parentheses. -/
def sequence (parts : List (Node code)) : Node code :=
  .compound ⟨0, 0⟩ (if repeats parts then .rearranged else .other) parts

/-- An arrow function. The types are its type parameters and its return type. -/
def arrow (span : Span) (parameters types : List (Node code)) (body : Node code) : Node code :=
  .compound span .arrow [group parameters, body, group types]

/-- An arrow function with type parameters in front of it; none for any other node. -/
def withTypeParameters (start : Nat) (types : List (Node code)) : Node code → Option (Node code)
  | .compound span .arrow [parameters, body, result] =>
    some (.compound ⟨start, span.stop⟩ .arrow [parameters, body, group (types ++ result.parts)])
  | _ => none

end Node

namespace Grammar

open TypeScript.Parser

/-! ## What stands in parentheses -/

/-- An expression or a pattern in parentheses. What `...` takes up is a spread node. -/
structure Parenthetical (code : Code) where
  node : Node code
  isPattern : Bool
  /-- It is a name, which may be spread or have a type. -/
  isName : Bool

/-- Whether an expression is a name. -/
def isName : Node code → Bool
  | .identifier _ => true
  | _ => false

/-- Whether the pattern that an expression turns out to be can have a type. -/
def isTypable : Node code → Bool
  | .identifier _ | .object .. | .compound _ .list _ => true
  | _ => false

/-- What `...` is put in front of, and any other expression itself. -/
def spreadValue : Node code → Node code
  | .spread _ value => value
  | node => node

/-- Whether an expression has `...` in front of it. -/
def isSpread : Node code → Bool
  | .spread .. => true
  | _ => false

/-- An item that starts like an expression, up to where it may turn out to be a pattern. A name may
have a question mark behind it, so no conditional expression is read here. -/
def parentheticalExpression (rules : Rules code) : Rule code := do
  let start ← here
  let next ← following
  if (← isAt .ellipsis) && isReference next then
    advance
    let value ← rules .binary
    return .spread (← spanFrom start) value
  else if ← isAtReference then assignmentRest rules (← rules .binary)
  else spreadable rules

/-- A question mark behind a parameter that need not be given, where only a name can stand. -/
def optionalMark (item : Node code) : Parser code Bool := do
  unless ← isAt .question do return false
  match (← following).kind with
  | .sign .comma | .sign .assign | .sign .parenClose | .sign .colon =>
    advance
    unless isName (spreadValue item) do failAt item.span.start .optionalPattern
    return true
  | _ => return false

/-- An item that has turned out to be a pattern, from its type on. -/
def parentheticalPattern (rules : Rules code) (item : Node code) :
    Parser code (Parenthetical code) := do
  let pattern ← orFail ((spreadValue item).asTarget .binding)
  let annotation ← if isSpread item || isTypable item then typeAnnotation rules else pure []
  let value ← initializer rules
  let span ← spanFrom item.span.start
  let whole := Node.compound span .pattern (pattern :: annotation ++ value)
  let takesRest := isSpread item && value.isEmpty
  return { node := if takesRest then .spread span whole else whole, isPattern := true,
           isName := isName item && value.isEmpty }

/-- An item in parentheses. An arrow function may start with it. -/
def parenthetical (rules : Rules code) : Parser code (Parenthetical code) := do
  withArrowStart (← here) do
    visibility
    let expression ← parentheticalExpression rules
    let isOptional ← optionalMark expression
    let expression ← if !isOptional && !isSpread expression && (← eat .question) then
        conditionalRest rules expression
      else pure expression
    if isOptional || (← isAt .colon) then parentheticalPattern rules expression
    else return ⟨expression, false, isName (spreadValue expression)⟩

/-- Items as parameters. Only the last one may take the rest. -/
def asParameters : List (Parenthetical code) → Except Fault (List (Node code))
  | [] => .ok []
  | item :: rest => do
    if isSpread item.node && !rest.isEmpty then asParameters rest
    else
      let parameter ← if item.isPattern then pure item.node
        else match item.node with
          | .spread span value => do pure (.spread span (← value.asTarget .binding))
          | node => node.asTarget .binding
      return parameter :: (← asParameters rest)

/-- An arrow function behind its arrow. -/
def arrowRest (rules : Rules code) (start : Nat) (isAsync : Bool)
    (items : List (Parenthetical code)) (types : List (Node code)) : Rule code := do
  let parameters ← orFail (asParameters items)
  let body ← arrowBody rules isAsync
  return .arrow (← spanFrom start) parameters types body

/-- What stands in parentheses. After a name, an arrow may stand within them. -/
def parentheticals (rules : Rules code) : Parser code (List (Parenthetical code)) :=
  enclosed do
    let start ← here
    expect .parenOpen
    let items ← iterate (fun (items : List (Parenthetical code)) => do
      if ← isAt .parenClose then return .inr items.reverse
      let items := (← parenthetical rules) :: items
      let hasArrow ← eat .arrow
      let items ← if hasArrow && items.getLast?.any (·.isName) then do
          let function ← arrowRest rules start false items.reverse []
          pure (⟨function.repeating, false, false⟩ :: items)
        else pure items
      unless ← isAt .parenClose do expect .comma
      return .inl items) []
    expect .parenClose
    return items

/-! ## What the parentheses belong to -/

/-- A return type before a colon or an arrow. -/
def arrowResult (rules : Rules code) : Parser code (Option (Node code)) := attempt do
  let result ← returnType rules .colon
  if ← isAt .arrow then return some result else return none

/-- An arrow function behind its parameters within a conditional expression, whose own colon has to
follow it. -/
def arrowInConditional (rules : Rules code) (start : Nat) (isAsync : Bool)
    (items : List (Parenthetical code)) : Parser code (Option (Node code)) := attempt do
  let result ← returnType rules .colon
  expect .arrow
  let function ← arrowRest rules start isAsync items [result]
  if (← flags).beforeColon && !(← isAt .colon) then return none
  return some function

/-- Operators that stand behind an arrow function all the same, when a block has ended it. -/
def operatorsBehindBlock (rules : Rules code) (function : Node code) : Rule code := do
  if (← kind).isBinarySign then
    let node ← operators rules 0 function
    unless ← isAtStatementEnd do skipBroken
    return node
  else return function

/-- An arrow function from its arrow on, which has to be on the line of the parameters. -/
def arrowBehind (rules : Rules code) (start : Nat) (mayStart isAsync : Bool)
    (items : List (Parenthetical code)) (result : Option (Node code)) : Rule code := do
  if ← startsLine then failAt start .lineBeforeArrow
  unless mayStart do failAt start .misplacedArrow
  expect .arrow
  let hasBlock ← isAt .braceOpen
  let function ← arrowRest rules start isAsync items result.toList
  if hasBlock then operatorsBehindBlock rules function else return function

/-- Items as an expression in parentheses. -/
def asExpression (start : Nat) (items : List (Parenthetical code)) : Rule code := do
  match items.find? (isSpread ·.node) with
  | some item => failAt (spreadValue item.node).span.start .spreadInParentheses
  | none =>
    match items.map (·.node) with
    | [] => failAt start .emptyParentheses
    | [inner] => return .parenthesized (← spanFrom start) inner
    | inner => return .parenthesized (← spanFrom start) (.sequence inner)

/-- Whether an arrow function may start at a place. -/
def mayStartArrow (start : Nat) : Parser code Bool := do
  return (← state).arrowStart = some start

/-- An expression in parentheses, or an arrow function that starts with them. Behind `async` they
may also be the arguments of a call. -/
def parenthesized (rules : Rules code) (asyncWord : Option (Ident code)) : Rule code := do
  let start ← match asyncWord with
    | some ident => pure ident.span.start
    | none => here
  let mayStart ← mayStartArrow start
  let items ← parentheticals rules
  let flags ← flags
  let inConditional ← if flags.inConditional && (← isAt .colon) then
      arrowInConditional rules start asyncWord.isSome items
    else pure none
  match inConditional with
  | some function => return function
  | none =>
    let result ← if !flags.beforeColon && (← isAt .colon) then arrowResult rules else pure none
    if items.any (·.isPattern) || result.isSome || (← isAt .arrow) then
      arrowBehind rules start mayStart asyncWord.isSome items result
    else match asyncWord with
      | some ident =>
        return .call (← spanFrom start) (.identifier ident) [] (items.map (·.node))
      | none => asExpression start items

/-- `x => body` from its arrow on. -/
def nameArrow (rules : Rules code) (start : Nat) (isAsync : Bool) (parameter : Ident code) :
    Rule code := do
  expect .arrow
  let body ← arrowBody rules isAsync
  return .arrow (← spanFrom start) [.identifier parameter] [] body

/-- `async <T>(x) => body`, or none. -/
def genericAsyncArrow (rules : Rules code) : Parser code (Option (Node code)) := attempt do
  let start ← here
  advance
  unless ← isAt .less do return none
  let typeParameters ← typeParameters rules
  expect .parenOpen
  let parameters ← parameters rules
  expect .parenClose
  let result ← returnAnnotation rules
  expect .arrow
  let body ← arrowBody rules true
  let parameters := (parameters.map (·.2.parts)).flatten
  return some (.arrow (← spanFrom start) parameters (typeParameters ++ result) body)

end Grammar

end ClassRegistry.TypeScript
