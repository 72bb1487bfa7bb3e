import ClassRegistry.TypeScript.Grammar.Declaration
import ClassRegistry.TypeScript.Grammar.Operator

/-!
# Statements

Statements, which may be declarations where they stand in a list.
-/

namespace ClassRegistry.TypeScript.Grammar

open TypeScript.Parser

variable {code : Code}

/-- An expression in parentheses that belongs to a statement. -/
def condition (rules : Rules code) : Rule code := do
  expect .parenOpen
  let test ← enclosed (rules .expression)
  expect .parenClose
  return test

/-! ## Loops -/

/-- What the head of a loop starts with. -/
inductive LoopHead (code : Code) where
  /-- `(init; test; update)` -/
  | counting (parts : List (Node code))
  /-- `(key in values)` -/
  | keys (parts : List (Node code))
  /-- `(value of values)` -/
  | values (parts : List (Node code))

/-- What is evaluated in the head of a loop. -/
def LoopHead.parts : LoopHead code → List (Node code)
  | .counting parts | .keys parts | .values parts => parts

/-- The rest of the head of a counting loop, behind its first semicolon. -/
def countingHead (rules : Rules code) (init : List (Node code)) : Parser code (LoopHead code) := do
  let test ← if ← eat .semicolon then pure [] else do
    let test ← rules .expression
    let _ ← eat .semicolon
    pure [test]
  let update ← if ← isAt .parenClose then pure [] else pure [← rules .expression]
  return .counting (init ++ test ++ update)

/-- Whether a loop over keys or values goes on here. -/
def isAtTraversal : Parser code Bool := do
  return (← isAtWord .of_) || (← isAtWord .in_)

/-- The rest of the head of a loop over keys or values, at `in` or `of`. -/
def traversalHead (rules : Rules code) (target : Node code) : Parser code (LoopHead code) := do
  if ← eatWord .of_ then return .values [target, ← rules .assignment]
  else
    advance
    return .keys [target, ← rules .expression]

/-- Whether nothing is declared in the head of a loop: the word for it stands right before `in` or
`of`. -/
def declaresNothing (rules : Rules code) : Parser code Bool := lookahead do
  unless ← isAtTraversal do return false
  advance
  let _ ← rules .assignment
  isAt .parenClose

/-- The head of a loop that declares its variables. -/
def declaringHead (rules : Rules code) (kind : VariableKind) : Parser code (LoopHead code) := do
  let start ← here
  advance
  let declared ← if ← declaresNothing rules then pure []
    else withFlags (fun f => { f with allowIn := kind ≠ .var }) (declarators rules kind true)
  let declaration := Node.compound (← spanFrom start) .other declared
  if ← isAtTraversal then traversalHead rules declaration
  else
    expect .semicolon
    countingHead rules [declaration]

/-- Whether an expression is `using`, or what `await` waits for is. -/
def isUsing : Node code → Bool
  | .identifier ident => ident.name = "using"
  | .compound _ .await [.identifier ident] => ident.name = "using"
  | _ => false

/-- What the head of a loop assigns to at each turn. -/
def traversalTarget (node : Node code) : Rule code :=
  match node with
  | .object .. | .compound _ .list _ => orFail (node.asTarget .assignment)
  | node => pure node

/-- The head of a loop that starts with an expression. -/
def evaluatingHead (rules : Rules code) : Parser code (LoopHead code) := do
  let first ← withFlags (fun f => { f with allowIn := false, inLoopHead := true })
    (rules .expression)
  let next ← following
  let isTraversed :=
    (next.kind matches .word (some .of_) _) || (next.kind matches .word (some .in_) _)
  if isUsing first && isTraversed && !(← isAtWord .of_) then
    let ident ← name true
    traversalHead rules (.identifier ident)
  else if ← isAtTraversal then traversalHead rules (← traversalTarget first)
  else
    expect .semicolon
    countingHead rules [first]

/-- What stands in the parentheses of a `for` loop. -/
def loopHead (rules : Rules code) : Parser code (LoopHead code) := do
  match ← variableKind? with
  | some .var => declaringHead rules .var
  | some .let => declaringHead rules .let
  | some .const => declaringHead rules .const
  | _ => if ← eat .semicolon then countingHead rules [] else evaluatingHead rules

/-- A `for` loop. Only a loop over values may wait. -/
def forLoop (rules : Rules code) : Rule code := do
  let start ← here
  advance
  let mark ← here
  let waits ← eatWord .await_
  expect .parenOpen
  let head ← enclosed (loopHead rules)
  expect .parenClose
  let body ← rules .substatement
  match head with
  | .values _ => pure ()
  | _ => if waits then failAt mark .loopWithoutOf
  return .compound (← spanFrom start) .other (head.parts ++ [body])

/-! ## Branches -/

/-- The cases of a `switch`, in braces. At most one of them is the default. -/
def switchCases (rules : Rules code) : Parser code (List (Node code)) := do
  expect .braceOpen
  let cases ← iterate (fun (parts, hasDefault) => do
    let isDefault ← isAtWord .default_
    unless isDefault || (← isAtWord .case_) do return .inr parts
    advance
    if isDefault && hasDefault then fail .severalDefaults
    let test ← if isDefault then pure [] else pure [← enclosed (rules .expression)]
    expect .colon
    let body ← many do
      if (← isAtWord .case_) || (← isAtWord .default_) || (← isAt .braceClose) then return none
      else return some (← rules .statement)
    return .inl (parts ++ test ++ body, hasDefault || isDefault)) (([] : List (Node code)), false)
  expect .braceClose
  return cases

/-- What handles an exception, behind `catch`. -/
def handler (rules : Rules code) : Parser code (List (Node code)) := do
  let caught ← if ← eat .parenOpen then do
      let pattern ← rules .binding
      let annotation ← typeAnnotation rules
      expect .parenClose
      pure (pattern :: annotation)
    else pure []
  return caught ++ [← block rules]

/-- What is done in any case, or nothing. -/
def finalizer (rules : Rules code) : Parser code (List (Node code)) := do
  if ← eatWord .finally_ then return [← block rules] else return []

/-- A `try` statement. -/
def tryStatement (rules : Rules code) : Rule code := do
  let start ← here
  advance
  let body ← block rules
  let handler ← if ← eatWord .catch_ then handler rules else pure []
  let finalizer ← finalizer rules
  if handler.isEmpty && finalizer.isEmpty then skipBroken
  return .compound (← spanFrom start) .other (body :: handler ++ finalizer)

/-- A handler of exceptions without anything that could raise them, which says nothing. -/
def strayHandler (rules : Rules code) : Rule code := do
  let start ← here
  let _ ← orNone do
    if ← eatWord .catch_ then
      let _ ← handler rules
  let _ ← orNone (finalizer rules)
  return .compound (← spanFrom start) .other []

/-! ## Jumps -/

/-- `break` and `continue`, which may have a label. -/
def jump : Rule code := do
  let start ← here
  advance
  unless ← eatStatementEnd do
    let _ ← name true
    expectStatementEnd
  return .compound (← spanFrom start) .other []

/-- `return`, with or without a value. -/
def returnStatement (rules : Rules code) : Rule code := do
  let start ← here
  advance
  let value ← if ← isAtStatementEnd then pure [] else pure [← rules .expression]
  expectStatementEnd
  return .compound (← spanFrom start) .other value

/-- `throw`; the value has to start on the same line. -/
def throwStatement (rules : Rules code) : Rule code := do
  let start ← here
  advance
  if ← startsLine then fail .lineAfterThrow
  let value ← rules .expression
  expectStatementEnd
  return .compound (← spanFrom start) .other [value]

/-! ## Expressions as statements -/

/-- A statement behind its label. -/
def labelled (rules : Rules code) : Rule code := do
  if ← isAtWord .function_ then functionDefinition rules (← here) false .declaration
  else rules .substatement

/-- The end of a statement that is an expression. An operator may go on with it where it should
end. -/
def expressionEnd (rules : Rules code) (node : Node code) : Rule code := do
  if ← eatStatementEnd then return node
  if (← kind).isBinarySign then operators rules 0 node else fail .statementEndExpected

/-- A statement that is an expression; an expression that is just a name may be a label. -/
def expressionStatement (rules : Rules code) : Rule code := do
  match ← rules .expression with
  | .identifier ident =>
    if ← eat .colon then labelled rules else expressionEnd rules (.identifier ident)
  | node => expressionEnd rules node

/-- A statement that starts with `await using`: variables, or an expression that need not end. -/
def awaitUsing (rules : Rules code) : Rule code := do
  let start ← here
  advance
  match ← variableKind? with
  | some kind => variableDeclaration rules kind
  | none =>
    let value ← rules .unary
    let node ← operators rules 0 (.compound (← spanFrom start) .await [value])
    let _ ← eatStatementEnd
    return node

/-! ## Statements -/

/-- A statement that starts with a reserved word, or none. -/
def reservedStatement (rules : Rules code) (decorators : List (Node code)) :
    Parser code (Option (Node code)) := do
  let start ← here
  match ← keyword? with
  | some .break_ | some .continue_ => return some (← jump)
  | some .debugger_ =>
    advance
    expectStatementEnd
    return some (.compound (← spanFrom start) .other [])
  | some .do_ =>
    advance
    let body ← rules .substatement
    expectWord .while_
    let test ← condition rules
    let _ ← eatStatementEnd
    return some (.doWhile (← spanFrom start) body test)
  | some .for_ => return some (← forLoop rules)
  | some .function_ => return some (← functionDefinition rules start false .declaration)
  | some .class_ => return some (← classDefinition rules start true true decorators)
  | some .if_ =>
    advance
    let test ← condition rules
    let yes ← rules .substatement
    let no ← if ← eatWord .else_ then pure [← rules .substatement] else pure []
    return some (.compound (← spanFrom start) .other (test :: yes :: no))
  | some .return_ => return some (← returnStatement rules)
  | some .switch_ =>
    advance
    let test ← condition rules
    let cases ← switchCases rules
    return some (.compound (← spanFrom start) .other (test :: cases))
  | some .throw_ => return some (← throwStatement rules)
  | some .try_ => return some (← tryStatement rules)
  | some .catch_ | some .finally_ => return some (← strayHandler rules)
  | some .while_ | some .with_ =>
    advance
    let test ← condition rules
    let body ← rules .substatement
    return some (.compound (← spanFrom start) .other [test, body])
  | _ => return none

/-- The variables that a statement declares, or none. Outside of lists only `var` declares. -/
def variableStatement (rules : Rules code) (inList : Bool) : Parser code (Option (Node code)) := do
  match ← variableKind? with
  | some kind =>
    if inList || kind = .var then return some (← variableDeclaration rules kind) else return none
  | none => return none

/-- A statement or a declaration that is neither an import nor an export. -/
def plainStatement (rules : Rules code) (inList : Bool) (decorators : List (Node code)) :
    Rule code := do
  let start ← here
  if ← isAt .braceOpen then return ← block rules
  if ← eat .semicolon then return .compound (← spanFrom start) .other []
  if ← startsConstEnumeration then return ← constEnumeration rules start
  if ← startsAsyncFunction then
    advance
    return ← functionDefinition rules start true .declaration
  let next ← following
  if inList && (← isAtWord .await_) && (next.kind matches .word (some .using_) _) then
    return ← awaitUsing rules
  match ← variableStatement rules inList with
  | some node => return node
  | none =>
    match ← reservedStatement rules decorators with
    | some node => return node
    | none =>
      match ← wordDeclaration rules decorators with
      | some node => return node
      | none => expressionStatement rules

end ClassRegistry.TypeScript.Grammar
