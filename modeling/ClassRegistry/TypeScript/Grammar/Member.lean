import ClassRegistry.TypeScript.Grammar.Arrow

/-!
# Members and calls

Expressions from names and literals up to chains of members and calls, and what builds on such
chains: `new`, decorators and the interfaces in a heritage clause.
-/

namespace ClassRegistry.TypeScript.Grammar

open TypeScript.Parser

variable {code : Code}

/-! ## Operands -/

/-- A class with its decorators as an expression. Decorators in front of a name say nothing. -/
def decoratedOperand (rules : Rules code) (name : Rule code) : Rule code := do
  let start ← here
  let decorators ← decorators rules
  if ← isAtWord .class_ then classDefinition rules start false false decorators else name

/-- A name that is referred to. It starts an arrow function if an arrow follows on its line. -/
def nameOperand (rules : Rules code) (mayStart : Bool) : Rule code := do
  let start ← here
  let ident ← if ← isAtWord .let_ then anyName else name true
  if mayStart && (← isAt .arrow) && !(← startsLine) then nameArrow rules start false ident
  else return .identifier ident

/-- `async` with a name behind it on its line: an arrow function, but a cast where the name is `as`.
The first word of the head of a loop may be followed by `of`. -/
def asyncName (rules : Rules code) : Rule code := do
  let start ← here
  let ident ← anyName
  let beforeArrow := (← following).kind = .sign .arrow
  if (← flags).inLoopHead && (← isAtWord .of_) && !beforeArrow then return .identifier ident
  let isCast ← isAtWord .as_
  let parameter ← name true
  if isCast && !beforeArrow then
    let type ← inType (rules .type)
    return .compound (← spanFrom start) .cast [.identifier ident, type]
  nameArrow rules start true parameter

/-- An expression that starts with `async`. -/
def asyncOperand (rules : Rules code) (mayStart : Bool) : Rule code := do
  let start ← here
  let next ← following
  if ← startsAsyncFunction then
    advance
    functionDefinition rules start true .expression
  else
    let generic ← if mayStart && next.kind = .sign .less then genericAsyncArrow rules else pure none
    match generic with
    | some function => return function
    | none =>
      if mayStart && next.kind = .sign .parenOpen && !next.startsLine then
        let ident ← anyName
        parenthesized rules (some ident)
      else if mayStart && isReference next && !next.startsLine then asyncName rules
      else nameOperand rules mayStart

/-- An operand without anything in front of it or behind it. -/
def primary (rules : Rules code) : Rule code := do
  let start ← here
  let mayStart ← mayStartArrow start
  match ← kind with
  | .string value =>
    advance
    return .string (← spanFrom start) value
  | .number | .bigint | .word (some .null_) _ | .word (some .true_) _ | .word (some .false_) _ =>
    advance
    return .literal (← spanFrom start)
  | .template .. =>
    let parts ← templateParts rules false
    return .template (← spanFrom start) parts
  | .word (some .this_) _ =>
    advance
    return .compound (← spanFrom start) .other []
  | .word (some .function_) _ => functionDefinition rules start false .expression
  | .word (some .class_) _ => classDefinition rules start false false []
  | .word (some .async_) _ => asyncOperand rules mayStart
  | .sign .bracketOpen => listLiteral rules
  | .sign .braceOpen => objectLiteral rules
  | .sign .parenOpen => parenthesized rules none
  | .sign .slash | .sign .slashAssign => regex
  | _ =>
    decoratedOperand rules do
      match ← kind with
      | .word (some .let_) _ | .word (some .await_) _ => nameOperand rules mayStart
      | .word .. =>
        if ← isAtReference then nameOperand rules mayStart else fail .expressionExpected
      | .sign .hash =>
        advance
        let _ ← anyName
        return .compound (← spanFrom start) .other []
      | .broken fault => failWith fault
      | _ => fail .expressionExpected

/-! ## Chains -/

/-- What may follow an expression: calls and members by key. Where the expression is one that `new`
may stand in front of, the bracket that closes type arguments is no part of a longer sign. -/
structure Reach where
  calls : Bool
  computed : Bool
  separates : Bool

/-- Whether a chain may stop at a step before its last one. -/
def isOptionalChain : Node code → Bool
  | .compound _ .optionalChain _ => true
  | .compound _ .nonNull [inner] => isOptionalChain inner
  | _ => false

/-- A further step of a chain. After an optional step its parts no longer show. -/
def extended (object node : Node code) (parts : List (Node code)) : Node code :=
  if isOptionalChain object then .compound node.span .optionalChain (object :: parts) else node

/-- Whether an operand can start with a token, which stands in front of `next`. -/
def startsOperand (t next : Token code) : Bool :=
  match t.kind with
  | .word (some .this_) _ | .word (some .super_) _ | .word (some .null_) _
  | .word (some .true_) _ | .word (some .false_) _ | .word (some .function_) _
  | .word (some .class_) _ | .word (some .new_) _ | .word (some .delete_) _
  | .word (some .typeof_) _ | .word (some .void_) _ | .word (some .await_) _
  | .word (some .yield_) _ | .string _ | .number | .bigint | .template .. | .sign .parenOpen
  | .sign .bracketOpen | .sign .braceOpen | .sign .plus | .sign .minus | .sign .tilde
  | .sign .bang | .sign .increment | .sign .decrement | .sign .less => true
  | .word (some .import_) _ =>
    next.kind = .sign .parenOpen || next.kind = .sign .less || next.kind = .sign .dot
  | .sign .hash => next.kind.isWord
  | .word .. => isReference t
  | _ => false

/-- Type arguments that no call follows, where the text is not a comparison. -/
def appliedTypes (rules : Rules code) (separates : Bool) : Parser code (Option (Node code)) :=
  attempt do
    unless ← isAt .less do return none
    let arguments ← if separates then separateTypeArguments rules else typeArguments rules
    match ← kind with
    | .sign .less | .sign .greater | .sign .plus | .sign .minus | .sign .parenOpen
    | .template .. => return none
    | kind =>
      if (← startsLine) || kind.isBinarySign || !startsOperand (← token) (← following) then
        return some arguments
      else return none

/-- An expression with the type arguments behind it, if there are any. -/
def instantiated (rules : Rules code) (separates : Bool) (node : Node code) : Rule code := do
  match ← appliedTypes rules separates with
  | some types => return .instantiation (← spanFrom node.span.start) node types
  | none => return node

/-- A call behind its callee and its type arguments. -/
def callRest (rules : Rules code) (callee : Node code) (types : List (Node code)) : Rule code := do
  let arguments ← callArguments rules
  return extended callee (.call (← spanFrom callee.span.start) callee types arguments)
    (arguments ++ types)

/-- A call with type arguments, or none. -/
def typedCall (rules : Rules code) (callee : Node code) : Parser code (Option (Node code)) :=
  attempt do
    unless (← isAt .less) || (← isAt .shiftLeft) do return none
    let types ← typeArguments rules
    unless ← isAt .parenOpen do return none
    return some (← callRest rules callee [types])

/-- A step along a chain, or its end. -/
inductive Step (code : Code) where
  | further (node : Node code)
  | last (node : Node code)

/-- A step that starts with type arguments for sure: a call, a tagged template, or an expression
that nothing but an assignment or a cast follows. -/
def typedStep (rules : Rules code) (reach : Reach) (object : Node code) :
    Parser code (Option (Step code)) := attempt do
  unless ← isAt .less do return none
  let types ← typeArguments rules
  match ← kind with
  | .sign .parenOpen =>
    if reach.calls then return some (.further (← callRest rules object [types])) else return none
  | .template .. => return some (.further (← taggedTemplate rules object [types]))
  | .sign .assign | .word (some .as_) _ | .word (some .satisfies_) _ =>
    return some (.last (.instantiation (← spanFrom object.span.start) object types))
  | _ => return none

/-- `[key]` behind an object. -/
def computedStep (rules : Rules code) (reach : Reach) (object : Node code) (isOptional : Bool) :
    Rule code := do
  advance
  let key ← enclosed (rules .expression)
  expect .bracketClose
  let span ← spanFrom object.span.start
  let node := if isOptional then .compound span .optionalChain [object, key]
    else extended object (.computedMember span object key) [key]
  instantiated rules reach.separates node

/-- The name of a member behind an object. -/
def namedStep (rules : Rules code) (reach : Reach) (object : Node code) (isOptional : Bool) :
    Rule code := do
  let name ← memberName
  let span ← spanFrom object.span.start
  let node := match name with
    | some ident => .member span object ident.name
    | none => .privateMember span object
  instantiated rules reach.separates
    (if isOptional then .compound span .optionalChain [object] else extended object node [])

/-- What follows `?.`, which has been read. -/
def optionalStep (rules : Rules code) (reach : Reach) (object : Node code) : Rule code := do
  if reach.computed && (← isAt .bracketOpen) then computedStep rules reach object true
  else if (← isAt .parenOpen) || (← isAt .less) then
    let types ← if ← isAt .less then pure [← typeArguments rules] else pure []
    let arguments ← callArguments rules
    return .compound (← spanFrom object.span.start) .optionalChain (object :: arguments ++ types)
  else namedStep rules reach object true

/-- A step without type arguments, none where no such step follows. -/
def plainStep (rules : Rules code) (reach : Reach) (object : Node code) :
    Parser code (Option (Node code)) := do
  if ← eat .optionalDot then return some (← optionalStep rules reach object)
  else if reach.computed && (← isAt .bracketOpen) then
    return some (← computedStep rules reach object false)
  else if reach.calls && (← isAt .parenOpen) then return some (← callRest rules object [])
  else if ← eat .dot then return some (← namedStep rules reach object false)
  else return none

/-- One step further along a chain. Type arguments in front of a member say nothing. -/
def chainStep (rules : Rules code) (reach : Reach) (object : Node code) :
    Parser code (Step code) := do
  if (← isAt .bang) && !(← startsLine) then
    advance
    return .further (.compound (← spanFrom object.span.start) .nonNull [object])
  match ← typedStep rules reach object with
  | some step => return step
  | none =>
    let types ← appliedTypes rules reach.separates
    let span ← spanFrom object.span.start
    match ← plainStep rules reach object, types with
    | some node, _ => return .further node
    | none, some types => return .last (.instantiation span object types)
    | none, none =>
      match ← kind with
      | .template .. => return .further (← taggedTemplate rules object [])
      | _ => return .last object

/-- Members and calls behind an expression. -/
def subscripts (rules : Rules code) (reach : Reach) (object : Node code) : Rule code :=
  iterate (fun object => do
    match ← chainStep rules reach object with
    | .further node => return .inl node
    | .last node => return .inr node) object

/-! ## Expressions that need a step -/

/-- Stops where an exclamation mark follows a word that has no value by itself. -/
def failAtNonNull (word : String) : Parser code Unit := do
  if (← isAt .bang) && !(← startsLine) then
    advance
    fail (.nonNullNotAllowed word)

/-- `super` with what has to follow it: a call or a member. -/
def superExpression (rules : Rules code) (reach : Reach) : Rule code := do
  let start ← here
  advance
  let self := Node.compound (← spanFrom start) .other []
  failAtNonNull "super"
  let typed ← if reach.calls then typedCall rules self else pure none
  let node ← match typed with
    | some node => pure node
    | none =>
      if ← eat .bracketOpen then
        let key ← enclosed (rules .expression)
        expect .bracketClose
        pure (.compound (← spanFrom start) .superMember [key])
      else if reach.calls && (← isAt .parenOpen) then callRest rules self []
      else if ← eat .dot then
        if (← memberName).isNone then fail .superCall
        let node := Node.compound (← spanFrom start) .superMember []
        let _ ← appliedTypes rules reach.separates
        pure node
      else fail (if reach.calls then .misplacedSuper else .superCall)
  subscripts rules reach node

/-- A call of `import` or of one of its variants; the words have been read. -/
def importCall (rules : Rules code) (start : Nat) (reach : Reach) : Rule code := do
  unless reach.calls && (← isAt .parenOpen) do fail .misplacedImport
  let callee := Node.compound (← spanFrom start) .other []
  let arguments ← callArguments rules
  if arguments.isEmpty || arguments.length > 2 then failAt start .importArguments
  return .call (← spanFrom start) callee [] arguments

/-- `import(m)`, `import.defer(m)`, `import.source(m)` or `import.meta`. -/
def importExpression (rules : Rules code) (reach : Reach) : Rule code := do
  let start ← here
  advance
  failAtNonNull "import"
  let node ← if ← eat .dot then
      match ← memberName with
      | some ident =>
        if ident.name = "meta" then pure (.compound (← spanFrom start) .other [])
        else if ident.name = "defer" || ident.name = "source" then importCall rules start reach
        else unexpected "meta"
      | none => unexpected "meta"
    else importCall rules start reach
  subscripts rules reach node

/-- `new C<T>(a)`; the parentheses may be left out. -/
def newExpression (rules : Rules code) (reach : Reach) : Rule code := do
  let start ← here
  advance
  if ← eat .dot then
    unless ← eatWord .target_ do unexpected "target"
    return ← subscripts rules reach (.compound (← spanFrom start) .other [])
  let callee ← rules .constructed
  if callee.form? = some .arrow then return callee
  if callee.form? = some .optionalChain then failAt callee.span.start .optionalConstructor
  let types ← attempt do
    unless (← isAt .less) || (← isAt .shiftLeft) do return none
    let types ← typeArguments rules
    if ← isAt .parenOpen then return some types else return none
  if ← isAt .parenOpen then
    let arguments ← callArguments rules
    subscripts rules reach
      (.compound (← spanFrom start) .new (callee :: arguments ++ types.toList))
  else return .compound (← spanFrom start) .new [callee]

/-- An expression that `new` may stand in front of: one without calls. -/
def constructed (rules : Rules code) : Rule code := do
  let reach : Reach := ⟨false, true, true⟩
  match ← keyword? with
  | some .new_ => newExpression rules reach
  | some .super_ => superExpression rules reach
  | some .import_ => importExpression rules reach
  | _ =>
    let operand ← primary rules
    if operand.form? = some .arrow then return operand
    subscripts rules reach (← instantiated rules reach.separates operand)

/-- An expression with members and calls. -/
def leftHandSide (rules : Rules code) : Rule code := do
  let reach : Reach := ⟨true, true, false⟩
  match ← keyword? with
  | some .super_ => superExpression rules reach
  | some .import_ => importExpression rules reach
  | _ =>
    let callee ← constructed rules
    if callee.form? = some .arrow then return callee
    match ← typedCall rules callee with
    | some node => subscripts rules reach node
    | none =>
      if ← isAt .parenOpen then subscripts rules reach (← callRest rules callee [])
      else return callee

/-! ## Decorators and interfaces -/

/-- The arguments of a decorator, which may be left out. -/
def decoratorCall (rules : Rules code) (callee : Node code) : Rule code := do
  let types ← if ← isAt .less then pure [← typeArguments rules] else pure []
  if types.isEmpty && !(← isAt .parenOpen) then return callee
  let arguments ← callArguments rules
  return .call (← spanFrom callee.span.start) callee types arguments

/-- The expression of a decorator behind an opening parenthesis. -/
def enclosedDecoration (rules : Rules code) : Rule code := do
  let inner ← enclosed (rules .expression)
  expect .parenClose
  decoratorCall rules inner

/-- The expression of a decorator that starts with a name. -/
def namedDecoration (rules : Rules code) (ident : Ident code) : Rule code := do
  let callee ← subscripts rules ⟨true, false, false⟩ (.identifier ident)
  decoratorCall rules callee

/-- `@` with a name, members and calls, or with an expression in parentheses. -/
def decorator (rules : Rules code) : Rule code := do
  let start ← here
  expect .at
  let node ← if ← eat .parenOpen then enclosedDecoration rules
    else namedDecoration rules (← name false)
  return .decorator (← spanFrom start) node

/-- Whether an expression is a name with members. -/
def isDotted : Node code → Bool
  | .identifier _ => true
  | .member _ object _ => isDotted object
  | _ => false

/-- An interface that a class implements or another interface extends. -/
def heritage (rules : Rules code) : Rule code := do
  let start ← here
  let root ← anyName
  let node ← subscripts rules ⟨false, false, false⟩ (.identifier root)
  let (object, types) ← match node with
    | .instantiation _ object types => pure (object, [types])
    | object =>
      if ← isAt .less then pure (object, [← typeArguments rules]) else pure (object, [])
  let parts := if isDotted object then types else object :: types
  return .typeReference (← spanFrom start) root parts

end ClassRegistry.TypeScript.Grammar
