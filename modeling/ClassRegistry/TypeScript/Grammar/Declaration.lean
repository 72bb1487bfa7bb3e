import ClassRegistry.TypeScript.Grammar.Class

/-!
# Declarations

Variables, enumerations, interfaces, type aliases and namespaces, and the words that tell a
declaration from an expression.
-/

namespace ClassRegistry.TypeScript.Grammar

open TypeScript.Parser

variable {code : Code}

/-! ## Variables -/

/-- The word that declares variables. -/
inductive VariableKind where
  | var
  | let
  | const
  | using
  deriving DecidableEq

/-- Whether a token can follow `let` in a declaration. -/
def continuesLet : TokenKind → Bool
  | .sign .bracketOpen | .sign .braceOpen | .word none _ | .word (some .let_) _
  | .word (some .yield_) _ | .word (some .await_) _ => true
  | .word (some keyword) _ => keyword.isContextual
  | _ => false

/-- The word at hand if it declares variables. -/
def variableKind? : Parser code (Option VariableKind) := do
  let next ← following
  match ← keyword? with
  | some .var_ => return some .var
  | some .const_ => return some .const
  | some .let_ => return if continuesLet next.kind then some .let else none
  | some .using_ => return if isReference next && !next.startsLine then some .using else none
  | _ => return none

/-- One variable with its type and its value. Only a name may go without a value; so may any pattern
in an ambient declaration, before `in` and `of` in the head of a loop, and behind `const` outside of
loops. -/
def declarator (rules : Rules code) (kind : VariableKind) (inLoop : Bool) : Rule code := do
  let start ← here
  if kind = .let || kind = .const then failAtLet
  let pattern ← rules .binding
  if isNamePattern pattern then
    let _ ← eat .bang
  let annotation ← typeAnnotation rules
  let isTraversed := inLoop && ((← isAtWord .in_) || (← isAtWord .of_))
  let value ← if isTraversed then pure [] else initializer rules
  if value.isEmpty && !isTraversed && !(← flags).isAmbient then
    if kind = .const && !inLoop then skipBroken
    else if !isNamePattern pattern then failAt start .missingInitializer
  return .compound (← spanFrom start) .element (pattern :: annotation ++ value)

/-- Variables behind the word that declares them. A semicolon may end them behind a comma. -/
def declarators (rules : Rules code) (kind : VariableKind) (inLoop : Bool) :
    Parser code (List (Node code)) :=
  List.reverse <$> iterate (fun (declared : List (Node code)) => do
    if ← isAt .semicolon then
      skipBroken
      return .inr declared
    let declared := (← declarator rules kind inLoop) :: declared
    if ← eat .comma then return .inl declared else return .inr declared) []

/-- Skips to the end of a declaration of variables that goes on where it should end. -/
def skipToStatementEnd (rules : Rules code) : Parser code Unit := do
  skipBroken
  let _ ← orNone (rules .expression)
  iterate (fun (_ : Unit) => do
    if ← eatStatementEnd then return .inr ()
    advance
    match ← kind with
    | .broken _ => return .inr ()
    | _ => return .inl ()) ()

/-- A declaration of variables; the current token is the word that declares them. -/
def variableDeclaration (rules : Rules code) (kind : VariableKind) : Rule code := do
  let start ← here
  advance
  let declared ← withFlags (fun f => { f with allowIn := true }) (declarators rules kind false)
  if kind = .using then expectStatementEnd
  else unless ← eatStatementEnd do skipToStatementEnd rules
  return .compound (← spanFrom start) .variables declared

/-! ## Enumerations, interfaces and type aliases -/

/-- The name of a member of an enumeration. An expression in brackets says nothing. -/
def enumKey (rules : Rules code) : Parser code Unit := do
  match ← kind with
  | .string _ | .number => advance
  | .sign .bracketOpen =>
    advance
    let _ ← enclosed (rules .expression)
    expect .bracketClose
  | .broken fault => failWith fault
  | _ =>
    let _ ← anyName

/-- The members of an enumeration. In place of a comma behind a name, two tokens are passed over;
behind a value the comma may be left out. -/
def enumMembers (rules : Rules code) : Parser code (List (Node code)) :=
  List.reverse <$> iterate (fun (values : List (Node code)) => do
    if ← isAt .braceClose then return .inr values
    enumKey rules
    if ← eat .assign then
      let values := (← rules .assignment) :: values
      unless (← eat .comma) || (← isAt .braceClose) do skipBroken
      return .inl values
    else if ← isAt .braceClose then return .inr values
    else
      unless ← isAt .comma do advance
      advance
      return .inl values) []

/-- An enumeration from its name on. -/
def enumeration (rules : Rules code) (start : Nat) : Rule code := do
  let ident ← anyName
  expect .braceOpen
  let values ← enclosed (enumMembers rules)
  expect .braceClose
  return .typeDeclaration (← spanFrom start) ident values

/-- Skips to the members of an interface. -/
def skipToMembers : Parser code Unit :=
  iterate (fun (_ : Unit) => do
    if (← isAt .braceOpen) || (← isAtEnd) then return .inr ()
    advance
    return .inl ()) ()

/-- An interface from its name on. What it extends behind a second `extends` says nothing. -/
def interface (rules : Rules code) (start : Nat) : Rule code := do
  let ident ← anyName
  let types ← typeParameters rules
  let extended ← heritageList rules .extends_
  if ← isAtWord .extends_ then
    skipBroken
    skipToMembers
  let members ← typeMembers rules
  return .typeDeclaration (← spanFrom start) ident (types ++ extended ++ [members])

/-- A type alias from its name on. -/
def typeAlias (rules : Rules code) (start : Nat) : Rule code := do
  let ident ← anyName
  let types ← typeParameters rules
  unless ← eat .assign do unexpected "="
  let type ← inType (rules .type)
  expectStatementEnd
  return .typeDeclaration (← spanFrom start) ident (types ++ [type])

/-! ## Namespaces -/

/-- The items of a namespace, in braces. -/
def namespaceBody (rules : Rules code) : Parser code (List (Node code)) :=
  enclosed do
    expect .braceOpen
    blockItems (rules .item)

/-- A namespace from its name on. -/
def namespaceBlock (rules : Rules code) (start : Nat) : Rule code := do
  let first ← anyName
  let rest ← many do
    if ← eat .dot then return some (← anyName).name else return none
  let body ← namespaceBody rules
  return .namespaceBlock (← spanFrom start) (.dotted first.name rest) body

/-- A module that is named by a string, or the global scope; the body may be left out. -/
def unscopedBlock (rules : Rules code) (start : Nat) (name : NamespaceName) : Rule code := do
  advance
  let body ← if ← isAt .braceOpen then namespaceBody rules else do
    expectStatementEnd
    pure []
  return .namespaceBlock (← spanFrom start) name body

/-- A namespace behind `module`, or none. -/
def moduleBlock (rules : Rules code) (start : Nat) (certain : Bool) :
    Parser code (Option (Node code)) := do
  match ← kind with
  | .string _ => return some (← unscopedBlock rules start .quoted)
  | .broken fault => failWith fault
  | .endOfInput => failAtEnd
  | _ => if certain || (← isAtReference) then namespaceBlock rules start else return none

/-! ## Words that start a declaration -/

/-- A declaration that a word starts behind which only a declaration can follow, or none. -/
def certainDeclaration (rules : Rules code) (start : Nat) (decorators : List (Node code)) :
    Parser code (Option (Node code)) := do
  match ← keyword? with
  | some .abstract_ =>
    advance
    return some (← classDefinition rules start true true decorators)
  | some .enum_ =>
    advance
    return some (← enumeration rules start)
  | some .interface_ =>
    advance
    return some (← interface rules start)
  | some .module_ =>
    if ← startsLine then return none
    advance
    moduleBlock rules start true
  | some .namespace_ =>
    advance
    return some (← namespaceBlock rules start)
  | some .type_ =>
    advance
    return some (← typeAlias rules start)
  | _ => return none

/-- Whether a `const enum` stands here. -/
def startsConstEnumeration : Parser code Bool := do
  return (← isAtWord .const_) && ((← following).kind matches .word (some .enum_) _)

/-- An enumeration behind `const`, which is the current token. -/
def constEnumeration (rules : Rules code) (start : Nat) : Rule code := do
  advance
  advance
  enumeration rules start

/-- A declaration behind `declare`, or none when `declare` is just a name. -/
def ambientDeclaration (rules : Rules code) (start : Nat) (decorators : List (Node code)) :
    Parser code (Option (Node code)) :=
  withFlags (fun f => { f with isAmbient := true }) do
    if ← startsConstEnumeration then return some (← constEnumeration rules start)
    match ← keyword? with
    | some .function_ => return some (← functionDefinition rules start false .declaration)
    | some .class_ => return some (← classDefinition rules start true true decorators)
    | some .const_ => return some (← variableDeclaration rules .const)
    | some .var_ => return some (← variableDeclaration rules .var)
    | some .let_ => return some (← variableDeclaration rules .let)
    | some .global_ => return some (← unscopedBlock rules start .globalScope)
    | _ => certainDeclaration rules start decorators

/-- Whether a token casts what stands in front of it. -/
def isCast (t : Token code) : Bool :=
  !t.startsLine && match t.kind with
    | .word (some .as_) _ | .word (some .satisfies_) _ => true
    | _ => false

/-- A declaration that the current word starts, or none when it is just a name. -/
def wordDeclaration (rules : Rules code) (decorators : List (Node code)) :
    Parser code (Option (Node code)) := do
  let start ← here
  let next ← following
  match ← keyword? with
  | some .declare_ => orGoBack do
    advance
    ambientDeclaration rules start decorators
  | some .global_ =>
    if next.kind = .sign .braceOpen then return some (← unscopedBlock rules start .globalScope)
    else return none
  | some .abstract_ =>
    match next.kind with
    | .word (some .class_) _ =>
      if next.startsLine then return none else certainDeclaration rules start decorators
    | .word (some .interface_) _ =>
      advance
      certainDeclaration rules start decorators
    | _ => return none
  | some .module_ =>
    if next.startsLine || isCast next then return none
    orGoBack do
      advance
      moduleBlock rules start false
  | some .namespace_ =>
    if isReference next && !isCast next then certainDeclaration rules start decorators
    else return none
  | some .enum_ | some .interface_ | some .type_ =>
    if next.kind.isWord && !next.startsLine then certainDeclaration rules start decorators
    else return none
  | _ => return none

end ClassRegistry.TypeScript.Grammar
