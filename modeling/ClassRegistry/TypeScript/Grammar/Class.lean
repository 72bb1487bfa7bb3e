import ClassRegistry.TypeScript.Grammar.Function

/-!
# Classes

A class with its decorators, heritage and members.
-/

namespace ClassRegistry.TypeScript.Grammar

open TypeScript.Parser

variable {code : Code}

/-! ## Heritage -/

/-- The superclass and its type arguments. -/
def superclass (rules : Rules code) : Parser code (Node code × Option (Node code)) := do
  match ← rules .leftHandSide with
  | .instantiation _ object arguments => return (object, some arguments)
  | node =>
    if ← isAt .less then return (node, some (← typeArguments rules))
    else return (node, none)

/-- Whether a list of interfaces ends here. -/
def isAtHeritageEnd : Parser code Bool := do
  return (← isAt .braceOpen) || (← isAtWord .implements_) || (← isAtWord .extends_)

/-- A list of interfaces. -/
def interfaces (rules : Rules code) : Parser code (List (Node code)) :=
  commaSeparated isAtHeritageEnd (rules .heritage)

/-- A list of interfaces after the given word, which may be left out. -/
def heritageList (rules : Rules code) (word : Keyword) : Parser code (List (Node code)) := do
  if ← eatWord word then interfaces rules else return []

/-- A superclass after `extends`, or none. -/
def optionalSuperclass (rules : Rules code) :
    Parser code (Option (Node code × Option (Node code))) := do
  if ← eatWord .extends_ then return some (← superclass rules) else return none

/-- What a class extends and what it implements. Words may come twice or in the other order; of two
superclasses the first one counts, and interfaces count only behind the first word for them. -/
def classHeritage (rules : Rules code) :
    Parser code (Option (Node code × Option (Node code)) × List (Node code)) := do
  let first ← optionalSuperclass rules
  if first.isSome then
    if ← eat .comma then
      let _ ← interfaces rules
  let _ ← optionalSuperclass rules
  let implemented ← heritageList rules .implements_
  let _ ← heritageList rules .implements_
  let last ← optionalSuperclass rules
  return (first <|> last, implemented)

/-! ## Members -/

/-- Whether a method goes on after its key here. -/
def startsMethod : Parser code Bool := do
  return (← isAt .parenOpen) || (← isAt .less)

/-- Whether a property goes on after its key here, where the end of a line may be its end. -/
def startsField (mayEndLine : Bool) : Parser code Bool := do
  match ← kind with
  | .sign .bang | .sign .colon | .sign .assign | .sign .braceClose | .sign .semicolon =>
    return true
  | _ => if mayEndLine then isAtStatementEnd else return false

/-- Whether the word at hand is the key of a member and not a mark in front of it. -/
def isMemberKey (mayEndLine : Bool) : Parser code Bool := lookahead do
  advance
  return (← startsMethod) || (← startsField mayEndLine) || (← isAt .question)

/-- Reads a word if it is a mark in front of a member. -/
def eatMark (word : Keyword) (mayEndLine : Bool) : Parser code Bool := do
  if (← isAtWord word) && !(← isMemberKey mayEndLine) then
    advance
    return true
  else return false

/-- Whether a key is that of a constructor. -/
def isConstructorKey : Node code → Bool
  | .identifier ident => ident.name = "constructor"
  | .string _ value => value = "constructor"
  | _ => false

/-- A property of a class from its type on. -/
def fieldRest (rules : Rules code) (start : Nat) (decorators : List (Node code))
    (key : Node code) (isOptional : Bool) : Rule code := do
  if isConstructorKey key then failAt key.span.start .constructorProperty
  unless isOptional do
    let _ ← eat .bang
  let annotation ← typeAnnotation rules
  let value ← initializer rules
  unless ← eatStatementEnd do skipBroken
  return .field (← spanFrom start) decorators key annotation value

/-- A method of a class from its type parameters on. -/
def methodRest (rules : Rules code) (start : Nat) (kind : FunctionKind)
    (decorators : List (Node code)) (key : Node code) : Rule code := do
  let method ← functionRest rules start kind none decorators
  return .compound (← spanFrom start) .rearranged [key, method]

/-- A constructor from its parameters on. Type parameters and a return type say nothing. -/
def constructorRest (rules : Rules code) (start : Nat) (key : Node code) : Rule code := do
  let _ ← typeParameters rules
  expect .parenOpen
  let parameters ← enclosed (commaSeparated (isAt .parenClose) (constructorParameter rules))
  expect .parenClose
  let _ ← typeAnnotation rules
  let body ← inBody .ordinary (functionBody rules)
  return .compound (← spanFrom start) .other (key :: parameters.flatten ++ body)

/-- Statements that a class runs when it is defined, in braces. -/
def staticBlock (rules : Rules code) : Rule code :=
  withFlags (fun f => { f with inStaticBlock := true }) (block rules)

/-- The words in front of a member that change how the rest of it is read. -/
structure MemberMarks where
  hasAccess : Bool
  isStatic : Bool
  /-- Words that only a class may have there. -/
  modifiers : List Keyword

/-- Reads a modifier of a class member; before a brace, `static` starts a block. -/
def memberModifier? : Parser code (Option Keyword) := do
  if (← isAtWord .static_) && (← following).kind = .sign .braceOpen then return none
  modifier? [.abstract_, .readonly_, .override_, .static_]

/-- The words in front of a member. -/
def memberMarks : Parser code MemberMarks := do
  let isDeclared ← eatMark .declare_ true
  let hasAccess ← access
  unless isDeclared do
    let _ ← eatMark .declare_ true
  let isStatic ← eatMark .static_ false
  let modifiers ← many memberModifier?
  if modifiers.isEmpty then
    let _ ← eatMark .accessor_ true
  else if !modifiers.contains .readonly_ && (← following).kind ≠ .sign .parenOpen then
    let _ ← eatWord .accessor_
  return ⟨hasAccess, isStatic || modifiers.contains .static_, modifiers⟩

/-- A member behind its key. -/
def keyedMember (rules : Rules code) (start : Nat) (decorators : List (Node code))
    (isReadonly : Bool) (key : Node code) : Rule code := do
  let isOptional ← eat .question
  if ← startsMethod then
    if isReadonly then failAt start .readonlyMethod
    if isConstructorKey key then return ← constructorRest rules start key
    return ← methodRest rules start .ordinary decorators key
  let isGeneratorNext := (← startsLine) && (← isAt .star)
  let isAccessor := (isKey key "get" || isKey key "set") && !(← startsField false) &&
    !isGeneratorNext
  if !isAccessor && (← startsField true) then
    return ← fieldRest rules start decorators key isOptional
  if isKey key "async" && !(← startsLine) then
    let _ ← modifier? [.override_]
    let isGenerator ← eat .star
    let key ← memberKey rules
    if isConstructorKey key then failAt key.span.start .asyncConstructor
    if isReadonly then failAt start .readonlyMethod
    let _ ← eat .question
    return ← methodRest rules start ⟨true, isGenerator⟩ decorators key
  if isAccessor then
    let key ← memberKey rules
    return ← methodRest rules start .ordinary decorators key
  unexpected "* for generator, private key, identifier or async"

/-- A member of a class. -/
def classMember (rules : Rules code) : Rule code := do
  let start ← here
  let decorators ← decorators rules
  let marks ← memberMarks
  if marks.isStatic && (← isAt .braceOpen) then return ← staticBlock rules
  if (← isAtWord .static_) && (← following).kind = .sign .braceOpen then
    advance
    return ← staticBlock rules
  let mayIndex := !marks.hasAccess && !marks.modifiers.contains .abstract_ &&
    !marks.modifiers.contains .override_
  if mayIndex && (← startsIndexSignature) then return ← indexSignature rules
  if ← eat .star then
    let key ← memberKey rules
    return ← methodRest rules start ⟨false, true⟩ decorators key
  let key ← memberKey rules
  keyedMember rules start decorators (marks.modifiers.contains .readonly_) key

/-- The members of a class, in braces. -/
def classMembers (rules : Rules code) : Parser code (List (Node code)) := do
  expect .braceOpen
  let members ← many do
    if ← isAt .braceClose then return none
    else if ← eat .semicolon then return some []
    else return some [← classMember rules]
  expect .braceClose
  return members.flatten

/-- A class from `class` on, which is the current token. -/
def classDefinition (rules : Rules code) (start : Nat) (isDeclaration needsName : Bool)
    (decorators : List (Node code)) : Rule code := do
  expectWord .class_
  let name ← if needsName then do
      failAtLet
      some <$> name true
    else optionalName
  let typeParameters ← typeParameters rules
  let (superclass, implemented) ← classHeritage rules
  let members ← enclosed (classMembers rules)
  return .classDefinition (← spanFrom start) (isDeclaration && name.isSome) name decorators
    typeParameters (superclass.map (·.1)) (superclass.bind (·.2)) implemented members

end ClassRegistry.TypeScript.Grammar
