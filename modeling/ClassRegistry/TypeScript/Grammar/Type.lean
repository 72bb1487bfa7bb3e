import ClassRegistry.TypeScript.Grammar.Pattern

/-!
# Types

The grammar of types. A type matters here for where it ends, for the names it refers to, and for the
expressions that a computed key may hold.
-/

namespace ClassRegistry.TypeScript.Grammar

open TypeScript.Parser

variable {code : Code}

/-! ## Arguments and parameters -/

/-- Types between angle brackets. -/
def angled {α : Type} (element : Parser code α) : Parser code (List α) :=
  inType do
    expect .less
    let elements ← commaSeparated (isAt .greater) element
    expect .greater
    return elements

/-- `<A, B>` after a name or a callee. -/
def typeArguments (rules : Rules code) : Rule code := do
  let start ← here
  let arguments ← angled (rules .type)
  return .compound (← spanFrom start) .other arguments

/-- Type arguments whose closing bracket is no part of a longer sign. Where other type arguments end
right before it, the bracket always stands alone. -/
def separateTypeArguments (rules : Rules code) : Rule code := do
  let start ← here
  let arguments ← inType do
    expect .less
    let arguments ← commaSeparated (isAt .greater) (rules .type)
    let s ← state
    let isSeparate :=
      (s.reread (Lexeme.sign .expression)).token.kind = .sign .greater ||
        (code.drop (s.previousStop - 1)).head? = some '>'
    unless isSeparate do failExpected ">"
    expect .greater
    return arguments
  return .compound (← spanFrom start) .other arguments

/-- Words in front of the name of a type parameter. -/
def typeParameterWords : List Keyword :=
  [.public_, .private_, .protected_, .readonly_, .abstract_, .const_, .override_, .in_, .out_]

/-- A type parameter with its bound and its default. -/
def typeParameter (rules : Rules code) : Rule code := do
  let start ← here
  let _ ← many (modifier? typeParameterWords)
  let _ ← anyName
  let bound ← if ← eatWord .extends_ then pure [← rules .type] else pure []
  let default ← if ← eat .assign then pure [← rules .type] else pure []
  return .compound (← spanFrom start) .other (bound ++ default)

/-- `<T, U extends V = W>` where parameters are declared, which may be left out. -/
def typeParameters (rules : Rules code) : Parser code (List (Node code)) := do
  if ← isAt .less then angled (typeParameter rules) else return []

/-! ## Return types -/

/-- Whether what a function says of an argument starts here: `x is T`. -/
def startsPredicate : Parser code Bool := do
  let next ← following
  return (← isAtReference) && (next.kind matches .word (some .is_) _) && !next.startsLine

/-- What a function returns, behind a colon or an arrow: a type, or what it says of an argument. -/
def returnType (rules : Rules code) (sign : Punctuator) : Rule code := inType do
  expect sign
  let start ← here
  let asserts ← if ← isAtWord .asserts_ then
      match (← following).kind with
      | .word keyword _ => pure !(keyword.any Keyword.isReserved)
      | _ => pure false
    else pure false
  if asserts then advance
  let hasType ← startsPredicate
  if asserts || hasType then
    let _ ← anyName
    let claimed ← if hasType then do
        advance
        pure [← rules .type]
      else pure []
    return .compound (← spanFrom start) .other claimed
  else rules .type

/-- `: type` after the parameters of a function, which may be left out. -/
def returnAnnotation (rules : Rules code) : Parser code (List (Node code)) := do
  if ← isAt .colon then return [← returnType rules .colon] else return []

/-! ## Signatures -/

/-- The parameters of a signature, in parentheses. They have no defaults. -/
def signatureParameters (rules : Rules code) : Parser code (List (List (Node code))) := do
  expect .parenOpen
  let parameters ← parameters rules
  if parameters.any (·.2.hasDefault) then
    unexpected <| "an identifier, [ for an array pattern, \x7b for an object patter or " ++
      "... for a rest pattern"
  expect .parenClose
  return parameters.map (·.2.parts)

/-- A function type from its type parameters on. -/
def functionType (rules : Rules code) : Rule code := do
  let start ← here
  let types ← typeParameters rules
  let parameters ← signatureParameters rules
  let result ← returnType rules .arrow
  return .compound (← spanFrom start) .rearranged (parameters.flatten ++ types ++ [result])

/-- Whether what is in parentheses are parameters and not a type. -/
def startsFunctionType (rules : Rules code) : Parser code Bool := lookahead do
  advance
  if (← isAt .parenClose) || (← isAt .ellipsis) then return true
  visibility
  match ← kind with
  | .word .. => advance
  | .sign .braceOpen | .sign .bracketOpen =>
    let _ ← rules .binding
  | _ => return false
  match ← kind with
  | .sign .colon | .sign .comma | .sign .question | .sign .assign => return true
  | .sign .parenClose =>
    advance
    isAt .arrow
  | _ => return false

/-- What ends a member of an interface or an object type. -/
def typeMemberEnd : Parser code Unit := do
  unless ← eat .comma do expectStatementEnd

/-- Whether an index signature stands here. -/
def startsIndexSignature : Parser code Bool := lookahead do
  expect .bracketOpen
  unless ← isAtReference do return false
  advance
  return (← isAt .colon) || (← isAt .comma)

/-- `[key: K]: V` -/
def indexSignature (rules : Rules code) : Rule code := do
  let start ← here
  expect .bracketOpen
  let _ ← anyName
  unless ← eat .comma do expect .colon
  let keyType ← inType (rules .type)
  expect .bracketClose
  let valueType ← typeAnnotation rules
  typeMemberEnd
  return .compound (← spanFrom start) .other (keyType :: valueType)

/-- A key in an interface or an object type. -/
def typeMemberKey (rules : Rules code) : Rule code := do
  let start ← here
  match ← kind with
  | .sign .bracketOpen =>
    advance
    let value ← enclosed (rules .assignment)
    expect .bracketClose
    return .computedKey (← spanFrom start) value
  | .string _ | .number => rules .constructed
  | _ =>
    let _ ← memberName
    return .compound (← spanFrom start) .other []

/-- A signature from its type parameters on, up to the end of a member. -/
def signature (rules : Rules code) : Parser code (List (Node code)) := do
  let types ← typeParameters rules
  let parameters ← signatureParameters rules
  let result ← returnAnnotation rules
  typeMemberEnd
  return parameters.flatten ++ result ++ types

/-- An accessor in an interface or an object type, or none. -/
def accessorSignature (rules : Rules code) : Parser code (Option (List (Node code))) := attempt do
  if ← eatWord .get_ then
    let key ← typeMemberKey rules
    expect .parenOpen
    expect .parenClose
    let result ← typeAnnotation rules
    typeMemberEnd
    return some (key :: result)
  else
    expectWord .set_
    let key ← typeMemberKey rules
    match ← signatureParameters rules with
    | [] => return none
    | first :: _ =>
      typeMemberEnd
      return some (key :: first)

/-- A property or a method of an interface or an object type. -/
def propertySignature (rules : Rules code) (isReadonly : Bool) :
    Parser code (List (Node code)) := do
  let key ← typeMemberKey rules
  let _ ← eat .question
  if (← isAt .parenOpen) || (← isAt .less) then
    if isReadonly then fail .readonlyMethod
    return key :: (← signature rules)
  else
    let annotation ← typeAnnotation rules
    typeMemberEnd
    return key :: annotation

/-- A member of an interface or an object type. -/
def typeMember (rules : Rules code) : Rule code := do
  let start ← here
  if (← isAt .parenOpen) || (← isAt .less) then
    let parts ← signature rules
    return .compound (← spanFrom start) .rearranged parts
  let next ← following
  if (← isAtWord .new_) && (next.kind = .sign .parenOpen || next.kind = .sign .less) then
    advance
    let parts ← signature rules
    return .compound (← spanFrom start) .rearranged parts
  let isReadonly := (← modifier? [.readonly_]).isSome
  if ← startsIndexSignature then return ← indexSignature rules
  let accessor ← if isReadonly then pure none else accessorSignature rules
  let parts ← match accessor with
    | some parts => pure parts
    | none => propertySignature rules isReadonly
  return .compound (← spanFrom start) .rearranged parts

/-- The members of an interface or an object type, in braces. -/
def typeMembers (rules : Rules code) : Rule code := do
  let start ← here
  inType do
    expect .braceOpen
    let members ← many do
      if ← isAt .braceClose then return none else return some (← typeMember rules)
    expect .braceClose
    return .compound (← spanFrom start) .other members

/-! ## Mapped types and tuples -/

/-- Whether a mapped type stands here. -/
def startsMappedType : Parser code Bool := lookahead do
  expect .braceOpen
  if (← eat .plus) || (← eat .minus) then return ← isAtWord .readonly_
  let _ ← eatWord .readonly_
  expect .bracketOpen
  unless ← isAtReference do return false
  advance
  isAtWord .in_

/-- A sign before a modifier of a mapped type. -/
def mappedSign : Parser code Bool := do
  return (← eat .plus) || (← eat .minus)

/-- `{ readonly [K in T as U]?: V }` -/
def mappedType (rules : Rules code) : Rule code := do
  let start ← here
  expect .braceOpen
  if ← mappedSign then expectWord .readonly_ else let _ ← eatWord .readonly_
  expect .bracketOpen
  let _ ← anyName
  unless ← eatWord .in_ do unexpected "in"
  let domain ← rules .type
  let renamed ← if ← eatWord .as_ then pure [← rules .type] else pure []
  expect .bracketClose
  if ← mappedSign then expect .question else let _ ← eat .question
  let value ← typeAnnotation rules
  expectStatementEnd
  expect .braceClose
  return .compound (← spanFrom start) .other (domain :: renamed ++ value)

/-- An element of a tuple type, which may have a label. -/
def tupleElement (rules : Rules code) : Rule code := do
  let _ ← attempt do
    let _ ← eat .ellipsis
    let _ ← anyName
    let _ ← eat .question
    expect .colon
    return some ()
  if ← eat .ellipsis then rules .type
  else
    let element ← rules .type
    let _ ← eat .question
    return element

/-- `[A, b: B, ...C[]]` -/
def tupleType (rules : Rules code) : Rule code := do
  let start ← here
  expect .bracketOpen
  let elements ← commaSeparated (isAt .bracketClose) (tupleElement rules)
  expect .bracketClose
  return .compound (← spanFrom start) .other elements

/-! ## Operands -/

/-- The parts of a template type. -/
def templateType (rules : Rules code) : Rule code := do
  let start ← here
  iterate (fun (parts : List (Node code)) => do
    if ← templatePiece false then return .inr (.compound (← spanFrom start) .other parts.reverse)
    let part ← rules .type
    continueTemplate
    return .inl (part :: parts)) []

/-- The names behind the first one of a dotted name. A dot that nothing follows ends it. Reserved
words may be left out as names. -/
def furtherNames (mayReserved : Bool) : Parser code (List (Ident code)) :=
  many do
    unless ← eat .dot do return none
    if (← isAtAnyWord) || (← isAt .hash) then
      if mayReserved then return some (← anyName) else return some (← name false)
    else return none

/-- A dotted name, by the first of its names. -/
def entityName (mayReserved : Bool) : Parser code (Ident code) := do
  let root ← anyName
  let _ ← furtherNames mayReserved
  return root

/-- Type arguments on the same line, which may be left out. -/
def optionalTypeArguments (rules : Rules code) : Parser code (List (Node code)) := do
  if (← isAt .less) && !(← startsLine) then return [← typeArguments rules] else return []

/-- A name with dots, and its arguments. -/
def typeReference (rules : Rules code) : Rule code := do
  let start ← here
  visibility
  let root ← entityName true
  let arguments ← optionalTypeArguments rules
  return .typeReference (← spanFrom start) root arguments

/-- What is said of a module that a type is imported from, in braces. -/
def importTypeOptions (rules : Rules code) : Rule code := do
  expect .braceOpen
  expectWord .with_
  expect .colon
  let attributes ← rules .object
  let _ ← eat .comma
  expect .braceClose
  return attributes

/-- `import("m").A<B>` -/
def importType (rules : Rules code) : Rule code := do
  let start ← here
  advance
  expect .parenOpen
  advance
  let attributes ← if (← eat .comma) && (← isAt .braceOpen) then pure [← importTypeOptions rules]
    else pure []
  expect .parenClose
  if ← eat .dot then
    let _ ← entityName false
  let arguments ← if ← isAt .less then pure [← typeArguments rules] else pure []
  return .compound (← spanFrom start) .rearranged (arguments ++ attributes)

/-- `typeof a.b<C>` -/
def typeQuery (rules : Rules code) : Rule code := do
  let start ← here
  advance
  let named ← if ← isAtWord .import_ then pure [← importType rules] else do
    let nameStart ← here
    let root ← entityName true
    pure [.typeReference (← spanFrom nameStart) root []]
  let arguments ← optionalTypeArguments rules
  return .compound (← spanFrom start) .other (named ++ arguments)

/-- `this` as a type, or what a function says of it; `asserts` may have been read. -/
def thisType (rules : Rules code) (start : Nat) (asserts : Bool) : Rule code := do
  advance
  let claims := (← isAtWord .is_) && (asserts || !(← startsLine))
  if claims then
    advance
    let type ← inType (rules .type)
    return .compound (← spanFrom start) .other [type]
  else return .compound (← spanFrom start) .other []

/-- Words that are types by themselves. -/
def isTypeWord : Keyword → Bool
  | .void_ | .null_ | .undefined_ | .any_ | .bigint_ | .boolean_ | .never_ | .number_ | .object_
  | .string_ | .symbol_ | .unknown_ | .intrinsic_ => true
  | _ => false

/-- Keywords that can start a type reference. -/
def isTypeName (keyword : Keyword) : Bool :=
  match keyword with
  | .void_ | .yield_ | .null_ | .await_ | .break_ => true
  | _ => keyword.isContextual

/-- What a message lists where a type is required. -/
def typeForms : String :=
  "an identifier, void, yield, null, await, break, a string literal, a numeric literal, true, " ++
  "false, \x60, -, import, this, typeof, \x7b, [, ("

/-- A type that starts with a name or with a keyword that can be one. -/
def wordType (rules : Rules code) (keyword : Option Keyword) : Rule code := do
  let start ← here
  let next ← following
  if keyword = some .asserts_ && (next.kind matches .word (some .this_) _) then
    advance
    thisType rules start true
  else if keyword.any isTypeWord && next.kind ≠ .sign .dot then
    advance
    return .compound (← spanFrom start) .other []
  else if keyword.all isTypeName then typeReference rules
  else unexpected typeForms

/-- A type without operators and brackets behind it. -/
def typeOperand (rules : Rules code) : Rule code := do
  let start ← here
  match ← kind with
  | .endOfInput => failAtEnd
  | .broken fault => failWith fault
  | .string _ | .number | .bigint | .word (some .true_) _ | .word (some .false_) _ =>
    advance
    return .compound (← spanFrom start) .other []
  | .template .. => templateType rules
  | .sign .minus =>
    advance
    match ← kind with
    | .number | .bigint => advance
    | _ => unexpected "numeric literal or bigint literal"
    return .compound (← spanFrom start) .other []
  | .word (some .import_) _ => importType rules
  | .word (some .this_) _ => thisType rules start false
  | .word (some .typeof_) _ => typeQuery rules
  | .word keyword _ => wordType rules keyword
  | .sign .braceOpen =>
    if ← startsMappedType then mappedType rules else typeMembers rules
  | .sign .bracketOpen => tupleType rules
  | .sign .parenOpen =>
    advance
    let inner ← rules .type
    expect .parenClose
    return .compound (← spanFrom start) .other [inner]
  | _ => unexpected typeForms

/-! ## Operators -/

/-- A type with brackets behind it: lists and members by key. -/
def postfixType (rules : Rules code) : Rule code := do
  let start ← here
  let operand ← typeOperand rules
  iterate (fun (type : Node code) => do
    if (← isAt .bracketOpen) && !(← startsLine) then
      advance
      if ← eat .bracketClose then return .inl (.compound (← spanFrom start) .other [type])
      else
        let index ← rules .type
        expect .bracketClose
        return .inl (.compound (← spanFrom start) .other [type, index])
    else return .inr type) operand

/-- Types joined by a sign, which may also stand before the first one. -/
def joinedTypes (sign : Punctuator) (element : Rule code) : Rule code := do
  let start ← here
  let _ ← eat sign
  let first ← element
  iterate (fun (type : Node code) => do
    if ← eat sign then
      let next ← element
      return .inl (.compound (← spanFrom start) .other [type, next])
    else return .inr type) first

/-- `infer T extends U`; `infer` has been read. The bound counts unless a conditional type would
have to start behind it. -/
def inferredType (rules : Rules code) (start : Nat) : Rule code := do
  let _ ← anyName
  let bound ← attempt do
    unless ← eatWord .extends_ do return none
    let bound ← rules .boundType
    if (← flags).noConditionalType || !(← isAt .question) then return some bound
    else return none
  return .compound (← spanFrom start) .other bound.toList

/-- A type with words before it such as `keyof`. -/
def prefixedType (rules : Rules code) : Rule code := do
  let start ← here
  let _ ← many do
    if (← eatWord .keyof_) || (← eatWord .unique_) || (← eatWord .readonly_) then return some ()
    else return none
  if ← eatWord .infer_ then inferredType rules start else postfixType rules

/-- A type that is no conditional type. -/
def plainType (rules : Rules code) : Rule code := do
  if (← isAt .less) || ((← isAt .parenOpen) && (← startsFunctionType rules)) then
    functionType rules
  else
    let next ← following
    let isAbstract := (← isAtWord .abstract_) && (next.kind matches .word (some .new_) _)
    if isAbstract || (← isAtWord .new_) then
      if isAbstract then advance
      advance
      functionType rules
    else joinedTypes .pipe (joinedTypes .ampersand (prefixedType rules))

/-- The type that another one is compared with. -/
def boundType (rules : Rules code) : Rule code :=
  withFlags (fun f => { f with noConditionalType := true }) (inType (plainType rules))

/-- A type. -/
def type (rules : Rules code) : Rule code :=
  withFlags (fun f => { f with noConditionalType := false }) <| inType do
    let start ← here
    let checked ← plainType rules
    if (← startsLine) || !(← eatWord .extends_) then return checked
    let bound ← rules .boundType
    expect .question
    let yes ← rules .type
    expect .colon
    let no ← rules .type
    return .compound (← spanFrom start) .other [checked, bound, yes, no]

end ClassRegistry.TypeScript.Grammar
