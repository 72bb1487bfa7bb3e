import ClassRegistry.TypeScript.Grammar.Type

/-!
# Markup

Elements in angle brackets as expressions. Between tags the text is raw: there a token is raw text,
or a sign that starts a tag or an expression in braces.
-/

namespace ClassRegistry.TypeScript.Grammar

open TypeScript.Parser

variable {code : Code}

/-! ## Names -/

/-- A part of a name: a word with the hyphens and the word characters behind it. -/
def markupWord : Parser code String := do
  match ← kind with
  | .word _ name =>
    let s ← state
    let tail := s.after.rest.takeWhile fun c => Text.isIdentifierPart c || c = '-'
    goto ({ s with after := s.after.advance tail.length } : State code).next
    return name ++ String.ofList tail
  | _ => unexpected "jsx identifier"

/-- A name that may have a colon in it. -/
def attributeName : Parser code String := do
  let first ← markupWord
  if ← eat .colon then return first ++ ":" ++ (← markupWord) else return first

/-- The name of an element: with a colon, or with dots. -/
def elementName : Parser code String := do
  let first ← markupWord
  if ← eat .colon then return first ++ ":" ++ (← markupWord)
  let members ← many do
    if ← eat .dot then return some (← markupWord) else return none
  return ".".intercalate (first :: members)

/-! ## Attributes -/

/-- Goes on to the value of an attribute, which is raw when it is quoted. -/
def advanceToValue : Parser code Unit := do
  let s ← state
  let (place, startsLine) := s.after.skipTrivia
  match place.rest with
  | quote :: rest =>
    if quote = '"' || quote = '\x27' then
      let length := (rest.takeWhile (· ≠ quote)).length + 2
      let lexeme := Lexeme.plain (.string "") rfl startsLine place length
      goto { s with token := lexeme.token, place, after := lexeme.next,
                    previousStop := s.token.span.stop }
    else advance
  | [] => advance

/-- The value of an attribute. -/
def attributeValue (rules : Rules code) : Parser code (List (Node code)) := do
  let start ← here
  match ← kind with
  | .string _ =>
    advance
    return []
  | .sign .braceOpen =>
    advance
    if ← eat .braceClose then failAt start .emptyMarkupAttribute
    let value ← enclosed (rules .expression)
    expect .braceClose
    return [value]
  | .sign .less => return [← rules .markup]
  | _ => fail .markupValue

/-- An attribute of an element. -/
def elementAttribute (rules : Rules code) : Parser code (List (Node code)) := do
  if ← eat .braceOpen then
    expect .ellipsis
    let value ← enclosed (rules .assignment)
    expect .braceClose
    return [value]
  let _ ← attributeName
  if ← isAt .assign then
    advanceToValue
    attributeValue rules
  else return []

/-! ## Elements -/

/-- Reads a closing angle bracket and then what the place asks for: raw text or a token. -/
def closeTag (beforeRaw : Bool) : Parser code Unit := do
  unless ← isAt .greater do failExpected ">"
  if beforeRaw then advanceToRaw else advance

/-- An expression in braces between tags, or none in empty braces. -/
def childExpression (rules : Rules code) : Parser code (List (Node code)) := do
  expect .braceOpen
  let value ← if ← isAt .braceClose then pure [] else do
    let _ ← eat .ellipsis
    pure [← enclosed (rules .expression)]
  unless ← isAt .braceClose do failExpected "\x7d"
  advanceToRaw
  return value

/-- What stands between the tags of an element. It ends where a part of it cannot be read. -/
def children (rules : Rules code) : Parser code (List (Node code)) :=
  iterate (fun (children : List (Node code)) => do
    let child ← orNone do
      match ← kind with
      | .rawText =>
        advanceToRaw
        return []
      | .sign .braceOpen => childExpression rules
      | .sign .less => return [← rules .innerMarkup]
      | _ => failExpected "</"
    match child with
    | some nodes => return .inl (children ++ nodes)
    | none => return .inr children) []

/-- Reads the sign that starts a closing tag. -/
def openClosingTag : Parser code Unit := do
  unless (← kind) = .closingTag do failExpected "</"
  advance

/-- An element, which stands within another one or is an expression of its own. -/
def element (rules : Rules code) (isInner : Bool) : Rule code := inType do
  let start ← here
  expect .less
  if ← isAt .greater then
    closeTag true
    let parts ← children rules
    openClosingTag
    closeTag isInner
    return .compound (← spanFrom start) .other parts
  let name ← elementName
  let types ← if ← isAt .less then pure [← typeArguments rules] else pure []
  let attributes ← many do
    if (← isAt .greater) || (← isAt .slash) then return none
    else return some (← elementAttribute rules)
  let parts := attributes.flatten ++ types
  if ← eat .slash then
    closeTag isInner
    return .compound (← spanFrom start) .rearranged parts
  closeTag true
  let inner ← children rules
  openClosingTag
  let nameStart ← here
  let closed ← elementName
  closeTag isInner
  unless closed = name do failAt nameStart (.closingTag name)
  return .compound (← spanFrom start) .rearranged (parts ++ inner)

end ClassRegistry.TypeScript.Grammar
