import ClassRegistry.TypeScript.Parser

/-!
# Names, keys and modifiers

A name refers to something or is bound to it; a key names a property. Any word is a key, fewer
words are bound, and reserved words refer to nothing. A modifier is a word in front of a name or a
key that would be a name or a key itself if nothing followed it.
-/

namespace ClassRegistry.TypeScript.Grammar

open TypeScript.Parser

variable {code : Code}

/-- The name that a token is. -/
def identOf? (t : Token code) : Option (Ident code) :=
  match h : t.kind with
  | .word keyword name =>
    some ⟨name, t.span, t.isWordAt (by simp [h, TokenKind.isWord]), t.spells keyword name h⟩
  | _ => none

/-- Any word as a name. -/
def anyName : Parser code (Ident code) := do
  match identOf? (← token) with
  | some ident =>
    advance
    return ident
  | none => fail .identifierExpected

/-- Whether a token can be a name that refers to something. -/
def isReference (t : Token code) : Bool :=
  match t.kind with
  | .word (some keyword) _ => !keyword.isReserved
  | .word none _ => true
  | _ => false

/-- Whether something can be referred to by the current token. -/
def isAtReference : Parser code Bool := do
  return isReference (← token)

/-- A name that is bound. Only where values are handed out may it be `yield`; `await` is a name
where nothing is evaluated. -/
def name (mayYield : Bool) : Parser code (Ident code) := do
  match ← kind with
  | .word none _ => anyName
  | .word (some .await_) _ =>
    if (← flags).isAmbient then anyName
    else if (← flags).inStaticBlock then fail .identifierExpected
    else fail .awaitAsName
  | .word (some .yield_) _ => if mayYield then anyName else fail .identifierExpected
  | .word (some keyword) _ =>
    if keyword.isContextual || keyword = .this_ || keyword = .let_ then anyName
    else fail .identifierExpected
  | _ => fail .identifierExpected

/-- Stops at `let` where it would be misleading as a name. -/
def failAtLet : Parser code Unit := do
  if ← isAtWord .let_ then unexpected "let is reserved in const, let, class declaration"

/-- A name that is bound, if there is one that could also refer to something. -/
def optionalName : Parser code (Option (Ident code)) := do
  if ← isAtReference then some <$> name true else return none

/-- A hash sign with the name right after it. -/
def privateName : Parser code Unit := do
  let start ← here
  expect .hash
  if (← here) ≠ start + 1 then failAt start .spaceInPrivateName
  let _ ← anyName

/-- The name of a member, which may be private. -/
def memberName : Parser code (Option (Ident code)) := do
  if ← isAt .hash then
    privateName
    return none
  else return some (← anyName)

/-- A key of an object literal or of a class member. -/
def key (rules : Rules code) : Rule code := do
  let start ← here
  match ← kind with
  | .string value =>
    advance
    return .string (← spanFrom start) value
  | .number | .bigint =>
    advance
    return .literal (← spanFrom start)
  | .word .. => return .identifier (← anyName)
  | .sign .bracketOpen =>
    advance
    let value ← enclosed (rules .expression)
    expect .bracketClose
    return .computedKey (← spanFrom start) value
  | _ => unexpected "identifier, string literal, numeric literal or [ for the computed key"

/-- A key of a class member, which may be a private name. -/
def memberKey (rules : Rules code) : Rule code := do
  let start ← here
  if ← isAt .hash then
    privateName
    return .compound (← spanFrom start) .other []
  else key rules

/-- Whether a node is the given name as a key. -/
def isKey (node : Node code) (text : String) : Bool :=
  match node with
  | .identifier ident => ident.name = text
  | _ => false

/-! ## Modifiers -/

/-- Whether what a modifier stands in front of can start with a token. -/
def canFollowModifier (t : Token code) : Bool :=
  match t.kind with
  | .sign .bracketOpen | .sign .braceOpen | .sign .star | .sign .ellipsis | .sign .hash
  | .word .. | .string _ | .number | .bigint => true
  | _ => false

/-- Reads one of the given words if it is a modifier, and not a name or a key itself. -/
def modifier? (allowed : List Keyword) : Parser code (Option Keyword) := do
  match ← kind with
  | .word (some keyword) text =>
    let isPlain := text = String.ofList keyword.spelling
    if allowed.contains keyword && isPlain && canFollowModifier (← following) then
      advance
      return some keyword
    else return none
  | .broken fault => failWith fault
  | .endOfInput => failAtEnd
  | _ => return none

/-- Reads a word that may stand in front of a name or a pattern and that says who may see it. -/
def visibility : Parser code Unit := do
  match ← keyword? with
  | some .public_ | some .protected_ | some .private_ | some .readonly_ =>
    let next ← following
    if next.kind.isWord || next.kind = .sign .braceOpen || next.kind = .sign .bracketOpen then
      advance
  | _ => pure ()

end ClassRegistry.TypeScript.Grammar
