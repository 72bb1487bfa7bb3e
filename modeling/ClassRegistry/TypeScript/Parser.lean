import ClassRegistry.TypeScript.Lexer
import ClassRegistry.TypeScript.Syntax

/-!
# Parsers

A parser reads on from a state and either gives a value or a fault. Also after a fault there is a
state, the one in which reading stopped: some rules look at it and read on. `Parser.attempt` goes
back to where it began.
-/

namespace ClassRegistry.TypeScript

/-- What the place in the grammar allows. -/
structure Flags where
  /-- Elements in angle brackets are expressions. -/
  markup : Bool
  /-- `in` is an operator. -/
  allowIn : Bool
  /-- Angle brackets stand alone. -/
  inType : Bool
  /-- A conditional type would belong to an outer one. -/
  noConditionalType : Bool
  /-- In one of the two values of a conditional expression. -/
  inConditional : Bool
  /-- A colon that follows belongs to a conditional expression. -/
  beforeColon : Bool
  inAsync : Bool
  inGenerator : Bool
  /-- In the body of a function. -/
  inFunction : Bool
  /-- Among the parameters of a function. -/
  inParameters : Bool
  inStaticBlock : Bool
  /-- In a declaration of what is defined elsewhere. -/
  isAmbient : Bool
  /-- In the head of a loop. -/
  inLoopHead : Bool

/-- What the outermost place of a text allows. -/
def Flags.outermost (markup : Bool) : Flags where
  markup
  allowIn := true
  inType := false
  noConditionalType := false
  inConditional := false
  beforeColon := false
  inAsync := false
  inGenerator := false
  inFunction := false
  inParameters := false
  inStaticBlock := false
  isAmbient := false
  inLoopHead := false

/-- Where a parser stands: at a token, with the text after it still unread. -/
structure State (code : Code) where
  token : Token code
  /-- The place of the token. -/
  place : Cursor code
  /-- The place after the token. -/
  after : Cursor code
  /-- The number of characters before the end of the token before. -/
  previousStop : Nat
  flags : Flags
  /-- The place where an arrow function may start. -/
  arrowStart : Option Nat
  /-- The bound of every repetition: more than there are tokens. -/
  bound : Nat

variable {code : Code}

/-- What a parser gives. -/
inductive Outcome (code : Code) (α : Type) where
  | done (value : α) (state : State code)
  | failed (fault : Fault) (state : State code)

/-- A reader of source text. -/
def Parser (code : Code) (α : Type) : Type :=
  State code → Outcome code α

namespace State

/-- How angle brackets are read. -/
def mode (s : State code) : LexMode :=
  if s.flags.inType then .type else .expression

/-- The state at the next token. -/
def next (s : State code) : State code :=
  let (place, startsLine) := s.after.skipTrivia
  let lexeme := Lexeme.at s.mode startsLine place
  { s with token := lexeme.token, place, after := lexeme.next,
           previousStop := s.token.span.stop }

/-- The state at the next token, or at raw text, of what stands between tags. -/
def nextRaw (s : State code) : State code :=
  let lexeme := Lexeme.raw s.after
  { s with token := lexeme.token, place := s.after, after := lexeme.next,
           previousStop := s.token.span.stop }

/-- The state behind the current token if that is broken. -/
def skipBroken (s : State code) : State code :=
  match s.token.kind with
  | .broken _ => s.next
  | _ => s

/-- The state with the current token read anew in another way. -/
def reread (s : State code) (read : Bool → Cursor code → Lexeme code) : State code :=
  let lexeme := read s.token.startsLine s.place
  { s with token := lexeme.token, after := lexeme.next }

/-- Reads an angle bracket anew, which stands alone in types only. -/
def rereadAngle (s : State code) : State code :=
  match s.token.kind with
  | .sign p =>
    if p.spelling.head? = some '<' || p.spelling.head? = some '>' then
      s.reread (Lexeme.sign s.mode)
    else s
  | _ => s

/-- The state at the first token. -/
def start (code : Code) (markup : Bool) : State code :=
  let (place, startsLine) := (Cursor.start code).skipTrivia
  let lexeme := Lexeme.at .expression startsLine place
  ⟨lexeme.token, place, lexeme.next, 0, .outermost markup, none, code.length + 8⟩

end State

namespace Parser

variable {α β : Type}

instance : Monad (Parser code) where
  pure a := fun s => .done a s
  bind p f := fun s =>
    match p s with
    | .done a s => f a s
    | .failed fault s => .failed fault s

/-- The current state. -/
def state : Parser code (State code) := fun s => .done s s

/-- Goes on from another state. -/
def goto (s : State code) : Parser code Unit := fun _ => .done () s

/-- The current token. -/
def token : Parser code (Token code) := fun s => .done s.token s

/-- The kind of the current token. -/
def kind : Parser code TokenKind := fun s => .done s.token.kind s

/-- The token after the current one. -/
def following : Parser code (Token code) := fun s => .done s.next.token s

/-- Whether the current token is the first one of its line. -/
def startsLine : Parser code Bool := fun s => .done s.token.startsLine s

/-- The number of characters before the current token. -/
def here : Parser code Nat := fun s => .done s.token.span.start s

/-- The span from a place to the end of the token before. -/
def spanFrom (start : Nat) : Parser code Span := fun s => .done ⟨start, s.previousStop⟩ s

/-- What the place in the grammar allows. -/
def flags : Parser code Flags := fun s => .done s.flags s

/-- Goes on to the next token. -/
def advance : Parser code Unit := fun s => .done () s.next

/-- Goes on to raw text. -/
def advanceToRaw : Parser code Unit := fun s => .done () s.nextRaw

/-- Goes on behind a broken token, if there is one. -/
def skipBroken : Parser code Unit := fun s => .done () s.skipBroken

/-- Stops with a fault at the given place. A broken token is passed over. -/
def failAt (offset : Nat) (cause : Cause) : Parser code α :=
  fun s => .failed ⟨offset, cause⟩ s.skipBroken

/-- Stops with a fault that has been found before. -/
def failWith (fault : Fault) : Parser code α :=
  failAt fault.offset fault.cause

/-- Stops with a fault at the current token. -/
def fail (cause : Cause) : Parser code α := fun s =>
  failAt s.token.span.start cause s

/-- Stops because the text has ended. -/
def failAtEnd : Parser code α :=
  fail .endOfInput

/-- Stops because the current token fits none of the forms possible here. -/
def unexpected (possible : String) : Parser code α := fun s =>
  fail (.unexpected s.token.kind.describe possible) s

/-- Reads on from where a parser stops, with the given value in place of what it could not read. -/
def orGive (p : Parser code α) (a : α) : Parser code α := fun s =>
  match p s with
  | .done a after => .done a after
  | .failed _ after => .done a after.skipBroken

/-- Reads on from where a parser stops, with nothing in place of what it could not read. -/
def orNone (p : Parser code α) : Parser code (Option α) := fun s =>
  match p s with
  | .done a after => .done (some a) after
  | .failed _ after => .done none after

/-- Runs a parser where the grammar allows something else. -/
def withFlags (change : Flags → Flags) (p : Parser code α) : Parser code α := fun s =>
  match p { s with flags := change s.flags } with
  | .done a after => .done a { after with flags := s.flags }
  | .failed fault after => .failed fault { after with flags := s.flags }

/-- Runs a parser where angle brackets may be read in another way than here. -/
def withAngles (change : Flags → Flags) (p : Parser code α) : Parser code α := fun s =>
  match p ({ s with flags := change s.flags } : State code).rereadAngle with
  | .done a after => .done a ({ after with flags := s.flags } : State code).rereadAngle
  | .failed fault after => .failed fault ({ after with flags := s.flags } : State code).rereadAngle

/-- Runs a parser within a type, where angle brackets stand alone. -/
def inType (p : Parser code α) : Parser code α :=
  withAngles (fun f => { f with inType := true }) p

/-- Runs a parser within an expression of its own, such as one in brackets. -/
def enclosed (p : Parser code α) : Parser code α :=
  withAngles (fun f => { f with
    allowIn := true, beforeColon := false, inType := false, noConditionalType := false }) p

/-- Runs a parser where an arrow function may start at the given place and nowhere else. -/
def withArrowStart (start : Option Nat) (p : Parser code α) : Parser code α := fun s =>
  match p { s with arrowStart := start } with
  | .done a after => .done a { after with arrowStart := s.arrowStart }
  | .failed fault after => .failed fault { after with arrowStart := s.arrowStart }

/-- Runs a parser that may find out that it does not apply; then, and after a fault, everything is
as before. -/
def attempt (p : Parser code (Option α)) : Parser code (Option α) := fun s =>
  match p s with
  | .done (some a) after => .done (some a) after
  | .done none _ | .failed _ _ => .done none s

/-- Runs a parser that may find out that it does not apply; then everything is as before. -/
def orGoBack (p : Parser code (Option α)) : Parser code (Option α) := fun s =>
  match p s with
  | .done (some a) after => .done (some a) after
  | .done none _ => .done none s
  | .failed fault after => .failed fault after

/-- What a parser would say, without reading on. -/
def lookahead (p : Parser code Bool) : Parser code Bool := fun s =>
  match p s with
  | .done answer _ => .done answer s
  | .failed _ _ => .done false s

/-- Runs a parser again and again until it gives a result. -/
def iterateUpTo : Nat → (α → Parser code (α ⊕ β)) → α → Parser code β
  | 0, _, _ => fail .tooDeep
  | bound + 1, step, a => do
    match ← step a with
    | .inl a => iterateUpTo bound step a
    | .inr b => pure b

/-- Runs a parser again and again until it gives a result; each time but the last one it has to read
a token. -/
def iterate (step : α → Parser code (α ⊕ β)) (a : α) : Parser code β := fun s =>
  iterateUpTo s.bound step a s

/-- Gathers values as long as there are any. -/
def many (p : Parser code (Option α)) : Parser code (List α) :=
  List.reverse <$> iterate (fun (values : List α) => do
    match ← p with
    | some value => pure (.inl (value :: values))
    | none => pure (.inr values)) []

/-- Whether the current token is the given sign. -/
def isAt (p : Punctuator) : Parser code Bool := fun s => .done (s.token.kind = .sign p) s

/-- The keyword at hand. -/
def keyword? : Parser code (Option Keyword) := do
  match ← kind with
  | .word keyword _ => pure keyword
  | _ => pure none

/-- Whether the current token is the given keyword. -/
def isAtWord (k : Keyword) : Parser code Bool := do
  return (← keyword?) = some k

/-- Whether the current token is a keyword or a name. -/
def isAtAnyWord : Parser code Bool := fun s => .done s.token.kind.isWord s

/-- Whether the text has ended. -/
def isAtEnd : Parser code Bool := fun s => .done (s.token.kind = .endOfInput) s

/-- Reads the given sign if it is there. -/
def eat (p : Punctuator) : Parser code Bool := do
  if ← isAt p then
    advance
    return true
  else return false

/-- Reads the given keyword if it is there. -/
def eatWord (k : Keyword) : Parser code Bool := do
  if ← isAtWord k then
    advance
    return true
  else return false

/-- Stops because another token is required here. -/
def failExpected (what : String) : Parser code α := do
  fail (.expected what (← kind).describe)

/-- Reads the given sign. -/
def expect (p : Punctuator) : Parser code Unit := do
  unless ← eat p do failExpected (String.ofList p.spelling)

/-- Reads the given keyword. -/
def expectWord (k : Keyword) : Parser code Unit := do
  unless ← eatWord k do failExpected (String.ofList k.spelling)

/-- Whether a statement can end here: at a semicolon, at a closing brace, at the end of the text, or
where a line has ended. -/
def isAtStatementEnd : Parser code Bool := do
  return (← isAt .semicolon) || (← isAt .braceClose) || (← isAtEnd) || (← startsLine)

/-- Reads the end of a statement, if it can end here. -/
def eatStatementEnd : Parser code Bool := do
  if ← eat .semicolon then return true else isAtStatementEnd

/-- Reads the end of a statement. -/
def expectStatementEnd : Parser code Unit := do
  unless ← eatStatementEnd do failExpected ";"

/-- Elements between commas up to a closing sign, which is not read. A comma may stand at the
end. -/
def commaSeparated (isClosed : Parser code Bool) (element : Parser code α) :
    Parser code (List α) :=
  List.reverse <$> iterate (fun (elements : List α) => do
    if ← isClosed then return .inr elements
    let elements := (← element) :: elements
    if ← eat .comma then return .inl elements
    if ← isClosed then return .inr elements
    expect .comma
    return .inr elements) []

/-- Reads the template piece that goes on at a closing brace. -/
def continueTemplate : Parser code Unit := do
  if ← isAt .braceClose then
    goto ((← state).reread Lexeme.template)
  else unexpected "\x60\x7d\x60"

/-- Reads a piece of a template, and says whether the template ends with it. Under a tag an escape
may be wrong. -/
def templatePiece (isTagged : Bool) : Parser code Bool := do
  match ← kind with
  | .template _ isLast fault =>
    match fault, isTagged with
    | some fault, false => failWith fault
    | _, _ =>
      advance
      return isLast
  | .broken fault => failWith fault
  | _ => failExpected "\x60"

end Parser

/-- What can be asked of the grammar from anywhere in it. -/
inductive Goal where
  | expression
  | assignment
  /-- An expression with binary operators. -/
  | binary
  /-- An operand with all operators that bind tighter than the given level. -/
  | operand (level : Nat)
  | unary
  | leftHandSide
  /-- What can follow `new`: no call. -/
  | constructed
  | binding
  | decorator
  /-- An interface that a class implements or another interface extends. -/
  | heritage
  /-- An object literal. -/
  | object
  | type
  /-- A type that is no conditional type, for another one to be compared with. -/
  | boundType
  /-- A statement of a list, which may be a declaration, but no import and no export. -/
  | statement
  /-- A statement that another one holds. -/
  | substatement
  /-- A statement, an import or an export. -/
  | item
  /-- Markup that is an expression, and markup within other markup. -/
  | markup
  | innerMarkup
  deriving DecidableEq

/-- A parser for a node. -/
abbrev Rule (code : Code) := Parser code (Node code)

/-- The grammar as its rules see it. -/
abbrev Rules (code : Code) := Goal → Rule code

end ClassRegistry.TypeScript
