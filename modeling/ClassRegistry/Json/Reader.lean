import ClassRegistry.Json.Fault

/-!
# Reading a JSON document

A reader takes bytes from the front of a document and keeps count of where it is. A document is read
straight into what is wanted of it, so a value of the wrong kind is a fault at its place, as a
misspelt one is.
-/

namespace ClassRegistry.Json

/-- A place in a document and what follows. -/
structure Input where
  rest : List UInt8
  line : Nat
  column : Nat

namespace Input

/-- The start of a document. -/
def start (bytes : List UInt8) : Input :=
  ⟨bytes, 1, 0⟩

/-- The place behind the next byte. -/
def next (i : Input) : Input :=
  match i.rest with
  | [] => i
  | byte :: rest => if byte = 10 then ⟨rest, i.line + 1, 0⟩ else ⟨rest, i.line, i.column + 1⟩

/-- A fault at a place. -/
def fault (i : Input) (cause : Cause) : Fault :=
  ⟨i.line, i.column, cause⟩

end Input

/-- A reader of a part of a document. -/
abbrev Reader (α : Type) := StateT Input (Except Fault) α

/-- The code of an ASCII character. -/
def code (c : Char) : UInt8 :=
  c.toNat.toUInt8

namespace Reader

variable {α : Type}

/-- The next byte, which is not taken. -/
def peek? : Reader (Option UInt8) := do
  return (← get).rest.head?

/-- Takes a byte. -/
def skip : Reader Unit :=
  modify Input.next

/-- Takes the next byte if there is one. -/
def take? : Reader (Option UInt8) := do
  let byte ← peek?
  skip
  return byte

/-- Stops here. -/
def fail (cause : Cause) : Reader α := do
  throw ((← get).fault cause)

/-- Stops behind the next byte, which is the one at fault. -/
def failNext (cause : Cause) : Reader α := do
  throw ((← get).next.fault cause)

/-- Runs a reader again and again until it gives a result; each time but the last one it has to take
a byte. -/
def iterateUpTo {β : Type} : Nat → (α → Reader (α ⊕ β)) → α → Reader β
  | 0, _, _ => fail .trailingCharacters
  | bound + 1, step, a => do
    match ← step a with
    | .inl a => iterateUpTo bound step a
    | .inr b => return b

/-- Runs a reader again and again until it gives a result; each time but the last one it has to take
a byte. -/
def iterate {β : Type} (step : α → Reader (α ⊕ β)) (a : α) : Reader β := do
  iterateUpTo ((← get).rest.length + 2) step a

/-- Takes blanks and gives the byte behind them. -/
def peekToken? : Reader (Option UInt8) := do
  iterate (fun (_ : Unit) => do
    match ← peek? with
    | some byte =>
      if byte = 32 || byte = 10 || byte = 9 || byte = 13 then
        skip
        return .inl ()
      else return .inr (some byte)
    | none => return .inr none) ()

/-- Takes blanks and gives the byte behind them, of which there has to be one. -/
def peekToken (atEnd : Cause) : Reader UInt8 := do
  match ← peekToken? with
  | some byte => return byte
  | none => failNext atEnd

/-- Takes the bytes of a word. -/
def word (text : String) : Reader Unit := do
  text.toList.forM fun c => do
    match ← peek? with
    | none => fail .endInValue
    | some byte =>
      skip
      if byte ≠ code c then fail .wordExpected

/-! ## Strings -/

/-- The value of a hexadecimal digit. -/
def hexDigit? (byte : UInt8) : Option Nat :=
  if 48 ≤ byte && byte ≤ 57 then some (byte.toNat - 48)
  else if 65 ≤ byte && byte ≤ 70 then some (byte.toNat - 55)
  else if 97 ≤ byte && byte ≤ 102 then some (byte.toNat - 87)
  else none

/-- The four hexadecimal digits of an escape. -/
def hexEscape : Reader Nat := do
  let four := (← get).rest.take 4
  four.forM fun _ => skip
  if four.length < 4 then fail .endInString
  match four.mapM hexDigit? with
  | some digits => return digits.foldl (fun value digit => 16 * value + digit) 0
  | none => fail .invalidEscape

/-- The next byte of a string, which is not taken. -/
def peekInString : Reader UInt8 := do
  match ← peek? with
  | some byte => return byte
  | none => fail .endInString

/-- The character of an escape behind its letter `u`. A pair of escapes stands for one character
outside of the Basic Multilingual Plane. -/
def unicodeEscape : Reader Char := do
  let high ← hexEscape
  if 0xDC00 ≤ high && high ≤ 0xDFFF then fail .loneSurrogate
  if high < 0xD800 || 0xDBFF < high then return Char.ofNat high
  for expected in ['\\', 'u'] do
    let byte ← peekInString
    skip
    if byte ≠ code expected then fail .unpairedEscape
  let low ← hexEscape
  if low < 0xDC00 || 0xDFFF < low then fail .loneSurrogate
  return Char.ofNat (0x10000 + (high - 0xD800) * 0x400 + (low - 0xDC00))

/-- The character that a letter behind a backslash stands for. -/
def simpleEscape? (byte : UInt8) : Option Char :=
  if byte = code '"' then some '"'
  else if byte = code '\\' then some '\\'
  else if byte = code '/' then some '/'
  else if byte = code 'b' then some '\x08'
  else if byte = code 'f' then some '\x0c'
  else if byte = code 'n' then some '\n'
  else if byte = code 'r' then some '\r'
  else if byte = code 't' then some '\t'
  else none

/-- The letter of an escape. -/
def escapeLetter : Reader UInt8 := do
  let byte ← peekInString
  skip
  return byte

/-- The rest of a string behind its first quote, as bytes. -/
def stringBytes : Reader (List UInt8) :=
  List.reverse <$> iterate (fun (bytes : List UInt8) => do
    let byte ← peekInString
    skip
    if byte = code '"' then return .inr bytes
    else if byte = code '\\' then
      let letter ← escapeLetter
      let c ← if letter = code 'u' then unicodeEscape else
        match simpleEscape? letter with
        | some c => pure c
        | none => fail .invalidEscape
      return .inl ((String.singleton c).toUTF8.toList.reverse ++ bytes)
    else if byte < 32 then fail .controlCharacter
    else return .inl (byte :: bytes)) []

/-- The rest of a string behind its first quote. -/
def stringRest : Reader String := do
  let bytes ← stringBytes
  return (String.fromUTF8? ⟨bytes.toArray⟩).getD ""

/-- Passes over the rest of a string behind its first quote; pairs of escapes are not looked for. -/
def skipString : Reader Unit :=
  iterate (fun (_ : Unit) => do
    let byte ← peekInString
    if byte < 32 then fail .controlCharacter
    skip
    if byte = code '"' then return .inr ()
    else if byte = code '\\' then
      let letter ← escapeLetter
      if letter = code 'u' then
        let _ ← hexEscape
      else if (simpleEscape? letter).isNone then fail .invalidEscape
      return .inl ()
    else return .inl ()) ()

/-! ## Values that are passed over -/

/-- Whether a byte is a decimal digit. -/
def isDigit (byte : UInt8) : Bool :=
  48 ≤ byte && byte ≤ 57

/-- Takes digits and gives their number. -/
def skipDigits : Reader Nat :=
  iterate (fun (count : Nat) => do
    if (← peek?).any isDigit then
      skip
      return .inl (count + 1)
    else return .inr count) 0

/-- Whether an exponent starts here. -/
def isAtExponent : Reader Bool := do
  return (← peek?).any fun byte => byte = code 'e' || byte = code 'E'

/-- Takes a sign if there is one, and gives whether it is a minus. -/
def sign : Reader Bool := do
  match ← peek? with
  | some byte =>
    if byte = code '-' then
      skip
      return true
    else
      if byte = code '+' then skip
      return false
  | none => return false

/-- Passes over an exponent. -/
def skipExponent : Reader Unit := do
  skip
  let _ ← sign
  let first ← peek?
  skip
  unless first.any isDigit do fail .invalidNumber
  let _ ← skipDigits

/-- Passes over a number behind its sign. -/
def skipNumber : Reader Unit := do
  let first ← peek?
  skip
  match first with
  | some byte =>
    if byte = code '0' then
      if (← peek?).any isDigit then failNext .invalidNumber
    else if isDigit byte then
      let _ ← skipDigits
    else fail .invalidNumber
  | none => fail .invalidNumber
  if (← peek?) = some (code '.') then
    skip
    if (← skipDigits) = 0 then failNext .invalidNumber
  if ← isAtExponent then skipExponent

/-- What encloses a value. -/
inductive Frame where
  | list
  | object
  deriving DecidableEq

/-- The bracket that ends a frame. -/
def Frame.close : Frame → UInt8
  | .list => code ']'
  | .object => code '\x7d'

/-- Passes over the key of a member and its colon. -/
def skipKey : Reader Unit := do
  if (← peekToken .endInObject) ≠ code '"' then failNext .keyExpected
  skip
  skipString
  if (← peekToken .endInObject) ≠ code ':' then failNext .colonExpected
  skip

/-- Passes over the first bytes of a value: all of it, or the bracket that opens a frame. -/
def skipOpening : Reader (Option Frame) := do
  let byte ← peekToken .endInValue
  if byte = code 'n' then
    skip
    word "ull"
    return none
  else if byte = code 't' then
    skip
    word "rue"
    return none
  else if byte = code 'f' then
    skip
    word "alse"
    return none
  else if byte = code '-' then
    skip
    skipNumber
    return none
  else if isDigit byte then
    skipNumber
    return none
  else if byte = code '"' then
    skip
    skipString
    return none
  else if byte = code '[' then
    skip
    return some .list
  else if byte = code '\x7b' then
    skip
    return some .object
  else failNext .valueExpected

/-- Goes on within frames, the innermost first, behind a value or behind an opening bracket: to the
next value, or to the end of them all. -/
def skipInFrames (frames : List Frame) (behindValue : Bool) : Reader (List Frame) :=
  iterate (fun (state : List Frame × Bool) => do
    match state with
    | ([], _) => return .inr []
    | (frame :: outer, behindValue) =>
      let byte ← peekToken (match frame with | .list => .endInList | .object => .endInObject)
      if byte = frame.close then
        skip
        return .inl (outer, true)
      else
        if behindValue then
          if byte = code ',' then skip
          else failNext (match frame with
            | .list => .commaOrBracketExpected
            | .object => .commaOrBraceExpected)
        if frame = .object then skipKey
        return .inr (frame :: outer)) (frames, behindValue)

/-- Passes over a value of any kind. -/
def skipValue : Reader Unit :=
  iterate (fun (frames : List Frame) => do
    let frames ← match ← skipOpening with
      | some frame => skipInFrames (frame :: frames) false
      | none => skipInFrames frames true
    if frames.isEmpty then return .inr () else return .inl frames) []

end Reader

end ClassRegistry.Json
