import ClassRegistry.Decimal.Shortest
import ClassRegistry.Json.Reader
import ClassRegistry.Text.Quoted

/-!
# Values of a required kind

Reading a string, a truth value or a list where one is required. A value of another kind is read as
far as its description needs it, and then is a fault.
-/

namespace ClassRegistry.Json

open Decimal (Binary64)

namespace Reader

variable {α : Type}

/-! ## Numbers -/

/-- The first number that a significand cannot hold. -/
def significandLimit : Nat := Nat.pow 2 64

/-- The greatest exponent of a power of ten that a number can be multiplied with. -/
def greatestPower : Nat := 308

/-- A significand times a power of ten. Each multiplication and division rounds. -/
def scaled (bound : Nat) (value : Binary64) (exponent : Int) : Reader Binary64 :=
  let power (n : Nat) : Binary64 := .ofNat (10 ^ n)
  if exponent.natAbs ≤ greatestPower then
    if 0 ≤ exponent then do
      let value := value.mul (power exponent.natAbs)
      if value.isInfinite then fail .numberTooLarge
      return value
    else return value.div (power exponent.natAbs)
  else if value.significand = 0 then return value
  else if 0 ≤ exponent then fail .numberTooLarge
  else match bound with
    | 0 => return value
    | bound + 1 => scaled bound (value.div (power greatestPower)) (exponent + greatestPower)

/-- The number with the given significand and exponent. Two divisions make any significand zero. -/
def floating (significand : Nat) (exponent : Int) : Reader Binary64 :=
  scaled 4 (.ofNat significand) exponent

/-- The value of a digit. -/
def digitValue (byte : UInt8) : Nat :=
  byte.toNat - 48

/-- The next byte when it is a digit. -/
def peekDigit? : Reader (Option Nat) := do
  return ((← peek?).filter isDigit).map digitValue

/-- Digits that are added to a significand as long as it can hold them, and the number of those
added. -/
def addDigits (significand : Nat) : Reader (Nat × Nat) :=
  iterate (fun (state : Nat × Nat) => do
    match ← peekDigit? with
    | none => return .inr state
    | some digit =>
      let value := 10 * state.1 + digit
      if significandLimit ≤ value then return .inr state
      else
        skip
        return .inl (value, state.2 + 1)) (significand, 0)

/-- The greatest exponent that can be written. -/
def greatestExponent : Nat := Nat.pow 2 31 - 1

/-- The rest of a number from its exponent on. -/
def exponentRest (significand : Nat) (exponent : Int) : Reader Binary64 := do
  skip
  let isNegative ← sign
  let first ← peek?
  if first.isNone then fail .endInValue
  skip
  match first.filter isDigit with
  | none => fail .invalidNumber
  | some byte =>
    let written ← iterate (fun (value : Option Nat) => do
      match value, ← peekDigit? with
      | some value, some digit =>
        skip
        let value := 10 * value + digit
        return .inl (if greatestExponent < value then none else some value)
      | none, some _ =>
        if significand ≠ 0 && !isNegative then return .inr none
        skip
        return .inl none
      | value, none => return .inr value) (some (digitValue byte))
    match written with
    | some value => floating significand (if isNegative then exponent - value else exponent + value)
    | none =>
      if significand ≠ 0 && !isNegative then fail .numberTooLarge
      return .ofNat 0

/-- The rest of a number behind its whole part: an exponent or nothing. -/
def optionalExponent (significand : Nat) (exponent : Int) : Reader Binary64 := do
  if ← isAtExponent then exponentRest significand exponent else floating significand exponent

/-- The rest of a number from its point on. -/
def fractionRest (significand : Nat) (exponent : Int) : Reader Binary64 := do
  skip
  let (significand, count) ← addDigits significand
  let dropped ← skipDigits
  if count = 0 && dropped = 0 then
    failNext (if (← peek?).isSome then .invalidNumber else .endInValue)
  optionalExponent significand (exponent - count)

/-- A number behind its sign, as what it turns out to be. -/
def number (isNegative : Bool) : Reader Unexpected := do
  let minus := if isNegative then "-" else ""
  let floatingText (value : Binary64) : Unexpected := .floating (minus ++ value.text)
  let first ← peek?
  if first.isNone then fail .endInValue
  skip
  match first.filter isDigit with
  | none => fail .invalidNumber
  | some byte =>
    let (significand, _) ←
      if digitValue byte = 0 then
        if (← peekDigit?).isSome then failNext .invalidNumber
        pure (0, 0)
      else addDigits (digitValue byte)
    let dropped ← skipDigits
    if (← peek?) = some (code '.') then
      return floatingText (← fractionRest significand dropped)
    if ← isAtExponent then return floatingText (← exponentRest significand dropped)
    let isWhole := dropped = 0 && (!isNegative || (0 < significand && significand ≤ Nat.pow 2 63))
    if isWhole then return .integer (minus ++ toString significand)
    else return floatingText (← floating significand dropped)

/-! ## Values -/

/-- Stops at a value that is not of the required kind. -/
def wrongType (expected : String) : Reader α := do
  let byte := (← peek?).getD 0
  let found ←
    if byte = code 'n' then do
      skip
      word "ull"
      pure .null
    else if byte = code 't' then do
      skip
      word "rue"
      pure (.boolean true)
    else if byte = code 'f' then do
      skip
      word "alse"
      pure (.boolean false)
    else if byte = code '-' then do
      skip
      number true
    else if isDigit byte then number false
    else if byte = code '"' then do
      skip
      pure (.string (Text.quoted false (← stringRest)))
    else if byte = code '[' then pure .sequence
    else if byte = code '\x7b' then pure .map
    else failNext .valueExpected
  fail (.wrongType found expected)

/-- A string. -/
def text : Reader String := do
  if (← peekToken .endInValue) = code '"' then
    skip
    stringRest
  else wrongType "a string"

/-- A truth value. -/
def flag : Reader Bool := do
  let byte ← peekToken .endInValue
  if byte = code 't' then
    skip
    word "rue"
    return true
  else if byte = code 'f' then
    skip
    word "alse"
    return false
  else wrongType "a boolean"

/-- Whether a list goes on with another element. -/
def hasElement (isFirst : Bool) : Reader Bool := do
  let byte ← peekToken .endInList
  if byte = code ']' then return false
  else if isFirst then return true
  else if byte = code ',' then
    skip
    if (← peekToken .endInValue) = code ']' then failNext .trailingComma
    return true
  else failNext .commaOrBracketExpected

/-- The end of a list, behind the elements that are read. -/
def listEnd : Reader Unit := do
  let byte ← peekToken .endInList
  if byte = code ']' then skip
  else if byte = code ',' then
    skip
    if (← peekToken?) = some (code ']') then failNext .trailingComma
    failNext .trailingCharacters
  else failNext .trailingCharacters

/-- A list of strings. -/
def texts : Reader (List String) := do
  if (← peekToken .endInValue) = code '[' then
    skip
    let elements ← iterate (fun (elements : List String) => do
      if ← hasElement elements.isEmpty then return .inl ((← text) :: elements)
      else return .inr elements.reverse) []
    listEnd
    return elements
  else wrongType "a sequence"

/-- Whether an object goes on with another member, at the quote of its key. -/
def hasMember (isFirst : Bool) : Reader Bool := do
  let byte ← peekToken .endInObject
  if byte = code '\x7d' then return false
  else if isFirst then
    if byte = code '"' then return true else failNext .keyExpected
  else if byte = code ',' then
    skip
    let byte ← peekToken .endInValue
    if byte = code '"' then return true
    else if byte = code '\x7d' then failNext .trailingComma
    else failNext .keyExpected
  else failNext .commaOrBraceExpected

/-- The key of a member. -/
def key : Reader String := do
  skip
  stringRest

/-- The colon behind a key. -/
def colon : Reader Unit := do
  if (← peekToken .endInObject) = code ':' then skip else failNext .colonExpected

/-- Stops at a key that was there before. -/
def duplicate (name : String) : Reader α := do
  if (← peekToken?) = some (code '\x7d') then skip
  fail (.duplicateField name)

/-- The whole of a document. -/
def run (reader : Reader α) (document : String) : Except Fault α := do
  let whole : Reader α := do
    let value ← reader
    if (← peekToken?).isSome then failNext .trailingCharacters
    return value
  whole.run' (.start document.toUTF8.toList)

end Reader

end ClassRegistry.Json
