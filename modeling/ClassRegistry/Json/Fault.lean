/-!
# What can be wrong with a JSON document

A document that cannot be read has one fault: its cause and the place where reading stopped. Columns
count bytes.
-/

namespace ClassRegistry.Json

/-- What a value turns out to be where another kind of value is required. -/
inductive Unexpected where
  | null
  | boolean (value : Bool)
  /-- A whole number, as it is written. -/
  | integer (text : String)
  | floating (text : String)
  /-- A string, in quotes. -/
  | string (quoted : String)
  | sequence
  | map
  deriving DecidableEq, Repr

/-- How a message names a value. -/
def Unexpected.describe : Unexpected → String
  | .null => "null"
  | .boolean true => "boolean \x60true\x60"
  | .boolean false => "boolean \x60false\x60"
  | .integer text => "integer \x60" ++ text ++ "\x60"
  | .floating text => "floating point \x60" ++ text ++ "\x60"
  | .string quoted => "string " ++ quoted
  | .sequence => "sequence"
  | .map => "map"

/-- Why reading stopped. -/
inductive Cause where
  | endInValue
  | endInObject
  | endInList
  | endInString
  | valueExpected
  | wordExpected
  | colonExpected
  | commaOrBraceExpected
  | commaOrBracketExpected
  | keyExpected
  | trailingComma
  | trailingCharacters
  | invalidNumber
  | numberTooLarge
  | invalidEscape
  | unpairedEscape
  | loneSurrogate
  | controlCharacter
  | wrongType (found : Unexpected) (expected : String)
  | duplicateField (name : String)
  deriving DecidableEq, Repr

/-- The wording of a cause. -/
def Cause.message : Cause → String
  | .endInValue => "EOF while parsing a value"
  | .endInObject => "EOF while parsing an object"
  | .endInList => "EOF while parsing a list"
  | .endInString => "EOF while parsing a string"
  | .valueExpected => "expected value"
  | .wordExpected => "expected ident"
  | .colonExpected => "expected \x60:\x60"
  | .commaOrBraceExpected => "expected \x60,\x60 or \x60\x7d\x60"
  | .commaOrBracketExpected => "expected \x60,\x60 or \x60]\x60"
  | .keyExpected => "key must be a string"
  | .trailingComma => "trailing comma"
  | .trailingCharacters => "trailing characters"
  | .invalidNumber => "invalid number"
  | .numberTooLarge => "number out of range"
  | .invalidEscape => "invalid escape"
  | .unpairedEscape => "unexpected end of hex escape"
  | .loneSurrogate => "lone leading surrogate in hex escape"
  | .controlCharacter =>
    "control character (\\u0000-\\u001F) found while parsing a string"
  | .wrongType found expected =>
    "invalid type: " ++ found.describe ++ ", expected " ++ expected
  | .duplicateField name => "duplicate field \x60" ++ name ++ "\x60"

/-- A cause and the place where it was found. Lines count from one, columns are the number of bytes
read on the line. -/
structure Fault where
  line : Nat
  column : Nat
  cause : Cause
  deriving DecidableEq, Repr

/-- The wording of a fault, with its place behind. -/
def Fault.message (f : Fault) : String :=
  f.cause.message ++ " at line " ++ toString f.line ++ " column " ++ toString f.column

end ClassRegistry.Json
