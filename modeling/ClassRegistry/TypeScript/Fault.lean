import ClassRegistry.Text.Quoted

/-!
# What can be wrong with a source text

A source that cannot be read has one fault: its cause and the place where it was found. The wording
of a cause is in `Cause.message`.
-/

namespace ClassRegistry.TypeScript

/-- Why reading stopped. -/
inductive Cause where
  | identifierExpected
  | expressionExpected
  | endOfInput
  /-- One token is required and another one found. -/
  | expected (what found : String)
  | statementEndExpected
  /-- A token that fits none of the forms possible here. -/
  | unexpected (found expected : String)
  | awaitAsName
  | nameAfterNumber
  | digitExpected (radix : Nat)
  | unknownCharacter (c : Char)
  | unicodeEscapeExpected
  | badEscape (expected : String)
  | badUnicodeEscape
  | octalEscape
  /-- A reserved word that is written with an escape. -/
  | escapedWord (word : String)
  | unfinishedEscape
  | exponentExpected
  | unterminatedTemplate
  | unterminatedRegex
  | closingTag (name : String)
  | emptyMarkupAttribute
  | markupValue
  | emptyParentheses
  | spreadInParentheses
  | lineBeforeArrow
  | misplacedArrow
  | assignmentTarget
  | notPattern
  | powerOfUnary
  | misplacedSuper
  | superCall
  | misplacedImport
  | importArguments
  | nonNullNotAllowed (word : String)
  | optionalConstructor
  | yieldInParameters
  | optionalPattern
  | propertyPattern
  | loopWithoutOf
  | severalDefaults
  | reservedImport
  | lineAfterThrow
  | importOutsideModule
  | missingInitializer
  | stringBinding (text : String)
  | twiceDecorated
  | readonlyMethod
  | constructorProperty
  | asyncConstructor
  | awaitStar
  | spaceInPrivateName
  | tooDeep
  deriving DecidableEq, Repr

/-- What the digits of a base are called. -/
def radixName (radix : Nat) : String :=
  if radix = 2 then "a binary"
  else if radix = 8 then "an octal"
  else if radix = 16 then "a hexadecimal"
  else "a decimal"

/-- The wording of a cause. -/
def Cause.message : Cause → String
  | .identifierExpected => "Expected ident"
  | .expressionExpected => "Expression expected"
  | .endOfInput => "Unexpected eof"
  | .expected what found => "Expected '" ++ what ++ "', got '" ++ found ++ "'"
  | .statementEndExpected => "Expected ';', '\x7d' or <eof>"
  | .unexpected found possible =>
    "Unexpected token \x60" ++ found ++ "\x60. Expected " ++ possible
  | .awaitAsName => "\x60await\x60 cannot be used as an identifier in an async context"
  | .nameAfterNumber => "Identifier cannot follow number"
  | .digitExpected radix => "Expected " ++ radixName radix ++ " digit"
  | .unknownCharacter c => "Unexpected character '" ++ String.ofList (Text.escaped true c) ++ "'"
  | .unicodeEscapeExpected => "Expected unicode escape"
  | .badEscape what => "Bad character escape sequence, expected " ++ what
  | .badUnicodeEscape => "Invalid unicode escape"
  | .octalEscape => "Legacy octal escape is not permitted in strict mode"
  | .escapedWord word => "Unexpected escape sequence in reserved word: " ++ word
  | .unfinishedEscape => "Invalid string escape"
  | .exponentExpected => "Expected +, - or decimal digit after e"
  | .unterminatedTemplate => "Unterminated template"
  | .unterminatedRegex => "Unterminated regexp literal"
  | .closingTag name => "Expected corresponding JSX closing tag for <" ++ name ++ ">"
  | .emptyMarkupAttribute => "JSX attributes must only be assigned a non-empty expression"
  | .markupValue => "JSX value should be either an expression or a quoted JSX text"
  | .emptyParentheses => "Parenthesized expression cannot be empty"
  | .spreadInParentheses => "Parenthesized expression cannot contain spread operator"
  | .lineBeforeArrow => "Unexpected line break between arrow head and arrow"
  | .misplacedArrow => "An arrow function is not allowed here"
  | .assignmentTarget => "Invalid assignment target"
  | .notPattern => "Not a pattern"
  | .powerOfUnary => "'**' cannot be applied to unary/await expression."
  | .misplacedSuper => "Invalid access to super"
  | .superCall => "Invalid \x60super()\x60"
  | .misplacedImport => "Import is not allowed here"
  | .importArguments => "\x60import()\x60 requires exactly one or two arguments"
  | .nonNullNotAllowed word =>
    "Typescript non-null assertion operator is not allowed with '" ++ word ++ "'"
  | .optionalConstructor => "Constructor in/after an optional chaining is not allowed."
  | .yieldInParameters => "'yield' cannot be used as a parameter within generator"
  | .optionalPattern => "A binding pattern parameter cannot be optional in an implementation " ++
      "signature."
  | .propertyPattern => "Typescript parameter property must be an identifier or assignment pattern"
  | .loopWithoutOf => "for await syntax is valid only for for-of statement"
  | .severalDefaults => "A switch block cannot have multiple defaults"
  | .reservedImport => "cannot import as reserved word"
  | .lineAfterThrow => "LineBreak cannot follow 'throw'"
  | .importOutsideModule => "'import', and 'export' cannot be used outside of module code"
  | .missingInitializer => "Destructuring bindings require initializers"
  | .stringBinding text =>
    "A string literal cannot be used as an imported binding.\n- Did you mean \x60import \x7b \"" ++
      text ++ "\" as foo \x7d\x60?"
  | .twiceDecorated => "Decorators may not appear after \x60export\x60 or " ++
      "\x60export default\x60 if they also appear before \x60export\x60."
  | .readonlyMethod => "A method cannot be readonly"
  | .constructorProperty => "Classes may not have a non-static field named 'constructor'"
  | .asyncConstructor => "Constructor can't be an async function"
  | .awaitStar => "await* has been removed from the async functions proposal. Use Promise.all() " ++
      "instead."
  | .spaceInPrivateName => "Unexpected space between # and identifier"
  | .tooDeep => "The source is nested too deeply"

/-- A cause and the number of characters before the place where it was found. -/
structure Fault where
  offset : Nat
  cause : Cause
  deriving DecidableEq, Repr

end ClassRegistry.TypeScript
