import ClassRegistry.Text.IdentifierPart
import ClassRegistry.TypeScript.Fault
import ClassRegistry.TypeScript.Lexicon

/-!
# Tokens

A token knows the span of source text it was read from. A word carries the proof that its span holds
the characters of a word, and of its own name if that is written without escapes. So a name in a
syntax tree always stands in the text where its span says.
-/

namespace ClassRegistry.TypeScript

/-- The characters of a source text, without a byte order mark. -/
abbrev Code := List Char

/-- A stretch of source text, as numbers of characters before its ends. -/
structure Span where
  start : Nat
  stop : Nat
  deriving DecidableEq, Repr, Inhabited

/-- The characters of a span. -/
def Span.text (s : Span) (code : Code) : List Char :=
  (code.drop s.start).take (s.stop - s.start)

/-- A character that occurs in the written form of a word, escapes included. -/
def isWordChar (c : Char) : Bool :=
  Text.isIdentifierPart c || c == '\\' || c == '\x7b' || c == '\x7d'

theorem isWordChar_lineFeed : isWordChar '\n' = false := by decide

/-- The span holds a word: it is not empty, it lies within the text, and all of its characters can
occur in a word. -/
structure IsWordAt (code : Code) (s : Span) : Prop where
  start_lt_stop : s.start < s.stop
  stop_le_length : s.stop ≤ code.length
  all_wordChars : (s.text code).all isWordChar = true

/-- The span holds a name, character by character, unless there is an escape in it. -/
def Spells (code : Code) (s : Span) (name : String) : Prop :=
  '\\' ∉ s.text code → name.toList = s.text code

/-- What a token is. -/
inductive TokenKind where
  /-- A keyword as it is written, or a name by its characters with escapes resolved. -/
  | word (keyword : Option Keyword) (name : String)
  | sign (p : Punctuator)
  /-- A string literal, by its value. -/
  | string (value : String)
  | number
  | bigint
  | regex
  /-- A piece of a template up to an interpolation or to its end, and what is wrong with an escape
  in it, which a tag may overlook. -/
  | template (isWhole isLast : Bool) (fault : Option Fault)
  /-- Raw text between tags. -/
  | rawText
  /-- The sign that starts a closing tag. -/
  | closingTag
  | endOfInput
  /-- Text that is no token, with what is wrong with it. -/
  | broken (fault : Fault)
  deriving DecidableEq, Repr

namespace TokenKind

/-- Whether the token is a keyword or a name. -/
def isWord : TokenKind → Bool
  | .word .. => true
  | _ => false

/-- How a message names the token. -/
def describe : TokenKind → String
  | .word (some keyword) _ => String.ofList keyword.spelling
  | .word none _ => "ident"
  | .sign p => String.ofList p.spelling
  | .string _ => "string literal"
  | .number => "numeric literal"
  | .bigint => "bigint literal"
  | .regex => "regexp literal"
  | .template true _ _ => "no substitution template literal"
  | .template false _ _ => "template head"
  | .rawText => "jsx text"
  | .closingTag => "</"
  | .endOfInput => "<eof>"
  | .broken _ => "<lexing error>"

end TokenKind

/-- A token of a source text. -/
structure Token (code : Code) where
  kind : TokenKind
  span : Span
  /-- Whether a line ends between the token before and this one. -/
  startsLine : Bool
  isWordAt : kind.isWord = true → IsWordAt code span
  spells : ∀ keyword name, kind = .word keyword name → Spells code span name

/-- A name in a source text. -/
structure Ident (code : Code) where
  /-- The name with escapes resolved. -/
  name : String
  span : Span
  isWordAt : IsWordAt code span
  spells : Spells code span name

end ClassRegistry.TypeScript
