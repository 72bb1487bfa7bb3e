import ClassRegistry.Declaration
import ClassRegistry.Path
import ClassRegistry.Text.Width
import ClassRegistry.TypeScript.Parse

/-!
# Source files

A source file is a path and the characters of its text. Here its lines are counted, places in it are
located for messages, and it is parsed.
-/

namespace ClassRegistry

open TypeScript (Code Node)

/-- Why a source file cannot be read, and the place where that was found. -/
structure SourceError where
  location : Location
  cause : TypeScript.Cause
  deriving DecidableEq, Repr

/-- The wording of an error, with its place in front. -/
def SourceError.message (e : SourceError) : String :=
  e.location.render ++ ": " ++ e.cause.message

/-- A source file. -/
structure Source where
  file : String
  /-- The characters of the text, without a byte order mark. -/
  code : Code

namespace Source

/-- The source file with the given text, of which a byte order mark is no part. -/
def ofText (file text : String) : Source :=
  match text.toList with
  | '\ufeff' :: code => ⟨file, code⟩
  | code => ⟨file, code⟩

/-- A character that ends a line. -/
def isLineEnd (c : Char) : Bool :=
  c = '\n' || c = '\r'

/-- The places behind the line ends of a text that stands at the given offset. A line ends with a
line feed, with a carriage return, or with both. -/
def lineStartsFrom (offset : Nat) : Code → List Nat
  | [] => []
  | '\r' :: '\n' :: rest => (offset + 2) :: lineStartsFrom (offset + 2) rest
  | c :: rest =>
    if isLineEnd c then (offset + 1) :: lineStartsFrom (offset + 1) rest
    else lineStartsFrom (offset + 1) rest

/-- The starts of the lines up to an offset. A line end that ends the text starts no line. -/
def lineStartsUpTo (code : Code) (offset : Nat) : List Nat :=
  let length := code.length
  (0 :: lineStartsFrom 0 code).filter fun start => start ≤ offset && start < length

/-- The start of the line that an offset lies in. -/
def lineStart (code : Code) (offset : Nat) : Nat :=
  (lineStartsUpTo code offset).getLast?.getD 0

/-- The characters from the start of the line up to an offset. -/
def linePart (code : Code) (offset : Nat) : List Char :=
  (code.drop (lineStart code offset)).take (offset - lineStart code offset)

/-- The place of an offset in a file, with the columns that a terminal shows. -/
def location (s : Source) (offset : Nat) : Location where
  file := s.file
  line := (lineStartsUpTo s.code offset).length
  column := ((linePart s.code offset).map Text.columns).foldr (· + ·) 0 + 1

/-- The text from the start of the line that an offset lies in to the next line feed. -/
def lineText (code : Code) (offset : Nat) : List Char :=
  (code.drop (lineStart code offset)).takeWhile (· ≠ '\n')

/-- The place of an offset in a file, with the text of its line. -/
def context (s : Source) (offset : Nat) : SourceContext where
  location := s.location offset
  sourceLine := String.ofList (lineText s.code offset)

/-- Whether elements in angle brackets are expressions in the file. -/
def hasMarkup (s : Source) : Bool :=
  (Path.mk s.file).extension? = some "tsx"

/-- The items of the file. -/
def items (s : Source) : Except SourceError (List (Node s.code)) :=
  match TypeScript.parse s.code s.hasMarkup with
  | .ok items => .ok items
  | .error fault => .error ⟨s.location fault.offset, fault.cause⟩

end Source

end ClassRegistry
