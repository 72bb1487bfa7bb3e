/-!
# Styled text

Text that a terminal shows in a style, by means of escape sequences. Without colours all text is
plain.
-/

namespace ClassRegistry

/-- A way to show text. -/
inductive Style where
  | bold
  | dimmed
  | red
  | green
  | yellow
  | blue
  | cyan
  deriving DecidableEq, Repr

namespace Style

/-- The code of a style in an escape sequence. -/
def code : Style → String
  | .bold => "1"
  | .dimmed => "2"
  | .red => "31"
  | .green => "32"
  | .yellow => "33"
  | .blue => "34"
  | .cyan => "36"

/-- The sequence that turns styles on. -/
def opening (styles : List Style) : List Char :=
  "\x1b[".toList ++ (";".intercalate (styles.map code)).toList ++ ['m']

/-- The sequence that turns all styles off. -/
def reset : List Char := "\x1b[0m".toList

/-- A text with styles turned on again behind every reset in it. `before` is what stands in front of
it, last character first. -/
def resume (styles : List Style) (before : List Char) : List Char → List Char
  | [] => []
  | c :: rest =>
    let again := if reset.reverse.isPrefixOf (c :: before) then opening styles else []
    c :: (again ++ resume styles (c :: before) rest)

/-- A text as it is shown. -/
def paint (isColored : Bool) (styles : List Style) (text : String) : String :=
  if isColored then
    String.ofList (opening styles ++ resume styles [] text.toList ++ reset)
  else text

end Style

end ClassRegistry
