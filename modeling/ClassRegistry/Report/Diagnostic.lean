import ClassRegistry.Registry.Error
import ClassRegistry.Report.Style
import ClassRegistry.Text.Width

/-!
# Diagnostics

How a failed collection is shown: the message, the line of source text with a caret under the place
that is meant, and what else there is to know.
-/

namespace ClassRegistry

/-- Blanks. -/
def blanks (count : Nat) : String :=
  String.ofList (List.replicate count ' ')

namespace SourceContext

/-- The width of the line number. -/
def gutter (c : SourceContext) : Nat :=
  (toString c.location.line).length

/-- The part of the source line that the caret leaves free: a character for each column before the
place. -/
def caretLead (c : SourceContext) : List Char :=
  c.sourceLine.toList.take (c.location.column - 1)

/-- The number of blanks before the caret. -/
def caretPadding (c : SourceContext) : Nat :=
  Text.width c.caretLead

/-- The source line with a caret below. -/
def lines (isColored : Bool) (c : SourceContext) : List String :=
  let margin := blanks c.gutter
  let bar := Style.paint isColored [.blue] "|"
  let number := Style.paint isColored [.blue] (toString c.location.line)
  let caret := blanks c.caretPadding ++ Style.paint isColored [.red] "^"
  ["  " ++ Style.paint isColored [.blue] "-->" ++ " " ++ c.location.render,
    margin ++ " " ++ bar,
    number ++ " " ++ bar ++ " " ++ c.sourceLine,
    margin ++ " " ++ bar ++ " " ++ caret]

end SourceContext

namespace RegisterError

/-- The width of the margin. -/
def gutter (e : RegisterError) : Nat :=
  match e.context? with
  | some context => context.gutter
  | none => 1

/-- A line beside the margin that adds to a message. -/
def remark (isColored : Bool) (e : RegisterError) (styles : List Style) (label text : String) :
    String :=
  blanks e.gutter ++ " " ++ Style.paint isColored [.blue] "=" ++ " " ++
    Style.paint isColored styles label ++ " " ++ text

/-- The lines that show an error. -/
def lines (isColored : Bool) (e : RegisterError) : List String :=
  [Style.paint isColored [.bold, .red] "error" ++ ": " ++ e.message ++ "  " ++
    Style.paint isColored [.dimmed, .cyan] e.code] ++
  (e.context?.map (·.lines isColored)).getD [] ++
  (e.note?.map (e.remark isColored [.bold] "note:")).toList ++
  (e.hint?.map (e.remark isColored [.bold, .cyan] "hint:")).toList ++
  ["",
    Style.paint isColored [.red] "✘" ++ " " ++
      Style.paint isColored [.red] "Generation aborted - no files were written"]

end RegisterError

end ClassRegistry
