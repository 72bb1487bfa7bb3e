import ClassRegistry.TypeScript.Grammar.Expression
import ClassRegistry.TypeScript.Grammar.Markup
import ClassRegistry.TypeScript.Grammar.Module

/-!
# Reading a source text

The rules of the grammar ask each other for parts through `Rules`. Here they are tied together: the
grammar of a depth answers with rules that see the grammar of one depth less. A part never stands
deeper than a few rules for each character of the text, so the depth that `parse` allows is never
used up by a text.
-/

namespace ClassRegistry.TypeScript

open Grammar

/-- One layer of the grammar: what each goal reads when its parts are read by `rules`. -/
def Grammar.layer {code : Code} (rules : Rules code) : Rules code
  | .expression => expression rules
  | .assignment => assignment rules
  | .binary => binary rules
  | .operand level => operand rules level
  | .unary => unary rules
  | .leftHandSide => leftHandSide rules
  | .constructed => constructed rules
  | .binding => binding rules
  | .decorator => decorator rules
  | .heritage => heritage rules
  | .object => objectLiteral rules
  | .type => type rules
  | .boundType => boundType rules
  | .statement => statement rules true
  | .substatement => statement rules false
  | .item => moduleItem rules
  | .markup => element rules false
  | .innerMarkup => element rules true

/-- The grammar, for texts that are nested no deeper than the given depth. -/
def grammar {code : Code} : Nat → Rules code
  | 0 => fun _ => Parser.fail .tooDeep
  | depth + 1 => layer (grammar depth)

/-- All items of a text. -/
def items {code : Code} (rules : Rules code) : Parser code (List (Node code)) :=
  Parser.many do
    if ← Parser.isAtEnd then return none else return some (← rules .item)

/-- The items of a source text. With markup, elements in angle brackets are expressions. -/
def parse (code : Code) (markup : Bool) : Except Fault (List (Node code)) :=
  match items (grammar (8 * (code.length + 8))) (.start code markup) with
  | .done nodes _ => .ok nodes
  | .failed fault _ => .error fault

end ClassRegistry.TypeScript
