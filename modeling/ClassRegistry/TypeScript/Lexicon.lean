/-!
# Words and signs of the language

The words with a meaning of their own and the signs between them. Both are spelled as characters,
since the scanner reads characters.
-/

namespace ClassRegistry.TypeScript

/-- A word with a meaning of its own somewhere in the grammar. Many of them are ordinary names
elsewhere. -/
inductive Keyword where
  | abstract_ | accessor_ | any_ | as_ | assert_ | asserts_ | async_ | await_ | bigint_ | boolean_
  | break_
  | case_ | catch_ | class_ | const_ | continue_ | debugger_ | declare_ | default_ | delete_ | do_
  | else_ | enum_ | export_ | extends_ | false_ | finally_ | for_ | from_ | function_ | get_
  | global_ | if_ | implements_ | import_ | in_ | infer_ | instanceof_ | interface_ | intrinsic_
  | is_ | keyof_ | let_ | meta_ | module_ | namespace_ | never_ | new_ | null_ | number_ | object_
  | of_ | out_ | override_ | package_ | private_ | protected_ | public_ | readonly_ | require_
  | return_ | satisfies_ | set_ | static_ | string_ | super_ | switch_ | symbol_ | target_ | this_
  | throw_ | true_ | try_ | type_ | typeof_ | undefined_ | unique_ | unknown_ | using_ | var_
  | void_ | while_ | with_ | yield_
  deriving DecidableEq, Repr

namespace Keyword

/-- The characters of a keyword. -/
def spelling : Keyword → List Char
  | .abstract_ => ['a', 'b', 's', 't', 'r', 'a', 'c', 't']
  | .accessor_ => ['a', 'c', 'c', 'e', 's', 's', 'o', 'r']
  | .any_ => ['a', 'n', 'y']
  | .as_ => ['a', 's']
  | .assert_ => ['a', 's', 's', 'e', 'r', 't']
  | .asserts_ => ['a', 's', 's', 'e', 'r', 't', 's']
  | .async_ => ['a', 's', 'y', 'n', 'c']
  | .await_ => ['a', 'w', 'a', 'i', 't']
  | .bigint_ => ['b', 'i', 'g', 'i', 'n', 't']
  | .boolean_ => ['b', 'o', 'o', 'l', 'e', 'a', 'n']
  | .break_ => ['b', 'r', 'e', 'a', 'k']
  | .case_ => ['c', 'a', 's', 'e']
  | .catch_ => ['c', 'a', 't', 'c', 'h']
  | .class_ => ['c', 'l', 'a', 's', 's']
  | .const_ => ['c', 'o', 'n', 's', 't']
  | .continue_ => ['c', 'o', 'n', 't', 'i', 'n', 'u', 'e']
  | .debugger_ => ['d', 'e', 'b', 'u', 'g', 'g', 'e', 'r']
  | .declare_ => ['d', 'e', 'c', 'l', 'a', 'r', 'e']
  | .default_ => ['d', 'e', 'f', 'a', 'u', 'l', 't']
  | .delete_ => ['d', 'e', 'l', 'e', 't', 'e']
  | .do_ => ['d', 'o']
  | .else_ => ['e', 'l', 's', 'e']
  | .enum_ => ['e', 'n', 'u', 'm']
  | .export_ => ['e', 'x', 'p', 'o', 'r', 't']
  | .extends_ => ['e', 'x', 't', 'e', 'n', 'd', 's']
  | .false_ => ['f', 'a', 'l', 's', 'e']
  | .finally_ => ['f', 'i', 'n', 'a', 'l', 'l', 'y']
  | .for_ => ['f', 'o', 'r']
  | .from_ => ['f', 'r', 'o', 'm']
  | .function_ => ['f', 'u', 'n', 'c', 't', 'i', 'o', 'n']
  | .get_ => ['g', 'e', 't']
  | .global_ => ['g', 'l', 'o', 'b', 'a', 'l']
  | .if_ => ['i', 'f']
  | .implements_ => ['i', 'm', 'p', 'l', 'e', 'm', 'e', 'n', 't', 's']
  | .import_ => ['i', 'm', 'p', 'o', 'r', 't']
  | .in_ => ['i', 'n']
  | .infer_ => ['i', 'n', 'f', 'e', 'r']
  | .instanceof_ => ['i', 'n', 's', 't', 'a', 'n', 'c', 'e', 'o', 'f']
  | .interface_ => ['i', 'n', 't', 'e', 'r', 'f', 'a', 'c', 'e']
  | .intrinsic_ => ['i', 'n', 't', 'r', 'i', 'n', 's', 'i', 'c']
  | .is_ => ['i', 's']
  | .keyof_ => ['k', 'e', 'y', 'o', 'f']
  | .let_ => ['l', 'e', 't']
  | .meta_ => ['m', 'e', 't', 'a']
  | .module_ => ['m', 'o', 'd', 'u', 'l', 'e']
  | .namespace_ => ['n', 'a', 'm', 'e', 's', 'p', 'a', 'c', 'e']
  | .never_ => ['n', 'e', 'v', 'e', 'r']
  | .new_ => ['n', 'e', 'w']
  | .null_ => ['n', 'u', 'l', 'l']
  | .number_ => ['n', 'u', 'm', 'b', 'e', 'r']
  | .object_ => ['o', 'b', 'j', 'e', 'c', 't']
  | .of_ => ['o', 'f']
  | .out_ => ['o', 'u', 't']
  | .override_ => ['o', 'v', 'e', 'r', 'r', 'i', 'd', 'e']
  | .package_ => ['p', 'a', 'c', 'k', 'a', 'g', 'e']
  | .private_ => ['p', 'r', 'i', 'v', 'a', 't', 'e']
  | .protected_ => ['p', 'r', 'o', 't', 'e', 'c', 't', 'e', 'd']
  | .public_ => ['p', 'u', 'b', 'l', 'i', 'c']
  | .readonly_ => ['r', 'e', 'a', 'd', 'o', 'n', 'l', 'y']
  | .require_ => ['r', 'e', 'q', 'u', 'i', 'r', 'e']
  | .return_ => ['r', 'e', 't', 'u', 'r', 'n']
  | .satisfies_ => ['s', 'a', 't', 'i', 's', 'f', 'i', 'e', 's']
  | .set_ => ['s', 'e', 't']
  | .static_ => ['s', 't', 'a', 't', 'i', 'c']
  | .string_ => ['s', 't', 'r', 'i', 'n', 'g']
  | .super_ => ['s', 'u', 'p', 'e', 'r']
  | .switch_ => ['s', 'w', 'i', 't', 'c', 'h']
  | .symbol_ => ['s', 'y', 'm', 'b', 'o', 'l']
  | .target_ => ['t', 'a', 'r', 'g', 'e', 't']
  | .this_ => ['t', 'h', 'i', 's']
  | .throw_ => ['t', 'h', 'r', 'o', 'w']
  | .true_ => ['t', 'r', 'u', 'e']
  | .try_ => ['t', 'r', 'y']
  | .type_ => ['t', 'y', 'p', 'e']
  | .typeof_ => ['t', 'y', 'p', 'e', 'o', 'f']
  | .undefined_ => ['u', 'n', 'd', 'e', 'f', 'i', 'n', 'e', 'd']
  | .unique_ => ['u', 'n', 'i', 'q', 'u', 'e']
  | .unknown_ => ['u', 'n', 'k', 'n', 'o', 'w', 'n']
  | .using_ => ['u', 's', 'i', 'n', 'g']
  | .var_ => ['v', 'a', 'r']
  | .void_ => ['v', 'o', 'i', 'd']
  | .while_ => ['w', 'h', 'i', 'l', 'e']
  | .with_ => ['w', 'i', 't', 'h']
  | .yield_ => ['y', 'i', 'e', 'l', 'd']

/-- All keywords. -/
def all : List Keyword :=
  [.abstract_, .accessor_, .any_, .as_, .assert_, .asserts_, .async_, .await_, .bigint_,
   .boolean_, .break_, .case_, .catch_, .class_, .const_, .continue_, .debugger_, .declare_,
   .default_, .delete_, .do_, .else_, .enum_, .export_, .extends_, .false_, .finally_, .for_,
   .from_, .function_, .get_, .global_, .if_, .implements_, .import_, .in_, .infer_,
   .instanceof_, .interface_, .intrinsic_, .is_, .keyof_, .let_, .meta_, .module_, .namespace_,
   .never_, .new_, .null_, .number_, .object_, .of_, .out_, .override_, .package_, .private_,
   .protected_, .public_, .readonly_, .require_, .return_, .satisfies_, .set_, .static_,
   .string_, .super_, .switch_, .symbol_, .target_, .this_, .throw_, .true_, .try_, .type_,
   .typeof_, .undefined_, .unique_, .unknown_, .using_, .var_, .void_, .while_, .with_, .yield_]

/-- The keyword with the given characters. -/
def ofSpelling? (name : List Char) : Option Keyword :=
  all.find? (·.spelling = name)

/-- Words that are names wherever the grammar has no other use for them. -/
def isContextual : Keyword → Bool
  | .await_ | .break_ | .case_ | .catch_ | .class_ | .const_ | .continue_ | .debugger_ | .default_
  | .delete_ | .do_ | .else_ | .export_ | .extends_ | .false_ | .finally_ | .for_ | .function_
  | .if_ | .import_ | .in_ | .instanceof_ | .let_ | .new_ | .null_ | .return_ | .super_ | .switch_
  | .this_ | .throw_ | .true_ | .try_ | .typeof_ | .var_ | .void_ | .while_ | .with_
  | .yield_ => false
  | _ => true

/-- Words that nothing can be referred to by: the text of a module is read strictly. -/
def isReserved (keyword : Keyword) : Bool :=
  match keyword with
  | .enum_ | .implements_ | .interface_ | .package_ | .private_ | .protected_ | .public_
  | .static_ => true
  | _ => !keyword.isContextual

end Keyword

/-- A sign. -/
inductive Punctuator where
  | shiftRightZeroAssign | ellipsis | strictEqual | strictNotEqual | shiftLeftAssign
  | shiftRightAssign | shiftRightZero | powerAssign | andAndAssign | orOrAssign | coalesceAssign
  | arrow | equal | notEqual | lessEqual | greaterEqual | shiftLeft | shiftRight | plusAssign
  | increment | minusAssign | decrement | starAssign | power | slashAssign | percentAssign
  | ampersandAssign | andAnd | pipeAssign | orOr | caretAssign | optionalDot | coalesce
  | braceOpen | braceClose | parenOpen | parenClose | bracketOpen | bracketClose | semicolon
  | comma | dot | question | colon | assign | bang | less | greater | plus | minus | star | slash
  | percent | ampersand | pipe | caret | tilde | at | hash
  deriving DecidableEq, Repr

namespace Punctuator

/-- The characters of a sign. -/
def spelling : Punctuator → List Char
  | .shiftRightZeroAssign => ['>', '>', '>', '=']
  | .ellipsis => ['.', '.', '.']
  | .strictEqual => ['=', '=', '=']
  | .strictNotEqual => ['!', '=', '=']
  | .shiftLeftAssign => ['<', '<', '=']
  | .shiftRightAssign => ['>', '>', '=']
  | .shiftRightZero => ['>', '>', '>']
  | .powerAssign => ['*', '*', '=']
  | .andAndAssign => ['&', '&', '=']
  | .orOrAssign => ['|', '|', '=']
  | .coalesceAssign => ['?', '?', '=']
  | .arrow => ['=', '>']
  | .equal => ['=', '=']
  | .notEqual => ['!', '=']
  | .lessEqual => ['<', '=']
  | .greaterEqual => ['>', '=']
  | .shiftLeft => ['<', '<']
  | .shiftRight => ['>', '>']
  | .plusAssign => ['+', '=']
  | .increment => ['+', '+']
  | .minusAssign => ['-', '=']
  | .decrement => ['-', '-']
  | .starAssign => ['*', '=']
  | .power => ['*', '*']
  | .slashAssign => ['/', '=']
  | .percentAssign => ['%', '=']
  | .ampersandAssign => ['&', '=']
  | .andAnd => ['&', '&']
  | .pipeAssign => ['|', '=']
  | .orOr => ['|', '|']
  | .caretAssign => ['^', '=']
  | .optionalDot => ['?', '.']
  | .coalesce => ['?', '?']
  | .braceOpen => ['{']
  | .braceClose => ['}']
  | .parenOpen => ['(']
  | .parenClose => [')']
  | .bracketOpen => ['[']
  | .bracketClose => [']']
  | .semicolon => [';']
  | .comma => [',']
  | .dot => ['.']
  | .question => ['?']
  | .colon => [':']
  | .assign => ['=']
  | .bang => ['!']
  | .less => ['<']
  | .greater => ['>']
  | .plus => ['+']
  | .minus => ['-']
  | .star => ['*']
  | .slash => ['/']
  | .percent => ['%']
  | .ampersand => ['&']
  | .pipe => ['|']
  | .caret => ['^']
  | .tilde => ['~']
  | .at => ['@']
  | .hash => ['#']

/-- All signs, longer ones first. -/
def all : List Punctuator :=
  [.shiftRightZeroAssign, .ellipsis, .strictEqual, .strictNotEqual, .shiftLeftAssign,
   .shiftRightAssign, .shiftRightZero, .powerAssign, .andAndAssign, .orOrAssign, .coalesceAssign,
   .arrow, .equal, .notEqual, .lessEqual, .greaterEqual, .shiftLeft, .shiftRight, .plusAssign,
   .increment, .minusAssign, .decrement, .starAssign, .power, .slashAssign, .percentAssign,
   .ampersandAssign, .andAnd, .pipeAssign, .orOr, .caretAssign, .optionalDot, .coalesce,
   .braceOpen, .braceClose, .parenOpen, .parenClose, .bracketOpen, .bracketClose, .semicolon,
   .comma, .dot, .question, .colon, .assign, .bang, .less, .greater, .plus, .minus, .star, .slash,
   .percent, .ampersand, .pipe, .caret, .tilde, .at, .hash]

/-- The longest sign that the text starts with. -/
def leading? (text : List Char) : Option Punctuator :=
  all.find? (·.spelling.isPrefixOf text)

end Punctuator

end ClassRegistry.TypeScript
