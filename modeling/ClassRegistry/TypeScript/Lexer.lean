import ClassRegistry.TypeScript.Scan

/-!
# Reading tokens

A cursor is a place in a text together with the text from there on. From a cursor the lexer reads
the next token; where a sign, a regular expression and a template would look alike, the caller says
which of them it wants.
-/

namespace ClassRegistry.TypeScript

/-- A place in a text. -/
structure Cursor (code : Code) where
  offset : Nat
  /-- The text from here on. -/
  rest : Code
  drop_offset : code.drop offset = rest

namespace Cursor

variable {code : Code}

/-- The start of the text. -/
def start (code : Code) : Cursor code :=
  ⟨0, code, rfl⟩

/-- The place a number of characters further on. -/
def advance (c : Cursor code) (length : Nat) : Cursor code :=
  ⟨c.offset + length, c.rest.drop length, by rw [← c.drop_offset, List.drop_drop]⟩

/-- The span of the characters from here on. -/
def span (c : Cursor code) (length : Nat) : Span :=
  ⟨c.offset, c.offset + length⟩

/-- Characters that stand at a cursor are the text of the span they cover. -/
theorem span_text {c : Cursor code} {part : List Char} (h : part <+: c.rest) :
    (c.span part.length).text code = part := by
  obtain ⟨after, h⟩ := h
  simp [Span.text, span, c.drop_offset, ← h]

/-- A span of characters that stand at a cursor lies within the text. -/
theorem span_stop_le {c : Cursor code} {part : List Char} (h : part <+: c.rest)
    (hne : part ≠ []) : (c.span part.length).stop ≤ code.length := by
  have hlen := h.length_le
  rw [← c.drop_offset, List.length_drop] at hlen
  have hpos : 0 < part.length := List.length_pos_iff.2 hne
  simp only [span]
  omega

/-- The span of a word at a cursor holds a word. -/
theorem isWordAt (c : Cursor code) (h : wordPart .plain c.rest ≠ []) :
    IsWordAt code (c.span (wordPart .plain c.rest).length) where
  start_lt_stop := by
    have := List.length_pos_iff.2 h
    simp only [span]
    omega
  stop_le_length := span_stop_le (wordPart_isPrefixOf _ _) h
  all_wordChars := by
    rw [span_text (wordPart_isPrefixOf _ _)]
    exact all_wordPart _ _

/-- The span of a word at a cursor holds its name, unless there is an escape in it; of a keyword the
written form is its name in any case. -/
theorem spells (c : Cursor code) (isKeyword : Bool) :
    Spells code (c.span (wordPart .plain c.rest).length) (String.ofList
      (if isKeyword then wordPart .plain c.rest else wordName .plain 0 (wordPart .plain c.rest))) := by
  intro hescape
  rw [span_text (wordPart_isPrefixOf _ _)] at hescape ⊢
  rw [wordName_wordPart hescape, ite_self, String.toList_ofList]

end Cursor

/-- Whether angle brackets stand alone, as they do in types. -/
inductive LexMode where
  | expression
  | type
  deriving DecidableEq

variable {code : Code}

/-- A token and the place after it. -/
structure Lexeme (code : Code) where
  token : Token code
  next : Cursor code

/-- A token that is no word, and the place after it. -/
def Lexeme.plain (kind : TokenKind) (h : kind.isWord = false) (startsLine : Bool) (c : Cursor code)
    (length : Nat) : Lexeme code :=
  ⟨⟨kind, c.span length, startsLine, by simp [h], by rintro keyword name rfl; cases h⟩,
    c.advance length⟩

/-- The token of a text that is none; its fault is `ahead` characters further on. -/
def Lexeme.broken (cause : Cause) (ahead : Nat) (startsLine : Bool) (c : Cursor code)
    (length : Nat) : Lexeme code :=
  .plain (.broken ⟨c.offset + ahead, cause⟩) rfl startsLine c length

/-- The word at a cursor. -/
def Lexeme.word (startsLine : Bool) (c : Cursor code) (h : wordPart .plain c.rest ≠ []) :
    Lexeme code :=
  let part := wordPart .plain c.rest
  let keyword := Keyword.ofSpelling? (wordName .plain 0 part)
  let name := String.ofList (if keyword.isSome then part else wordName .plain 0 part)
  ⟨⟨.word keyword name, c.span part.length, startsLine, fun _ => c.isWordAt h, by
      rintro _ _ ⟨⟩
      exact c.spells _⟩,
    c.advance part.length⟩

/-- Whether a word is a reserved one that is written with an escape. -/
def isEscapedWord (part : List Char) : Bool :=
  part.contains '\\' &&
    (Keyword.ofSpelling? (wordName .plain 0 part)).any Keyword.isReserved

/-- The token that starts with a word character: a word, unless an escape is broken. No reserved
word is written with an escape. -/
def Lexeme.wordOrBroken (startsLine : Bool) (c : Cursor code) : Lexeme code :=
  let part := wordPart .plain c.rest
  if h : wordPart .plain c.rest ≠ [] then
    match wordEnd .plain part with
    | .plain =>
      if isEscapedWord part then
        .broken (.escapedWord (String.ofList (wordName .plain 0 part))) 0 startsLine c part.length
      else .word startsLine c h
    | state =>
      let (ahead, cause) := state.fault part.length
      .broken cause ahead startsLine c part.length
  else .broken .unicodeEscapeExpected 0 startsLine c 1

/-- The number at a cursor. No name may follow it directly, unless it is a big integer. -/
def Lexeme.number (startsLine : Bool) (c : Cursor code) : Lexeme code :=
  match scanNumber c.rest with
  | .error (ahead, cause) => .broken cause ahead startsLine c ahead
  | .ok scan =>
    if scan.isBigint then .plain .bigint rfl startsLine c scan.length
    else if (c.rest.drop scan.length).head?.any Text.isIdentifierStart then
      .broken .nameAfterNumber scan.length startsLine c scan.length
    else .plain .number rfl startsLine c scan.length

/-- The string literal at a cursor. -/
def Lexeme.string (quote : Char) (startsLine : Bool) (c : Cursor code) :
    Lexeme code :=
  let scan := scanString quote .plain 0 0 [] (c.rest.drop 1)
  match scan.fault with
  | some (ahead, cause) => .broken cause (ahead + 1) startsLine c (scan.length + 1)
  | none =>
    .plain (.string (String.ofList (cook scan.points.reverse))) rfl startsLine c (scan.length + 1)

/-- The piece of a template that starts at a cursor with a grave accent or a closing brace. -/
def Lexeme.template (startsLine : Bool) (c : Cursor code) : Lexeme code :=
  match templateLength? false 0 (c.rest.drop 1) with
  | some (length, isLast) =>
    let piece := (c.rest.drop 1).take (length - (if isLast then 1 else 2))
    let fault := (templateFault? .plain 0 0 none piece).map fun (ahead, cause) =>
      ⟨c.offset + 1 + ahead, cause⟩
    let isWhole := isLast && c.rest.head? = some '\x60'
    .plain (.template isWhole isLast fault) rfl startsLine c (length + 1)
  | none => .broken .unterminatedTemplate 0 startsLine c c.rest.length

/-- The regular expression that starts at a cursor with a slash. One that does not end takes up the
rest of its line. -/
def Lexeme.regex (startsLine : Bool) (c : Cursor code) : Lexeme code :=
  match regexLength? false false 0 (c.rest.drop 1) with
  | some length =>
    let flags := (c.rest.drop (length + 1)).takeWhile Text.isIdentifierPart
    .plain .regex rfl startsLine c (length + 1 + flags.length)
  | none =>
    .broken .unterminatedRegex 0 startsLine c (c.rest.takeWhile fun x => !isLineEnd x).length

/-- The sign at a cursor. An optional dot is none before a digit, and in a type an angle bracket
stands alone. -/
def Lexeme.sign (mode : LexMode) (startsLine : Bool) (c : Cursor code) :
    Lexeme code :=
  match Punctuator.leading? c.rest with
  | none =>
    .broken (.unknownCharacter (c.rest.headD ' ')) 0 startsLine c 1
  | some p =>
    let p :=
      if p = .optionalDot && (c.rest.drop 2).head?.any Char.isDigit then .question
      else if mode = .type && p.spelling.head? = some '<' then .less
      else if mode = .type && p.spelling.head? = some '>' then .greater
      else p
    .plain (.sign p) rfl startsLine c p.spelling.length

/-- The token at a cursor that stands between tokens. -/
def Lexeme.at (mode : LexMode) (startsLine : Bool) (c : Cursor code) : Lexeme code :=
  match c.rest with
  | [] => .plain .endOfInput rfl startsLine c 0
  | first :: rest =>
    if Text.isIdentifierStart first || first = '\\' then .wordOrBroken startsLine c
    else if first.isDigit || (first = '.' && rest.head?.any Char.isDigit) then
      .number startsLine c
    else if first = '"' || first = '\x27' then .string first startsLine c
    else if first = '\x60' then .template startsLine c
    else .sign mode startsLine c

/-- What stands at a cursor between tags: a sign that starts a tag, a brace, or raw text. -/
def Lexeme.raw (c : Cursor code) : Lexeme code :=
  match c.rest with
  | [] => .plain .endOfInput rfl false c 0
  | '<' :: '/' :: _ => .plain .closingTag rfl false c 2
  | '<' :: _ => .plain (.sign .less) rfl false c 1
  | '\x7b' :: _ => .plain (.sign .braceOpen) rfl false c 1
  | _ => .plain .rawText rfl false c (rawPart c.rest).length

/-- The place of the next token and whether it is the first one of its line. A text may start with a
line that names its interpreter. -/
def Cursor.skipTrivia (c : Cursor code) : Cursor code × Bool :=
  let isShebang := c.offset = 0 && ['#', '!'].isPrefixOf c.rest
  let (count, ended) := trivia (if isShebang then .lineComment else .blank) 0 (c.offset = 0) c.rest
  (c.advance count, ended)

end ClassRegistry.TypeScript
