import ClassRegistry.Text.Blank
import ClassRegistry.TypeScript.Token

/-!
# Scanning characters

How far the parts of a token reach. Each scanner reads one character at a time and keeps a small
state, so it is defined by recursion on the text. Main statement: what `wordPart` takes is the front
of the text and consists of word characters.
-/

namespace ClassRegistry.TypeScript

/-- A character that ends a line. -/
def isLineEnd (c : Char) : Bool :=
  c == '\n' || c == '\r' || c == '\u2028' || c == '\u2029'

/-- A character that separates tokens within a line. -/
def isBlank (c : Char) : Bool :=
  (Text.isBlank c && !isLineEnd c) || c == '\u200b' || c == '\ufeff'

/-! ## Between tokens -/

/-- What is being skipped. -/
inductive TriviaState where
  | blank
  | lineComment
  /-- At the star that opens a comment. -/
  | opening
  /-- Within a comment, and whether the character before was a star. -/
  | blockComment (afterStar : Bool)

/-- The number of characters up to the next token, and whether a line ends among them. `count` and
`ended` say what was skipped before. A comment that is never closed reaches to the end. An arrow
`-->` at the start of a line starts a comment, as `<!--` does anywhere. -/
def trivia (state : TriviaState) (count : Nat) (ended : Bool) : Code → Nat × Bool
  | [] => (count, ended)
  | c :: rest =>
    match state with
    | .blank =>
      if isLineEnd c then trivia .blank (count + 1) true rest
      else if isBlank c then trivia .blank (count + 1) ended rest
      else if c = '/' && ['/'].isPrefixOf rest then trivia .lineComment (count + 1) ended rest
      else if c = '/' && ['*'].isPrefixOf rest then trivia .opening (count + 1) ended rest
      else if c = '<' && ['!', '-', '-'].isPrefixOf rest then
        trivia .lineComment (count + 1) ended rest
      else if c = '-' && ended && ['-', '>'].isPrefixOf rest then
        trivia .lineComment (count + 1) ended rest
      else (count, ended)
    | .lineComment =>
      if isLineEnd c then trivia .blank (count + 1) true rest
      else trivia .lineComment (count + 1) ended rest
    | .opening => trivia (.blockComment false) (count + 1) ended rest
    | .blockComment afterStar =>
      if c = '/' && afterStar then trivia .blank (count + 1) ended rest
      else trivia (.blockComment (c = '*')) (count + 1) (ended || isLineEnd c) rest

/-! ## Words -/

/-- The value of a hexadecimal digit. -/
def hexValue? (c : Char) : Option Nat :=
  if '0' ≤ c && c ≤ '9' then some (c.toNat - '0'.toNat)
  else if 'a' ≤ c && c ≤ 'f' then some (c.toNat - 'a'.toNat + 10)
  else if 'A' ≤ c && c ≤ 'F' then some (c.toNat - 'A'.toNat + 10)
  else none

/-- The greatest code point. -/
def greatestPoint : Nat := 0x10FFFF

/-- The greatest number that the digits of an escape in braces may have. -/
def greatestNumber : Nat := 0xFFFFFFFF

/-- The number that a further digit makes of the number before; numbers that are too great are not
told apart. -/
def appendDigit (number digit : Nat) : Nat :=
  min (number * 16 + digit) (greatestNumber + 1)

/-- Where a word scanner stands: between characters, or within a unicode escape. -/
inductive WordState where
  | plain
  | backslash
  | marker
  | digits (left : Nat)
  /-- Behind the brace of an escape, with the count and the number of its digits. -/
  | braced (count number : Nat)
  deriving DecidableEq

/-- The state after one more character of the word, none when the word has ended. -/
def WordState.next : WordState → Char → Option WordState
  | .plain, c =>
    if Text.isIdentifierPart c then some .plain else if c = '\\' then some .backslash else none
  | .backslash, c => if c = 'u' then some .marker else none
  | .marker, c =>
    if c = '\x7b' then some (.braced 0 0)
    else if Text.isIdentifierPart c && (hexValue? c).isSome then some (.digits 3) else none
  | .digits left, c =>
    if Text.isIdentifierPart c && (hexValue? c).isSome then
      some (if left ≤ 1 then .plain else .digits (left - 1))
    else none
  | .braced count number, c =>
    if c = '\x7d' then if 0 < count && number ≤ greatestPoint then some .plain else none
    else match hexValue? c with
      | some digit =>
        if Text.isIdentifierPart c then some (.braced (count + 1) (appendDigit number digit))
        else none
      | none => none

/-- What is wrong with the digits of an escape in braces, where it ends without its closing brace or
with digits that name no character. -/
def bracedCause (count number : Nat) : Cause :=
  if count = 0 then .badEscape "1-6 hex characters"
  else if greatestNumber < number then .badUnicodeEscape
  else if greatestPoint < number then .badEscape "1-6 hex characters in the range 0 to 10FFFF."
  else .badUnicodeEscape

/-- What is wrong with a word that ends in this state after `length` characters, and the number of
characters before the place at fault. -/
def WordState.fault (length : Nat) : WordState → Nat × Cause
  | .plain | .backslash => (length - 1, .unicodeEscapeExpected)
  | .marker | .digits _ => (length, .badEscape "4 hex characters")
  | .braced count number =>
    if count = 0 || (greatestPoint < number && number ≤ greatestNumber) then
      (length, bracedCause count number)
    else if greatestNumber < number then (0, bracedCause count number)
    else (length - count, bracedCause count number)

/-- The front of the text that a word takes. -/
def wordPart : WordState → Code → List Char
  | _, [] => []
  | state, c :: rest =>
    match state.next c with
    | some state => c :: wordPart state rest
    | none => []

/-- The state at the end of a word. -/
def wordEnd : WordState → List Char → WordState
  | state, [] => state
  | state, c :: rest =>
    match state.next c with
    | some state => wordEnd state rest
    | none => state

/-- The characters a word stands for; `code` is the value of the escape read so far. -/
def wordName : WordState → Nat → List Char → List Char
  | _, _, [] => []
  | state, code, c :: rest =>
    match state, state.next c with
    | _, none => []
    | .plain, some .plain => c :: wordName .plain 0 rest
    | .braced .., some .plain => Char.ofNat code :: wordName .plain 0 rest
    | .digits _, some .plain =>
      Char.ofNat (code * 16 + (hexValue? c).getD 0) :: wordName .plain 0 rest
    | _, some state => wordName state (code * 16 + (hexValue? c).getD 0) rest

theorem isWordChar_of_next {state state' : WordState} {c : Char}
    (h : state.next c = some state') : isWordChar c = true := by
  cases state <;> simp only [WordState.next] at h <;> simp only [isWordChar] <;>
    (repeat' split at h) <;> simp_all
  decide

/-- What a word takes is the front of the text. -/
theorem wordPart_isPrefixOf (state : WordState) (code : Code) : wordPart state code <+: code := by
  induction code generalizing state with
  | nil => simp [wordPart]
  | cons c rest ih =>
    simp only [wordPart]
    split
    · exact List.cons_prefix_cons.2 ⟨rfl, ih _⟩
    · exact List.nil_prefix

/-- A word consists of word characters. -/
theorem all_wordPart (state : WordState) (code : Code) :
    (wordPart state code).all isWordChar = true := by
  induction code generalizing state with
  | nil => simp [wordPart]
  | cons c rest ih =>
    simp only [wordPart]
    split
    · rename_i h
      simp [isWordChar_of_next h, ih]
    · rfl

/-- A word without escapes stands for its own characters. -/
theorem wordName_wordPart {code : Code} (h : '\\' ∉ wordPart .plain code) :
    wordName .plain 0 (wordPart .plain code) = wordPart .plain code := by
  induction code with
  | nil => rfl
  | cons c rest ih =>
    rw [wordPart] at h ⊢
    split at h
    · rename_i state hnext
      obtain ⟨hc, hrest⟩ := not_or.mp (mt List.mem_cons.mpr h)
      obtain rfl : state = .plain := by
        simp only [WordState.next, Ne.symm hc, if_false] at hnext
        split at hnext
        · exact (Option.some.inj hnext).symm
        · cases hnext
      simp only [wordName, hnext, ih hrest]
    · rfl

/-! ## String literals -/

/-- Where a string scanner stands: between characters, or within an escape. -/
inductive StringState where
  | plain
  | escape
  /-- After an escaped carriage return, which takes a line feed with it. -/
  | lineEnd
  /-- At a digit of an escape that has `total` of them. -/
  | hex (total left code : Nat)
  | unicode
  /-- Behind the brace of an escape, with the count and the number of its digits. -/
  | braced (count number : Nat)
  | octal (left code : Nat)

/-- What one character does to a string scanner. -/
inductive StringStep where
  /-- The code points that are now complete, and the next state. -/
  | next (points : List Nat) (state : StringState)
  | close (points : List Nat)
  /-- A line ends before the string does. -/
  | cut
  | broken (cause : Cause)

/-- One character outside of escapes. -/
def StringStep.plain (quote c : Char) (before : List Nat) : StringStep :=
  if c = quote then .close before
  else if c = '\\' then .next before .escape
  else if c = '\n' || c = '\r' then .cut
  else .next (before ++ [c.toNat]) .plain

/-- One character after a backslash. -/
def StringStep.escaped (c : Char) : StringStep :=
  if c = 'n' then .next [10] .plain
  else if c = 't' then .next [9] .plain
  else if c = 'r' then .next [13] .plain
  else if c = 'b' then .next [8] .plain
  else if c = 'v' then .next [11] .plain
  else if c = 'f' then .next [12] .plain
  else if c = 'x' then .next [] (.hex 2 2 0)
  else if c = 'u' then .next [] .unicode
  else if c = '\r' then .next [] .lineEnd
  else if isLineEnd c then .next [] .plain
  else if '0' ≤ c && c ≤ '3' then .next [] (.octal 2 (c.toNat - '0'.toNat))
  else if '4' ≤ c && c ≤ '7' then .next [] (.octal 1 (c.toNat - '0'.toNat))
  else .next [c.toNat] .plain

/-- The digits that an escape with a fixed number of them asks for. -/
def hexCharacters (total : Nat) : Cause :=
  .badEscape (toString total ++ " hex characters")

/-- One more character of a string that ends with `quote`. -/
def StringState.step (quote : Char) : StringState → Char → StringStep
  | .plain, c => .plain quote c []
  | .escape, c => .escaped c
  | .lineEnd, c => if c = '\n' then .next [] .plain else .plain quote c []
  | .hex total left code, c =>
    match hexValue? c with
    | none => .broken (hexCharacters total)
    | some digit =>
      if left ≤ 1 then .next [code * 16 + digit] .plain
      else .next [] (.hex total (left - 1) (code * 16 + digit))
  | .unicode, c =>
    if c = '\x7b' then .next [] (.braced 0 0)
    else match hexValue? c with
      | none => .broken (hexCharacters 4)
      | some digit => .next [] (.hex 4 3 digit)
  | .braced count number, c =>
    if c = '\x7d' && 0 < count && number ≤ greatestPoint then .next [number] .plain
    else match hexValue? c with
      | none => .broken (bracedCause count number)
      | some digit => .next [] (.braced (count + 1) (appendDigit number digit))
  | .octal left code, c =>
    if 0 < left && '0' ≤ c && c ≤ '7' then
      .next [] (.octal (left - 1) (code * 8 + (c.toNat - '0'.toNat)))
    else .plain quote c [code]

/-- What is wrong with a text that ends in this state. -/
def StringState.endCause? : StringState → Option Cause
  | .escape => some .unfinishedEscape
  | .hex total _ _ => some (hexCharacters total)
  | .unicode => some (hexCharacters 4)
  | .braced count number => some (bracedCause count number)
  | .plain | .lineEnd | .octal _ _ => none

/-- How a string scan ends: the number of characters read, and the code points of the value, last
one first, or what is wrong and the number of characters before the escape at fault. -/
structure StringScan where
  length : Nat
  points : List Nat
  fault : Option (Nat × Cause)

/-- Reads a string after its opening quote. A string that a line or the text cuts short is taken as
far as it goes, unless the text ends within an escape. `escape` is the number of characters before
the last backslash that starts an escape. -/
def scanString (quote : Char) (state : StringState) (length escape : Nat) (points : List Nat) :
    Code → StringScan
  | [] => ⟨length, points, state.endCause?.map (escape, ·)⟩
  | c :: rest =>
    match state.step quote c with
    | .next more .escape =>
      scanString quote .escape (length + 1) length (more.reverse ++ points) rest
    | .next more state =>
      scanString quote state (length + 1) escape (more.reverse ++ points) rest
    | .close more => ⟨length + 1, more.reverse ++ points, none⟩
    | .cut => ⟨length, points, none⟩
    | .broken cause => ⟨length, points, some (escape, cause)⟩

/-- Whether a number is a leading surrogate. -/
def isHighSurrogate (n : Nat) : Bool := 0xD800 ≤ n && n < 0xDC00

/-- Whether a number is a trailing surrogate. -/
def isLowSurrogate (n : Nat) : Bool := 0xDC00 ≤ n && n < 0xE000

/-- Code points as characters: a pair of surrogates is one character, a lone one is replaced. -/
def cook : List Nat → List Char
  | [] => []
  | high :: low :: rest =>
    if isHighSurrogate high && isLowSurrogate low then
      Char.ofNat (0x10000 + (high - 0xD800) * 0x400 + (low - 0xDC00)) :: cook rest
    else if isHighSurrogate high || isLowSurrogate high then
      '\ufffd' :: cook (low :: rest)
    else Char.ofNat high :: cook (low :: rest)
  | [point] =>
    if isHighSurrogate point || isLowSurrogate point then ['\ufffd']
    else [Char.ofNat point]

/-! ## Numbers -/

/-- The number of leading characters that are digits in the given sense, separators included. -/
def digitsLength (isDigit : Char → Bool) (code : Code) : Nat :=
  (code.takeWhile fun c => isDigit c || c == '_').length

/-- A number at the front of a text. -/
structure NumberScan where
  length : Nat
  isBigint : Bool

/-- A scan that may fail, with the number of characters before the place at fault. -/
abbrev Scanned (α : Type) := Except (Nat × Cause) α

/-- The length of an exponent at the front of a text behind `ahead` characters, zero without one. -/
def exponentLength (ahead : Nat) : Code → Scanned Nat
  | e :: rest =>
    if e = 'e' || e = 'E' then
      let sign := match rest with
        | c :: _ => if c = '+' || c = '-' then 1 else 0
        | [] => 0
      let digits := digitsLength Char.isDigit (rest.drop sign)
      if rest.isEmpty then .error (ahead + 1, .exponentExpected)
      else if !((rest.drop sign).take digits).any Char.isDigit then
        .error (ahead + 1 + sign, .digitExpected 10)
      else .ok (1 + sign + digits)
    else .ok 0
  | [] => .ok 0

/-- The length of a fraction at the front of a text, zero without one. -/
def fractionLength : Code → Nat
  | '.' :: rest => 1 + digitsLength Char.isDigit rest
  | _ => 0

/-- Whether characters that start with a zero are the digits of an octal number. -/
def isOctal (digits : List Char) : Bool :=
  digits.head? = some '0' && 1 < digits.length && digits.all fun c => c == '_' || c < '8'

/-- A number without a letter behind its first digit. With a leading zero it is octal if its digits
allow it, and then neither a fraction nor an exponent follows; otherwise it is decimal. A number of
several digits that starts with a zero is never a big integer. -/
def decimal (code : Code) : Scanned NumberScan :=
  let whole := digitsLength Char.isDigit code
  let digits := code.take whole
  if isOctal digits then .ok ⟨whole, false⟩
  else if 0 < whole && (code.drop whole).head? = some 'n' then
    if digits.head? = some '0' && 1 < whole then .ok ⟨whole, false⟩ else .ok ⟨whole + 1, true⟩
  else
    let mantissa := whole + fractionLength (code.drop whole)
    (exponentLength mantissa (code.drop mantissa)).map fun exponent => ⟨mantissa + exponent, false⟩

/-- The base that a letter after a leading zero stands for, with its digits. -/
def radix? (c : Char) : Option (Nat × (Char → Bool)) :=
  if c = 'x' || c = 'X' then some (16, fun d => (hexValue? d).isSome)
  else if c = 'o' || c = 'O' then some (8, fun d => '0' ≤ d && d ≤ '7')
  else if c = 'b' || c = 'B' then some (2, fun d => d == '0' || d == '1')
  else none

/-- A number at the front of a text. -/
def scanNumber (code : Code) : Scanned NumberScan :=
  match code with
  | '0' :: c :: rest =>
    match radix? c with
    | some (radix, isDigit) =>
      let digits := digitsLength isDigit rest
      let isBigint := (rest.drop digits).head? = some 'n'
      if !(rest.take digits).any isDigit then .error (2, .digitExpected radix)
      else .ok ⟨2 + digits + (if isBigint then 1 else 0), isBigint⟩
    | none => decimal code
  | _ => decimal code

/-! ## Regular expressions -/

/-- The length of a regular expression after its opening slash up to and with the closing one, none
when the line or the text ends before. -/
def regexLength? (inClass escaped : Bool) (length : Nat) : Code → Option Nat
  | [] => none
  | c :: rest =>
    if isLineEnd c then none
    else if escaped then regexLength? inClass false (length + 1) rest
    else if c = '\\' then regexLength? inClass true (length + 1) rest
    else if c = '[' then regexLength? true false (length + 1) rest
    else if c = ']' then regexLength? false false (length + 1) rest
    else if c = '/' && !inClass then some (length + 1)
    else regexLength? inClass false (length + 1) rest

/-! ## Templates -/

/-- The length of a piece of a template after its opening, and whether the template ends with it;
none when the text ends before. -/
def templateLength? (escaped : Bool) (length : Nat) : Code → Option (Nat × Bool)
  | [] => none
  | c :: rest =>
    if escaped then templateLength? false (length + 1) rest
    else if c = '\x60' then some (length + 1, true)
    else if c = '\\' then templateLength? true (length + 1) rest
    else match c, rest with
      | '$', '\x7b' :: _ => some (length + 2, false)
      | _, _ => templateLength? false (length + 1) rest

/-- Where a reader of the escapes in a template stands. -/
inductive TemplateState where
  | plain
  | escape
  /-- Behind an escaped zero. -/
  | zero
  | hex (total left : Nat)
  | unicode
  | braced (count number : Nat)

namespace TemplateState

/-- The state behind a character outside of escapes. -/
def outside (c : Char) : TemplateState :=
  if c = '\\' then .escape else .plain

/-- Whether a character is an octal digit. -/
def isOctalDigit (c : Char) : Bool := '0' ≤ c && c ≤ '7'

/-- The state behind one more character, or what is wrong with the escape before it. -/
def next (c : Char) : TemplateState → Except Cause TemplateState
  | .plain => .ok (outside c)
  | .escape =>
    if c = 'x' then .ok (.hex 2 2)
    else if c = 'u' then .ok .unicode
    else if c = '0' then .ok .zero
    else if isOctalDigit c then .error .octalEscape
    else .ok .plain
  | .zero => if isOctalDigit c then .error .octalEscape else .ok (outside c)
  | .hex total left =>
    if (hexValue? c).isNone then .error (hexCharacters total)
    else .ok (if left ≤ 1 then .plain else .hex total (left - 1))
  | .unicode =>
    if c = '\x7b' then .ok (.braced 0 0)
    else if (hexValue? c).isNone then .error (hexCharacters 4)
    else .ok (.hex 4 3)
  | .braced count number =>
    if c = '\x7d' && 0 < count && number ≤ greatestPoint then .ok .plain
    else match hexValue? c with
      | none => .error (bracedCause count number)
      | some digit => .ok (.braced (count + 1) (appendDigit number digit))

/-- What is wrong with an escape that a piece ends in. -/
def endCause? : TemplateState → Option Cause
  | .hex total _ => some (hexCharacters total)
  | .unicode => some (hexCharacters 4)
  | .braced count number => some (bracedCause count number)
  | .plain | .escape | .zero => none

end TemplateState

/-- The last fault among the escapes of a piece of a template, which stands at a backslash: `escape`
is the number of characters before the last one. After a fault the piece is read on. -/
def templateFault? (state : TemplateState) (length escape : Nat) (found : Option (Nat × Cause)) :
    List Char → Option (Nat × Cause)
  | [] =>
    match state.endCause? with
    | some cause => some (escape, cause)
    | none => found
  | c :: rest =>
    match state.next c with
    | .ok .escape => templateFault? .escape (length + 1) length found rest
    | .ok state => templateFault? state (length + 1) escape found rest
    | .error cause =>
      match TemplateState.outside c with
      | .escape => templateFault? .escape (length + 1) length (some (escape, cause)) rest
      | state => templateFault? state (length + 1) escape (some (escape, cause)) rest

/-! ## Markup -/

/-- The front of a text up to the next tag or brace. -/
def rawPart (code : Code) : List Char :=
  code.takeWhile fun c => c ≠ '<' && c ≠ '\x7b'

end ClassRegistry.TypeScript
