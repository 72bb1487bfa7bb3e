import ClassRegistry.TypeScript.Lexer

/-!
# Texts that are laid out in pieces

A text that was written piece by piece is read back piece by piece, as long as no piece runs into the
next one. Words end where no identifier goes on, most signs stand for themselves in front of anything,
and a string holds what needs no escape.
-/

namespace ClassRegistry.TypeScript

variable {code : Code}

/-- A token as it was written, with the blanks in front of it. -/
structure Piece where
  gap : List Char
  text : List Char
  kind : TokenKind

namespace Piece

/-- Whether a line ends in front of a piece. -/
def startsLine (p : Piece) : Bool :=
  p.gap.contains '\n'

/-- The text of several pieces. -/
def textOf (ps : List Piece) : List Char :=
  ps.flatMap fun p => p.gap ++ p.text

/-- Blanks and line ends. -/
def IsBlankGap (gap : List Char) : Prop :=
  ∀ c ∈ gap, c = ' ' ∨ c = '\n'

/-- A piece in front of a text is read back: it starts right behind its blanks, and the lexer takes
it as a whole. Of a sign that closes an angle this is asked in types only. -/
structure IsReadBefore (p : Piece) (rest : List Char) : Prop where
  gap_blank : IsBlankGap p.gap
  trivia_eq : ∀ count ended, trivia .blank count ended (p.text ++ rest) = (count, ended)
  lexed : ∀ {code : Code} (mode : LexMode) (startsLine : Bool) (c : Cursor code),
    c.rest = p.text ++ rest → (p.kind = .sign .greater → mode = .type) →
    (Lexeme.at mode startsLine c).token.kind = p.kind ∧
      (Lexeme.at mode startsLine c).token.startsLine = startsLine ∧
      (Lexeme.at mode startsLine c).next = c.advance p.text.length

/-- Pieces none of which runs into the next one. Only the last one may be empty. -/
def AreLaidOut : List Piece → Prop
  | [] => True
  | p :: rest => p.IsReadBefore (textOf rest) ∧ (p.text = [] → rest = []) ∧ AreLaidOut rest

@[simp] theorem textOf_nil : textOf [] = [] :=
  rfl

theorem textOf_cons (p : Piece) (rest : List Piece) :
    textOf (p :: rest) = p.gap ++ p.text ++ textOf rest :=
  List.flatMap_cons

theorem textOf_append (front rest : List Piece) :
    textOf (front ++ rest) = textOf front ++ textOf rest :=
  List.flatMap_append

/-- Blanks are skipped, and a line may end among them. -/
theorem trivia_gap {gap text : List Char} (hgap : IsBlankGap gap)
    (htext : ∀ count ended, trivia .blank count ended text = (count, ended)) (count : Nat)
    (ended : Bool) :
    trivia .blank count ended (gap ++ text) = (count + gap.length, ended || gap.contains '\n') := by
  induction gap generalizing count ended with
  | nil => simp [htext]
  | cons c rest ih =>
      obtain ⟨hc, hrest⟩ := List.forall_mem_cons.mp hgap
      rcases hc with rfl | rfl
      · have hblank : trivia .blank count ended (' ' :: (rest ++ text)) =
            trivia .blank (count + 1) ended (rest ++ text) := by
          rw [trivia]
          rfl
        rw [List.cons_append, hblank, ih hrest]
        simp [Nat.add_comm, Nat.add_left_comm]
      · have hline : trivia .blank count ended ('\n' :: (rest ++ text)) =
            trivia .blank (count + 1) true (rest ++ text) := by
          rw [trivia]
          rfl
        rw [List.cons_append, hline, ih hrest]
        simp [Nat.add_comm, Nat.add_left_comm]

end Piece

/-- Behind characters at a cursor stands what follows them. -/
theorem Cursor.rest_advance {c : Cursor code} {front rest : List Char} (h : c.rest = front ++ rest) :
    (c.advance front.length).rest = rest := by
  have hdrop : (c.advance front.length).rest = c.rest.drop front.length := rfl
  rw [hdrop, h, List.drop_left]

/-! ## Words -/

/-- No identifier starts with a character of a list without such characters. -/
theorem forall_ne_of_isIdentifierStart {c : Char} (h : Text.isIdentifierStart c = true)
    {others : List Char} (hothers : others.any Text.isIdentifierStart = false) :
    ∀ other ∈ others, c ≠ other := by
  rintro other hother rfl
  exact List.any_eq_false.mp hothers c hother h

/-- The code points of blanks. -/
def blankPoints : List Nat :=
  [0x9, 0xA, 0xB, 0xC, 0xD, 0x20, 0x85, 0xA0, 0x1680, 0x2000, 0x2001, 0x2002, 0x2003, 0x2004, 0x2005,
    0x2006, 0x2007, 0x2008, 0x2009, 0x200A, 0x2028, 0x2029, 0x202F, 0x205F, 0x3000]

/-- No identifier starts with a blank. -/
theorem isBlank_eq_false_of_isIdentifierStart {c : Char} (h : Text.isIdentifierStart c = true) :
    Text.isBlank c = false := by
  rw [← Bool.not_eq_true]
  intro hblank
  have hpoint : c.toNat ∈ blankPoints := by
    simp only [Text.isBlank, Bool.or_eq_true, Bool.and_eq_true, decide_eq_true_eq,
      List.contains_eq_mem, List.mem_cons, List.not_mem_nil, or_false] at hblank
    simp only [blankPoints, List.mem_cons, List.not_mem_nil, or_false]
    omega
  have hmem : c ∈ blankPoints.map Char.ofNat := List.mem_map.mpr ⟨_, hpoint, Char.ofNat_toNat c⟩
  exact forall_ne_of_isIdentifierStart h (by decide +kernel) c hmem rfl

/-- A character at which a token starts for sure, as nothing before a token starts with it. -/
def StartsToken (c : Char) : Prop :=
  isLineEnd c = false ∧ isBlank c = false ∧ c ≠ '/' ∧ c ≠ '<' ∧ c ≠ '-'

/-- Nothing is skipped in front of a character that starts a token. -/
theorem trivia_of_startsToken {c : Char} (h : StartsToken c) (rest : List Char) (count : Nat)
    (ended : Bool) : trivia .blank count ended (c :: rest) = (count, ended) := by
  obtain ⟨hline, hblank, hslash, hless, hminus⟩ := h
  simp [trivia, hline, hblank, hslash, hless, hminus]

/-- An identifier starts a token. -/
theorem startsToken_of_isIdentifierStart {c : Char} (h : Text.isIdentifierStart c = true) :
    StartsToken c := by
  have hne : ∀ other ∈ ['\n', '\r', '\u2028', '\u2029', '\u200b', '\ufeff', '/', '<', '-'],
      c ≠ other := forall_ne_of_isIdentifierStart h (by decide +kernel)
  simp only [List.forall_mem_cons] at hne
  simp [StartsToken, isLineEnd, isBlank, isBlank_eq_false_of_isIdentifierStart h, hne]

/-- The characters of an identifier. -/
structure IsIdentifier (word : List Char) : Prop where
  starts : word.head?.any Text.isIdentifierStart = true
  continues : word.all Text.isIdentifierPart = true

/-- An identifier can go on with each of its characters. -/
theorem IsIdentifier.forall_isIdentifierPart {word : List Char} (h : IsIdentifier word) :
    ∀ c ∈ word, Text.isIdentifierPart c = true :=
  List.all_eq_true.mp h.continues

/-- An identifier has a first character. -/
theorem IsIdentifier.exists_cons {word : List Char} (h : IsIdentifier word) :
    ∃ first more, word = first :: more ∧ Text.isIdentifierStart first = true := by
  obtain ⟨first, hhead, hfirst⟩ := (Option.any_eq_true ..).mp h.starts
  obtain ⟨more, rfl⟩ := List.head?_eq_some_iff.mp hhead
  exact ⟨first, more, rfl, hfirst⟩

/-- A text that no identifier goes on with. -/
def EndsWord (rest : List Char) : Prop :=
  ∀ c ∈ rest.head?, Text.isIdentifierPart c = false ∧ c ≠ '\\'

/-- A backslash is no part of an identifier. -/
theorem IsIdentifier.backslash_notMem {word : List Char} (h : IsIdentifier word) : '\\' ∉ word := by
  intro hmem
  have hpart := h.forall_isIdentifierPart _ hmem
  revert hpart
  decide

/-- A scanner takes an identifier as a whole. -/
theorem wordPart_append {word rest : List Char} (h : ∀ c ∈ word, Text.isIdentifierPart c = true)
    (hrest : EndsWord rest) : wordPart .plain (word ++ rest) = word := by
  induction word with
  | nil =>
      cases rest with
      | nil => rfl
      | cons c more =>
          obtain ⟨hpart, hbackslash⟩ := hrest c rfl
          simp [wordPart, WordState.next, hpart, hbackslash]
  | cons c word ih =>
      obtain ⟨hc, hword⟩ := List.forall_mem_cons.mp h
      simp [wordPart, WordState.next, hc, ih hword]

/-- An identifier has no escape that is open at its end. -/
theorem wordEnd_eq_plain {word : List Char} (h : ∀ c ∈ word, Text.isIdentifierPart c = true) :
    wordEnd .plain word = .plain := by
  induction word with
  | nil => rfl
  | cons c word ih =>
      obtain ⟨hc, hword⟩ := List.forall_mem_cons.mp h
      simp [wordEnd, WordState.next, hc, ih hword]

/-- An identifier stands for itself. -/
theorem wordName_eq_self {word : List Char} (h : ∀ c ∈ word, Text.isIdentifierPart c = true) :
    wordName .plain 0 word = word := by
  induction word with
  | nil => rfl
  | cons c word ih =>
      obtain ⟨hc, hword⟩ := List.forall_mem_cons.mp h
      simp [wordName, WordState.next, hc, ih hword]

namespace Piece

/-- A word. -/
def word (gap text : List Char) : Piece :=
  ⟨gap, text, .word (Keyword.ofSpelling? text) (String.ofList text)⟩

/-- What the lexer reads is told by the character at hand and, for a dot, by the one behind it. -/
theorem lexeme_at_of_rest (mode : LexMode) (startsLine : Bool) {c : Cursor code} {first : Char}
    {rest : List Char} (h : c.rest = first :: rest) : Lexeme.at mode startsLine c =
      if Text.isIdentifierStart first || first = '\\' then .wordOrBroken startsLine c
      else if first.isDigit || (first = '.' && rest.head?.any Char.isDigit) then
        .number startsLine c
      else if first = '"' || first = '\x27' then .string first startsLine c
      else if first = '\x60' then .template startsLine c
      else .sign mode startsLine c := by
  unfold Lexeme.at
  split
  · rename_i hnil
    rw [h] at hnil
    cases hnil
  · rename_i heq
    obtain ⟨rfl, rfl⟩ := List.cons.inj (h.symm.trans heq)
    rfl

/-- A word is read back in front of what ends it. -/
theorem isReadBefore_word {gap text rest : List Char} (hgap : IsBlankGap gap)
    (h : IsIdentifier text) (hrest : EndsWord rest) : (word gap text).IsReadBefore rest := by
  obtain ⟨first, more, rfl, hfirst⟩ := h.exists_cons
  refine ⟨hgap, trivia_of_startsToken (startsToken_of_isIdentifierStart hfirst) _, ?_⟩
  intro code mode startsLine c hc _
  have hpart : wordPart .plain c.rest = first :: more := by
    rw [hc]
    exact wordPart_append h.forall_isIdentifierPart hrest
  have hescaped : isEscapedWord (first :: more) = false := by
    rw [isEscapedWord, Bool.and_eq_false_iff]
    left
    simpa using h.backslash_notMem
  have hne : wordPart .plain c.rest ≠ [] := by simp [hpart]
  have hlexeme : Lexeme.at mode startsLine c = Lexeme.word startsLine c hne := by
    have hcons : c.rest = first :: (more ++ rest) := hc
    rw [lexeme_at_of_rest mode startsLine hcons, if_pos (by simp [hfirst]), Lexeme.wordOrBroken,
      dif_pos hne]
    simp only [hpart, wordEnd_eq_plain h.forall_isIdentifierPart, hescaped, Bool.false_eq_true,
      if_false]
  rw [hlexeme]
  refine ⟨?_, rfl, ?_⟩
  · simp only [Lexeme.word, word, hpart, wordName_eq_self h.forall_isIdentifierPart, ite_self]
  · simp only [Lexeme.word, word, hpart]

/-- A word with a meaning of its own. -/
def keyword (gap : List Char) (k : Keyword) : Piece :=
  ⟨gap, k.spelling, .word (some k) (String.ofList k.spelling)⟩

/-- A keyword is the word that is spelled like it. -/
theorem word_spelling (gap : List Char) (k : Keyword) : word gap k.spelling = keyword gap k := by
  have hspelling : Keyword.ofSpelling? k.spelling = some k := by
    cases k <;> decide
  rw [word, keyword, hspelling]

/-- A name without a meaning of its own. -/
def name (gap : List Char) (text : String) : Piece :=
  ⟨gap, text.toList, .word none text⟩

end Piece

/-- An identifier that is no word of the language. -/
structure IsPlainName (text : String) : Prop where
  isIdentifier : IsIdentifier text.toList
  noKeyword : Keyword.ofSpelling? text.toList = none

/-- A plain name is the word of its characters. -/
theorem IsPlainName.word_eq {text : String} (h : IsPlainName text) (gap : List Char) :
    Piece.word gap text.toList = Piece.name gap text := by
  rw [Piece.word, Piece.name, h.noKeyword, String.ofList_toList]

/-! ## Signs -/

/-- Signs whose first character no token but a sign starts with, and that are no angles. -/
def plainSigns : List Punctuator :=
  [.braceOpen, .braceClose, .parenOpen, .parenClose, .bracketOpen, .bracketClose, .semicolon, .comma,
    .colon, .star, .assign, .dot]

/-- A character that no token but a sign starts with. A dot in front of a digit starts a number. -/
def StartsSign (c : Char) : Prop :=
  StartsToken c ∧ Text.isIdentifierStart c = false ∧ c.isDigit = false ∧
    c ∉ ['\\', '"', '\x27', '\x60', '>']

/-- It can be told whether a character starts a sign. -/
instance decidableStartsSign (c : Char) : Decidable (StartsSign c) :=
  inferInstanceAs (Decidable ((isLineEnd c = false ∧ isBlank c = false ∧ c ≠ '/' ∧ c ≠ '<' ∧ c ≠ '-') ∧
    Text.isIdentifierStart c = false ∧ c.isDigit = false ∧ c ∉ ['\\', '"', '\x27', '\x60', '>']))

/-- What a plain sign starts with. -/
theorem startsSign_of_mem_plainSigns : ∀ p ∈ plainSigns, ∃ first ∈ p.spelling.head?,
    StartsSign first ∧ p ≠ .optionalDot ∧ (first = '.' → p = .dot) := by
  simp only [plainSigns, List.forall_mem_cons]
  and_intros
  all_goals first
    | exact ⟨_, rfl, by decide⟩
    | exact List.forall_mem_nil _

namespace Piece

/-- A sign. -/
def sign (gap : List Char) (p : Punctuator) : Piece :=
  ⟨gap, p.spelling, .sign p⟩

/-- At a character that starts a sign the lexer reads a sign. -/
theorem lexeme_at_of_startsSign {mode : LexMode} {startsLine : Bool} {c : Cursor code} {first : Char}
    {rest : List Char} (hc : c.rest = first :: rest) (h : StartsSign first)
    (hdigit : first = '.' → rest.head?.any Char.isDigit = false) :
    Lexeme.at mode startsLine c = Lexeme.sign mode startsLine c := by
  obtain ⟨-, hword, hnumber, hother⟩ := h
  simp only [List.mem_cons, List.not_mem_nil, or_false, not_or] at hother
  have hdot : (decide (first = '.') && rest.head?.any Char.isDigit) = false := by
    rw [Bool.and_eq_false_iff, decide_eq_false_iff_not]
    by_cases hfirst : first = '.'
    · exact Or.inr (hdigit hfirst)
    · exact Or.inl hfirst
  rw [lexeme_at_of_rest mode startsLine hc]
  simp [hword, hnumber, hother, hdot]

/-- A plain sign is read back where no longer sign could be read. -/
theorem isReadBefore_sign {gap rest : List Char} {p : Punctuator}
    (hgap : IsBlankGap gap) (hp : p ∈ plainSigns)
    (hleading : Punctuator.leading? (p.spelling ++ rest) = some p)
    (hdigit : p = .dot → rest.head?.any Char.isDigit = false) :
    (sign gap p).IsReadBefore rest := by
  obtain ⟨first, hhead, hfirst, hoptional, hdot⟩ := startsSign_of_mem_plainSigns p hp
  obtain ⟨more, hspelling⟩ := List.head?_eq_some_iff.mp hhead
  refine ⟨hgap, ?_, ?_⟩
  · rw [sign, hspelling]
    exact trivia_of_startsToken hfirst.1 _
  · intro code mode startsLine c hc _
    have hcons : c.rest = first :: (more ++ rest) := by
      rw [hc, sign, hspelling, List.cons_append]
    have hlone : first = '.' → (more ++ rest).head?.any Char.isDigit = false := by
      intro heq
      obtain rfl := hdot heq
      obtain ⟨-, rfl⟩ := List.cons.inj hspelling
      exact hdigit rfl
    have hangle : first ≠ '<' ∧ first ≠ '>' := by
      obtain ⟨⟨-, -, -, hless, -⟩, -, -, hother⟩ := hfirst
      exact ⟨hless, fun heq => hother (by simp [heq])⟩
    rw [lexeme_at_of_startsSign hcons hfirst hlone, Lexeme.sign, hc, sign, hleading]
    simp only [hspelling, List.head?_cons, Option.some.injEq, hangle.1, hangle.2, hoptional,
      decide_false, Bool.false_and, Bool.and_false, Bool.false_eq_true, if_false]
    exact ⟨rfl, rfl, rfl⟩

/-- The sign that opens an angle is read back in front of an identifier. -/
theorem isReadBefore_less {rest : List Char} {first : Char} (hhead : rest.head? = some first)
    (hfirst : Text.isIdentifierStart first = true) : (sign [] .less).IsReadBefore rest := by
  obtain ⟨more, rfl⟩ := List.head?_eq_some_iff.mp hhead
  have hne : ∀ other ∈ ['<', '=', '!'], first ≠ other :=
    forall_ne_of_isIdentifierStart hfirst (by decide +kernel)
  simp only [List.forall_mem_cons] at hne
  obtain ⟨hless, hassign, hbang, -⟩ := hne
  refine ⟨List.forall_mem_nil _, ?_, ?_⟩
  · intro count ended
    simp [sign, Punctuator.spelling, trivia, isLineEnd, isBlank, Text.isBlank, hbang.symm]
  · intro code mode startsLine c hc _
    have hleading : Punctuator.leading? ('<' :: first :: more) = some .less := by
      simp [Punctuator.leading?, Punctuator.all, Punctuator.spelling, hless.symm, hassign.symm]
    have hcons : c.rest = '<' :: first :: more := hc
    have hat : Lexeme.at mode startsLine c = Lexeme.sign mode startsLine c := by
      rw [lexeme_at_of_rest mode startsLine hcons]
      simp [Text.isIdentifierStart]
    rw [hat, Lexeme.sign, hcons, hleading]
    have hspelling : Punctuator.less.spelling = ['<'] := rfl
    cases mode <;> exact ⟨rfl, rfl, rfl⟩

/-- The sign that a text starts with starts with the first character of the text. -/
theorem head?_spelling_of_leading? {first : Char} {rest : List Char} {p : Punctuator}
    (h : Punctuator.leading? (first :: rest) = some p) : p.spelling.head? = some first := by
  have hne : ∀ q ∈ Punctuator.all, q.spelling ≠ [] := by decide
  have hfind : Punctuator.all.find? (·.spelling.isPrefixOf (first :: rest)) = some p := h
  have hprefix := List.find?_some hfind
  obtain ⟨more, hmore⟩ := List.isPrefixOf_iff_prefix.mp hprefix
  obtain ⟨c, back, hspelling⟩ :=
    List.exists_cons_of_ne_nil (hne p (List.mem_of_find?_eq_some hfind))
  rw [hspelling] at hmore ⊢
  exact congrArg some (List.cons.inj hmore).1

/-- In a type the sign that closes an angle is read back in front of anything. -/
theorem isReadBefore_greater (rest : List Char) : (sign [] .greater).IsReadBefore rest := by
  refine ⟨List.forall_mem_nil _, ?_, ?_⟩
  · intro count ended
    simp [sign, Punctuator.spelling, trivia, isLineEnd, isBlank, Text.isBlank]
  · intro code mode startsLine c hc hmode
    obtain rfl := hmode rfl
    have hcons : c.rest = '>' :: rest := hc
    have hat : Lexeme.at .type startsLine c = Lexeme.sign .type startsLine c := by
      rw [lexeme_at_of_rest .type startsLine hcons]
      simp [Text.isIdentifierStart]
    -- whatever sign stands here starts with an angle, and in a type only this angle is read
    obtain ⟨p, hp⟩ : ∃ p, Punctuator.leading? ('>' :: rest) = some p := by
      rw [← Option.isSome_iff_exists, Punctuator.leading?, List.find?_isSome]
      exact ⟨.greater, by decide, rfl⟩
    have hangle := head?_spelling_of_leading? hp
    have hoptional : p ≠ .optionalDot := by
      rintro rfl
      cases hangle
    rw [hat, Lexeme.sign, hcons, hp]
    simp only [hoptional, hangle, decide_false, Bool.false_and, Bool.false_eq_true, if_false,
      decide_true, Bool.true_and, Option.some.injEq, if_true]
    exact ⟨rfl, rfl, rfl⟩

end Piece

/-! ## Strings -/

/-- A character that stands for itself in a string literal. -/
def IsQuotable (c : Char) : Prop :=
  c ≠ '"' ∧ c ≠ '\\' ∧ c ≠ '\n' ∧ c ≠ '\r'

/-- It can be told whether a character stands for itself. -/
instance decidableIsQuotable (c : Char) : Decidable (IsQuotable c) :=
  inferInstanceAs (Decidable (c ≠ '"' ∧ c ≠ '\\' ∧ c ≠ '\n' ∧ c ≠ '\r'))

/-- A scanner takes a string up to its quote, by the code points of its characters. -/
theorem scanString_append {text rest : List Char} (h : ∀ c ∈ text, IsQuotable c)
    (length escape : Nat) (points : List Nat) :
    scanString '"' .plain length escape points (text ++ '"' :: rest) =
      ⟨length + text.length + 1, (text.map Char.toNat).reverse ++ points, none⟩ := by
  induction text generalizing length points with
  | nil => simp [scanString, StringState.step, StringStep.plain]
  | cons c text ih =>
      obtain ⟨⟨hquote, hbackslash, hline, hreturn⟩, htext⟩ := List.forall_mem_cons.mp h
      have hstep : StringState.plain.step '"' c = .next [c.toNat] .plain := by
        simp [StringState.step, StringStep.plain, hquote, hbackslash, hline, hreturn]
      rw [List.cons_append, scanString, hstep]
      simp only [ih htext]
      simp [Nat.add_comm, Nat.add_left_comm]

/-- The code points of characters stand for these. -/
theorem cook_map_toNat (text : List Char) : cook (text.map Char.toNat) = text := by
  have hvalid (c : Char) :
      isHighSurrogate c.toNat = false ∧ isLowSurrogate c.toNat = false := by
    have hc := c.valid
    simp only [UInt32.isValidChar, Nat.isValidChar] at hc
    have hpoint : c.val.toNat = c.toNat := rfl
    simp only [isHighSurrogate, isLowSurrogate, Bool.and_eq_false_iff, decide_eq_false_iff_not]
    omega
  induction text with
  | nil => rfl
  | cons c text ih =>
      obtain ⟨hhigh, hlow⟩ := hvalid c
      cases text with
      | nil => simp [cook, hhigh, hlow]
      | cons d more =>
          rw [List.map_cons, List.map_cons, cook]
          rw [List.map_cons] at ih
          simp [hhigh, hlow, ih]

namespace Piece

/-- A string literal. -/
def string (gap : List Char) (text : String) : Piece :=
  ⟨gap, '"' :: (text.toList ++ ['"']), .string text⟩

/-- A string literal is read back when its characters stand for themselves. -/
theorem isReadBefore_string {gap : List Char} {text : String}
    (hgap : IsBlankGap gap) (h : ∀ c ∈ text.toList, IsQuotable c)
    (rest : List Char) : (string gap text).IsReadBefore rest := by
  refine ⟨hgap, ?_, ?_⟩
  · intro count ended
    simp [string, trivia, isLineEnd, isBlank, Text.isBlank]
  · intro code mode startsLine c hc _
    have hcons : c.rest = '"' :: (text.toList ++ '"' :: rest) := by
      rw [hc, string]
      simp
    have hat : Lexeme.at mode startsLine c = Lexeme.string '"' startsLine c := by
      rw [lexeme_at_of_rest mode startsLine hcons]
      simp [Text.isIdentifierStart]
    have hscan : scanString '"' .plain 0 0 [] (c.rest.drop 1) =
        ⟨0 + text.toList.length + 1, (text.toList.map Char.toNat).reverse ++ [], none⟩ := by
      rw [hcons]
      exact scanString_append h 0 0 []
    rw [hat, Lexeme.string]
    simp only [hscan]
    refine ⟨?_, rfl, ?_⟩
    · simp [Lexeme.plain, string, cook_map_toNat]
    · simp [Lexeme.plain, string]

/-- The end of the text. -/
def ending (gap : List Char) : Piece :=
  ⟨gap, [], .endOfInput⟩

/-- The end of the text is read back. -/
theorem isReadBefore_ending {gap : List Char} (hgap : IsBlankGap gap) :
    (ending gap).IsReadBefore [] := by
  refine ⟨hgap, fun _ _ => rfl, ?_⟩
  intro code mode startsLine c hc _
  have hnil : c.rest = [] := hc
  have hat : Lexeme.at mode startsLine c = .plain .endOfInput rfl startsLine c 0 := by
    simp only [Lexeme.at]
    split
    · rfl
    · rename_i heq
      rw [hnil] at heq
      cases heq
  rw [hat]
  exact ⟨rfl, rfl, rfl⟩

end Piece

/-! ## Layout -/

/-- Signs that stand for themselves in front of anything. -/
def loneSigns : List Punctuator :=
  [.braceOpen, .braceClose, .parenOpen, .parenClose, .bracketOpen, .bracketClose, .semicolon, .comma,
    .colon]

/-- No longer sign starts like one that stands for itself. -/
theorem leading?_of_mem_loneSigns {p : Punctuator} (h : p ∈ loneSigns) (rest : List Char) :
    Punctuator.leading? (p.spelling ++ rest) = some p := by
  simp only [loneSigns, List.mem_cons, List.not_mem_nil, or_false] at h
  rcases h with rfl | rfl | rfl | rfl | rfl | rfl | rfl | rfl | rfl <;> rfl

theorem endsWord_spelling (p : Punctuator) (rest : List Char) : EndsWord (p.spelling ++ rest) := by
  cases p <;> (rintro c ⟨⟩; decide)

theorem isIdentifier_spelling (k : Keyword) : IsIdentifier k.spelling := by
  cases k <;> exact ⟨by decide, by decide⟩

/-- No identifier starts with a digit. -/
theorem isDigit_eq_false_of_isIdentifierStart {c : Char} (h : Text.isIdentifierStart c = true) :
    c.isDigit = false := by
  rw [← Bool.not_eq_true]
  intro hdigit
  have hpoint : c.toNat ∈ List.range' 48 10 := by
    simp only [Char.isDigit, Bool.and_eq_true, decide_eq_true_eq, UInt32.le_iff_toNat_le] at hdigit
    simp only [List.mem_range'_1]
    exact ⟨hdigit.1, Nat.lt_succ_of_le hdigit.2⟩
  have hmem : c ∈ (List.range' 48 10).map Char.ofNat :=
    List.mem_map.mpr ⟨_, hpoint, Char.ofNat_toNat c⟩
  exact forall_ne_of_isIdentifierStart h (by decide +kernel) c hmem rfl

namespace Piece

variable {gap : List Char} {rest : List Piece}

@[simp] theorem isBlankGap_nil : IsBlankGap [] :=
  List.forall_mem_nil _

@[simp] theorem isBlankGap_cons {c : Char} {gap : List Char} :
    IsBlankGap (c :: gap) ↔ (c = ' ' ∨ c = '\n') ∧ IsBlankGap gap :=
  List.forall_mem_cons

/-- A blank in front of a piece ends a word. -/
theorem endsWord_of_gap {p : Piece} (hgap : IsBlankGap p.gap) (hne : p.gap ≠ []) :
    EndsWord (textOf (p :: rest)) := by
  obtain ⟨c, more, hp⟩ := List.exists_cons_of_ne_nil hne
  rw [textOf_cons, hp]
  rintro _ ⟨⟩
  rcases hgap c (by simp [hp]) with rfl | rfl <;> decide

/-- A sign ends a word. -/
theorem endsWord_sign {p : Punctuator} (hgap : IsBlankGap gap) :
    EndsWord (textOf (sign gap p :: rest)) := by
  cases gap with
  | nil =>
      rw [textOf_cons, List.append_assoc]
      exact endsWord_spelling p _
  | cons c more => exact endsWord_of_gap hgap (List.cons_ne_nil _ _)

/-- A piece that is read back may stand in front of pieces that are laid out. -/
theorem areLaidOut_cons {p : Piece} (h : p.IsReadBefore (textOf rest)) (hne : p.text ≠ []) :
    AreLaidOut (p :: rest) ↔ AreLaidOut rest := by
  simp only [AreLaidOut, h, hne, true_and, false_imp_iff]

theorem areLaidOut_word {text : List Char} (hgap : IsBlankGap gap) (h : IsIdentifier text)
    (hrest : EndsWord (textOf rest)) : AreLaidOut (word gap text :: rest) ↔ AreLaidOut rest := by
  refine areLaidOut_cons (isReadBefore_word hgap h hrest) ?_
  obtain ⟨first, more, rfl, -⟩ := h.exists_cons
  exact List.cons_ne_nil _ _

theorem areLaidOut_keyword {k : Keyword} (hgap : IsBlankGap gap) (hrest : EndsWord (textOf rest)) :
    AreLaidOut (keyword gap k :: rest) ↔ AreLaidOut rest := by
  rw [← word_spelling]
  exact areLaidOut_word hgap (isIdentifier_spelling k) hrest

theorem areLaidOut_name {text : String} (hgap : IsBlankGap gap) (h : IsPlainName text)
    (hrest : EndsWord (textOf rest)) : AreLaidOut (name gap text :: rest) ↔ AreLaidOut rest := by
  rw [← h.word_eq]
  exact areLaidOut_word hgap h.isIdentifier hrest

/-- A sign is laid out where no longer one could be read. -/
theorem areLaidOut_sign {p : Punctuator} (h : (sign gap p).IsReadBefore (textOf rest)) :
    AreLaidOut (sign gap p :: rest) ↔ AreLaidOut rest :=
  areLaidOut_cons h (by cases p <;> exact List.cons_ne_nil _ _)

/-- Most signs are laid out in front of anything. -/
theorem areLaidOut_lone {p : Punctuator} (hgap : IsBlankGap gap) (hp : p ∈ loneSigns) :
    AreLaidOut (sign gap p :: rest) ↔ AreLaidOut rest := by
  refine areLaidOut_sign (isReadBefore_sign hgap ?_ (leading?_of_mem_loneSigns hp _) ?_)
  · revert p
    decide
  · rintro rfl
    exact absurd hp (by decide)

/-- A star and a sign of assignment are laid out in front of a blank. -/
theorem areLaidOut_spaced {p : Punctuator} {more : List Char} (hgap : IsBlankGap gap)
    (hp : p ∈ [.star, .assign]) (hrest : textOf rest = ' ' :: more) :
    AreLaidOut (sign gap p :: rest) ↔ AreLaidOut rest := by
  refine areLaidOut_sign (isReadBefore_sign hgap ?_ ?_ ?_)
  · revert p
    decide
  · rw [hrest]
    simp only [List.mem_cons, List.not_mem_nil, or_false] at hp
    rcases hp with rfl | rfl <;> rfl
  · rintro rfl
    exact absurd hp (by decide)

/-- A dot is laid out in front of a plain name. -/
theorem areLaidOut_dot {text : String} (h : IsPlainName text) :
    AreLaidOut (sign [] .dot :: name [] text :: rest) ↔ AreLaidOut (name [] text :: rest) := by
  obtain ⟨first, more, htext, hfirst⟩ := h.isIdentifier.exists_cons
  have hne : first ≠ '.' := by
    rintro rfl
    exact absurd hfirst (by decide)
  refine areLaidOut_sign (isReadBefore_sign isBlankGap_nil (by decide) ?_ fun _ => ?_)
  · simp [textOf_cons, name, htext, Punctuator.leading?, Punctuator.all, Punctuator.spelling,
      hne.symm]
  · simp [textOf_cons, name, htext, isDigit_eq_false_of_isIdentifierStart hfirst]

/-- The sign that opens an angle is laid out in front of a word. -/
theorem areLaidOut_less {q : Piece} (hgap : q.gap = []) (hq : IsIdentifier q.text) :
    AreLaidOut (sign [] .less :: q :: rest) ↔ AreLaidOut (q :: rest) := by
  obtain ⟨first, more, htext, hfirst⟩ := hq.exists_cons
  refine areLaidOut_sign (isReadBefore_less ?_ hfirst)
  simp [textOf_cons, hgap, htext]

/-- The sign that closes an angle is laid out in front of anything. -/
theorem areLaidOut_greater : AreLaidOut (sign [] .greater :: rest) ↔ AreLaidOut rest :=
  areLaidOut_sign (isReadBefore_greater _)

theorem areLaidOut_string {text : String} (hgap : IsBlankGap gap)
    (h : ∀ c ∈ text.toList, IsQuotable c) :
    AreLaidOut (string gap text :: rest) ↔ AreLaidOut rest :=
  areLaidOut_cons (isReadBefore_string hgap h _) (List.cons_ne_nil _ _)

theorem areLaidOut_ending (hgap : IsBlankGap gap) : AreLaidOut [ending gap] := by
  simp [AreLaidOut, textOf, isReadBefore_ending hgap]

/-- There are no more pieces than characters, but for the end. -/
theorem length_le_of_areLaidOut {ps : List Piece} (h : AreLaidOut ps) :
    ps.length ≤ (textOf ps).length + 1 := by
  induction ps with
  | nil => exact Nat.zero_le _
  | cons p rest ih =>
      obtain ⟨-, hempty, hrest⟩ := h
      have hle := ih hrest
      cases hp : p.text with
      | nil =>
          obtain rfl := hempty hp
          simp
      | cons c more =>
          simp [textOf_cons, hp]
          omega

end Piece

end ClassRegistry.TypeScript
