/-!
# Glob patterns

A pattern is read character by character into tokens and matched against a whole text. The signs `*`
and `?` match a slash as well; `**` has to be a path component of its own and matches whole
components, at the end of a pattern whatever follows.

Main statement: what a pattern matches is said by the relation `Matches`, which `matchTokens`
decides.
-/

namespace ClassRegistry.Glob

/-- What a bracket lists. -/
inductive ClassItem where
  | single (c : Char)
  | range (first last : Char)
  deriving DecidableEq, Repr

/-- Whether a character is listed. -/
def ClassItem.covers : ClassItem → Char → Bool
  | .single listed, c => listed = c
  | .range first last, c => first ≤ c && c ≤ last

/-- A part of a pattern. -/
inductive PatternToken where
  | char (c : Char)
  /-- `?` -/
  | anyChar
  /-- `*` -/
  | anyText
  /-- `**` -/
  | anyComponents
  /-- `[...]` or, with an exclamation mark, a character that is not listed. -/
  | class_ (isNegated : Bool) (items : List ClassItem)
  deriving DecidableEq, Repr

/-- The character that a token stands for when it is one. -/
def PatternToken.char? : PatternToken → Option Char
  | .char c => some c
  | _ => none

/-- What is wrong with a pattern. -/
inductive PatternFlaw where
  | wildcards
  | recursiveWildcards
  | range
  deriving DecidableEq, Repr

/-- A flaw and the number of characters before it. -/
structure PatternError where
  position : Nat
  flaw : PatternFlaw
  deriving DecidableEq, Repr

/-- The wording of an error. -/
def PatternError.message (e : PatternError) : String :=
  "Pattern syntax error near position " ++ toString e.position ++ ": " ++
    match e.flaw with
    | .wildcards => "wildcards are either regular \x60*\x60 or recursive \x60**\x60"
    | .recursiveWildcards => "recursive wildcards must form a single path component"
    | .range => "invalid range pattern"

/-- The items between the brackets: ranges where a minus stands between two characters. -/
def classItems : List Char → List ClassItem
  | first :: '-' :: last :: rest => .range first last :: classItems rest
  | c :: rest => .single c :: classItems rest
  | [] => []

/-- The characters up to a closing bracket and those behind it. -/
def untilBracket : List Char → Option (List Char × List Char)
  | [] => none
  | c :: rest =>
    if c = ']' then some ([], rest)
    else (untilBracket rest).map fun (inner, after) => (c :: inner, after)

/-- The class behind an opening bracket and the characters behind the class. At least one
character is listed, and the first one may be a closing bracket. -/
def classAt : List Char → Option (PatternToken × List Char)
  | '!' :: first :: rest =>
    (untilBracket rest).map fun (inner, after) =>
      (.class_ true (classItems (first :: inner)), after)
  | '!' :: [] => none
  | first :: rest =>
    (untilBracket rest).map fun (inner, after) =>
      (.class_ false (classItems (first :: inner)), after)
  | [] => none

/-- The tokens of a pattern from a position on. `previous` is the character before it; `bound` is at
least the number of characters left. -/
def tokensFrom (bound position : Nat) (previous : Option Char) (text : List Char) :
    Except PatternError (List PatternToken) :=
  match bound, text with
  | _, [] => .ok []
  | 0, _ => .ok []
  | bound + 1, '?' :: rest => do
    return .anyChar :: (← tokensFrom bound (position + 1) (some '?') rest)
  | bound + 1, '*' :: rest =>
    match rest.takeWhile (· = '*') with
    | [] => do return .anyText :: (← tokensFrom bound (position + 1) (some '*') rest)
    | _ :: _ :: _ => .error ⟨position + 2, .wildcards⟩
    | [_] =>
      if previous.any (· ≠ '/') then .error ⟨position - 1, .recursiveWildcards⟩
      else match rest.drop 1 with
        | [] => .ok [.anyComponents]
        | '/' :: rest => do
          return .anyComponents :: (← tokensFrom bound (position + 3) (some '/') rest)
        | _ => .error ⟨position + 2, .recursiveWildcards⟩
  | bound + 1, '[' :: rest =>
    match classAt rest with
    | none => .error ⟨position, .range⟩
    | some (token, after) => do
      return token :: (← tokensFrom bound (position + 1 + (rest.length - after.length)) (some ']')
        after)
  | bound + 1, c :: rest => do
    return .char c :: (← tokensFrom bound (position + 1) (some c) rest)

/-- A pattern. -/
structure Pattern where
  tokens : List PatternToken
  deriving DecidableEq, Repr

/-- Reads a pattern. -/
def Pattern.parse (text : String) : Except PatternError Pattern :=
  (tokensFrom text.toList.length 0 none text.toList).map Pattern.mk

/-- Whether a text asks to be read as a pattern and not as a plain path. -/
def hasWildcard (text : String) : Bool :=
  text.toList.any fun c => c = '*' || c = '?'

/-! ## Matching -/

/-- Whether a token that stands for one character stands for this one. -/
def PatternToken.accepts : PatternToken → Char → Bool
  | .char expected, c => expected = c
  | .anyChar, _ => true
  | .class_ isNegated items, c => items.any (·.covers c) != isNegated
  | .anyText, _ | .anyComponents, _ => false

/-- Of the answers for the ends of a text, whether this or a later one is yes, end by end. -/
def anyAhead : List Bool → List Bool
  | [] => []
  | here :: rest =>
    let later := anyAhead rest
    (here || later.headD false) :: later

/-- Of the answers for the ends of a text, whether a later one behind a slash is yes, end by end. -/
def behindSlash : List Char → List Bool → List Bool
  | c :: text, _ :: rest =>
    let later := behindSlash text rest
    ((c = '/' && rest.headD false) || later.headD false) :: later
  | _, _ => [false]

/-- Of the answers for the ends of a text, the ones behind a character that the token stands for. -/
def behindOne (token : PatternToken) : List Char → List Bool → List Bool
  | c :: text, _ :: rest => (token.accepts c && rest.headD false) :: behindOne token text rest
  | _, _ => [false]

/-- Which ends of a text the tokens match, the whole text first and the empty end last. -/
def matchEnds : List PatternToken → List Char → List Bool
  | [], text => text.map (fun _ => false) ++ [true]
  | .anyText :: tokens, text => anyAhead (matchEnds tokens text)
  | [.anyComponents], text => text.map (fun _ => true) ++ [true]
  | .anyComponents :: tokens, text =>
    let here := matchEnds tokens text
    List.zipWith or here (behindSlash text here)
  | token :: tokens, text => behindOne token text (matchEnds tokens text)

/-- Whether tokens match a whole text. -/
def matchTokens (tokens : List PatternToken) (text : List Char) : Bool :=
  (matchEnds tokens text).headD false

/-- Whether a pattern matches a whole text. -/
def Pattern.matches (p : Pattern) (text : String) : Bool :=
  matchTokens p.tokens text.toList

/-- What a list of tokens matches: a token for one character matches one that it accepts, `*`
matches any text, and `**` matches nothing or a text that ends with a slash, or at the end any
text. -/
inductive Matches : List PatternToken → List Char → Prop
  | nil : Matches [] []
  | one {token : PatternToken} {c : Char} {tokens : List PatternToken} {rest : List Char} :
    token.accepts c = true → Matches tokens rest → Matches (token :: tokens) (c :: rest)
  | anyText {part rest : List Char} {tokens : List PatternToken} :
    Matches tokens rest → Matches (.anyText :: tokens) (part ++ rest)
  | nothing {tokens : List PatternToken} {rest : List Char} :
    Matches tokens rest → Matches (.anyComponents :: tokens) rest
  | components {part rest : List Char} {tokens : List PatternToken} :
    Matches tokens rest → Matches (.anyComponents :: tokens) (part ++ '/' :: rest)
  | everything {text : List Char} : Matches [.anyComponents] text

/-- Behind the answer for a text stand the answers for what is behind its first character. -/
theorem matchEnds_cons (tokens : List PatternToken) (c : Char) (text : List Char) :
    matchEnds tokens (c :: text) = matchTokens tokens (c :: text) :: matchEnds tokens text := by
  suffices h : ∃ answer, matchEnds tokens (c :: text) = answer :: matchEnds tokens text by
    obtain ⟨answer, h⟩ := h
    simp [matchTokens, h]
  induction tokens with
  | nil => exact ⟨_, rfl⟩
  | cons token tokens ih =>
    obtain ⟨answer, ih⟩ := ih
    cases token with
    | anyText => simp [matchEnds, ih, anyAhead]
    | anyComponents =>
      cases tokens with
      | nil => exact ⟨_, rfl⟩
      | cons next tokens => simp [matchEnds, ih, behindSlash]
    | char _ => simp [matchEnds, ih, behindOne]
    | anyChar => simp [matchEnds, ih, behindOne]
    | class_ _ _ => simp [matchEnds, ih, behindOne]

/-- The empty text has one end. -/
theorem matchEnds_nil (tokens : List PatternToken) :
    matchEnds tokens [] = [matchTokens tokens []] := by
  suffices h : ∃ answer, matchEnds tokens [] = [answer] by
    obtain ⟨answer, h⟩ := h
    simp [matchTokens, h]
  induction tokens with
  | nil => exact ⟨_, rfl⟩
  | cons token tokens ih =>
    obtain ⟨answer, ih⟩ := ih
    cases token with
    | anyText => simp [matchEnds, ih, anyAhead]
    | anyComponents =>
      cases tokens with
      | nil => exact ⟨_, rfl⟩
      | cons next tokens => simp [matchEnds, ih, behindSlash]
    | char _ => exact ⟨_, rfl⟩
    | anyChar => exact ⟨_, rfl⟩
    | class_ _ _ => exact ⟨_, rfl⟩

/-- The answer for a text is the first one of those for its ends. -/
theorem headD_matchEnds (tokens : List PatternToken) (text : List Char) :
    (matchEnds tokens text).headD false = matchTokens tokens text := rfl

theorem matchTokens_nil (text : List Char) : matchTokens [] text = text.isEmpty := by
  cases text <;> rfl

/-- `*` matches nothing, or takes up one more character. -/
theorem matchTokens_anyText (tokens : List PatternToken) (text : List Char) :
    matchTokens (.anyText :: tokens) text = match text with
      | [] => matchTokens tokens []
      | c :: rest => matchTokens tokens (c :: rest) || matchTokens (.anyText :: tokens) rest := by
  cases text with
  | nil => rw [matchTokens, matchEnds, matchEnds_nil]; simp [anyAhead]
  | cons c rest =>
    rw [matchTokens, matchEnds, matchEnds_cons, anyAhead]
    rfl

/-- Whether a part of a text behind a slash is matched by tokens. -/
def matchesBehindSlash (tokens : List PatternToken) : List Char → Bool
  | [] => false
  | c :: rest => (c = '/' && matchTokens tokens rest) || matchesBehindSlash tokens rest

/-- `behindSlash` looks at all parts behind a slash. -/
theorem headD_behindSlash (tokens : List PatternToken) (text : List Char) :
    (behindSlash text (matchEnds tokens text)).headD false = matchesBehindSlash tokens text := by
  induction text with
  | nil => rfl
  | cons c rest ih =>
    rw [matchEnds_cons, behindSlash, matchesBehindSlash, ← ih]
    rfl

/-- `**` in front of other tokens matches nothing, or a text that ends with a slash. -/
theorem matchTokens_anyComponents (next : PatternToken) (tokens : List PatternToken)
    (text : List Char) :
    matchTokens (.anyComponents :: next :: tokens) text =
      (matchTokens (next :: tokens) text || matchesBehindSlash (next :: tokens) text) := by
  rw [← headD_behindSlash, matchTokens, matchEnds.eq_4 _ _ (by simp)]
  cases text with
  | nil => rw [matchEnds_nil]; simp [behindSlash]
  | cons c rest => rw [matchEnds_cons]; simp [behindSlash]

theorem matchTokens_everything (text : List Char) : matchTokens [.anyComponents] text = true := by
  cases text <;> rfl

/-- A token that is neither `*` nor `**` takes up one character. -/
theorem matchTokens_one {token : PatternToken} (h : token ≠ .anyText) (h' : token ≠ .anyComponents)
    (tokens : List PatternToken) (text : List Char) :
    matchTokens (token :: tokens) text = match text with
      | [] => false
      | c :: rest => token.accepts c && matchTokens tokens rest := by
  have hm : matchEnds (token :: tokens) text = behindOne token text (matchEnds tokens text) := by
    cases token <;> first | rfl | contradiction
  rw [matchTokens, hm]
  cases text with
  | nil => rfl
  | cons c rest =>
    rw [matchEnds_cons, behindOne]
    rfl

/-- Tokens that match a part behind a slash match what is left behind a part that ends with one. -/
theorem matchesBehindSlash_iff {tokens : List PatternToken} {text : List Char} :
    matchesBehindSlash tokens text = true ↔
      ∃ part rest, text = part ++ '/' :: rest ∧ matchTokens tokens rest = true := by
  induction text with
  | nil => simp [matchesBehindSlash]
  | cons c text ih =>
    simp only [matchesBehindSlash, Bool.or_eq_true, Bool.and_eq_true, decide_eq_true_eq, ih]
    constructor
    · rintro (⟨rfl, hm⟩ | ⟨part, rest, rfl, hm⟩)
      · exact ⟨[], text, rfl, hm⟩
      · exact ⟨c :: part, rest, rfl, hm⟩
    · rintro ⟨_ | ⟨d, part⟩, rest, h, hm⟩
      · obtain ⟨rfl, rfl⟩ := List.cons.inj h
        exact .inl ⟨rfl, hm⟩
      · obtain ⟨rfl, rfl⟩ := List.cons.inj h
        exact .inr ⟨part, rest, rfl, hm⟩

/-- `*` matches what is left behind any part of the text. -/
theorem matchTokens_anyText_iff {tokens : List PatternToken} {text : List Char} :
    matchTokens (.anyText :: tokens) text = true ↔
      ∃ part rest, text = part ++ rest ∧ matchTokens tokens rest = true := by
  induction text with
  | nil =>
    rw [matchTokens_anyText]
    constructor
    · exact fun hm => ⟨[], [], rfl, hm⟩
    · rintro ⟨part, rest, h, hm⟩
      obtain ⟨rfl, rfl⟩ := List.append_eq_nil_iff.1 h.symm
      exact hm
  | cons c text ih =>
    rw [matchTokens_anyText]
    simp only [Bool.or_eq_true, ih]
    constructor
    · rintro (hm | ⟨part, rest, rfl, hm⟩)
      · exact ⟨[], c :: text, rfl, hm⟩
      · exact ⟨c :: part, rest, rfl, hm⟩
    · rintro ⟨_ | ⟨d, part⟩, rest, h, hm⟩
      · exact .inl (h ▸ hm)
      · obtain ⟨rfl, rfl⟩ := List.cons.inj h
        exact .inr ⟨part, rest, rfl, hm⟩

/-- A token for one character matches by its first character. -/
private theorem matches_cons_iff {token : PatternToken} {tokens : List PatternToken}
    {text : List Char} (h : token ≠ .anyText) (h' : token ≠ .anyComponents) :
    Matches (token :: tokens) text ↔
      ∃ c rest, text = c :: rest ∧ token.accepts c = true ∧ Matches tokens rest := by
  constructor
  · intro m
    cases m with
    | one hc hm => exact ⟨_, _, rfl, hc, hm⟩
    | anyText => exact absurd rfl h
    | nothing => exact absurd rfl h'
    | components => exact absurd rfl h'
    | everything => exact absurd rfl h'
  · rintro ⟨c, rest, rfl, hc, hm⟩
    exact .one hc hm

/-- The tokens of a pattern match exactly what the relation says. -/
theorem matchTokens_iff {tokens : List PatternToken} {text : List Char} :
    matchTokens tokens text = true ↔ Matches tokens text := by
  induction tokens generalizing text with
  | nil =>
    rw [matchTokens_nil]
    cases text with
    | nil => simp [Matches.nil]
    | cons c rest =>
      simp only [List.isEmpty_cons, Bool.false_eq_true, false_iff]
      intro m
      cases m
  | cons token tokens ih =>
    -- tokens for a single character are all alike
    have one (h : token ≠ .anyText) (h' : token ≠ .anyComponents) :
        matchTokens (token :: tokens) text = true ↔ Matches (token :: tokens) text := by
      rw [matchTokens_one h h', matches_cons_iff h h']
      cases text with
      | nil => simp
      | cons c rest =>
        simp only [Bool.and_eq_true, ih]
        constructor
        · rintro ⟨hc, hm⟩
          exact ⟨c, rest, rfl, hc, hm⟩
        · rintro ⟨_, _, h, hc, hm⟩
          obtain ⟨rfl, rfl⟩ := List.cons.inj h
          exact ⟨hc, hm⟩
    cases token with
    | anyText =>
      rw [matchTokens_anyText_iff]
      constructor
      · rintro ⟨part, rest, rfl, hm⟩
        exact .anyText (ih.1 hm)
      · intro m
        cases m with
        | one hc => exact absurd hc (by simp [PatternToken.accepts])
        | anyText hm => exact ⟨_, _, rfl, ih.2 hm⟩
    | anyComponents =>
      cases tokens with
      | nil => simp only [matchTokens_everything, Matches.everything]
      | cons next tokens =>
        rw [matchTokens_anyComponents, Bool.or_eq_true, matchesBehindSlash_iff]
        constructor
        · rintro (hm | ⟨part, rest, rfl, hm⟩)
          · exact .nothing (ih.1 hm)
          · exact .components (ih.1 hm)
        · intro m
          cases m with
          | one hc => exact absurd hc (by simp [PatternToken.accepts])
          | nothing hm => exact .inl (ih.2 hm)
          | components hm => exact .inr ⟨_, _, rfl, ih.2 hm⟩
    | char c => exact one (by simp) (by simp)
    | anyChar => exact one (by simp) (by simp)
    | class_ isNegated items => exact one (by simp) (by simp)

end ClassRegistry.Glob
