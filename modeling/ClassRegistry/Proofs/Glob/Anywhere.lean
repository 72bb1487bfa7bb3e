import ClassRegistry.Proofs.Scan.Spelling

/-!
# Patterns for any depth

A pattern that starts with `**/` applies wherever a path has what follows. With an ending behind it,
all that matters is how the path ends; with a name and `/**`, that the name is among the names on
the way.
-/

namespace ClassRegistry.Glob

/-! ## Matching token by token -/

section Tokens

variable {tokens : List PatternToken} {text : List Char}

/-- A token that stands for a character matches it. -/
theorem matches_char_cons_iff {c : Char} :
    Matches (.char c :: tokens) text ↔ ∃ rest, text = c :: rest ∧ Matches tokens rest := by
  constructor
  · intro h
    cases h with
    | @one _ first _ rest haccepts hrest =>
        obtain rfl : c = first := by simpa [PatternToken.accepts] using haccepts
        exact ⟨rest, rfl, hrest⟩
  · rintro ⟨rest, rfl, hrest⟩
    exact .one (by simp [PatternToken.accepts]) hrest

/-- Tokens that stand for characters match these. -/
theorem matches_chars_append_iff {chars : List Char} :
    Matches (chars.map .char ++ tokens) text ↔
      ∃ rest, text = chars ++ rest ∧ Matches tokens rest := by
  induction chars generalizing text with
  | nil => simp
  | cons c more ih =>
      rw [List.map_cons, List.cons_append, matches_char_cons_iff]
      simp only [ih]
      constructor
      · rintro ⟨_, rfl, rest, rfl, hrest⟩
        exact ⟨rest, rfl, hrest⟩
      · rintro ⟨rest, rfl, hrest⟩
        exact ⟨_, rfl, rest, rfl, hrest⟩

/-- `*` matches any part. -/
theorem matches_anyText_iff :
    Matches (.anyText :: tokens) text ↔ ∃ part rest, text = part ++ rest ∧ Matches tokens rest := by
  constructor
  · intro h
    cases h with
    | one haccepts => simp [PatternToken.accepts] at haccepts
    | @anyText part rest _ hrest => exact ⟨part, rest, rfl, hrest⟩
  · rintro ⟨part, rest, rfl, hrest⟩
    exact .anyText hrest

/-- `**` in front of something matches nothing or a part up to a slash. -/
theorem matches_anyComponents_iff (hne : tokens ≠ []) :
    Matches (.anyComponents :: tokens) text ↔ Matches tokens text ∨
      ∃ part rest, text = part ++ '/' :: rest ∧ Matches tokens rest := by
  constructor
  · intro h
    cases h with
    | one haccepts => simp [PatternToken.accepts] at haccepts
    | nothing hrest => exact Or.inl hrest
    | @components part rest _ hrest => exact Or.inr ⟨part, rest, rfl, hrest⟩
    | everything => exact absurd rfl hne
  · rintro (hrest | ⟨part, rest, rfl, hrest⟩)
    · exact .nothing hrest
    · exact .components hrest

end Tokens

/-! ## Endings and names at any depth -/

/-- The pattern of all that ends with a text, `**/*` with the text behind it. -/
def endingPattern (ending : String) : Pattern :=
  ⟨.anyComponents :: .anyText :: ending.toList.map .char⟩

/-- Such a pattern looks at the end of a text only. -/
theorem matches_endingPattern_iff {ending text : String} :
    (endingPattern ending).matches text = true ↔ ending.toList <:+ text.toList := by
  have hchars {rest : List Char} :
      Matches (ending.toList.map .char) rest ↔ rest = ending.toList := by
    rw [← List.append_nil (ending.toList.map PatternToken.char), matches_chars_append_iff]
    constructor
    · rintro ⟨none, rfl, hnone⟩
      cases hnone
      exact List.append_nil _
    · rintro rfl
      exact ⟨[], (List.append_nil _).symm, .nil⟩
  have hends {rest : List Char} :
      Matches (.anyText :: ending.toList.map .char) rest ↔ ending.toList <:+ rest := by
    simp only [matches_anyText_iff, hchars]
    constructor
    · rintro ⟨part, _, rfl, rfl⟩
      exact List.suffix_append _ _
    · rintro ⟨part, rfl⟩
      exact ⟨part, _, rfl, rfl⟩
  rw [Pattern.matches, matchTokens_iff, endingPattern,
    matches_anyComponents_iff (List.cons_ne_nil _ _)]
  simp only [hends]
  constructor
  · rintro (hend | ⟨part, rest, hsplit, hend⟩)
    · exact hend
    · rw [hsplit]
      exact (hend.trans (List.suffix_cons '/' rest)).trans (List.suffix_append part _)
  · exact Or.inl

/-- The pattern of all that is beneath a name, `**/` and the name and `/**`. -/
def beneathPattern (name : String) : Pattern :=
  ⟨.anyComponents :: ((name.toList ++ ['/']).map .char ++ [.anyComponents])⟩

/-- What stands before the pieces that a text ends with. -/
theorem exists_front_intercalate (front back : List (List Char)) (hne : back ≠ []) :
    ∃ before, List.intercalate ['/'] (front ++ back) = before ++ List.intercalate ['/'] back ∧
      (before = [] ∨ ∃ part, before = part ++ ['/']) := by
  induction front with
  | nil => exact ⟨[], rfl, Or.inl rfl⟩
  | cons piece rest ih =>
      obtain ⟨before, hbefore, hslash⟩ := ih
      obtain ⟨next, more, hnext⟩ := List.exists_cons_of_ne_nil
        (List.append_ne_nil_of_right_ne_nil rest hne)
      refine ⟨piece ++ ['/'] ++ before, ?_, Or.inr ?_⟩
      · rw [List.cons_append, hnext, List.intercalate_cons_cons, ← hnext, hbefore]
        simp only [List.append_assoc]
      · rcases hslash with rfl | ⟨part, rfl⟩
        · exact ⟨piece, List.append_nil _⟩
        · exact ⟨piece ++ ['/'] ++ part, (List.append_assoc ..).symm⟩

/-- A piece with another one behind it stands at the start or behind a slash, and before a slash. -/
theorem mem_dropLast_pieces_iff {piece text : List Char} (hpiece : '/' ∉ piece) :
    piece ∈ (Path.pieces text).dropLast ↔
      (∃ rest, text = piece ++ '/' :: rest) ∨
        ∃ part rest, text = part ++ '/' :: (piece ++ '/' :: rest) := by
  have hmem (front rest : List Char) (hfront : Path.pieces (front ++ '/' :: rest) =
      Path.pieces front ++ Path.pieces rest) (hin : piece ∈ Path.pieces front) :
      piece ∈ (Path.pieces (front ++ '/' :: rest)).dropLast := by
    rw [hfront, List.dropLast_append_of_ne_nil (Path.pieces_ne_nil rest)]
    exact List.mem_append_left _ hin
  constructor
  · intro hin
    obtain ⟨front, back, hsplit⟩ := List.append_of_mem hin
    have hpieces : Path.pieces text =
        front ++ piece :: (back ++ [(Path.pieces text).getLast (Path.pieces_ne_nil text)]) := by
      rw [← List.cons_append, ← List.append_assoc, ← hsplit, List.dropLast_append_getLast]
    obtain ⟨next, more, hnext⟩ := List.exists_cons_of_ne_nil (List.append_ne_nil_of_right_ne_nil
      back (List.cons_ne_nil ((Path.pieces text).getLast (Path.pieces_ne_nil text)) []))
    rw [hnext] at hpieces
    -- what stands in front of a piece is nothing, or it ends with a slash
    obtain ⟨before, hbefore, hslash⟩ :=
      exists_front_intercalate front (piece :: next :: more) (List.cons_ne_nil _ _)
    rw [← hpieces, Path.intercalate_pieces, List.intercalate_cons_cons] at hbefore
    rcases hslash with rfl | ⟨part, rfl⟩
    · exact Or.inl ⟨_, by simpa using hbefore⟩
    · exact Or.inr ⟨part, _, by simpa using hbefore⟩
  · rintro (⟨rest, rfl⟩ | ⟨part, rest, rfl⟩)
    · refine hmem piece rest (Path.pieces_append_slash piece rest) ?_
      rw [Path.pieces_eq_singleton hpiece]
      exact List.mem_singleton_self piece
    · have hsplit : part ++ '/' :: (piece ++ '/' :: rest) = part ++ '/' :: piece ++ '/' :: rest := by
        simp
      rw [hsplit]
      refine hmem _ rest (Path.pieces_append_slash _ rest) ?_
      rw [Path.pieces_append_slash, Path.pieces_eq_singleton hpiece]
      exact List.mem_append_right _ (List.mem_singleton_self piece)

/-- Such a pattern looks for the name among those on the way to the end of a path. -/
theorem matches_beneathPattern_iff {name : String} (hname : '/' ∉ name.toList) {p : Path} :
    (beneathPattern name).matches p.text = true ↔ name ∈ p.names.dropLast := by
  have hstart {rest : List Char} :
      Matches ((name.toList ++ ['/']).map .char ++ [.anyComponents]) rest ↔
        ∃ back, rest = name.toList ++ '/' :: back := by
    rw [matches_chars_append_iff]
    constructor
    · rintro ⟨back, rfl, -⟩
      exact ⟨back, by simp⟩
    · rintro ⟨back, rfl⟩
      exact ⟨back, by simp, .everything⟩
  have hnames : name ∈ p.names.dropLast ↔ name.toList ∈ (Path.pieces p.text.toList).dropLast := by
    rw [Path.names, ← List.map_dropLast, List.mem_map]
    constructor
    · rintro ⟨piece, hpiece, rfl⟩
      rwa [String.toList_ofList]
    · exact fun hpiece => ⟨_, hpiece, String.ofList_toList⟩
  rw [Pattern.matches, matchTokens_iff, beneathPattern, matches_anyComponents_iff (by simp), hnames,
    mem_dropLast_pieces_iff hname]
  simp only [hstart]
  refine or_congr_right ⟨?_, ?_⟩
  · rintro ⟨part, _, hsplit, back, rfl⟩
    exact ⟨part, back, hsplit⟩
  · rintro ⟨part, back, hsplit⟩
    exact ⟨part, _, hsplit, back, rfl⟩

/-- The files that hold tests are those with one of four endings and those beneath one directory. -/
theorem filterMap_testFilePatterns :
    testFilePatterns.filterMap (fun text => (Pattern.parse text).toOption) =
      [endingPattern ".test.tsx", endingPattern ".test.ts", endingPattern ".spec.tsx",
        endingPattern ".spec.ts", beneathPattern "__tests__"] := by
  decide

end ClassRegistry.Glob
