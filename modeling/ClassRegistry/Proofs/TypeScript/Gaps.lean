import ClassRegistry.TypeScript.Lexer

/-!
# White space and comments

Between two tokens stand white space and comments, and the lexer skips all of them: what it skips is
a gap by the rules of the language, and what stands behind it is no white space.
-/

namespace ClassRegistry.TypeScript

/-! ## Gaps -/

/-- What starts a comment up to the end of its line. An arrow does so at the start of a line only. -/
def lineCommentOpeners : List (List Char) :=
  [['/', '/'], ['<', '!', '-', '-'], ['-', '-', '>']]

/-- White space and comments, all of them closed. -/
inductive IsGap : List Char → Prop
  | nil : IsGap []
  | blank {c : Char} {gap : List Char} : isLineEnd c = true ∨ isBlank c = true → IsGap gap →
    IsGap (c :: gap)
  | lineComment {opener comment : List Char} {c : Char} {gap : List Char} :
    opener ∈ lineCommentOpeners → opener <+: comment → (∀ x ∈ comment, isLineEnd x = false) →
    isLineEnd c = true → IsGap gap → IsGap (comment ++ c :: gap)
  | blockComment {comment gap : List Char} : ¬ ['*', '/'] <:+: comment → IsGap gap →
    IsGap ('/' :: '*' :: (comment ++ '*' :: '/' :: gap))

/-- What is left of a gap in a state of the scanner. -/
def IsGapFrom : TriviaState → List Char → Prop
  | .blank, gap => IsGap gap
  | .lineComment, gap => ∃ comment c rest, gap = comment ++ c :: rest ∧
    (∀ x ∈ comment, isLineEnd x = false) ∧ isLineEnd c = true ∧ IsGap rest
  | .opening, gap => ∃ c comment rest, gap = c :: (comment ++ '*' :: '/' :: rest) ∧
    ¬ ['*', '/'] <:+: comment ∧ IsGap rest
  | .blockComment afterStar, gap => ∃ comment rest,
    (if afterStar then '*' :: gap else gap) = comment ++ '*' :: '/' :: rest ∧
    ¬ ['*', '/'] <:+: comment ∧ IsGap rest

/-- What starts a comment is in it, as no line ends before the comment does. -/
theorem prefix_of_isLineEnd {opener comment rest : List Char} {c : Char}
    (hopener : ∀ x ∈ opener, isLineEnd x = false) (hc : isLineEnd c = true)
    (h : opener <+: comment ++ c :: rest) : opener <+: comment := by
  have hnot : c ∉ opener := by
    intro hmem
    rw [hopener c hmem] at hc
    cases hc
  have hwhole : comment ++ [c] <+: comment ++ c :: rest := ⟨rest, by simp⟩
  rcases List.prefix_or_prefix_of_prefix h hwhole with hfront | hfront
  · rcases List.prefix_concat_iff.mp hfront with rfl | hfront
    · exact absurd (by simp) hnot
    · exact hfront
  · exact absurd (hfront.subset (by simp)) hnot

/-- A comment up to the end of its line, behind the character that it starts with. -/
theorem IsGapFrom.cons_lineComment {c : Char} {opener gap behind : List Char}
    (hmem : c :: opener ∈ lineCommentOpeners) (hopener : opener <+: gap ++ behind)
    (h : IsGapFrom .lineComment gap) : IsGap (c :: gap) := by
  obtain ⟨comment, last, rest, rfl, hcomment, hlast, hrest⟩ := h
  have hplain : ∀ x ∈ c :: opener, isLineEnd x = false := by
    have hall : lineCommentOpeners.all (·.all fun x => !isLineEnd x) = true := by decide
    simpa using List.all_eq_true.mp hall _ hmem
  obtain ⟨hc, hopeners⟩ := List.forall_mem_cons.mp hplain
  rw [List.append_assoc, List.cons_append] at hopener
  have hfront := prefix_of_isLineEnd hopeners hlast hopener
  exact .lineComment hmem ((List.cons_prefix_cons).mpr ⟨rfl, hfront⟩)
    (List.forall_mem_cons.mpr ⟨hc, hcomment⟩) hlast hrest

/-- A comment that is still open, behind one of its characters. -/
theorem IsGapFrom.cons_blockComment {c : Char} {afterStar : Bool} {gap : List Char}
    (hc : (c = '/' && afterStar) = false) (h : IsGapFrom (.blockComment (c = '*')) gap) :
    IsGapFrom (.blockComment afterStar) (c :: gap) := by
  obtain ⟨comment, rest, heq, hclosed, hrest⟩ := h
  have hone : ∃ comment, c :: gap = comment ++ '*' :: '/' :: rest ∧ ¬ ['*', '/'] <:+: comment := by
    by_cases hstar : c = '*'
    · subst hstar
      exact ⟨comment, by simpa using heq, hclosed⟩
    · refine ⟨c :: comment, by simpa [hstar] using heq, ?_⟩
      simpa [List.infix_cons_iff, Ne.symm hstar] using hclosed
  obtain ⟨whole, hwhole, hopen⟩ := hone
  cases afterStar with
  | false => exact ⟨whole, rest, by simpa using hwhole, hopen, hrest⟩
  | true =>
      refine ⟨'*' :: whole, rest, by simpa using hwhole, ?_, hrest⟩
      have hslash : c ≠ '/' := by simpa using hc
      have hhead : ¬ ['/'] <+: whole := by
        intro hfront
        cases whole with
        | nil => simp at hfront
        | cons x more =>
            obtain rfl : '/' = x := by simpa using hfront
            exact hslash (List.cons.inj hwhole).1
      simpa [List.infix_cons_iff, hopen] using hhead

/-- From a state the scanner skips a gap at the start of a text, if anything stands behind what it
skips; what does is no white space. -/
def SkipsGap (state : TriviaState) (count stop : Nat) (text : Code) : Prop :=
  ∃ gap behind, text = gap ++ behind ∧ stop = count + gap.length ∧
    (behind ≠ [] → IsGapFrom state gap) ∧
    ∀ first ∈ behind.head?, isLineEnd first = false ∧ isBlank first = false

/-- A character is skipped before others. -/
theorem SkipsGap.cons {state next : TriviaState} {count stop : Nat} {c : Char} {rest : Code}
    (h : SkipsGap next (count + 1) stop rest)
    (hcons : ∀ gap behind, rest = gap ++ behind → IsGapFrom next gap → IsGapFrom state (c :: gap)) :
    SkipsGap state count stop (c :: rest) := by
  obtain ⟨gap, behind, hrest, hstop, hgap, hbehind⟩ := h
  refine ⟨c :: gap, behind, by rw [hrest, List.cons_append], ?_, ?_, hbehind⟩
  · rw [hstop, List.length_cons]
    omega
  · exact fun hne => hcons gap behind hrest (hgap hne)

/-- What the lexer skips is a gap, if anything stands behind it, and what does is no white space. -/
theorem skipsGap_trivia (state : TriviaState) (count : Nat) (ended : Bool) (text : Code) :
    SkipsGap state count (trivia state count ended text).1 text := by
  fun_induction trivia state count ended text with
  | case1 => exact ⟨[], [], rfl, rfl, fun h => absurd rfl h, by simp⟩
  | case2 count ended c rest hline ih =>
      exact ih.cons fun gap behind _ hgap => IsGap.blank (Or.inl hline) hgap
  | case3 count ended c rest _ hblank ih =>
      exact ih.cons fun gap behind _ hgap => IsGap.blank (Or.inr hblank) hgap
  -- comments up to the end of the line
  | case4 count ended c rest _ _ hopens ih
  | case6 count ended c rest _ _ _ _ hopens ih =>
      refine ih.cons fun gap behind hrest hgap => ?_
      obtain ⟨hc, hopener⟩ := Bool.and_eq_true_iff.mp hopens
      rw [List.isPrefixOf_iff_prefix, hrest] at hopener
      rw [of_decide_eq_true hc]
      exact IsGapFrom.cons_lineComment (by decide) hopener hgap
  | case5 count ended c rest _ _ _ hopens ih =>
      refine ih.cons fun gap behind hrest hgap => ?_
      obtain ⟨star, comment, more, rfl, hclosed, hmore⟩ := hgap
      obtain ⟨hc, hopener⟩ := Bool.and_eq_true_iff.mp hopens
      rw [List.isPrefixOf_iff_prefix, hrest, List.cons_append, List.cons_prefix_cons] at hopener
      rw [of_decide_eq_true hc, ← hopener.1]
      exact .blockComment hclosed hmore
  | case7 count ended c rest _ _ _ _ _ hopens ih =>
      refine ih.cons fun gap behind hrest hgap => ?_
      obtain ⟨hc, hopener⟩ := Bool.and_eq_true_iff.mp hopens
      rw [List.isPrefixOf_iff_prefix, hrest] at hopener
      rw [of_decide_eq_true (Bool.and_eq_true_iff.mp hc).1]
      exact IsGapFrom.cons_lineComment (by decide) hopener hgap
  -- the first character that is not skipped
  | case8 count ended c rest hline hblank =>
      refine ⟨[], c :: rest, rfl, rfl, fun _ => IsGap.nil, ?_⟩
      rintro first ⟨⟩
      exact ⟨Bool.not_eq_true _ ▸ hline, Bool.not_eq_true _ ▸ hblank⟩
  -- inside of a comment
  | case9 count ended c rest hline ih =>
      refine ih.cons fun gap behind _ hgap => ?_
      exact ⟨[], c, gap, rfl, by simp, hline, hgap⟩
  | case10 count ended c rest hline ih =>
      refine ih.cons fun gap behind _ hgap => ?_
      obtain ⟨comment, last, more, rfl, hcomment, hlast, hmore⟩ := hgap
      refine ⟨c :: comment, last, more, rfl, ?_, hlast, hmore⟩
      exact List.forall_mem_cons.mpr ⟨Bool.not_eq_true _ ▸ hline, hcomment⟩
  | case11 count ended c rest ih =>
      refine ih.cons fun gap behind _ hgap => ?_
      obtain ⟨comment, more, rfl, hclosed, hmore⟩ := hgap
      exact ⟨c, comment, more, rfl, hclosed, hmore⟩
  | case12 count ended c rest afterStar hcloses ih =>
      refine ih.cons fun gap behind _ hgap => ?_
      obtain ⟨hc, rfl⟩ := Bool.and_eq_true_iff.mp hcloses
      rw [of_decide_eq_true hc]
      exact ⟨[], gap, rfl, by simp, hgap⟩
  | case13 count ended c rest afterStar hopen ih =>
      exact ih.cons fun gap behind _ hgap =>
        IsGapFrom.cons_blockComment (Bool.not_eq_true _ ▸ hopen) hgap

/-- Behind the start of a text the next token stands behind a gap. -/
theorem Cursor.exists_gap {code : Code} {c : Cursor code} (h : 0 < c.offset) :
    ∃ gap, c.rest = gap ++ c.skipTrivia.1.rest ∧
      c.skipTrivia.1.offset = c.offset + gap.length ∧
      (c.skipTrivia.1.rest ≠ [] → IsGap gap) ∧
      ∀ first ∈ c.skipTrivia.1.rest.head?, isLineEnd first = false ∧ isBlank first = false := by
  have hskip : c.skipTrivia.1 = c.advance (trivia .blank 0 false c.rest).1 := by
    simp [Cursor.skipTrivia, Nat.ne_of_gt h]
  obtain ⟨gap, behind, hrest, hstop, hgap, hbehind⟩ := skipsGap_trivia .blank 0 false c.rest
  have hbehindRest : c.skipTrivia.1.rest = behind := by
    rw [hskip, hstop, Nat.zero_add]
    change c.rest.drop gap.length = behind
    rw [hrest, List.drop_left]
  rw [hbehindRest]
  refine ⟨gap, hrest, ?_, hgap, hbehind⟩
  rw [hskip, hstop, Nat.zero_add]
  rfl

/-! ## The first characters of a gap -/

/-- A character that ends a line or separates tokens is white space or one of two that have no
width. -/
theorem isBlank_cases {c : Char} (h : isLineEnd c = true ∨ isBlank c = true) :
    Text.isBlank c = true ∨ c = '\u200b' ∨ c = '\ufeff' := by
  rcases h with hline | hblank
  · simp only [isLineEnd, Bool.or_eq_true, beq_iff_eq] at hline
    left
    obtain ((rfl | rfl) | rfl) | rfl := hline <;> decide
  · simp only [isBlank, Bool.or_eq_true, Bool.and_eq_true, beq_iff_eq] at hblank
    rcases hblank with (⟨hspace, -⟩ | hjoint) | hmark
    · exact Or.inl hspace
    · exact Or.inr (Or.inl hjoint)
    · exact Or.inr (Or.inr hmark)

/-- What starts a comment up to the end of its line is no white space. -/
theorem head?_of_mem_lineCommentOpeners {opener comment : List Char}
    (hopener : opener ∈ lineCommentOpeners) (hfront : opener <+: comment) :
    ∃ c ∈ ['/', '<', '-'], ∃ rest, comment = c :: rest := by
  obtain ⟨rest, rfl⟩ := hfront
  simp only [lineCommentOpeners, List.mem_cons, List.not_mem_nil, or_false] at hopener
  rcases hopener with rfl | rfl | rfl
  · exact ⟨'/', by simp, _, rfl⟩
  · exact ⟨'<', by simp, _, rfl⟩
  · exact ⟨'-', by simp, _, rfl⟩

/-- A gap that is not empty starts with white space, or with one of a few other characters. -/
theorem IsGap.exists_cons {gap : List Char} (h : IsGap gap) (hne : gap ≠ []) :
    ∃ c rest, gap = c :: rest ∧
      ((Text.isBlank c = true ∧ IsGap rest) ∨ c ∈ ['/', '<', '-', '\u200b', '\ufeff']) := by
  cases h with
  | nil => exact absurd rfl hne
  | @blank c rest hc hrest =>
      refine ⟨c, rest, rfl, ?_⟩
      rcases isBlank_cases hc with hblank | rfl | rfl
      · exact Or.inl ⟨hblank, hrest⟩
      · exact Or.inr (by simp)
      · exact Or.inr (by simp)
  | lineComment hopener hfront _ _ _ =>
      obtain ⟨c, hc, rest, rfl⟩ := head?_of_mem_lineCommentOpeners hopener hfront
      exact ⟨c, _, rfl, Or.inr (List.mem_append_left ['\u200b', '\ufeff'] hc)⟩
  | blockComment => exact ⟨'/', _, rfl, Or.inr (by simp)⟩

/-- No gap starts with `@`. -/
theorem IsGap.ne_at {c : Char} {rest : List Char} (h : IsGap (c :: rest)) : c ≠ '@' := by
  obtain ⟨first, more, heq, hfirst⟩ := h.exists_cons (List.cons_ne_nil _ _)
  obtain ⟨rfl, rfl⟩ := List.cons.inj heq
  rintro rfl
  revert hfirst
  have hblank : Text.isBlank '@' = false := by decide
  simp [hblank]

/-- The first character of a gap that is no white space opens nothing but a comment. -/
theorem IsGap.head?_dropWhile {gap : List Char} (h : IsGap gap) :
    ∀ c ∈ (gap.dropWhile Text.isBlank).head?, c ∈ ['/', '<', '-', '\u200b', '\ufeff'] := by
  induction gap with
  | nil => simp
  | cons first rest ih =>
      obtain ⟨c, more, heq, hc⟩ := h.exists_cons (List.cons_ne_nil _ _)
      obtain ⟨rfl, rfl⟩ := List.cons.inj heq
      rcases hc with ⟨hblank, hgap⟩ | hmem
      · rw [List.dropWhile_cons_of_pos hblank]
        exact ih hgap
      · have hblank : Text.isBlank first = false := by
          have hall : ['/', '<', '-', '\u200b', '\ufeff'].all (fun c => !Text.isBlank c) = true := by
            decide
          simpa using List.all_eq_true.mp hall first hmem
        rw [List.dropWhile_cons_of_neg (by simp [hblank])]
        rintro c ⟨⟩
        exact hmem

end ClassRegistry.TypeScript
