import ClassRegistry.Proofs.Declaration.Sites
import ClassRegistry.Proofs.Source.Lines
import Mathlib.Algebra.Ring.Nat

/-!
# Where a class is

The place of a class is that of its name: the number of the line, the text of the line, and the
column that a terminal shows. Main statement: the line counts the line ends before the name, its text
goes on with the name behind the characters between, and the column counts the columns that these
take, one too many for each character outside of the Basic Multilingual Plane.
-/

namespace ClassRegistry

open TypeScript (Code Ident Node Span)

/-! ## Lines -/

/-- The line ends of a text: line feeds, and carriage returns without a line feed behind. -/
def lineEnds (text : Code) : Nat :=
  text.count '\n' + text.tails.countP fun rest => rest.head? = some '\r' && rest[1]? ≠ some '\n'

theorem lineEnds_pair (rest : Code) : lineEnds ('\r' :: '\n' :: rest) = lineEnds rest + 1 := by
  simp [lineEnds, List.tails, Nat.add_right_comm]

/-- A character that does not begin such a pair is looked at alone. -/
theorem lineEnds_cons {c : Char} {rest : Code} (h : c = '\r' → rest.head? ≠ some '\n') :
    lineEnds (c :: rest) = lineEnds rest + if Source.isLineEnd c then 1 else 0 := by
  have hopens : (decide ((c :: rest).head? = some '\r') && decide ((c :: rest)[1]? ≠ some '\n')) =
      decide (c = '\r') := by
    by_cases hc : c = '\r'
    · have hrest := h hc
      rw [List.head?_eq_getElem?] at hrest
      simp [hc, hrest]
    · simp [hc]
  rw [lineEnds, lineEnds, List.count_cons, List.tails, List.countP_cons, hopens]
  by_cases hfeed : c = '\n'
  · simp [hfeed, Source.isLineEnd]
    omega
  · by_cases hreturn : c = '\r'
    · simp [hreturn, Source.isLineEnd]
      omega
    · simp [hfeed, hreturn, Source.isLineEnd]

/-- A line starts behind each line end. -/
theorem length_lineStartsFrom (offset : Nat) (text : Code) :
    (Source.lineStartsFrom offset text).length = lineEnds text := by
  fun_induction Source.lineStartsFrom offset text with
  | case1 => rfl
  | case2 offset rest ih => rw [List.length_cons, ih, lineEnds_pair]
  | case3 offset c rest hpair hend ih =>
      rw [lineEnds_cons, List.length_cons, ih, if_pos hend]
      cases rest with
      | nil => simp
      | cons x more => exact fun hc hx => hpair more hc (by simpa using hx)
  | case4 offset c rest hpair hend ih =>
      rw [lineEnds_cons, ih, if_neg hend, Nat.add_zero]
      cases rest with
      | nil => simp
      | cons x more => exact fun hc hx => hpair more hc (by simpa using hx)

namespace Source

variable {code : Code} {offset : Nat} {c : Char}

/-- A text up to a character, the character, and what follows. -/
theorem eq_take_append (hc : code[offset]? = some c) :
    code = code.take offset ++ c :: code.drop (offset + 1) ∧ (code.take offset).length = offset := by
  obtain ⟨hlt, hget⟩ := List.getElem?_eq_some_iff.mp hc
  refine ⟨?_, by rw [List.length_take]; omega⟩
  rw [← hget, List.getElem_cons_drop, List.take_append_drop]

/-- The number of the line of a character that is no line feed is one more than that of the line
ends before it. -/
theorem line_eq (hc : code[offset]? = some c) (hne : c ≠ '\n') :
    (lineStartsUpTo code offset).length = lineEnds (code.take offset) + 1 := by
  obtain ⟨hcode, hlength⟩ := eq_take_append hc
  have hstarts := lineStartsUpTo_length (code.take offset) (code.drop (offset + 1)) hne
  rw [← hcode, hlength] at hstarts
  rw [hstarts, List.length_cons, length_lineStartsFrom]

/-- The line of a character that is no line feed stands among the lines of the text under its number,
and starts as many characters before the character as its text before it has. -/
theorem exists_lineStart (hc : code[offset]? = some c) (hne : c ≠ '\n') :
    (lineStartsUpTo code code.length)[(lineStartsUpTo code offset).length - 1]? =
        some (lineStart code offset) ∧
      lineStart code offset + (textBefore code offset).length = offset := by
  obtain ⟨hcode, hlength⟩ := eq_take_append hc
  have hlimit : (code.take offset).length ≤ code.length := by
    rw [List.length_take]
    exact Nat.min_le_right _ _
  have hstarts := lineStartsUpTo_length (code.take offset) (code.drop (offset + 1)) hne
  have hall := lineStartsUpTo_append (code.take offset) (code.drop (offset + 1)) hne hlimit
  rw [← hcode, hlength] at hstarts
  rw [← hcode, ← hstarts] at hall
  refine ⟨?_, lineStart_eq hc hne⟩
  have hpos : 0 < (lineStartsUpTo code offset).length := by
    rw [hstarts]
    exact Nat.succ_pos _
  rw [hall, List.getElem?_append_left (by omega), ← List.getLast?_eq_getElem?, lineStart, hstarts,
    List.getLast?_cons, Option.getD_some]

/-! ## Columns -/

/-- The columns that a terminal shows a character in: four for a tab, none for any other control
character. -/
def displayWidth (c : Char) : Nat :=
  if c = '\t' then 4 else if Text.isControl c then 0 else Text.ownWidth c

/-- A character outside of the Basic Multilingual Plane, which is a pair of code units. -/
def isPaired (c : Char) : Bool :=
  0x10000 ≤ c.toNat

/-- A pair of code units is counted as one column more than it shows. -/
theorem columns_eq (c : Char) :
    Text.columns c = displayWidth c + if isPaired c then 1 else 0 := by
  unfold Text.columns displayWidth isPaired
  split
  · rename_i htab
    simp [htab]
  · split
    · rename_i hcontrol
      simp only [Text.isControl, Bool.or_eq_true, Bool.and_eq_true, decide_eq_true_eq] at hcontrol
      rw [if_neg (by simp only [decide_eq_true_eq]; omega)]
    · by_cases hplane : c.toNat < 0x10000
      · rw [if_pos hplane, if_neg (by simp only [decide_eq_true_eq]; omega), Nat.add_zero]
      · rw [if_neg hplane, if_pos (by simp only [decide_eq_true_eq]; omega)]

/-- A text takes the columns that it shows, and one more for each pair of code units. -/
theorem sum_columns (text : List Char) :
    (text.map Text.columns).sum = (text.map displayWidth).sum + text.countP isPaired := by
  induction text with
  | nil => rfl
  | cons c rest ih =>
      rw [List.map_cons, List.map_cons, List.sum_cons, List.sum_cons, ih, columns_eq,
        List.countP_cons]
      omega

/-- The column of a character that is no line feed. -/
theorem column_eq (s : Source) (hc : s.code[offset]? = some c) (hne : c ≠ '\n') :
    (s.location offset).column = 1 + ((textBefore s.code offset).map displayWidth).sum +
      (textBefore s.code offset).countP isPaired := by
  have hcolumns := sum_columns (textBefore s.code offset)
  rw [List.sum_eq_foldr] at hcolumns
  simp only [location, linePart_eq hc hne, hcolumns]
  omega

/-! ## Names -/

/-- A name is not empty as it is written. -/
theorem span_text_ne_nil (name : Ident code) : name.span.text code ≠ [] := by
  have hlt := name.isWordAt.start_lt_stop
  have hle := name.isWordAt.stop_le_length
  rw [Ne, List.eq_nil_iff_length_eq_zero, Span.text, List.length_take, List.length_drop]
  omega

/-- Behind the text before a name, the line that is shown goes on with all of the name. -/
theorem span_text_prefix_drop (s : Source) (name : Ident s.code) :
    name.span.text s.code <+: (s.context name.span.start).sourceLine.toList.drop
      (textBefore s.code name.span.start).length := by
  obtain ⟨c, hc, -, hne⟩ := exists_getElem?_of_ident name
  have hrest : s.code.drop name.span.start = c :: s.code.drop (name.span.start + 1) := by
    obtain ⟨hlt, hget⟩ := List.getElem?_eq_some_iff.mp hc
    rw [← hget, List.getElem_cons_drop]
  have hline : (c :: s.code.drop (name.span.start + 1)).takeWhile (· ≠ '\n') =
      c :: (s.code.drop (name.span.start + 1)).takeWhile (· ≠ '\n') :=
    List.takeWhile_cons_of_pos (by simpa using hne)
  have hword : ∀ x ∈ name.span.text s.code, decide (x ≠ '\n') = true := by
    intro x hx
    have hchar := List.all_eq_true.mp name.isWordAt.all_wordChars x hx
    rw [decide_eq_true_iff]
    rintro rfl
    rw [TypeScript.isWordChar_lineFeed] at hchar
    cases hchar
  rw [toList_sourceLine_context s hc hne, List.drop_left, ← hline, ← hrest]
  rw [Span.text] at hword ⊢
  rw [← List.take_append_drop (name.span.stop - name.span.start) (s.code.drop name.span.start),
    List.takeWhile_append_of_pos (by simpa using hword), List.take_append_drop]
  exact List.prefix_append _ _

/-- The place that is recorded for a class of a text. Its line is one more than the number of line
ends before the name of the class, and stands among the lines of the text under that number; with the
characters between the start of the line and the name left out, the line that is shown starts with
the name as it is written. The column is one more than the columns that these characters show, and
than the number of those that are outside of the Basic Multilingual Plane. -/
theorem context_of_class {s : Source} {items : List (Node s.code)} {site : ClassSite s.code}
    (h : s.items = .ok items) (hsite : site ∈ classSitesAll "" items) :
    let d := s.declaration (ModuleScope.ofItems? items) site
    let name := site.name.span.text s.code
    let before := textBefore s.code site.name.span.start
    (∃ declarations, s.declarations = .ok declarations ∧ d ∈ declarations) ∧
    d.context.location.line = 1 + lineEnds (s.code.take site.name.span.start) ∧
    (∃ start, (lineStartsUpTo s.code s.code.length)[d.context.location.line - 1]? = some start ∧
      start + before.length = site.name.span.start) ∧
    d.context.sourceLine ≠ "" ∧
    name ≠ [] ∧ name <+: d.context.sourceLine.toList.drop before.length ∧
    ('\\' ∉ name → d.name.toList = name) ∧
    d.context.location.column =
      1 + (before.map displayWidth).sum + before.countP isPaired ∧
    (d.context.location.column = 1 + (before.map displayWidth).sum ↔
      ∀ c ∈ before, isPaired c = false) := by
  intro d name before
  obtain ⟨c, hc, -, hne⟩ := exists_getElem?_of_ident site.name
  have hlines := line_eq hc hne
  have hcolumn : d.context.location.column =
      1 + (before.map displayWidth).sum + before.countP isPaired := s.column_eq hc hne
  have hprefix := s.span_text_prefix_drop site.name
  refine ⟨⟨s.declarationsOf items, ?_, List.mem_map_of_mem hsite⟩, ?_,
    ⟨lineStart s.code site.name.span.start, exists_lineStart hc hne⟩, ?_,
    span_text_ne_nil site.name, hprefix, site.name.spells, hcolumn, ?_⟩
  · rw [Source.declarations, h]
    rfl
  · exact hlines.trans (Nat.add_comm _ _)
  · intro hempty
    have hline : d.context.sourceLine.toList = [] := by rw [hempty]; rfl
    rw [show d.context = s.context site.name.span.start from rfl,
      s.toList_sourceLine_context hc hne] at hline
    exact absurd hline (by simp)
  · rw [hcolumn]
    simp [List.countP_eq_zero]

end Source

/-- A class behind all kinds of line ends, wide characters and a tab. -/
def classBehindLines : Source :=
  ⟨"src/items.ts", "// a\r\n// b\rexport\n/* 名前 */\tclass Foo \x7b\x7d\r".toList⟩

/-- Its name is in the fourth line, behind ten columns of the comment, four of the tab, and six. -/
theorem context_of_classBehindLines : ∃ items site,
    classBehindLines.items = .ok items ∧ site ∈ classSitesAll "" items ∧
    let d := classBehindLines.declaration (ModuleScope.ofItems? items) site
    let before := Source.textBefore classBehindLines.code site.name.span.start
    before = "/* 名前 */\tclass ".toList ∧ d.name = "Foo" ∧
    d.context.location.line = 4 ∧ d.context.location.column = 21 := by
  obtain ⟨items, site, hitems, hsite, h⟩ := Source.exists_site_of_any (s := classBehindLines)
    (p := fun _ site => site.name.name = "Foo" && site.name.span.start = 33)
    (by decide +kernel)
  obtain ⟨hfoo, hplace⟩ := Bool.and_eq_true_iff.mp h
  have hbefore : Source.textBefore classBehindLines.code site.name.span.start =
      "/* 名前 */\tclass ".toList := by
    rw [of_decide_eq_true hplace]
    decide
  have hplain : ("/* 名前 */\tclass ".toList.all fun c => !Source.isPaired c) = true := by decide
  obtain ⟨-, hline, -, -, -, -, -, -, hcolumn⟩ := Source.context_of_class hitems hsite
  rw [hbefore] at hcolumn
  refine ⟨items, site, hitems, hsite, hbefore, of_decide_eq_true hfoo, hline.trans ?_,
    (hcolumn.mpr fun c hc => ?_).trans (by decide +kernel)⟩
  · rw [of_decide_eq_true hplace]
    decide +kernel
  · simpa using List.all_eq_true.mp hplain c hc

/-- A class behind a comment with a picture. -/
def classBehindPicture : Source :=
  ⟨"src/items.ts", "/*😀*/ class Foo \x7b\x7d".toList⟩

/-- The text before its name shows thirteen columns, but the name is said to be in the fifteenth. -/
theorem column_behind_picture : ∃ items site,
    classBehindPicture.items = .ok items ∧ site ∈ classSitesAll "" items ∧
    let d := classBehindPicture.declaration (ModuleScope.ofItems? items) site
    let before := Source.textBefore classBehindPicture.code site.name.span.start
    1 + (before.map Source.displayWidth).sum = 14 ∧ d.context.location.column = 15 := by
  obtain ⟨items, site, hitems, hsite, h⟩ := Source.exists_site_of_any (s := classBehindPicture)
    (p := fun _ site =>
      Source.textBefore classBehindPicture.code site.name.span.start = "/*😀*/ class ".toList)
    (by decide +kernel)
  have hbefore := of_decide_eq_true h
  obtain ⟨c, hc, -, hne⟩ := Source.exists_getElem?_of_ident site.name
  refine ⟨items, site, hitems, hsite, by rw [hbefore]; decide +kernel, ?_⟩
  have hcolumn := classBehindPicture.column_eq hc hne
  rw [hbefore] at hcolumn
  exact hcolumn.trans (by decide +kernel)

end ClassRegistry
