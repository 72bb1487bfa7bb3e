import ClassRegistry.Source
import Mathlib.Data.List.TakeWhile

/-!
# Lines of a source text

The start of a line is found among the places behind all line ends. Here it is described from the
place that is asked for: the text of the line before an offset is what stands behind the last line
end before it. Main statement: at a character that is no line feed, the line starts where this text
starts, and the line that is shown goes on with the character.
-/

namespace ClassRegistry.Source

open TypeScript (Code Ident isWordChar)

/-- The characters between the last line end before an offset and the offset. -/
def textBefore (code : Code) (offset : Nat) : List Char :=
  ((code.take offset).reverse.takeWhile fun c => !isLineEnd c).reverse

/-- There is no line end in the text of the line before an offset. -/
theorem isLineEnd_of_mem_textBefore {code : Code} {offset : Nat} {c : Char}
    (h : c ∈ textBefore code offset) : isLineEnd c = false := by
  have hc := List.mem_takeWhile_imp (List.mem_reverse.mp h)
  simpa only [Bool.not_eq_true'] using hc

/-- What stands before the text of a line is nothing or ends with a line end. -/
theorem exists_append_textBefore (code : Code) (offset : Nat) :
    ∃ before, code.take offset = before ++ textBefore code offset ∧
      ∀ t, before.getLast? = some t → isLineEnd t = true := by
  refine ⟨((code.take offset).reverse.dropWhile fun c => !isLineEnd c).reverse, ?_, ?_⟩
  · rw [textBefore, ← List.reverse_append, List.takeWhile_append_dropWhile, List.reverse_reverse]
  · intro t ht
    rw [List.getLast?_reverse] at ht
    have hd := List.head?_dropWhile_not (fun c => !isLineEnd c) (code.take offset).reverse
    rw [ht] at hd
    simpa using hd

/-! ## The starts of lines -/

/-- A character that does not begin a pair of line ends is looked at alone. -/
theorem lineStartsFrom_cons {offset : Nat} {c : Char} {rest : Code}
    (h : c = '\r' → rest.head? ≠ some '\n') :
    lineStartsFrom offset (c :: rest) =
      if isLineEnd c then (offset + 1) :: lineStartsFrom (offset + 1) rest
      else lineStartsFrom (offset + 1) rest := by
  rw [lineStartsFrom]
  rintro more rfl rfl
  exact h rfl rfl

/-- Line starts are found part by part, as long as no pair of line ends is cut. -/
theorem lineStartsFrom_append {offset : Nat} {before rest : Code}
    (h : rest.head? ≠ some '\n') :
    lineStartsFrom offset (before ++ rest) =
      lineStartsFrom offset before ++ lineStartsFrom (offset + before.length) rest := by
  fun_induction lineStartsFrom offset before with
  | case1 => rfl
  | case2 offset more ih =>
      rw [List.cons_append, List.cons_append, lineStartsFrom, ih, List.cons_append,
        List.length_cons, List.length_cons, show offset + (more.length + 1 + 1) =
          offset + 2 + more.length by omega]
  | case3 offset c more hpair hend ih =>
      have hc : c = '\r' → (more ++ rest).head? ≠ some '\n' := by
        cases more with
        | nil => exact fun _ => h
        | cons x more => exact fun hr hx => hpair more hr (by simpa using hx)
      rw [List.cons_append, lineStartsFrom_cons hc, if_pos hend, ih, List.cons_append,
        List.length_cons, show offset + (more.length + 1) = offset + 1 + more.length by omega]
  | case4 offset c more hpair hend ih =>
      have hc : c = '\r' → (more ++ rest).head? ≠ some '\n' := by
        cases more with
        | nil => exact fun _ => h
        | cons x more => exact fun hr hx => hpair more hr (by simpa using hx)
      rw [List.cons_append, lineStartsFrom_cons hc, if_neg hend, ih,
        List.length_cons, show offset + (more.length + 1) = offset + 1 + more.length by omega]

/-- A text without line ends starts no line. -/
theorem lineStartsFrom_eq_nil {offset : Nat} {text : Code}
    (h : ∀ c ∈ text, isLineEnd c = false) : lineStartsFrom offset text = [] := by
  induction text generalizing offset with
  | nil => rfl
  | cons c rest ih =>
      have hc : isLineEnd c = false := h c (List.mem_cons_self ..)
      rw [lineStartsFrom_cons, if_neg (by simp [hc])]
      · exact ih fun x hx => h x (List.mem_cons_of_mem c hx)
      · rintro rfl
        simp [isLineEnd] at hc

/-- Each line starts behind a character. -/
theorem lt_of_mem_lineStartsFrom {offset start : Nat} {text : Code}
    (h : start ∈ lineStartsFrom offset text) :
    offset < start ∧ start ≤ offset + text.length := by
  fun_induction lineStartsFrom offset text with
  | case1 => exact absurd h List.not_mem_nil
  | case2 offset rest ih =>
      rw [List.length_cons, List.length_cons]
      rcases List.mem_cons.mp h with rfl | h
      · omega
      · have := ih h
        omega
  | case3 offset c rest hpair hend ih =>
      rw [List.length_cons]
      rcases List.mem_cons.mp h with rfl | h
      · omega
      · have := ih h
        omega
  | case4 offset c rest hpair hend ih =>
      rw [List.length_cons]
      have := ih h
      omega

/-- A line end at the end of a text starts a line behind it. -/
theorem getLast?_lineStartsFrom {offset : Nat} {text : Code} {t : Char}
    (h : text.getLast? = some t) (ht : isLineEnd t = true) :
    (lineStartsFrom offset text).getLast? = some (offset + text.length) := by
  fun_induction lineStartsFrom offset text with
  | case1 => simp at h
  | case2 offset rest ih =>
      cases rest with
      | nil => rfl
      | cons c rest =>
          have hlast := ih (by simpa using h)
          rw [List.getLast?_cons, hlast, Option.getD_some]
          exact congrArg some (by simp only [List.length_cons]; omega)
  | case3 offset c rest hpair hend ih =>
      cases rest with
      | nil => rfl
      | cons x rest =>
          have hlast := ih (by simpa using h)
          rw [List.getLast?_cons, hlast, Option.getD_some]
          exact congrArg some (by simp only [List.length_cons]; omega)
  | case4 offset c rest hpair hend ih =>
      cases rest with
      | nil =>
          have hc : c = t := by simpa using h
          exact absurd (hc ▸ ht) hend
      | cons x rest =>
          have hlast := ih (by simpa using h)
          rw [hlast]
          exact congrArg some (by simp only [List.length_cons]; omega)

/-! ## The line of an offset -/

/-- The line starts up to a place are those of the text before an earlier character that is no line
feed, and those behind it. -/
theorem lineStartsUpTo_append (before rest : Code) {c : Char} (hc : c ≠ '\n') {limit : Nat}
    (hlimit : before.length ≤ limit) :
    lineStartsUpTo (before ++ c :: rest) limit = (0 :: lineStartsFrom 0 before) ++
      (lineStartsFrom before.length (c :: rest)).filter fun start =>
        start ≤ limit && start < (before ++ c :: rest).length := by
  have hsplit : lineStartsFrom 0 (before ++ c :: rest) =
      lineStartsFrom 0 before ++ lineStartsFrom before.length (c :: rest) := by
    rw [lineStartsFrom_append (by simpa using hc), Nat.zero_add]
  have hkept : ∀ start ∈ 0 :: lineStartsFrom 0 before, start ≤ before.length := by
    intro start hs
    rcases List.mem_cons.mp hs with rfl | hs
    · exact Nat.zero_le _
    · simpa only [Nat.zero_add] using (lt_of_mem_lineStartsFrom hs).2
  rw [lineStartsUpTo, hsplit, ← List.cons_append, List.filter_append]
  congr 1
  rw [List.filter_eq_self]
  intro start hs
  have := hkept start hs
  simp only [Bool.and_eq_true, decide_eq_true_eq, List.length_append, List.length_cons]
  omega

/-- The line starts up to a character that is no line feed are those of the text before it. -/
theorem lineStartsUpTo_length (before rest : Code) {c : Char} (hc : c ≠ '\n') :
    lineStartsUpTo (before ++ c :: rest) before.length = 0 :: lineStartsFrom 0 before := by
  have hlater : (lineStartsFrom before.length (c :: rest)).filter (fun start =>
      start ≤ before.length && start < (before ++ c :: rest).length) = [] := by
    rw [List.filter_eq_nil_iff]
    intro start hs
    have := (lt_of_mem_lineStartsFrom hs).1
    simp only [Bool.and_eq_true, decide_eq_true_eq]
    omega
  rw [lineStartsUpTo_append before rest hc (Nat.le_refl _), hlater, List.append_nil]

/-- The line of a character that is no line feed starts where its text before the character does. -/
theorem lineStart_eq {code : Code} {offset : Nat} {c : Char} (hc : code[offset]? = some c)
    (hne : c ≠ '\n') : lineStart code offset + (textBefore code offset).length = offset := by
  obtain ⟨hlt, hget⟩ := List.getElem?_eq_some_iff.mp hc
  have hlength : (code.take offset).length = offset := by
    rw [List.length_take]
    omega
  have hcode : code = code.take offset ++ c :: code.drop (offset + 1) := by
    rw [← hget, List.getElem_cons_drop, List.take_append_drop]
  have hstarts : lineStartsUpTo code offset = 0 :: lineStartsFrom 0 (code.take offset) := by
    have := lineStartsUpTo_length (code.take offset) (code.drop (offset + 1)) hne
    rwa [← hcode, hlength] at this
  obtain ⟨before, htake, hend⟩ := exists_append_textBefore code offset
  have hnil : lineStartsFrom before.length (textBefore code offset) = [] :=
    lineStartsFrom_eq_nil fun x hx => isLineEnd_of_mem_textBefore hx
  have hhead : (textBefore code offset).head? ≠ some '\n' := by
    intro hh
    have := isLineEnd_of_mem_textBefore (List.mem_of_head? hh)
    simp [isLineEnd] at this
  -- the text before starts no line, so the last start is where it begins
  have hlast : lineStart code offset = before.length := by
    rw [lineStart, hstarts, htake, lineStartsFrom_append hhead, Nat.zero_add, hnil,
      List.append_nil]
    cases hb : before.getLast? with
    | none =>
        rw [List.getLast?_eq_none_iff.mp hb]
        rfl
    | some t =>
        rw [List.getLast?_cons, getLast?_lineStartsFrom hb (hend t hb), Option.getD_some,
          Option.getD_some, Nat.zero_add]
  rw [hlast, ← List.length_append, ← htake, hlength]

/-- From the start of the line on, the code goes on with the text before a character, the character,
and what follows. -/
theorem drop_lineStart_eq {code : Code} {offset : Nat} {c : Char} (hc : code[offset]? = some c)
    (hne : c ≠ '\n') :
    code.drop (lineStart code offset) =
      textBefore code offset ++ c :: code.drop (offset + 1) := by
  have hstart := lineStart_eq hc hne
  obtain ⟨hlt, hget⟩ := List.getElem?_eq_some_iff.mp hc
  obtain ⟨before, htake, -⟩ := exists_append_textBefore code offset
  have hlength : before.length + (textBefore code offset).length = offset := by
    rw [← List.length_append, ← htake, List.length_take]
    omega
  have hbefore : lineStart code offset = before.length := by omega
  have hcode : code = before ++ (textBefore code offset ++ c :: code.drop (offset + 1)) := by
    rw [← List.append_assoc, ← htake, ← hget, List.getElem_cons_drop, List.take_append_drop]
  rw [hbefore]
  exact (congrArg (List.drop before.length) hcode).trans List.drop_left

/-- The part of a line up to a character is its text before the character. -/
theorem linePart_eq {code : Code} {offset : Nat} {c : Char} (hc : code[offset]? = some c)
    (hne : c ≠ '\n') : linePart code offset = textBefore code offset := by
  have hlength : offset - lineStart code offset = (textBefore code offset).length := by
    have := lineStart_eq hc hne
    omega
  rw [linePart, drop_lineStart_eq hc hne, hlength, List.take_left]

/-- The line that is shown is the text before a character, the character, and what follows up to a
line feed. -/
theorem lineText_eq {code : Code} {offset : Nat} {c : Char} (hc : code[offset]? = some c)
    (hne : c ≠ '\n') : lineText code offset = textBefore code offset ++
      c :: (code.drop (offset + 1)).takeWhile (· ≠ '\n') := by
  rw [lineText, drop_lineStart_eq hc hne, List.takeWhile_append_of_pos, List.takeWhile_cons_of_pos]
  · simpa using hne
  · intro x hx
    have hx' := isLineEnd_of_mem_textBefore hx
    simp only [isLineEnd, Bool.or_eq_false_iff, decide_eq_false_iff_not] at hx'
    simpa using hx'.1

/-- The line that a diagnostic shows is the text before the place, the character there, and what
follows. -/
theorem toList_sourceLine_context (s : Source) {offset : Nat} {c : Char}
    (hc : s.code[offset]? = some c) (hne : c ≠ '\n') :
    (s.context offset).sourceLine.toList = textBefore s.code offset ++
      c :: (s.code.drop (offset + 1)).takeWhile (· ≠ '\n') := by
  rw [context, String.toList_ofList, lineText_eq hc hne]

/-- A name stands where its span says: a character of a word is there, which is no line feed. -/
theorem exists_getElem?_of_ident {code : Code} (name : Ident code) :
    ∃ c, code[name.span.start]? = some c ∧ isWordChar c = true ∧ c ≠ '\n' := by
  have hlt : name.span.start < code.length :=
    Nat.lt_of_lt_of_le name.isWordAt.start_lt_stop name.isWordAt.stop_le_length
  have hpos : 0 < name.span.stop - name.span.start :=
    Nat.sub_pos_of_lt name.isWordAt.start_lt_stop
  have hmem : code[name.span.start] ∈ name.span.text code := by
    rw [TypeScript.Span.text, List.mem_take_iff_getElem]
    exact ⟨0, by rw [List.length_drop]; omega, by simp⟩
  have hword := List.all_eq_true.mp name.isWordAt.all_wordChars _ hmem
  refine ⟨_, List.getElem?_eq_getElem hlt, hword, ?_⟩
  intro he
  rw [he, TypeScript.isWordChar_lineFeed] at hword
  exact Bool.false_ne_true hword

end ClassRegistry.Source
