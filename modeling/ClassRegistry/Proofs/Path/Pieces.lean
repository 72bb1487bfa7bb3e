import ClassRegistry.Path
import Mathlib.Data.List.Basic

/-!
# The pieces of a path

A path is cut at its slashes. No piece holds a slash, and a text without one is its only piece, so a
name that is joined to a path stands alone behind the names of this path.
-/

namespace ClassRegistry.Path

/-! ## Pieces -/

theorem pieces_slash_cons (rest : List Char) : pieces ('/' :: rest) = [] :: pieces rest :=
  if_pos rfl

/-- Another character belongs to the first piece of what follows. -/
theorem pieces_cons_of_ne {c : Char} (hc : c ≠ '/') {rest piece : List Char}
    {more : List (List Char)} (h : pieces rest = piece :: more) :
    pieces (c :: rest) = (c :: piece) :: more := by
  rw [pieces, if_neg hc, h]

/-- There is always a piece. -/
theorem pieces_ne_nil (text : List Char) : pieces text ≠ [] := by
  induction text with
  | nil => exact List.cons_ne_nil [] []
  | cons c rest ih =>
      by_cases hc : c = '/'
      · rw [hc, pieces_slash_cons]
        exact List.cons_ne_nil [] (pieces rest)
      · obtain ⟨piece, more, hrest⟩ := List.exists_cons_of_ne_nil ih
        rw [pieces_cons_of_ne hc hrest]
        exact List.cons_ne_nil (c :: piece) more

/-- What holds of the empty text, and with a text also with a slash or another character in front of
it, holds of each text. -/
theorem induction_on_pieces {motive : List Char → Prop} (nil : motive [])
    (slash : ∀ rest, motive rest → motive ('/' :: rest))
    (char : ∀ c rest piece more, c ≠ '/' → pieces rest = piece :: more →
      pieces (c :: rest) = (c :: piece) :: more → motive rest → motive (c :: rest))
    (text : List Char) : motive text := by
  induction text with
  | nil => exact nil
  | cons c rest ih =>
      by_cases hc : c = '/'
      · rw [hc]
        exact slash rest ih
      · obtain ⟨piece, more, hrest⟩ := List.exists_cons_of_ne_nil (pieces_ne_nil rest)
        exact char c rest piece more hc hrest (pieces_cons_of_ne hc hrest) ih

/-- A slash ends a piece. -/
theorem pieces_append_slash (front back : List Char) :
    pieces (front ++ '/' :: back) = pieces front ++ pieces back := by
  induction front using induction_on_pieces with
  | nil => exact pieces_slash_cons back
  | slash rest ih =>
      rw [List.cons_append, pieces_slash_cons, pieces_slash_cons, ih, List.cons_append]
  | char c rest piece more hc hrest hcons ih =>
      rw [hrest] at ih
      rw [List.cons_append, pieces_cons_of_ne hc ih, hcons]
      rfl

/-- A text without a slash is its only piece. -/
theorem pieces_eq_singleton {text : List Char} (h : '/' ∉ text) : pieces text = [text] := by
  induction text with
  | nil => rfl
  | cons c rest ih =>
      have hc : c ≠ '/' := fun hc => h (by simp [hc])
      have hrest : '/' ∉ rest := fun hrest => h (List.mem_cons_of_mem c hrest)
      exact pieces_cons_of_ne hc (ih hrest)

/-- What holds no slash belongs to the first piece of what follows. -/
theorem pieces_append {front text : List Char} (hfront : '/' ∉ front) {piece : List Char}
    {more : List (List Char)} (h : pieces text = piece :: more) :
    pieces (front ++ text) = (front ++ piece) :: more := by
  induction front with
  | nil => exact h
  | cons c rest ih =>
      have hc : c ≠ '/' := fun hc => hfront (by simp [hc])
      have hrest := ih fun hrest => hfront (List.mem_cons_of_mem c hrest)
      exact pieces_cons_of_ne hc hrest

/-- No piece holds a slash. -/
theorem slash_notMem_of_mem_pieces {text piece : List Char} (h : piece ∈ pieces text) :
    '/' ∉ piece := by
  induction text using induction_on_pieces generalizing piece with
  | nil =>
      rw [List.mem_singleton.mp h]
      exact List.not_mem_nil
  | slash rest ih =>
      rw [pieces_slash_cons] at h
      rcases List.mem_cons.mp h with rfl | h
      · exact List.not_mem_nil
      · exact ih h
  | char c rest first more hc hrest hcons ih =>
      rw [hrest] at ih
      rw [hcons] at h
      rcases List.mem_cons.mp h with rfl | h
      · rw [List.mem_cons]
        rintro (hslash | hslash)
        · exact hc hslash.symm
        · exact ih List.mem_cons_self hslash
      · exact ih (List.mem_cons_of_mem first h)

/-- The characters of a piece are in the text. -/
theorem mem_of_mem_pieces {text piece : List Char} (h : piece ∈ pieces text) {c : Char}
    (hc : c ∈ piece) : c ∈ text := by
  induction text using induction_on_pieces generalizing piece with
  | nil =>
      rw [List.mem_singleton.mp h] at hc
      exact hc
  | slash rest ih =>
      rw [pieces_slash_cons] at h
      rcases List.mem_cons.mp h with rfl | h
      · cases hc
      · exact List.mem_cons_of_mem '/' (ih h hc)
  | char d rest first more hd hrest hcons ih =>
      rw [hrest] at ih
      rw [hcons] at h
      rcases List.mem_cons.mp h with rfl | h
      · rcases List.mem_cons.mp hc with rfl | hc
        · exact List.mem_cons_self
        · exact List.mem_cons_of_mem d (ih List.mem_cons_self hc)
      · exact List.mem_cons_of_mem d (ih (List.mem_cons_of_mem first h) hc)

/-- A character that occurs in a text occurs there for the last time. -/
theorem exists_last_of_mem {c : Char} {text : List Char} (h : c ∈ text) :
    ∃ front back, text = front ++ c :: back ∧ c ∉ back := by
  obtain ⟨back, front, htext, hback⟩ := List.eq_append_cons_of_mem (List.mem_reverse.mpr h)
  refine ⟨front.reverse, back.reverse, ?_, fun hc => hback (List.mem_reverse.mp hc)⟩
  rw [← List.reverse_reverse text, htext]
  simp

/-- A text without slashes ends a text when it ends what is behind the slashes. -/
theorem suffix_append_slash_iff {ending front back : List Char} (hslash : '/' ∉ ending) :
    ending <:+ front ++ '/' :: back ↔ ending <:+ back := by
  constructor
  · rintro ⟨before, hbefore⟩
    rcases List.append_eq_append_iff.mp hbefore with ⟨between, -, hending⟩ | ⟨between, -, hback⟩
    · exact absurd (hending ▸ List.mem_append_right between List.mem_cons_self) hslash
    · cases between with
      | nil =>
          rw [List.nil_append] at hback
          exact absurd (hback ▸ List.mem_cons_self) hslash
      | cons c more => exact ⟨more, (List.cons.inj hback).2.symm⟩
  · intro h
    exact (h.trans (List.suffix_cons '/' back)).trans (List.suffix_append front _)

/-- The last piece is empty behind a slash at the end only. -/
theorem getLast?_eq_slash {text : List Char} (hne : text ≠ [])
    (h : (pieces text).getLast? = some []) : text.getLast? = some '/' := by
  by_cases hslash : '/' ∈ text
  · obtain ⟨front, back, rfl, hback⟩ := exists_last_of_mem hslash
    rw [pieces_append_slash, pieces_eq_singleton hback, List.getLast?_concat] at h
    rw [Option.some.inj h, List.getLast?_concat]
  · rw [pieces_eq_singleton hslash, List.getLast?_singleton] at h
    exact absurd (Option.some.inj h) hne

/-- The pieces of a text with slashes between them are the text. -/
theorem intercalate_pieces (text : List Char) : List.intercalate ['/'] (pieces text) = text := by
  induction text using induction_on_pieces with
  | nil => rfl
  | slash rest ih =>
      obtain ⟨piece, more, hrest⟩ := List.exists_cons_of_ne_nil (pieces_ne_nil rest)
      rw [hrest] at ih
      rw [pieces_slash_cons, hrest, List.intercalate_cons_cons, ih, List.nil_append,
        List.singleton_append]
  | char c rest piece more _ hrest hcons ih =>
      rw [hrest] at ih
      rw [hcons]
      cases more with
      | nil =>
          rw [List.intercalate_singleton] at ih ⊢
          rw [ih]
      | cons next more =>
          rw [List.intercalate_cons_cons] at ih ⊢
          rw [← ih]
          rfl

/-! ## Names -/

theorem names_ne_nil (p : Path) : p.names ≠ [] := by
  rw [names, ne_eq, List.map_eq_nil_iff]
  exact pieces_ne_nil p.text.toList

/-- The names of a path with slashes between them are its text. -/
theorem intercalate_names (p : Path) : "/".intercalate p.names = p.text := by
  have hchars : p.names.map String.toList = pieces p.text.toList := by
    simp [names, Function.comp_def]
  rw [← String.toList_inj, String.toList_intercalate, hchars]
  exact intercalate_pieces p.text.toList

/-- No name holds a slash. -/
theorem slash_notMem_of_mem_names {p : Path} {name : String} (h : name ∈ p.names) :
    '/' ∉ name.toList := by
  obtain ⟨piece, hpiece, rfl⟩ := List.mem_map.mp h
  rw [String.toList_ofList]
  exact slash_notMem_of_mem_pieces hpiece

/-- A name without a slash is its only name. -/
theorem names_eq_singleton {name : String} (h : '/' ∉ name.toList) :
    (Path.mk name).names = [name] := by
  rw [names, pieces_eq_singleton h, List.map_singleton, String.ofList_toList]

/-- The names of a path that lead to what is joined to it: the empty name behind a slash at the end
gives way. -/
def leadingNames (p : Path) : List String :=
  if p.names.getLast? = some "" then p.names.dropLast else p.names

/-- A path has no other names than those, but for an empty one at the end. -/
theorem names_eq_leadingNames (p : Path) :
    p.names = p.leadingNames ∨ p.names = p.leadingNames ++ [""] := by
  rw [leadingNames]
  split
  · rename_i hlast
    exact Or.inr (List.dropLast_append_getLast? "" hlast).symm
  · exact Or.inl rfl

/-- The leading names are among the names. -/
theorem mem_names_of_mem_leadingNames {p : Path} {name : String} (h : name ∈ p.leadingNames) :
    name ∈ p.names := by
  rcases p.names_eq_leadingNames with hnames | hnames
  · rw [hnames]
    exact h
  · rw [hnames]
    exact List.mem_append_left [""] h

/-- A name without a slash is relative. -/
theorem isAbsolute_eq_false {name : String} (h : '/' ∉ name.toList) :
    (Path.mk name).isAbsolute = false := by
  rw [isAbsolute, beq_eq_false_iff_ne]
  intro hhead
  exact h (List.mem_of_head? hhead)

/-- The text of a path starts the text of a path with a name joined to it. -/
theorem exists_text_join {p : Path} {name : String} (h : '/' ∉ name.toList) :
    ∃ rest, (p.join ⟨name⟩).text = p.text ++ rest := by
  rw [join, isAbsolute_eq_false h, Bool.false_or]
  split
  · rename_i hempty
    rw [String.isEmpty_iff.mp hempty]
    exact ⟨name, String.empty_append.symm⟩
  · split
    · exact ⟨name, rfl⟩
    · exact ⟨"/" ++ name, String.append_assoc⟩

/-- What a relative path is written behind when it is joined to a path. -/
def lead (p : Path) : String :=
  if p.text.isEmpty || p.text.toList.getLast? == some '/' then p.text else p.text ++ "/"

/-- A relative path is written behind the lead of the path that it is joined to. -/
theorem join_eq_lead {p q : Path} (h : q.isAbsolute = false) : p.join q = ⟨p.lead ++ q.text⟩ := by
  rw [join, lead, h, Bool.false_or]
  by_cases hempty : p.text.isEmpty = true
  · rw [if_pos hempty, hempty, Bool.true_or, if_pos rfl, String.isEmpty_iff.mp hempty,
      String.empty_append]
  · rw [Bool.not_eq_true] at hempty
    rw [hempty, Bool.false_or, if_neg Bool.false_ne_true]
    split
    · rfl
    · rfl

/-- The names of a relative path that is joined to a path stand behind the names of this path. -/
theorem names_join_of_isAbsolute_eq_false {p q : Path} (h : q.isAbsolute = false) :
    (p.join q).names = p.leadingNames ++ q.names := by
  rw [join_eq_lead h, lead, leadingNames, names, names, names]
  by_cases hempty : p.text.toList = []
  · have htext : p.text = "" := String.toList_eq_nil_iff.mp hempty
    simp [htext, pieces]
  · have hsome : p.text.isEmpty = false := by
      simpa [String.isEmpty_iff, String.toList_eq_nil_iff] using hempty
    rw [hsome, Bool.false_or]
    by_cases hslash : p.text.toList.getLast? = some '/'
    · obtain ⟨front, hfront⟩ : ∃ front, p.text.toList = front ++ ['/'] :=
        ⟨_, (List.dropLast_append_getLast? '/' hslash).symm⟩
      rw [if_pos (beq_iff_eq.mpr hslash), String.toList_append, hfront, List.append_assoc,
        List.singleton_append, pieces_append_slash, pieces_append_slash]
      simp [pieces]
    · have hlast : ((pieces p.text.toList).map String.ofList).getLast? ≠ some "" := by
        intro hlast
        rw [List.getLast?_map, Option.map_eq_some_iff] at hlast
        obtain ⟨piece, hpiece, hnil⟩ := hlast
        rw [String.ofList_eq_empty_iff.mp hnil] at hpiece
        exact hslash (getLast?_eq_slash hempty hpiece)
      have htext : (p.text ++ "/" ++ q.text).toList = p.text.toList ++ '/' :: q.text.toList := by
        simp [String.toList_append]
      rw [if_neg (by simpa using hslash), if_neg hlast, htext, pieces_append_slash, List.map_append]

/-- A name that is joined to a path stands behind the names of this path. -/
theorem names_join {p : Path} {name : String} (h : '/' ∉ name.toList) :
    (p.join ⟨name⟩).names = p.leadingNames ++ [name] := by
  rw [names_join_of_isAbsolute_eq_false (isAbsolute_eq_false h), names_eq_singleton h]

/-- What starts a path starts a relative one that is joined to it. -/
theorem isAbsolute_join_of_isAbsolute_eq_false {p q : Path} (h : q.isAbsolute = false) :
    (p.join q).isAbsolute = p.isAbsolute := by
  rw [join_eq_lead h, lead]
  rw [isAbsolute] at h
  rw [isAbsolute, isAbsolute]
  by_cases hempty : p.text.toList = []
  · have htext : p.text = "" := String.toList_eq_nil_iff.mp hempty
    simpa [htext] using h
  · obtain ⟨c, rest, hp⟩ := List.exists_cons_of_ne_nil hempty
    split
    · rw [String.toList_append, hp, List.cons_append, List.head?_cons, List.head?_cons]
    · rw [String.toList_append, String.toList_append, hp, List.cons_append, List.cons_append,
        List.head?_cons, List.head?_cons]

/-- What starts a path starts what is joined to it. -/
theorem isAbsolute_join {p : Path} {name : String} (h : '/' ∉ name.toList) :
    (p.join ⟨name⟩).isAbsolute = p.isAbsolute :=
  isAbsolute_join_of_isAbsolute_eq_false (isAbsolute_eq_false h)

end ClassRegistry.Path
