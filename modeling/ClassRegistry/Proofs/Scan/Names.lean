import ClassRegistry.Proofs.Generated.FileName
import ClassRegistry.Scan

/-!
# Names of source files and of generated files

Whether a path is that of a source file is told by its file name, from the last dots on. The name of
a generated file is known by the `gen` before its last dot, which is where the generator puts it as
long as the extension has no dot of its own.
-/

namespace ClassRegistry

/-! ## The last dot -/

/-- A text has one last dot. -/
theorem append_dot_inj {front other back rest : List Char} (hback : '.' ∉ back) (hrest : '.' ∉ rest)
    (h : front ++ '.' :: back = other ++ '.' :: rest) : front = other ∧ back = rest := by
  rcases List.append_eq_append_iff.mp h with ⟨between, hfront, hmore⟩ | ⟨between, hfront, hmore⟩
  · cases between with
    | nil =>
        rw [List.append_nil] at hfront
        exact ⟨hfront.symm, (List.cons.inj hmore).2⟩
    | cons c more =>
        obtain ⟨-, rfl⟩ := List.cons.inj hmore
        exact absurd (List.mem_append_right more List.mem_cons_self) hback
  · cases between with
    | nil =>
        rw [List.append_nil] at hfront
        exact ⟨hfront, (List.cons.inj hmore).2.symm⟩
    | cons c more =>
        obtain ⟨-, rfl⟩ := List.cons.inj hmore
        exact absurd (List.mem_append_right more List.mem_cons_self) hrest

/-- Endings are compared from the last dot on. -/
theorem append_dot_suffix_iff {ending front back rest : List Char} (hback : '.' ∉ back)
    (hrest : '.' ∉ rest) :
    ending ++ '.' :: rest <:+ front ++ '.' :: back ↔ rest = back ∧ ending <:+ front := by
  constructor
  · rintro ⟨before, hbefore⟩
    rw [← List.append_assoc] at hbefore
    obtain ⟨hfront, hend⟩ := append_dot_inj hrest hback hbefore
    exact ⟨hend, before, hfront⟩
  · rintro ⟨rfl, before, rfl⟩
    exact ⟨before, by rw [List.append_assoc]⟩

/-- Whether a text ends with a dot and a word does not depend on what stands before its dots. -/
theorem dot_suffix_append_iff {word front back : List Char} (hword : '.' ∉ word) :
    '.' :: word <:+ front ++ '.' :: back ↔ '.' :: word <:+ '.' :: back := by
  have hdot : '.' ∈ '.' :: back := List.mem_cons_self
  obtain ⟨before, last, hsplit, hlast⟩ := Path.exists_last_of_mem hdot
  have hends : ∀ text : List Char, '.' :: word <:+ text ++ '.' :: last ↔ word = last := by
    intro text
    have hsuffix : [] ++ '.' :: word <:+ text ++ '.' :: last ↔ word = last ∧ [] <:+ text :=
      append_dot_suffix_iff hlast hword
    simpa using hsuffix
  rw [hsplit, ← List.append_assoc, hends, hends]

/-! ## Names by their last dots -/

theorem hasEnding_iff {name ending : String} :
    hasEnding name ending = true ↔ ending.toList <:+ name.toList := by
  rw [hasEnding, List.isSuffixOf_iff_suffix]

/-- The name without its last dot and what follows it. -/
theorem stem?_eq_some {name : String} {front back : List Char}
    (h : name.toList = front ++ '.' :: back) (hback : '.' ∉ back) :
    stem? name = some (String.ofList front) := by
  have hdrop : name.toList.reverse.dropWhile (· ≠ '.') = '.' :: front.reverse := by
    rw [h, List.reverse_append, List.reverse_cons, List.append_assoc, List.singleton_append]
    rw [List.dropWhile_append_of_pos]
    · simp
    · intro c hc
      have hne : c ≠ '.' := fun hdot => hback (hdot ▸ List.mem_reverse.mp hc)
      simpa using hne
  rw [stem?, hdrop]
  simp

/-- A file name is that of a generated file by the word before its last dot. -/
theorem isGeneratedName_iff {name : String} {front back : List Char}
    (h : name.toList = front ++ '.' :: back) (hback : '.' ∉ back) :
    isGeneratedName name = true ↔ ".gen".toList <:+ front := by
  rw [isGeneratedName, stem?_eq_some h hback, Option.any_some, hasEnding_iff]
  simp only [String.toList_ofList]

/-- A file name is that of a declaration file by the word before its last dot and its extension. -/
theorem isDeclarationName_iff {name : String} {front back : List Char}
    (h : name.toList = front ++ '.' :: back) (hback : '.' ∉ back) :
    isDeclarationName name = true ↔
      back ∈ ["ts".toList, "mts".toList, "cts".toList] ∧ ".d".toList <:+ front := by
  have hending : ∀ extension : List Char, '.' ∉ extension →
      (".d".toList ++ '.' :: extension <:+ name.toList ↔
        extension = back ∧ ".d".toList <:+ front) := by
    intro extension hextension
    rw [h]
    exact append_dot_suffix_iff hback hextension
  have hts := hending "ts".toList (by decide)
  have hmts := hending "mts".toList (by decide)
  have hcts := hending "cts".toList (by decide)
  simp only [isDeclarationName, Bool.or_eq_true, hasEnding_iff, List.mem_cons, List.not_mem_nil,
    or_false]
  constructor
  · rintro ((hd | hd) | hd)
    · obtain ⟨rfl, hfront⟩ := hts.mp hd
      exact ⟨Or.inl rfl, hfront⟩
    · obtain ⟨rfl, hfront⟩ := hmts.mp hd
      exact ⟨Or.inr (Or.inl rfl), hfront⟩
    · obtain ⟨rfl, hfront⟩ := hcts.mp hd
      exact ⟨Or.inr (Or.inr rfl), hfront⟩
  · rintro ⟨rfl | rfl | rfl, hfront⟩
    · exact Or.inl (Or.inl (hts.mpr ⟨rfl, hfront⟩))
    · exact Or.inl (Or.inr (hmts.mpr ⟨rfl, hfront⟩))
    · exact Or.inr (hcts.mpr ⟨rfl, hfront⟩)

/-- The extension of a path is what follows the last dot of its file name. -/
theorem extension?_eq_some {p : Path} {name : String} {front back : List Char}
    (hname : p.fileName? = some name) (h : name.toList = front ++ '.' :: back)
    (hback : '.' ∉ back) (hfront : front ≠ []) : p.extension? = some (String.ofList back) := by
  have hkept : ∀ c ∈ back.reverse, (decide (c ≠ '.')) = true := by
    intro c hc
    have hne : c ≠ '.' := fun hdot => hback (hdot ▸ List.mem_reverse.mp hc)
    simpa using hne
  have hreverse : name.toList.reverse = back.reverse ++ '.' :: front.reverse := by
    rw [h, List.reverse_append, List.reverse_cons, List.append_assoc, List.singleton_append]
  obtain ⟨c, rest, hrest⟩ := List.exists_cons_of_ne_nil (List.reverse_ne_nil_iff.mpr hfront)
  have hdrop : name.toList.reverse.dropWhile (· ≠ '.') = '.' :: c :: rest := by
    rw [hreverse, List.dropWhile_append_of_pos hkept, hrest]
    simp
  have htake : name.toList.reverse.takeWhile (· ≠ '.') = back.reverse := by
    rw [hreverse, List.takeWhile_append_of_pos hkept]
    simp
  rw [Path.extension?, hname]
  simp only [hdrop, htake, List.reverse_reverse]

/-! ## Source files -/

/-- Whether a path is that of a source file is told by its file name. -/
theorem isSourcePath_congr {p q : Path} (h : p.fileName? = q.fileName?) :
    isSourcePath p = isSourcePath q := by
  unfold isSourcePath Path.extension?
  rw [h]

/-- A path is that of a source file by the last dots of its file name. -/
theorem isSourcePath_iff {p : Path} {name : String} {front back : List Char}
    (hname : p.fileName? = some name) (h : name.toList = front ++ '.' :: back)
    (hback : '.' ∉ back) (hfront : front ≠ []) :
    isSourcePath p = true ↔ String.ofList back ∈ ["ts", "tsx", "mts", "cts"] ∧
      ¬ ".gen".toList <:+ front ∧ (".d".toList <:+ front → String.ofList back = "tsx") := by
  have hextension := extension?_eq_some hname h hback hfront
  have hgenerated := isGeneratedName_iff h hback
  have hdeclares := isDeclarationName_iff h hback
  have hword : ∀ text : String, back = text.toList ↔ String.ofList back = text := by
    intro text
    rw [← String.toList_inj, String.toList_ofList]
  unfold isSourcePath
  rw [hname]
  simp only [hextension, Bool.and_eq_true, Bool.not_eq_true', ← Bool.not_eq_true, hgenerated,
    hdeclares, List.any_eq_true, decide_eq_true_eq, Option.some.injEq, exists_eq_right',
    List.mem_cons, List.not_mem_nil, or_false, hword]
  -- of the declaration files only those that end with `tsx` are let through
  constructor
  · rintro ⟨⟨hgen, hdeclared⟩, hmem⟩
    refine ⟨hmem, hgen, fun hd => ?_⟩
    rcases hmem with hts | htsx | hmts | hcts
    · exact absurd ⟨Or.inl hts, hd⟩ hdeclared
    · exact htsx
    · exact absurd ⟨Or.inr (Or.inl hmts), hd⟩ hdeclared
    · exact absurd ⟨Or.inr (Or.inr hcts), hd⟩ hdeclared
  · rintro ⟨hmem, hgen, htsx⟩
    refine ⟨⟨hgen, ?_⟩, hmem⟩
    rintro ⟨hdeclared, hd⟩
    rw [htsx hd] at hdeclared
    simp at hdeclared

/-! ## Generated files -/

/-- The extensions with which a generated file is not known as one. The scanner looks for a `gen`
before the last dot, and an extension with a dot of its own moves the last dot away from it. -/
def IsScannedExtension (extension : String) : Prop :=
  ∃ front last, extension = front ++ "." ++ last ∧ last ∈ ["ts", "tsx", "mts", "cts"] ∧
    hasEnding ("." ++ front) ".gen" = false ∧ (hasEnding ("." ++ front) ".d" = true → last = "tsx")

/-- An extension without a dot is known. -/
theorem not_isScannedExtension {extension : String} (h : '.' ∉ extension.toList) :
    ¬ IsScannedExtension extension := by
  rintro ⟨front, last, rfl, -⟩
  simp at h

/-- The condition on an extension, by the characters around its last dot. -/
theorem isScannedExtension_iff {extension : String} {front back : List Char}
    (h : extension.toList = front ++ '.' :: back) (hback : '.' ∉ back) :
    IsScannedExtension extension ↔ String.ofList back ∈ ["ts", "tsx", "mts", "cts"] ∧
      ¬ ".gen".toList <:+ '.' :: front ∧
      (".d".toList <:+ '.' :: front → String.ofList back = "tsx") := by
  have hending : ∀ ending : String, hasEnding ("." ++ String.ofList front) ending = true ↔
      ending.toList <:+ '.' :: front := by
    intro ending
    rw [hasEnding_iff, String.toList_append]
    simp only [String.toList_ofList]
    exact Iff.rfl
  constructor
  · rintro ⟨before, last, rfl, hlast, hgen, htsx⟩
    have hextensions : ∀ word ∈ ["ts", "tsx", "mts", "cts"], '.' ∉ word.toList := by decide
    have hplain := hextensions last hlast
    have hsplit : before.toList ++ '.' :: last.toList = front ++ '.' :: back := by
      rw [← h]
      simp [String.toList_append]
    obtain ⟨rfl, rfl⟩ := append_dot_inj hplain hback hsplit
    simp only [String.ofList_toList] at hending ⊢
    refine ⟨hlast, ?_, fun hd => htsx ((hending ".d").mpr hd)⟩
    intro hsuffix
    rw [(hending ".gen").mpr hsuffix] at hgen
    cases hgen
  · rintro ⟨hlast, hgen, htsx⟩
    refine ⟨String.ofList front, String.ofList back, ?_, hlast, ?_, fun hd => ?_⟩
    · rw [← String.toList_inj, h]
      simp [String.toList_append]
    · rw [← Bool.not_eq_true, hending]
      exact hgen
    · exact htsx ((hending ".d").mp hd)

/-- Whether a generated file counts as a source file is told by the extension it was given. -/
theorem isSourcePath_iff_of_generated {p : Path} {registry extension : String}
    (hname : p.fileName? = some (generatedFileName registry extension)) :
    isSourcePath p = true ↔ IsScannedExtension extension := by
  have hchars : (generatedFileName registry extension).toList =
      registry.toList ++ ".gen".toList ++ '.' :: extension.toList := by
    simp [toList_generatedFileName]
  have hgen : registry.toList ++ ".gen".toList ≠ [] := by simp
  -- the last dot is in the extension or in front of it
  by_cases hdot : '.' ∈ extension.toList
  · obtain ⟨front, back, hsplit, hback⟩ := Path.exists_last_of_mem hdot
    have hlast : (generatedFileName registry extension).toList =
        (registry.toList ++ ".gen".toList ++ '.' :: front) ++ '.' :: back := by
      rw [hchars, hsplit, List.append_assoc _ ('.' :: front), List.cons_append]
    have hword : ∀ word : List Char, '.' ∉ word →
        ('.' :: word <:+ registry.toList ++ ".gen".toList ++ '.' :: front ↔
          '.' :: word <:+ '.' :: front) :=
      fun word hword => dot_suffix_append_iff hword
    rw [isSourcePath_iff hname hlast hback (List.append_ne_nil_of_left_ne_nil hgen _),
      isScannedExtension_iff hsplit hback]
    exact and_congr_right fun _ => and_congr (not_congr (hword "gen".toList (by decide)))
      (imp_congr_left (hword "d".toList (by decide)))
  · rw [isSourcePath_iff hname hchars hdot hgen]
    constructor
    · rintro ⟨-, hsuffix, -⟩
      exact absurd (List.suffix_append registry.toList ".gen".toList) hsuffix
    · intro hscanned
      exact absurd hscanned (not_isScannedExtension hdot)

/-- Whether a generated file counts as a source file does not depend on its registry and on its
directory. When the extension has slashes, the last component of the path is the file name. -/
theorem isSourcePath_join_generatedFileName (directory : Path) {registry : String}
    (hregistry : '/' ∉ registry.toList) (extension : String) :
    isSourcePath (directory.join ⟨generatedFileName registry extension⟩) =
      isSourcePath ⟨generatedFileName "" extension⟩ := by
  obtain ⟨piece, more, hpieces⟩ :=
    List.exists_cons_of_ne_nil (Path.pieces_ne_nil extension.toList)
  obtain ⟨first, hfirst, hne, hcurrent, hcomponents⟩ :=
    components_generatedFileName hregistry hpieces
  have hempty : '/' ∉ "".toList := by decide
  obtain ⟨-, -, -, -, hplain⟩ := components_generatedFileName hempty hpieces
  have hjoin := Path.fileName?_join (p := directory) (q := ⟨generatedFileName registry extension⟩)
    hfirst hne hcurrent
  rw [isSourcePath_congr hjoin]
  cases hmore : more.filterMap Path.Component.ofPiece? with
  | nil =>
      rw [hmore] at hcomponents hplain
      rw [Bool.eq_iff_iff, isSourcePath_iff_of_generated (by rw [Path.fileName?, hcomponents]; rfl),
        isSourcePath_iff_of_generated (by rw [Path.fileName?, hplain]; rfl)]
  | cons step steps =>
      apply isSourcePath_congr
      rw [Path.fileName?, Path.fileName?, hcomponents, hplain, hmore, List.getLast?_cons_cons,
        List.getLast?_cons_cons]

end ClassRegistry
