import ClassRegistry.Proofs.Glob.Growth
import ClassRegistry.Proofs.Scan.Spelling

/-!
# Patterns behind a base

The characters of a base that is written without signs are read as themselves, so the expansion of a
pattern behind it passes through the base. What it finds from there on is spelled from the base,
name by name, as long as no component stands for nothing or for a detour.
-/

namespace ClassRegistry.Glob

open FileTree (IsPlain)

/-! ## Characters without a meaning -/

/-- A character that is no sign. -/
def IsPlainChar (c : Char) : Prop :=
  c ≠ '?' ∧ c ≠ '*' ∧ c ≠ '['

/-- A character without a meaning is read as itself. -/
theorem tokensFrom_cons_plain {c : Char} (h : IsPlainChar c) (bound position : Nat)
    (previous : Option Char) (text : List Char) :
    tokensFrom (bound + 1) position previous (c :: text) =
      (tokensFrom bound (position + 1) (some c) text).map (.char c :: ·) := by
  obtain ⟨hany, hstar, hbracket⟩ := h
  rw [tokensFrom.eq_6 _ _ _ _ _ hany hstar hbracket]
  cases tokensFrom bound (position + 1) (some c) text <;> rfl

/-- Characters without a meaning are read as themselves, whatever follows. -/
theorem tokensFrom_append_plain {front : List Char} (h : ∀ c ∈ front, IsPlainChar c)
    (bound position : Nat) (previous : Option Char) (text : List Char) :
    tokensFrom (front.length + bound) position previous (front ++ text) =
      (tokensFrom bound (position + front.length) (front.getLast?.or previous) text).map
        (front.map .char ++ ·) := by
  induction front generalizing position previous with
  | nil =>
      rw [List.length_nil, Nat.zero_add, List.nil_append, Nat.add_zero, List.getLast?_nil,
        Option.none_or]
      cases tokensFrom bound position previous text <;> rfl
  | cons c rest ih =>
      obtain ⟨hc, hrest⟩ := List.forall_mem_cons.mp h
      have hlast : rest.getLast?.or (some c) = (c :: rest).getLast?.or previous := by
        rw [List.getLast?_cons]
        cases rest.getLast? <;> rfl
      rw [List.length_cons, Nat.add_right_comm, List.cons_append, tokensFrom_cons_plain hc,
        ih hrest, hlast, Nat.add_right_comm position, Nat.add_assoc position]
      cases tokensFrom bound (position + (rest.length + 1)) _ text <;> rfl

/-- Where a text is read does not matter for what is read. -/
theorem toOption_tokensFrom_position (bound position other : Nat) (previous : Option Char)
    (text : List Char) : (tokensFrom bound position previous text).toOption =
      (tokensFrom bound other previous text).toOption := by
  have hcons (token : PatternToken) (e : Except PatternError (List PatternToken)) :
      (do return token :: (← e) : Except PatternError (List PatternToken)).toOption =
        e.toOption.map (token :: ·) := by
    cases e <;> rfl
  induction bound generalizing position other previous text with
  | zero => cases text <;> rfl
  | succ bound ih =>
      cases text with
      | nil => rfl
      | cons c rest =>
          -- only the faults that are left out here tell the position
          by_cases hany : c = '?'
          · subst hany
            rw [tokensFrom.eq_3, tokensFrom.eq_3, hcons, hcons, ih]
          by_cases hstar : c = '*'
          · subst hstar
            rw [tokensFrom.eq_4, tokensFrom.eq_4]
            split
            · rw [hcons, hcons, ih]
            · rfl
            · split
              · rfl
              · split
                · rfl
                · rw [hcons, hcons, ih]
                · rfl
          by_cases hbracket : c = '['
          · subst hbracket
            rw [tokensFrom.eq_5, tokensFrom.eq_5]
            split
            · rfl
            · rw [hcons, hcons, ih]
          · rw [tokensFrom.eq_6 _ _ _ _ _ hany hstar hbracket,
              tokensFrom.eq_6 _ _ _ _ _ hany hstar hbracket, hcons, hcons, ih]

/-- The pattern of a name that is read as itself. -/
def plainPattern (name : String) : Pattern :=
  ⟨name.toList.map .char⟩

/-- A name without signs is read as itself. -/
theorem parse_eq_plainPattern {name : String} (h : ∀ c ∈ name.toList, IsPlainChar c) :
    Pattern.parse name = .ok (plainPattern name) := by
  have htokens := tokensFrom_append_plain h 0 0 none []
  rw [Nat.add_zero, List.append_nil] at htokens
  rw [Pattern.parse, htokens]
  simp [tokensFrom, Except.map, plainPattern]

/-- What is read as itself stands for itself. -/
theorem literal?_plainPattern (name : String) : (plainPattern name).literal? = some name := by
  have hchars (chars : List Char) :
      (chars.map PatternToken.char).mapM PatternToken.char? = some chars := by
    induction chars with
    | nil => rfl
    | cons c rest ih =>
        rw [List.map_cons, List.mapM_cons, ih]
        rfl
  rw [Pattern.literal?, plainPattern, hchars, Option.map_some, String.ofList_toList]

/-- What stands for a name has no signs. -/
theorem eq_plainPattern_of_literal? {p : Pattern} {name : String} (h : p.literal? = some name) :
    p = plainPattern name := by
  obtain ⟨tokens⟩ := p
  obtain ⟨chars, hchars, rfl⟩ := Option.map_eq_some_iff.mp h
  rw [plainPattern, String.toList_ofList, Pattern.mk.injEq]
  clear h
  induction tokens generalizing chars with
  | nil =>
      obtain rfl : [] = chars := by simpa using hchars
      rfl
  | cons token rest ih =>
      rw [List.mapM_cons, Option.bind_eq_bind, Option.bind_eq_some_iff] at hchars
      obtain ⟨first, hfirst, hmore⟩ := hchars
      rw [Option.bind_eq_bind, Option.bind_eq_some_iff] at hmore
      obtain ⟨more, hrest, heq⟩ := hmore
      obtain rfl : first :: more = chars := by simpa using heq
      have htoken : token = .char first := by
        cases token <;> simp_all [PatternToken.char?]
      rw [htoken, List.map_cons, ← ih more hrest]

/-- Only nothing is read as nothing. -/
theorem tokens_ne_nil_of_parse {text : String} (hne : text ≠ "") {p : Pattern}
    (h : Pattern.parse text = .ok p) : p.tokens ≠ [] := by
  obtain ⟨c, rest, htext⟩ :=
    List.exists_cons_of_ne_nil fun hnil => hne (String.toList_eq_nil_iff.mp hnil)
  rw [Pattern.parse, htext, List.length_cons] at h
  cases htokens : tokensFrom (rest.length + 1) 0 none (c :: rest) with
  | error e =>
      rw [htokens] at h
      cases h
  | ok tokens =>
      rw [htokens] at h
      obtain rfl := Except.ok.inj h
      rcases tokensFrom_succ_cases htokens with rfl | ⟨token, _, _, _, others, -, rfl, -⟩
      · exact List.cons_ne_nil _ _
      · exact List.cons_ne_nil _ _

/-- Behind a text without signs, whether a pattern can be read is told by the last character of this
text. -/
theorem exists_parse_append_iff {front back : String} (h : ∀ c ∈ front.toList, IsPlainChar c) :
    (∃ whole, Pattern.parse (front ++ back) = .ok whole) ↔
      ∃ tokens, tokensFrom back.toList.length 0 front.toList.getLast? back.toList = .ok tokens := by
  have hsome {α : Type} (e : Except PatternError α) :
      (∃ value, e = .ok value) ↔ ∃ value, e.toOption = some value := by
    cases e <;> simp [Except.toOption]
  have hread := tokensFrom_append_plain h back.toList.length 0 none back.toList
  rw [Option.or_none] at hread
  rw [Pattern.parse, String.toList_append, List.length_append, hread, hsome, hsome,
    toOption_tokensFrom_position _ 0 (0 + front.toList.length)]
  cases tokensFrom back.toList.length _ front.toList.getLast? back.toList <;>
    simp [Except.map, Except.toOption]

/-! ## Names without signs -/

variable {tree : FileTree}

/-- What is not the working directory gets its entries' names joined. -/
theorem childPath_eq_join {directory : Path} (h : directory.components ≠ [.current])
    (name : String) : childPath directory name = directory.join ⟨name⟩ := by
  rw [childPath, if_neg h]

/-- What is below a place is not the working directory. -/
theorem components_pathBelow_ne_current {root : Path} {names : Address}
    (hnames : ∀ name ∈ names, IsEntryName name) (hne : names ≠ []) :
    (pathBelow root names).components ≠ [.current] := by
  rw [components_pathBelow hnames]
  intro heq
  have hlast := congrArg List.getLast? heq
  rw [List.getLast?_append_of_ne_nil _ (by simpa using hne), List.getLast?_map] at hlast
  simp at hlast

/-- Below what is not the working directory nothing is. -/
theorem components_pathBelow_ne_current_of_root {root : Path} {names : Address}
    (hroot : root.components ≠ [.current]) (hnames : ∀ name ∈ names, IsEntryName name) :
    (pathBelow root names).components ≠ [.current] := by
  by_cases hne : names = []
  · subst hne
    exact hroot
  · exact components_pathBelow_ne_current hnames hne

/-- The entries below a place are those of its names with one more. -/
theorem childPath_pathBelow {root : Path} {names : Address} (hroot : root.components ≠ [.current])
    (hnames : ∀ name ∈ names, IsEntryName name) (name : String) :
    childPath (pathBelow root names) name = pathBelow root (names ++ [name]) := by
  rw [childPath_eq_join (components_pathBelow_ne_current_of_root hroot hnames), pathBelow_append]
  rfl

theorem isThere_iff {directory : Path} {name : String} (hname : IsEntryName name) :
    IsThere tree directory name ↔ tree.contains (childPath directory name) = true := by
  rw [IsThere, if_neg (by simp [hname.ne_current, hname.ne_parent])]

/-- No entry is the working directory. -/
theorem components_join_ne_current {directory : Path} {name : String} (hname : IsEntryName name) :
    (directory.join ⟨name⟩).components ≠ [.current] := by
  have hbelow : (pathBelow directory [name]).components ≠ [.current] :=
    components_pathBelow_ne_current (List.forall_mem_singleton.mpr hname) (List.cons_ne_nil name [])
  exact hbelow

/-- A name that is read as itself leads to the entry of this name. -/
theorem expands_plain_cons_iff {name : String} {patterns : List Pattern} {directory q : Path} :
    Expands tree (plainPattern name :: patterns) directory q ↔
      IsThere tree directory name ∧ Expands tree patterns (childPath directory name) q := by
  have hliteral := literal?_plainPattern name
  constructor
  · intro h
    cases h with
    | step hstep hexpands =>
        obtain ⟨hthere, rfl, rfl⟩ := (step_iff_of_literal?_eq_some hliteral).mp hstep
        exact ⟨hthere, hexpands⟩
  · rintro ⟨hthere, hexpands⟩
    exact .step (.literal hliteral hthere) hexpands

/-- An expansion goes through names that are read as themselves to the path that they lead to. -/
theorem Expands.of_plain {names : Address} {patterns : List Pattern} {directory q : Path}
    (hnames : ∀ name ∈ names, IsEntryName name) (hcurrent : directory.components ≠ [.current])
    (h : Expands tree (names.map plainPattern ++ patterns) directory q) :
    Expands tree patterns (pathBelow directory names) q := by
  induction names generalizing directory with
  | nil => exact h
  | cons name rest ih =>
      obtain ⟨hname, hrest⟩ := List.forall_mem_cons.mp hnames
      obtain ⟨-, hexpands⟩ := expands_plain_cons_iff.mp h
      rw [childPath_eq_join hcurrent] at hexpands
      exact ih hrest (components_join_ne_current hname) hexpands

/-- What leads to a directory below is there. -/
theorem contains_of_isDirectory_pathBelow (h : tree.IsPlain) {root : Path} {names : Address}
    (hnames : ∀ name ∈ names, IsEntryName name) (hne : root.text ≠ "")
    (hdirectory : tree.isDirectory (pathBelow root names) = true) : tree.contains root = true := by
  obtain ⟨address, haddress⟩ := h.exists_isDirectoryOf hdirectory
  obtain ⟨_, hresolve, -⟩ := FileTree.isDirectory_iff.mp hdirectory
  have htext := (h.resolve_eq_ok_iff.mp hresolve).1
  have hroot : FileTree.textFault? (pathBelow root []) = none :=
    FileTree.textFault?_pathBelow_of_append hne hnames htext
  have hleads := haddress.leads
  rw [h.followLinks_eq, startOf_pathBelow hnames, leadingNames_pathBelow hnames,
    FileTree.follow_append] at hleads
  split at hleads
  · rename_i mid hmid
    have hget : tree.get? mid = some .directory := by
      by_cases hnil : names = []
      · rw [hnil, FileTree.follow] at hleads
        rw [FileTree.Reached.entry.inj (Except.ok.inj hleads)]
        exact haddress.get?_eq
      · exact FileTree.get?_eq_directory_of_follow hnil hleads
    rw [← h.followLinks_eq FileTree.maximalLinks] at hmid
    have hplace : tree.IsDirectoryOf root mid := ⟨hmid, hget⟩
    exact FileTree.contains_of_isDirectory (hplace.isDirectory_eq hroot)
  all_goals cases hleads

/-- What is found from the path that names lead to, when they lead to a directory, is found through
these names. -/
theorem Expands.through_plain (h : tree.IsPlain) {names : Address} {patterns : List Pattern}
    {directory q : Path} (hnames : ∀ name ∈ names, IsEntryName name)
    (hcurrent : directory.components ≠ [.current])
    (hdirectory : tree.isDirectory (pathBelow directory names) = true)
    (hexpands : Expands tree patterns (pathBelow directory names) q) :
    Expands tree (names.map plainPattern ++ patterns) directory q := by
  induction names generalizing directory with
  | nil => exact hexpands
  | cons name rest ih =>
      obtain ⟨hname, hrest⟩ := List.forall_mem_cons.mp hnames
      have hmore := ih hrest (components_join_ne_current hname) hdirectory hexpands
      have htext : (directory.join ⟨name⟩).text ≠ "" := by
        rw [Path.join_eq_lead (Path.isAbsolute_eq_false hname.slash_notMem)]
        simp [hname.ne_empty]
      refine expands_plain_cons_iff.mpr ⟨?_, ?_⟩
      · rw [isThere_iff hname, childPath_eq_join hcurrent]
        exact contains_of_isDirectory_pathBelow h hrest htext hdirectory
      · rw [childPath_eq_join hcurrent]
        exact hmore

/-! ## Patterns behind a base -/

/-- A component that stands for `.` or `..`. -/
def MeansDots (p : Pattern) : Prop :=
  p.tokens.head? = some (.char '.') ∧ ∃ name ∈ [".", ".."], p.matches name = true

/-- It can be told whether a component stands for dots. -/
instance decidableMeansDots : DecidablePred MeansDots :=
  fun p => inferInstanceAs (Decidable (p.tokens.head? = some (.char '.') ∧
    ∃ name ∈ [".", ".."], p.matches name = true))

/-- It can be told whether an entry can have a name. -/
instance decidableIsEntryName : DecidablePred IsEntryName :=
  fun name => decidable_of_iff (name ≠ "" ∧ name ≠ "." ∧ name ≠ ".." ∧ '/' ∉ name.toList)
    ⟨fun ⟨hempty, hcurrent, hparent, hslash⟩ => ⟨hempty, hcurrent, hparent, hslash⟩,
      fun h => ⟨h.ne_empty, h.ne_current, h.ne_parent, h.slash_notMem⟩⟩

/-- A text of proper names, none of which stands for `.` or `..` when it is read as a pattern. -/
def IsWrittenStraight (text : String) : Prop :=
  ∀ name ∈ (Path.mk text).names, IsEntryName name ∧
    ∀ p ∈ (Pattern.parse name).toOption, ¬ MeansDots p

/-- It can be told whether a text is written straight. -/
instance decidableIsWrittenStraight : DecidablePred IsWrittenStraight :=
  fun text => inferInstanceAs (Decidable (∀ name ∈ (Path.mk text).names, IsEntryName name ∧
    ∀ p ∈ (Pattern.parse name).toOption, ¬ MeansDots p))

/-- The names of a straight text are proper ones. -/
theorem IsWrittenStraight.isEntryName {text : String} (h : IsWrittenStraight text) :
    ∀ name ∈ (Path.mk text).names, IsEntryName name :=
  fun name hname => (h name hname).1

/-- Components that stand for names of entries. -/
def StandForNames (patterns : List Pattern) : Prop :=
  ∀ p ∈ patterns, ¬ MeansDots p ∧ ∀ name, p.literal? = some name → IsEntryName name

/-- The components of a text that is written straight stand for names of entries. -/
theorem standForNames_of_mapM_parse {text : String} (htext : IsWrittenStraight text)
    {patterns : List Pattern} (h : (Path.mk text).names.mapM Pattern.parse = .ok patterns) :
    StandForNames patterns := by
  intro p hp
  obtain ⟨part, hpart, hparse⟩ := exists_of_mem_mapM_parse h hp
  obtain ⟨hentry, hstraight⟩ := htext part hpart
  have hdots : ¬ MeansDots p := hstraight p (by rw [hparse]; rfl)
  refine ⟨hdots, fun name hname => ?_⟩
  have hplain := eq_plainPattern_of_literal? hname
  refine ⟨?_, ?_, ?_, slash_notMem_of_literal? hentry.slash_notMem hparse hname⟩
  · rintro rfl
    exact tokens_ne_nil_of_parse hentry.ne_empty hparse (congrArg Pattern.tokens hplain)
  · rintro rfl
    apply hdots
    rw [hplain]
    exact ⟨rfl, ".", by decide, by decide⟩
  · rintro rfl
    apply hdots
    rw [hplain]
    exact ⟨rfl, "..", by decide, by decide⟩

/-- What starts a path starts what is below. -/
theorem isAbsolute_pathBelow {root : Path} {names : Address}
    (hnames : ∀ name ∈ names, IsEntryName name) :
    (pathBelow root names).isAbsolute = root.isAbsolute := by
  induction names generalizing root with
  | nil => rfl
  | cons name rest ih =>
      obtain ⟨hname, hrest⟩ := List.forall_mem_cons.mp hnames
      exact (ih hrest).trans (Path.isAbsolute_join hname.slash_notMem)

/-- The components of a path are the proper names that it is made of. -/
theorem componentTexts_pathBelow {start : String} (hstart : start = "/" ∨ start = "")
    {names : Address} (hnames : ∀ name ∈ names, IsEntryName name) (hne : names ≠ []) :
    componentTexts (pathBelow ⟨start⟩ names) = names := by
  have hlast : ∀ front : List String, (front ++ names).getLast? ≠ some "" := by
    intro front hempty
    rw [List.getLast?_append_of_ne_nil _ hne] at hempty
    exact (hnames "" (List.mem_of_getLast? hempty)).ne_empty rfl
  rw [componentTexts, isAbsolute_pathBelow hnames, names_pathBelow hnames hne]
  rcases hstart with rfl | rfl
  · have hroot : (Path.mk "/").leadingNames = [""] ∧ (Path.mk "/").isAbsolute = true := by decide
    rw [hroot.1, hroot.2, if_pos rfl, List.singleton_append, List.tail_cons]
    exact if_neg (hlast [])
  · have hnone : (Path.mk "").leadingNames = [] ∧ (Path.mk "").isAbsolute = false := by decide
    rw [hnone.1, hnone.2, if_neg Bool.false_ne_true, List.nil_append]
    exact if_neg (hlast [])

/-- Names without signs are read as themselves, one by one. -/
theorem mapM_parse_eq_plain {names : List String}
    (h : ∀ name ∈ names, ∀ c ∈ name.toList, IsPlainChar c) :
    names.mapM Pattern.parse = .ok (names.map plainPattern) := by
  induction names with
  | nil => rfl
  | cons name rest ih =>
      obtain ⟨hname, hrest⟩ := List.forall_mem_cons.mp h
      rw [List.mapM_cons, parse_eq_plainPattern hname, ih hrest]
      rfl

/-- Behind names without signs the components of a pattern are read as by themselves. -/
theorem mapM_parse_append {names texts : List String}
    (h : ∀ name ∈ names, ∀ c ∈ name.toList, IsPlainChar c) {patterns : List Pattern} :
    (names ++ texts).mapM Pattern.parse = .ok patterns ↔
      ∃ more, texts.mapM Pattern.parse = .ok more ∧ patterns = names.map plainPattern ++ more := by
  rw [List.mapM_append, mapM_parse_eq_plain h]
  cases texts.mapM Pattern.parse with
  | error e => simp [bind, Except.bind]
  | ok more => simp [bind, Except.bind, pure, Except.pure, eq_comm]

/-- Where something is read something comes of it. -/
theorem ne_nil_of_mapM_parse {texts : List String} (hne : texts ≠ []) {patterns : List Pattern}
    (h : texts.mapM Pattern.parse = .ok patterns) : patterns ≠ [] := by
  obtain ⟨text, rest, rfl⟩ := List.exists_cons_of_ne_nil hne
  rintro rfl
  rw [List.mapM_cons] at h
  revert h
  cases Pattern.parse text <;> cases rest.mapM Pattern.parse <;>
    simp [bind, Except.bind, pure, Except.pure]

/-- Where the expansion of a path starts. -/
def expansionStart (p : Path) : Path :=
  if p.isAbsolute then ⟨"/"⟩ else ⟨"."⟩

section Base

variable {start : String} {names : Address} {patterns : List Pattern} {q : Path}

/-- The first name of a relative base is the entry of this name in the working directory. -/
theorem childPath_dot (name : String) : childPath ⟨"."⟩ name = (Path.mk "").join ⟨name⟩ := by
  have hempty : (Path.mk name).isAbsolute || (Path.mk "").text.isEmpty := by simp
  rw [childPath, if_pos (by decide), Path.join, if_pos hempty]

/-- What is found behind a base without signs is found from the base on. -/
theorem Expands.from_base (hstart : start = "/" ∨ start = "" ∧ names ≠ [])
    (hnames : ∀ name ∈ names, IsEntryName name)
    (h : Expands tree (names.map plainPattern ++ patterns) (expansionStart ⟨start⟩) q) :
    Expands tree patterns (pathBelow ⟨start⟩ names) q := by
  rcases hstart with rfl | ⟨rfl, hne⟩
  · exact h.of_plain hnames (by decide)
  · obtain ⟨name, rest, rfl⟩ := List.exists_cons_of_ne_nil hne
    obtain ⟨hname, hrest⟩ := List.forall_mem_cons.mp hnames
    obtain ⟨-, hmore⟩ := expands_plain_cons_iff.mp h
    have hdot : expansionStart ⟨""⟩ = ⟨"."⟩ := by decide
    rw [hdot, childPath_dot] at hmore
    have hfound := hmore.of_plain hrest (components_join_ne_current hname)
    exact hfound

/-- What is found from a base without signs on, when it is a directory, is found behind it. -/
theorem Expands.through_base (h : tree.IsPlain) (hstart : start = "/" ∨ start = "" ∧ names ≠ [])
    (hnames : ∀ name ∈ names, IsEntryName name)
    (hdirectory : tree.isDirectory (pathBelow ⟨start⟩ names) = true)
    (hexpands : Expands tree patterns (pathBelow ⟨start⟩ names) q) :
    Expands tree (names.map plainPattern ++ patterns) (expansionStart ⟨start⟩) q := by
  rcases hstart with rfl | ⟨rfl, hne⟩
  · exact hexpands.through_plain h hnames (by decide) hdirectory
  · obtain ⟨name, rest, rfl⟩ := List.exists_cons_of_ne_nil hne
    obtain ⟨hname, hrest⟩ := List.forall_mem_cons.mp hnames
    have hdot : expansionStart ⟨""⟩ = ⟨"."⟩ := by decide
    have htext : (Path.mk "").join ⟨name⟩ = ⟨name⟩ := by
      rw [← childPath_dot]
      rfl
    refine expands_plain_cons_iff.mpr ⟨?_, ?_⟩
    · rw [isThere_iff hname, hdot, childPath_dot]
      refine contains_of_isDirectory_pathBelow h hrest ?_ hdirectory
      rw [htext]
      exact hname.ne_empty
    · rw [hdot, childPath_dot]
      exact hexpands.through_plain h hrest (components_join_ne_current hname) hdirectory

end Base

/-- A base that is written plainly: names without signs behind the root, or behind nothing. -/
def IsWrittenPlainly (base : Path) : Prop :=
  ∃ start names, (start = "/" ∨ start = "" ∧ names ≠ []) ∧
    (∀ name ∈ names, IsEntryName name ∧ ∀ c ∈ name.toList, IsPlainChar c) ∧
    base = pathBelow ⟨start⟩ names

/-! ## Steps from a base -/

/-- Components that stand for names lead from name to name. -/
theorem Step.exists_join (h : tree.IsPlain) {patterns left : List Pattern} {directory path : Path}
    (hstand : StandForNames patterns) (hcurrent : directory.components ≠ [.current])
    (hstep : Step tree patterns directory left path) :
    ∃ name, IsEntryName name ∧ path = directory.join ⟨name⟩ := by
  have hchild : ∀ name, name ∈ childNames tree directory →
      ∃ other, IsEntryName other ∧ childPath directory name = directory.join ⟨other⟩ :=
    fun name hname =>
      ⟨name, isEntryName_of_mem_childNames h hname, childPath_eq_join hcurrent name⟩
  cases hstep with
  | @literal p _ _ name hname =>
      exact ⟨name, (hstand p List.mem_cons_self).2 name hname, childPath_eq_join hcurrent name⟩
  | matched _ hname => exact hchild _ hname
  | reached _ hname => exact hchild _ hname
  | descend _ hname => exact hchild _ hname
  | @dots p _ _ name _ hhead _ hdots hmatches =>
      exact absurd ⟨hhead, name, hdots, hmatches⟩ (hstand p List.mem_cons_self).1

/-- What components that stand for names lead to is spelled from where they start. -/
theorem Expands.exists_pathBelow (h : tree.IsPlain) {patterns : List Pattern} {directory q : Path}
    (hstand : StandForNames patterns) (hcurrent : directory.components ≠ [.current])
    (hexpands : Expands tree patterns directory q) :
    ∃ names, (∀ name ∈ names, IsEntryName name) ∧ q = pathBelow directory names := by
  induction hexpands with
  | done => exact ⟨[], List.forall_mem_nil _, rfl⟩
  | step hstep _ ih =>
      obtain ⟨name, hname, rfl⟩ := hstep.exists_join h hstand hcurrent
      obtain ⟨rest, hrest, hq⟩ := ih (fun p hp => hstand p (hstep.subset hp))
        (components_join_ne_current hname)
      exact ⟨name :: rest, List.forall_mem_cons.mpr ⟨hname, hrest⟩, hq⟩

section Behind

variable {start text : String} {names : Address}

/-- A straight text behind plain names is read as the names and then the text. -/
theorem mapM_parse_pathBelow_join_iff (hstart : start = "/" ∨ start = "")
    (hnames : ∀ name ∈ names, IsEntryName name ∧ ∀ c ∈ name.toList, IsPlainChar c)
    (htext : IsWrittenStraight text) {patterns : List Pattern} :
    (componentTexts ((pathBelow ⟨start⟩ names).join ⟨text⟩)).mapM Pattern.parse = .ok patterns ↔
      ∃ more, (Path.mk text).names.mapM Pattern.parse = .ok more ∧
        patterns = names.map plainPattern ++ more := by
  have hall : ∀ name ∈ names ++ (Path.mk text).names, IsEntryName name := by
    intro name hname
    exact (List.mem_append.mp hname).elim (fun hname => (hnames name hname).1)
      (htext.isEntryName name)
  have hne : names ++ (Path.mk text).names ≠ [] :=
    List.append_ne_nil_of_right_ne_nil _ (Path.names_ne_nil _)
  rw [join_eq_pathBelow htext.isEntryName, ← pathBelow_append,
    componentTexts_pathBelow hstart hall hne, mapM_parse_append fun name hname => (hnames name hname).2]

/-- With a straight text behind it a place is absolute when what it stands below is. -/
theorem isAbsolute_pathBelow_join (hnames : ∀ name ∈ names, IsEntryName name)
    (htext : IsWrittenStraight text) :
    ((pathBelow ⟨start⟩ names).join ⟨text⟩).isAbsolute = (Path.mk start).isAbsolute := by
  rw [join_eq_pathBelow htext.isEntryName, isAbsolute_pathBelow htext.isEntryName,
    isAbsolute_pathBelow hnames]

end Behind

section Named

variable {base q : Path} {text : String}

/-- What a pattern behind a plainly written base names is found from the base on. -/
theorem expands_of_isNamed (h : tree.IsPlain) (hbase : IsWrittenPlainly base)
    (htext : IsWrittenStraight text) (hnamed : IsNamed tree (base.join ⟨text⟩) q) :
    ∃ patterns, (Path.mk text).names.mapM Pattern.parse = .ok patterns ∧
      Expands tree patterns base q := by
  obtain ⟨start, names, hstart, hnames, rfl⟩ := hbase
  have hentries : ∀ name ∈ names, IsEntryName name := fun name hname => (hnames name hname).1
  obtain ⟨-, patterns, hpatterns, -, -, hexpands⟩ := (isNamed_iff h).mp hnamed
  obtain ⟨more, hmore, rfl⟩ :=
    (mapM_parse_pathBelow_join_iff (hstart.imp_right And.left) hnames htext).mp hpatterns
  rw [isAbsolute_pathBelow_join hentries htext] at hexpands
  exact ⟨more, hmore, hexpands.from_base hstart hentries⟩

/-- A plainly written base is not the working directory. -/
theorem IsWrittenPlainly.components_ne_current (h : IsWrittenPlainly base) :
    base.components ≠ [.current] := by
  obtain ⟨start, names, hstart, hnames, rfl⟩ := h
  have hentries : ∀ name ∈ names, IsEntryName name := fun name hname => (hnames name hname).1
  rcases hstart with rfl | ⟨rfl, hne⟩
  · exact components_pathBelow_ne_current_of_root (by decide) hentries
  · exact components_pathBelow_ne_current hentries hne

/-- What names are written behind has no signs when the names have none. -/
theorem isPlainChar_of_mem_lead {root : Path} {names : Address}
    (hroot : ∀ c ∈ root.lead.toList, IsPlainChar c)
    (hnames : ∀ name ∈ names, IsEntryName name ∧ ∀ c ∈ name.toList, IsPlainChar c) :
    ∀ c ∈ (pathBelow root names).lead.toList, IsPlainChar c := by
  induction names generalizing root with
  | nil => exact hroot
  | cons name rest ih =>
      obtain ⟨⟨hname, hplain⟩, hrest⟩ := List.forall_mem_cons.mp hnames
      suffices hnext : ∀ c ∈ (root.join ⟨name⟩).lead.toList, IsPlainChar c from ih hnext hrest
      intro c hc
      rw [Path.lead_join hname, String.toList_append, String.toList_append, List.mem_append,
        List.mem_append] at hc
      rcases hc with (hc | hc) | hc
      · exact hroot c hc
      · exact hplain c hc
      · obtain rfl : c = '/' := List.mem_singleton.mp hc
        exact ⟨by decide, by decide, by decide⟩

/-- Behind a plainly written base a pattern can be read as it can behind a slash. -/
theorem IsWrittenPlainly.exists_parse_join_iff (h : IsWrittenPlainly base)
    (htext : (Path.mk text).isAbsolute = false) :
    (∃ whole, Pattern.parse (base.join ⟨text⟩).text = .ok whole) ↔
      ∃ tokens, tokensFrom text.toList.length 0 (some '/') text.toList = .ok tokens := by
  obtain ⟨start, names, hstart, hnames, rfl⟩ := h
  have hplain : ∀ c ∈ (pathBelow ⟨start⟩ names).lead.toList, IsPlainChar c := by
    refine isPlainChar_of_mem_lead ?_ hnames
    rcases hstart with rfl | ⟨rfl, -⟩
    · intro c hc
      obtain rfl : c = '/' := List.mem_singleton.mp hc
      exact ⟨by decide, by decide, by decide⟩
    · exact List.forall_mem_nil _
  have hlast : (pathBelow ⟨start⟩ names).lead.toList.getLast? = some '/' := by
    rcases List.eq_nil_or_concat' names with rfl | ⟨front, name, rfl⟩
    · obtain rfl := hstart.resolve_right fun hnone => hnone.2 rfl
      rfl
    · have hbelow : pathBelow ⟨start⟩ (front ++ [name]) = (pathBelow ⟨start⟩ front).join ⟨name⟩ :=
        pathBelow_append _ front [name]
      rw [hbelow, Path.lead_join (hnames name (by simp)).1, String.toList_append]
      exact List.getLast?_concat
  rw [Path.join_eq_lead htext, exists_parse_append_iff hplain, hlast]

/-- What a pattern behind a plainly written base names is told from the base on, whatever the text
of the base is. -/
theorem isNamed_join_iff (h : tree.IsPlain) (hbase : IsWrittenPlainly base)
    (htext : IsWrittenStraight text) (hdirectory : tree.isDirectory base = true) :
    IsNamed tree (base.join ⟨text⟩) q ↔
      (∃ tokens, tokensFrom text.toList.length 0 (some '/') text.toList = .ok tokens) ∧
      ∃ patterns, (Path.mk text).names.mapM Pattern.parse = .ok patterns ∧
        tree.isDirectory q = true ∧ Expands tree patterns base q := by
  have hrelative : (Path.mk text).isAbsolute = false :=
    isAbsolute_eq_false_of_names htext.isEntryName
  rw [← hbase.exists_parse_join_iff hrelative]
  constructor
  · intro hnamed
    obtain ⟨hwhole, -⟩ := (isNamed_iff h).mp hnamed
    obtain ⟨patterns, hpatterns, hexpands⟩ := expands_of_isNamed h hbase htext hnamed
    exact ⟨hwhole, patterns, hpatterns, isDirectory_of_isNamed hnamed, hexpands⟩
  · rintro ⟨hwhole, patterns, hpatterns, hq, hexpands⟩
    obtain ⟨start, names, hstart, hnames, rfl⟩ := hbase
    have hentries : ∀ name ∈ names, IsEntryName name := fun name hname => (hnames name hname).1
    have hread : (componentTexts ((pathBelow ⟨start⟩ names).join ⟨text⟩)).mapM Pattern.parse =
        .ok (names.map plainPattern ++ patterns) :=
      (mapM_parse_pathBelow_join_iff (hstart.imp_right And.left) hnames htext).mpr
        ⟨patterns, hpatterns, rfl⟩
    refine (isNamed_iff h).mpr ⟨hwhole, _, hread, ?_, hq, ?_⟩
    · exact List.append_ne_nil_of_right_ne_nil _
        (ne_nil_of_mapM_parse (Path.names_ne_nil ⟨text⟩) hpatterns)
    · rw [isAbsolute_pathBelow_join hentries htext]
      exact hexpands.through_base h hstart hentries hdirectory

/-- What a pattern behind a plainly written base names is spelled from the base. -/
theorem exists_pathBelow_of_isNamed (h : tree.IsPlain) (hbase : IsWrittenPlainly base)
    (htext : IsWrittenStraight text) (hnamed : IsNamed tree (base.join ⟨text⟩) q) :
    ∃ names, (∀ name ∈ names, IsEntryName name) ∧ q = pathBelow base names := by
  obtain ⟨patterns, hpatterns, hexpands⟩ := expands_of_isNamed h hbase htext hnamed
  exact hexpands.exists_pathBelow h (standForNames_of_mapM_parse htext hpatterns)
    hbase.components_ne_current

end Named

end ClassRegistry.Glob
