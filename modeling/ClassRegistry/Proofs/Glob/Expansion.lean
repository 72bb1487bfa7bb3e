import ClassRegistry.Proofs.FileTree.Entries
import ClassRegistry.Proofs.FileTree.Plain
import ClassRegistry.Proofs.Glob.Literal

/-!
# What an expansion finds

An expansion goes from path to path and deals with one component after the other. All that it can do
at once is said by the relation `Step`, and what it finds by the steps that lead there. In a plain
tree the number of steps that an expansion is allowed is always enough.
-/

namespace ClassRegistry.Glob

open FileTree (IsPlain)

variable {tree : FileTree}

/-! ## Steps -/

/-- What is left to match an entry against: nothing of a `**` and of those behind it. -/
def pending (p : Pattern) (rest : List Pattern) : List Pattern :=
  if p.isRecursive then rest.dropWhile (·.isRecursive) else p :: rest

/-- The file name of a path matches a component. -/
def FileNameMatches (p : Pattern) (path : Path) : Prop :=
  (path.fileName?.map p.matches).getD false = true

/-- What a name without signs stands for is there. -/
def IsThere (tree : FileTree) (directory : Path) (name : String) : Prop :=
  (if name = "." ∨ name = ".." then tree.isDirectory directory
    else tree.contains (childPath directory name)) = true

/-- One step from a path to the next one, with what is left of the components. -/
inductive Step (tree : FileTree) : List Pattern → Path → List Pattern → Path → Prop
  /-- A component without signs leads to the entry of its name. -/
  | literal {p : Pattern} {rest : List Pattern} {directory : Path} {name : String} :
    p.literal? = some name → IsThere tree directory name →
    Step tree (p :: rest) directory rest (childPath directory name)
  /-- A component is matched by the name of an entry. -/
  | matched {p q : Pattern} {rest left : List Pattern} {directory : Path} {name : String} :
    p.literal? = none → name ∈ childNames tree directory → pending p rest = q :: left →
    FileNameMatches q (childPath directory name) →
    Step tree (p :: rest) directory left (childPath directory name)
  /-- A `**` at the end is matched by a directory. -/
  | reached {p : Pattern} {rest : List Pattern} {directory : Path} {name : String} :
    p.literal? = none → name ∈ childNames tree directory → pending p rest = [] →
    tree.isDirectory (childPath directory name) = true →
    Step tree (p :: rest) directory [] (childPath directory name)
  /-- A `**` goes down into a directory. -/
  | descend {p : Pattern} {rest : List Pattern} {directory : Path} {name : String} :
    p.literal? = none → name ∈ childNames tree directory → p.isRecursive = true →
    tree.isDirectory (childPath directory name) = true →
    Step tree (p :: rest) directory (p :: rest.dropWhile (·.isRecursive)) (childPath directory name)
  /-- A component that starts with a dot is matched by `.` or `..`. -/
  | dots {p : Pattern} {rest : List Pattern} {directory : Path} {name : String} :
    p.literal? = none → p.tokens.head? = some (.char '.') → tree.isDirectory directory = true →
    name ∈ [".", ".."] → p.matches name = true →
    Step tree (p :: rest) directory rest (directory.join ⟨name⟩)

/-- What is found: where a step leads when nothing is left, or what is found from there on. -/
def IsFound (tree : FileTree) (bound : Nat) (left : List Pattern) (path q : Path) : Prop :=
  (left = [] ∧ q = path) ∨ q ∈ expand tree bound left path

theorem expand_nil (bound : Nat) (path : Path) : expand tree bound [] path = [] := by
  cases bound with
  | zero => rfl
  | succ bound => rfl

/-- A path is found itself, or others from there on. -/
theorem mem_found {bound : Nat} {left : List Pattern} {path q : Path} :
    q ∈ (if left.isEmpty then [path] else expand tree bound left path) ↔
      IsFound tree bound left path q := by
  rw [IsFound]
  cases left with
  | nil => simp [expand_nil]
  | cons p rest => simp

/-- All that is found from an entry on. -/
theorem mem_expandEntry {bound : Nat} {p : Pattern} {rest : List Pattern} {path q : Path} :
    q ∈ expandEntry tree (expand tree bound) (p :: rest) path ↔
      (∃ r left, pending p rest = r :: left ∧ FileNameMatches r path ∧
        IsFound tree bound left path q) ∨
      (pending p rest = [] ∧ tree.isDirectory path = true ∧ q = path) ∨
      (p.isRecursive = true ∧ tree.isDirectory path = true ∧
        q ∈ expand tree bound (p :: rest.dropWhile (·.isRecursive)) path) := by
  have hnamed : ∀ r left, q ∈ (if (path.fileName?.map r.matches).getD false then
      if left.isEmpty then [path] else expand tree bound left path else []) ↔
      FileNameMatches r path ∧ IsFound tree bound left path q := by
    intro r left
    rw [FileNameMatches, ← mem_found]
    split
    · rename_i hmatches
      simp [hmatches]
    · rename_i hmatches
      simp [hmatches]
  -- what is pending is another component only behind a `**`
  cases hrecursive : p.isRecursive with
  | false =>
      simp only [expandEntry, pending, hrecursive, Bool.false_eq_true, if_false, hnamed]
      simp
  | true =>
      cases hdrop : rest.dropWhile (·.isRecursive) with
      | nil =>
          cases hdirectory : tree.isDirectory path with
          | false => simp [expandEntry, pending, hrecursive, hdrop, hdirectory]
          | true =>
              simp [expandEntry, pending, hrecursive, hdrop, hdirectory, or_comm]
      | cons r left =>
          cases hdirectory : tree.isDirectory path with
          | false =>
              simp only [expandEntry, pending, hrecursive, hdrop, hdirectory, if_true, hnamed,
                Bool.false_eq_true, if_false, List.isEmpty_cons]
              simp
          | true =>
              simp only [expandEntry, pending, hrecursive, hdrop, hdirectory, if_true, hnamed,
                List.mem_append]
              simp [or_comm]

section Steps

variable {bound : Nat} {p : Pattern} {rest : List Pattern} {directory q : Path}

/-- A component without signs leads to the entry of its name and to nothing else. -/
theorem step_iff_of_literal?_eq_some {left : List Pattern} {path : Path} {name : String}
    (hliteral : p.literal? = some name) :
    Step tree (p :: rest) directory left path ↔
      IsThere tree directory name ∧ left = rest ∧ path = childPath directory name := by
  constructor
  · intro hstep
    cases hstep with
    | literal hname hthere =>
        obtain rfl := Option.some.inj (hliteral.symm.trans hname)
        exact ⟨hthere, rfl, rfl⟩
    | matched hnone => simp [hliteral] at hnone
    | reached hnone => simp [hliteral] at hnone
    | descend hnone => simp [hliteral] at hnone
    | dots hnone => simp [hliteral] at hnone
  · rintro ⟨hthere, rfl, rfl⟩
    exact .literal hliteral hthere

theorem exists_step_iff_of_literal?_eq_some {name : String} (hliteral : p.literal? = some name) :
    (∃ left path, Step tree (p :: rest) directory left path ∧ IsFound tree bound left path q) ↔
      IsThere tree directory name ∧ IsFound tree bound rest (childPath directory name) q := by
  constructor
  · rintro ⟨left, path, hstep, hfound⟩
    obtain ⟨hthere, rfl, rfl⟩ := (step_iff_of_literal?_eq_some hliteral).mp hstep
    exact ⟨hthere, hfound⟩
  · rintro ⟨hthere, hfound⟩
    exact ⟨rest, _, .literal hliteral hthere, hfound⟩

/-- A component with signs leads on from the entries, or to `.` and `..`, which are no entries. -/
theorem exists_step_iff_of_literal?_eq_none (hliteral : p.literal? = none) :
    (∃ left path, Step tree (p :: rest) directory left path ∧ IsFound tree bound left path q) ↔
      (∃ name ∈ childNames tree directory,
        q ∈ expandEntry tree (expand tree bound) (p :: rest) (childPath directory name)) ∨
      (p.tokens.head? = some (.char '.') ∧ tree.isDirectory directory = true ∧
        ∃ name ∈ [".", ".."], p.matches name = true ∧
          IsFound tree bound rest (directory.join ⟨name⟩) q) := by
  simp only [mem_expandEntry]
  constructor
  · rintro ⟨left, path, hstep, hfound⟩
    cases hstep with
    | literal hname => simp [hliteral] at hname
    | matched _ hchild hpending hmatches =>
        exact Or.inl ⟨_, hchild, Or.inl ⟨_, left, hpending, hmatches, hfound⟩⟩
    | @reached _ _ _ name _ hchild hpending hisDir =>
        have hq : q = childPath directory name := by
          rcases hfound with ⟨-, hq⟩ | hq
          · exact hq
          · rw [expand_nil] at hq
            cases hq
        exact Or.inl ⟨name, hchild, Or.inr (Or.inl ⟨hpending, hisDir, hq⟩)⟩
    | @descend _ _ _ name _ hchild hrecursive hisDir =>
        rcases hfound with ⟨hnil, -⟩ | hq
        · cases hnil
        · exact Or.inl ⟨name, hchild, Or.inr (Or.inr ⟨hrecursive, hisDir, hq⟩)⟩
    | @dots _ _ _ name _ hhead hisDir hdots hmatches =>
        exact Or.inr ⟨hhead, hisDir, name, hdots, hmatches, hfound⟩
  · rintro (⟨name, hchild, ⟨r, left, hpending, hmatches, hfound⟩ | ⟨hpending, hisDir, rfl⟩ |
      ⟨hrecursive, hisDir, hq⟩⟩ | ⟨hhead, hisDir, name, hdots, hmatches, hfound⟩)
    · exact ⟨left, _, .matched hliteral hchild hpending hmatches, hfound⟩
    · exact ⟨[], _, .reached hliteral hchild hpending hisDir, Or.inl ⟨rfl, rfl⟩⟩
    · exact ⟨_, _, .descend hliteral hchild hrecursive hisDir, Or.inr hq⟩
    · exact ⟨rest, _, .dots hliteral hhead hisDir hdots hmatches, hfound⟩

/-- An expansion finds what a step leads to and what is found from there on. -/
theorem mem_expand_succ : q ∈ expand tree (bound + 1) (p :: rest) directory ↔
    ∃ left path, Step tree (p :: rest) directory left path ∧ IsFound tree bound left path q := by
  rw [expand]
  cases hliteral : p.literal? with
  | some name =>
      rw [exists_step_iff_of_literal?_eq_some hliteral, ← mem_found]
      simp only
      by_cases hthere : IsThere tree directory name
      · rw [and_iff_right hthere]
        rw [IsThere] at hthere
        rw [if_pos hthere]
      · rw [iff_false_right fun h => hthere h.1]
        rw [IsThere] at hthere
        rw [if_neg hthere]
        exact List.not_mem_nil
  | none =>
      rw [exists_step_iff_of_literal?_eq_none hliteral]
      simp only [List.mem_append, List.mem_flatMap, mem_found]
      refine or_congr Iff.rfl ?_
      split
      · rename_i hspecial
        obtain ⟨hhead, hisDir⟩ := Bool.and_eq_true_iff.mp hspecial
        simp only [List.mem_filter, and_assoc, of_decide_eq_true hhead, hisDir, true_and]
      · rename_i hspecial
        have hnone : ¬ (p.tokens.head? = some (.char '.') ∧ tree.isDirectory directory = true) :=
          fun h => hspecial (Bool.and_eq_true_iff.mpr ⟨decide_eq_true h.1, h.2⟩)
        constructor
        · rintro ⟨name, hname, -⟩
          cases hname
        · rintro ⟨hhead, hisDir, -⟩
          exact absurd ⟨hhead, hisDir⟩ hnone

end Steps

/-! ## Several steps -/

/-- What steps lead to until nothing is left of the components. -/
inductive Expands (tree : FileTree) : List Pattern → Path → Path → Prop
  | done {q : Path} : Expands tree [] q q
  | step {patterns left : List Pattern} {directory path q : Path} :
    Step tree patterns directory left path → Expands tree left path q →
    Expands tree patterns directory q

/-- What an expansion finds is led to by steps. -/
theorem expands_of_mem_expand {bound : Nat} {patterns : List Pattern} {directory q : Path}
    (h : q ∈ expand tree bound patterns directory) : Expands tree patterns directory q := by
  induction bound generalizing patterns directory with
  | zero => cases h
  | succ bound ih =>
      cases patterns with
      | nil =>
          rw [expand_nil] at h
          cases h
      | cons p rest =>
          obtain ⟨left, path, hstep, ⟨rfl, rfl⟩ | hmore⟩ := mem_expand_succ.mp h
          · exact .step hstep .done
          · exact .step hstep (ih hmore)

/-- The names in a directory are those of the entries that stand there. -/
theorem mem_childNames {directory : Path} {name : String} :
    name ∈ childNames tree directory ↔ ∃ address, tree.resolve directory = .ok address ∧
      tree.get? address = some .directory ∧ tree.get? (address ++ [name]) ≠ none := by
  rw [childNames]
  cases tree.resolve directory with
  | error e => simp
  | ok address =>
      simp only [Except.ok.injEq, exists_eq_left']
      split
      · rename_i hdirectory
        simp [hdirectory, FileTree.mem_namesIn]
      · rename_i hdirectory
        simp [hdirectory]

theorem isEntryName_of_mem_childNames (h : tree.IsPlain) {directory : Path} {name : String}
    (hname : name ∈ childNames tree directory) : IsEntryName name := by
  obtain ⟨address, -, -, hthere⟩ := mem_childNames.mp hname
  exact h.isEntryName _ hthere name (by simp)

/-- What is pending is among the components. -/
theorem pending_sublist (p : Pattern) (rest : List Pattern) :
    (pending p rest).Sublist (p :: rest) := by
  rw [pending]
  split
  · exact (List.dropWhile_sublist _).cons p
  · exact List.Sublist.refl _

/-- A step leaves components that were there. -/
theorem Step.subset {patterns left : List Pattern} {directory path : Path}
    (h : Step tree patterns directory left path) : left ⊆ patterns := by
  cases h with
  | literal => exact List.subset_cons_self _ _
  | @matched p q rest _ _ _ _ _ hpending _ =>
      have hsub := (pending_sublist p rest).subset
      rw [hpending] at hsub
      exact fun r hr => hsub (List.mem_cons_of_mem q hr)
  | reached => exact List.nil_subset _
  | @descend p rest => exact ((List.dropWhile_sublist _).cons_cons p).subset
  | dots => exact List.subset_cons_self _ _

/-- A step deals with a component, or it goes down into a directory. -/
theorem Step.shortens_or_descends {p : Pattern} {rest left : List Pattern} {directory path : Path}
    (h : Step tree (p :: rest) directory left path) :
    left.length ≤ rest.length ∨ (left.length ≤ rest.length + 1 ∧
      ∃ name ∈ childNames tree directory, path = childPath directory name) := by
  cases h with
  | literal => exact Or.inl (Nat.le_refl _)
  | @matched _ q _ _ _ _ _ _ hpending _ =>
      have hlength := (pending_sublist p rest).length_le
      rw [hpending, List.length_cons, List.length_cons] at hlength
      exact Or.inl (by omega)
  | reached => exact Or.inl (Nat.zero_le _)
  | @descend _ _ _ name _ hchild _ _ =>
      have hlength := (List.dropWhile_sublist (·.isRecursive) (l := rest)).length_le
      exact Or.inr ⟨by rw [List.length_cons]; omega, name, hchild, rfl⟩
  | dots => exact Or.inl (Nat.le_refl _)

/-! ## Addresses on the way -/

/-- What a name joined to a path leads to stands in the directory of the path. -/
theorem exists_of_follow_join (h : tree.IsPlain) {directory : Path} {name : String}
    (hslash : '/' ∉ name.toList) {child : Address}
    (hfollow : tree.follow (FileTree.startOf tree.workingDirectory (directory.join ⟨name⟩))
      (directory.join ⟨name⟩).names = .ok (.entry child)) :
    ∃ address, tree.IsDirectoryOf directory address ∧
      tree.follow address [name] = .ok (.entry child) := by
  rw [Path.names_join hslash, FileTree.startOf, Path.isAbsolute_join hslash, ← FileTree.startOf,
    FileTree.follow_append] at hfollow
  split at hfollow
  · rename_i address hleads
    have hdirectory := FileTree.get?_eq_directory_of_follow (List.cons_ne_nil name []) hfollow
    refine ⟨address, ⟨?_, hdirectory⟩, hfollow⟩
    rw [h.followLinks_eq]
    exact hleads
  all_goals cases hfollow

/-- What the path of an entry leads to stands in the directory that the path before leads to. -/
theorem exists_of_follow_childPath (h : tree.IsPlain) {directory : Path} {name : String}
    (hslash : '/' ∉ name.toList) {child : Address}
    (hfollow : tree.follow (FileTree.startOf tree.workingDirectory (childPath directory name))
      (childPath directory name).names = .ok (.entry child)) :
    ∃ address, tree.IsDirectoryOf directory address ∧
      tree.follow address [name] = .ok (.entry child) := by
  rw [childPath] at hfollow
  split at hfollow
  · rename_i hcurrent
    obtain ⟨hrelative, hblank⟩ := Path.names_of_components_eq_current hcurrent
    rw [Path.names_eq_singleton hslash, FileTree.startOf,
      Path.isAbsolute_eq_false hslash] at hfollow
    have hdirectory := FileTree.get?_eq_directory_of_follow (List.cons_ne_nil name []) hfollow
    refine ⟨tree.workingDirectory, ⟨?_, hdirectory⟩, hfollow⟩
    rw [h.followLinks_eq, FileTree.startOf, hrelative]
    exact FileTree.follow_blanks hdirectory fun other hother =>
      hblank other (Path.mem_names_of_mem_leadingNames hother)
  · exact exists_of_follow_join h hslash hfollow

/-- The path of an entry in a directory names the entry. -/
theorem eq_concat_of_resolve_childPath (h : tree.IsPlain) {directory : Path} {name : String}
    {address child : Address} (hname : IsEntryName name)
    (hresolve : tree.resolve directory = .ok address)
    (hchild : tree.resolve (childPath directory name) = .ok child) : child = address ++ [name] := by
  obtain ⟨-, hfollow⟩ := h.resolve_eq_ok_iff.mp hchild
  obtain ⟨other, hother, hstep⟩ := exists_of_follow_childPath h hname.slash_notMem hfollow
  have hleads := hother.leads
  rw [h.followLinks_eq, h.follow_leadingNames hresolve] at hleads
  obtain rfl := FileTree.Reached.entry.inj (Except.ok.inj hleads)
  exact h.eq_append_of_follow (List.forall_mem_singleton.mpr hname) hstep

/-! ## The number of steps -/

/-- No number is greater than the greatest. -/
theorem le_foldl_max (numbers : List Nat) (start : Nat) :
    start ≤ numbers.foldl max start ∧ ∀ n ∈ numbers, n ≤ numbers.foldl max start := by
  induction numbers generalizing start with
  | nil => simp
  | cons first rest ih =>
      obtain ⟨hstart, hrest⟩ := ih (max start first)
      rw [List.foldl_cons]
      refine ⟨by omega, ?_⟩
      intro n hn
      rcases List.mem_cons.mp hn with rfl | hn
      · omega
      · exact hrest n hn

/-- No address is longer than the longest. -/
theorem length_le_longestAddress {address : Address} (h : tree.get? address ≠ none) :
    address.length ≤ longestAddress tree := by
  by_cases hne : address = []
  · rw [hne]
    exact Nat.zero_le _
  · obtain ⟨entry, hmem⟩ := (FileTree.get?_ne_none_iff hne).mp h
    exact (le_foldl_max _ _).2 _ (List.mem_map_of_mem hmem)

/-- Steps that lead to a path are found when enough of them are allowed: as many as an address can
be long for each component, and those that go deeper from here for the first one. -/
theorem mem_expand_of_expands (h : tree.IsPlain) {patterns : List Pattern} {directory q : Path}
    (hexpands : Expands tree patterns directory q) (hne : patterns ≠ []) {depth bound : Nat}
    (hdepth : ∀ address, tree.resolve directory = .ok address →
      longestAddress tree + 1 ≤ depth + address.length)
    (hbound : (patterns.length - 1) * (longestAddress tree + 2) + depth + 1 ≤ bound) :
    q ∈ expand tree bound patterns directory := by
  induction hexpands generalizing depth bound with
  | done => exact absurd rfl hne
  | @step patterns left directory path q hstep hrest ih =>
      obtain ⟨p, rest, rfl⟩ := List.exists_cons_of_ne_nil hne
      obtain ⟨bound, rfl⟩ : ∃ less, bound = less + 1 := ⟨bound - 1, by omega⟩
      refine mem_expand_succ.mpr ⟨left, path, hstep, ?_⟩
      by_cases hleft : left = []
      · subst hleft
        cases hrest with
        | done => exact Or.inl ⟨rfl, rfl⟩
        | step hnone => cases hnone
      · refine Or.inr ?_
        have hpositive := List.length_pos_of_ne_nil hleft
        rw [List.length_cons, Nat.add_sub_cancel] at hbound
        rcases hstep.shortens_or_descends with hshort | ⟨hlength, name, hname, rfl⟩
        · -- the next component starts again with the full depth
          obtain ⟨count, hcount⟩ : ∃ count, left.length = count + 1 := ⟨left.length - 1, by omega⟩
          have hfull : ∀ address, tree.resolve path = .ok address →
              longestAddress tree + 1 ≤ longestAddress tree + 1 + address.length :=
            fun address _ => Nat.le_add_right _ address.length
          apply ih hleft hfull
          have hmul := Nat.mul_le_mul_right (longestAddress tree + 2) (hcount ▸ hshort)
          rw [hcount, Nat.add_sub_cancel]
          rw [Nat.succ_mul] at hmul
          omega
        · -- one level deeper
          obtain ⟨address, hresolve, hdirectory, hthere⟩ := mem_childNames.mp hname
          have hlong := length_le_longestAddress hthere
          have hdeep := hdepth address hresolve
          rw [List.length_append, List.length_singleton] at hlong
          have hless : ∀ child, tree.resolve (childPath directory name) = .ok child →
              longestAddress tree + 1 ≤ depth - 1 + child.length := by
            intro child hchild
            have hentry := isEntryName_of_mem_childNames h hname
            rw [eq_concat_of_resolve_childPath h hentry hresolve hchild, List.length_append,
              List.length_singleton]
            omega
          apply ih hleft hless
          have hmul := Nat.mul_le_mul_right (longestAddress tree + 2)
            (show left.length - 1 ≤ rest.length by omega)
          omega

/-- An expansion of components finds exactly what steps lead to. -/
theorem mem_expand_iff (h : tree.IsPlain) {patterns : List Pattern} (hne : patterns ≠ [])
    {directory q : Path} : q ∈ expand tree (maximalSteps tree patterns) patterns directory ↔
      Expands tree patterns directory q := by
  constructor
  · exact expands_of_mem_expand
  · intro hexpands
    have hfull : ∀ address, tree.resolve directory = .ok address →
        longestAddress tree + 1 ≤ longestAddress tree + 1 + address.length :=
      fun address _ => Nat.le_add_right _ address.length
    apply mem_expand_of_expands h hexpands hne hfull
    have hpositive := List.length_pos_of_ne_nil hne
    obtain ⟨count, hcount⟩ : ∃ count, patterns.length = count + 1 :=
      ⟨patterns.length - 1, by omega⟩
    have hlinks : longestAddress tree + 2 ≤
        (FileTree.maximalLinks + 1) * (longestAddress tree + 2) :=
      Nat.le_mul_of_pos_left _ (Nat.succ_pos _)
    have hmul := Nat.mul_le_mul (Nat.le_succ patterns.length) hlinks
    rw [maximalSteps]
    rw [hcount, Nat.add_sub_cancel] at *
    rw [Nat.succ_mul] at hmul
    omega

/-- A path is among the directories that a pattern names. -/
def IsNamed (tree : FileTree) (pattern q : Path) : Prop :=
  ∃ roots, directories tree pattern = .ok roots ∧ q ∈ roots

/-- A pattern names directories only. -/
theorem isDirectory_of_isNamed {pattern q : Path} (h : IsNamed tree pattern q) :
    tree.isDirectory q = true := by
  obtain ⟨roots, hroots, hq⟩ := h
  rw [directories] at hroots
  cases hparse : Pattern.parse pattern.text with
  | error e =>
      rw [hparse] at hroots
      cases hroots
  | ok whole =>
      cases hpatterns : (componentTexts pattern).mapM Pattern.parse with
      | error e =>
          rw [hparse, hpatterns] at hroots
          cases hroots
      | ok patterns =>
          rw [hparse, hpatterns] at hroots
          rw [← Except.ok.inj hroots] at hq
          exact (List.mem_filter.mp hq).2

/-- The directories that a pattern names are those that steps lead to, from the root or from the
working directory. -/
theorem isNamed_iff (h : tree.IsPlain) {pattern q : Path} : IsNamed tree pattern q ↔
    (∃ whole, Pattern.parse pattern.text = .ok whole) ∧
    ∃ patterns, (componentTexts pattern).mapM Pattern.parse = .ok patterns ∧ patterns ≠ [] ∧
      tree.isDirectory q = true ∧
      Expands tree patterns (if pattern.isAbsolute then ⟨"/"⟩ else ⟨"."⟩) q := by
  rw [IsNamed, directories]
  cases Pattern.parse pattern.text with
  | error e => simp [bind, Except.bind]
  | ok whole =>
      cases (componentTexts pattern).mapM Pattern.parse with
      | error e => simp [bind, Except.bind]
      | ok patterns =>
          simp only [bind, Except.bind, pure, Except.pure, Except.ok.injEq, exists_eq_left',
            List.mem_filter, exists_eq', true_and]
          by_cases hne : patterns = []
          · simp [hne, expand_nil]
          · rw [mem_expand_iff h hne]
            simp only [hne, ne_eq, not_false_eq_true, true_and]
            exact and_comm

end ClassRegistry.Glob
