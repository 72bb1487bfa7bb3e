import ClassRegistry.Proofs.FileTree.Growth
import ClassRegistry.Proofs.Glob.Expansion

/-!
# Patterns and trees that grow

A pattern names the directories that it named before a tree grew. Of the directories that were there
it names no others: the directories on the way to one were there too, so the steps that lead there
led there before.
-/

namespace ClassRegistry.Glob

open FileTree (Grows IsPlain)

variable {kind : String → Prop} {tree grown : FileTree}

/-! ## Components of a path -/

/-- Components stand for names without slashes. -/
def AreComponents (patterns : List Pattern) : Prop :=
  ∀ p ∈ patterns, ∀ name, p.literal? = some name → '/' ∉ name.toList

/-- What texts are read as was read from one of them. -/
theorem exists_of_mem_mapM_parse {texts : List String} {patterns : List Pattern}
    (h : texts.mapM Pattern.parse = .ok patterns) {p : Pattern} (hp : p ∈ patterns) :
    ∃ text ∈ texts, Pattern.parse text = .ok p := by
  induction texts generalizing patterns with
  | nil =>
      obtain rfl : [] = patterns := Except.ok.inj h
      cases hp
  | cons text rest ih =>
      rw [List.mapM_cons] at h
      cases hparse : Pattern.parse text with
      | error e =>
          rw [hparse] at h
          cases h
      | ok first =>
          cases hrest : rest.mapM Pattern.parse with
          | error e =>
              rw [hparse, hrest] at h
              cases h
          | ok more =>
              rw [hparse, hrest] at h
              obtain rfl := Except.ok.inj h
              rcases List.mem_cons.mp hp with rfl | hp
              · exact ⟨text, List.mem_cons_self, hparse⟩
              · obtain ⟨other, hother, hfound⟩ := ih hrest hp
                exact ⟨other, List.mem_cons_of_mem text hother, hfound⟩

/-- The components of a path are among its names. -/
theorem componentTexts_subset (pattern : Path) : componentTexts pattern ⊆ pattern.names := by
  have hnames : (if pattern.isAbsolute then pattern.names.tail else pattern.names) ⊆
      pattern.names := by
    split
    · exact (List.tail_sublist _).subset
    · exact List.Subset.refl _
  have hlast : ∀ names : List String,
      (if names.getLast? = some "" then names.dropLast else names) ⊆ names := by
    intro names
    split
    · exact List.dropLast_subset _
    · exact List.Subset.refl _
  exact List.Subset.trans (hlast _) hnames

/-- The components of a path hold no slashes. -/
theorem areComponents_of_mapM_parse {pattern : Path} {patterns : List Pattern}
    (h : (componentTexts pattern).mapM Pattern.parse = .ok patterns) : AreComponents patterns := by
  intro p hp name hname
  obtain ⟨text, htext, hparse⟩ := exists_of_mem_mapM_parse h hp
  have hmem := componentTexts_subset pattern htext
  exact slash_notMem_of_literal? (Path.slash_notMem_of_mem_names hmem) hparse hname

/-! ## What was found is found -/

/-- The names in a directory stay there. -/
theorem mem_childNames_of_grows (h : Grows kind tree grown) {directory : Path} {name : String}
    (hname : name ∈ childNames tree directory) : name ∈ childNames grown directory := by
  obtain ⟨address, hresolve, hdirectory, hthere⟩ := mem_childNames.mp hname
  exact mem_childNames.mpr ⟨address, h.resolve_eq hresolve, h.directory address hdirectory,
    h.get?_ne_none hthere⟩

/-- Steps stay possible. -/
theorem Step.grows (h : Grows kind tree grown) {patterns left : List Pattern}
    {directory path : Path} (hstep : Step tree patterns directory left path) :
    Step grown patterns directory left path := by
  cases hstep with
  | @literal _ _ _ name hname hthere =>
      refine .literal hname ?_
      rw [IsThere] at hthere ⊢
      split
      · rename_i hdots
        rw [if_pos hdots] at hthere
        exact h.isDirectory_eq hthere
      · rename_i hdots
        rw [if_neg hdots] at hthere
        exact h.contains_eq hthere
  | matched hnone hname hpending hmatches =>
      exact .matched hnone (mem_childNames_of_grows h hname) hpending hmatches
  | reached hnone hname hpending hdirectory =>
      exact .reached hnone (mem_childNames_of_grows h hname) hpending
        (h.isDirectory_eq hdirectory)
  | descend hnone hname hrecursive hdirectory =>
      exact .descend hnone (mem_childNames_of_grows h hname) hrecursive
        (h.isDirectory_eq hdirectory)
  | dots hnone hhead hdirectory hname hmatches =>
      exact .dots hnone hhead (h.isDirectory_eq hdirectory) hname hmatches

/-- What steps led to, they lead to. -/
theorem Expands.grows (h : Grows kind tree grown) {patterns : List Pattern} {directory q : Path}
    (hexpands : Expands tree patterns directory q) : Expands grown patterns directory q := by
  induction hexpands with
  | done => exact .done
  | step hstep _ ih => exact .step (hstep.grows h) ih

/-! ## What is found was found -/

/-- A step in a tree that has grown comes from a directory which was there when it leads to one. -/
theorem Step.exists_isDirectoryOf (h : Grows kind tree grown) {patterns left : List Pattern}
    (hcomponents : AreComponents patterns) {directory path : Path}
    (hstep : Step grown patterns directory left path) {child : Address}
    (hchild : tree.IsDirectoryOf path child) : ∃ address, tree.IsDirectoryOf directory address := by
  have hfollow := hchild.followLinks_names
  rw [h.isPlain.followLinks_eq] at hfollow
  have hentry : ∀ name, '/' ∉ name.toList → path = childPath directory name →
      ∃ address, tree.IsDirectoryOf directory address := by
    rintro name hslash rfl
    obtain ⟨address, haddress, -⟩ := exists_of_follow_childPath h.isPlain hslash hfollow
    exact ⟨address, haddress⟩
  have hname : ∀ name, name ∈ childNames grown directory → '/' ∉ name.toList :=
    fun name hname => (isEntryName_of_mem_childNames h.isPlain_grown hname).slash_notMem
  cases hstep with
  | @literal p _ _ name hliteral =>
      exact hentry name (hcomponents p List.mem_cons_self name hliteral) rfl
  | @matched _ _ _ _ _ name _ hmem => exact hentry name (hname name hmem) rfl
  | @reached _ _ _ name _ hmem => exact hentry name (hname name hmem) rfl
  | @descend _ _ _ name _ hmem => exact hentry name (hname name hmem) rfl
  | @dots _ _ _ name _ _ _ hdots =>
      have hslash : ∀ dots ∈ [".", ".."], '/' ∉ dots.toList := by decide
      obtain ⟨address, haddress, -⟩ := exists_of_follow_join h.isPlain (hslash name hdots) hfollow
      exact ⟨address, haddress⟩

/-- Steps in a tree that has grown come from a directory which was there when they lead to one. -/
theorem Expands.exists_isDirectoryOf (h : Grows kind tree grown) {patterns : List Pattern}
    (hcomponents : AreComponents patterns) {directory q : Path}
    (hexpands : Expands grown patterns directory q) (hq : tree.isDirectory q = true) :
    ∃ address, tree.IsDirectoryOf directory address := by
  induction hexpands with
  | done => exact h.isPlain.exists_isDirectoryOf hq
  | @step _ left _ _ _ hstep _ ih =>
      have hleft : AreComponents left := fun p hp => hcomponents p (hstep.subset hp)
      obtain ⟨child, hchild⟩ := ih hleft hq
      exact hstep.exists_isDirectoryOf h hcomponents hchild

/-- An entry that was a directory was an entry of its directory. -/
theorem mem_childNames_of_grown (h : Grows kind tree grown) {directory : Path} {name : String}
    (hname : name ∈ childNames grown directory) {child : Address}
    (hchild : tree.IsDirectoryOf (childPath directory name) child) :
    name ∈ childNames tree directory := by
  have hentry := isEntryName_of_mem_childNames h.isPlain_grown hname
  obtain ⟨_, hresolve, -, -⟩ := mem_childNames.mp hname
  have htext := (h.isPlain_grown.resolve_eq_ok_iff.mp hresolve).1
  have hfollow := hchild.followLinks_names
  rw [h.isPlain.followLinks_eq] at hfollow
  obtain ⟨address, haddress, hstep⟩ :=
    exists_of_follow_childPath h.isPlain hentry.slash_notMem hfollow
  obtain rfl := h.isPlain.eq_append_of_follow (List.forall_mem_singleton.mpr hentry) hstep
  exact mem_childNames.mpr
    ⟨address, haddress.resolve_eq htext, haddress.get?_eq, by simp [hchild.get?_eq]⟩

/-- The directories that steps lead to and that were there are those they led to. -/
theorem Expands.of_grown (h : Grows kind tree grown) {patterns : List Pattern}
    (hcomponents : AreComponents patterns) {directory q : Path}
    (hexpands : Expands grown patterns directory q) (hq : tree.isDirectory q = true) :
    Expands tree patterns directory q := by
  induction hexpands with
  | done => exact .done
  | @step patterns left directory path q hstep hrest ih =>
      have hleft : AreComponents left := fun p hp => hcomponents p (hstep.subset hp)
      refine .step ?_ (ih hleft hq)
      obtain ⟨child, hchild⟩ := hrest.exists_isDirectoryOf h hleft hq
      obtain ⟨_, haddress⟩ := hstep.exists_isDirectoryOf h hcomponents hchild
      -- both paths are those of directories that were there, as far as a text can be one
      have hbefore : grown.isDirectory directory = true → tree.isDirectory directory = true := by
        intro hdirectory
        obtain ⟨_, hresolve, -⟩ := FileTree.isDirectory_iff.mp hdirectory
        exact haddress.isDirectory_eq (h.isPlain_grown.resolve_eq_ok_iff.mp hresolve).1
      have hafter : grown.contains path = true → tree.isDirectory path = true := by
        intro hthere
        obtain ⟨_, hresolve, -⟩ := FileTree.contains_iff.mp hthere
        exact hchild.isDirectory_eq (h.isPlain_grown.resolve_eq_ok_iff.mp hresolve).1
      cases hstep with
      | literal hname hthere =>
          refine .literal hname ?_
          rw [IsThere] at hthere ⊢
          split
          · rename_i hdots
            rw [if_pos hdots] at hthere
            exact hbefore hthere
          · rename_i hdots
            rw [if_neg hdots] at hthere
            exact FileTree.contains_of_isDirectory (hafter hthere)
      | matched hnone hname hpending hmatches =>
          exact .matched hnone (mem_childNames_of_grown h hname hchild) hpending hmatches
      | reached hnone hname hpending hdirectory =>
          exact .reached hnone (mem_childNames_of_grown h hname hchild) hpending
            (hafter (FileTree.contains_of_isDirectory hdirectory))
      | descend hnone hname hrecursive hdirectory =>
          exact .descend hnone (mem_childNames_of_grown h hname hchild) hrecursive
            (hafter (FileTree.contains_of_isDirectory hdirectory))
      | dots hnone hhead hdirectory hname hmatches =>
          exact .dots hnone hhead (hbefore hdirectory) hname hmatches

/-! ## Directories that a pattern names -/

/-- A pattern names the directories that it named. -/
theorem IsNamed.grows (h : Grows kind tree grown) {pattern q : Path}
    (hnamed : IsNamed tree pattern q) : IsNamed grown pattern q := by
  obtain ⟨hparse, patterns, hpatterns, hne, hdirectory, hexpands⟩ :=
    (isNamed_iff h.isPlain).mp hnamed
  exact (isNamed_iff h.isPlain_grown).mpr
    ⟨hparse, patterns, hpatterns, hne, h.isDirectory_eq hdirectory, hexpands.grows h⟩

/-- A pattern names no other directories of those that were there. -/
theorem IsNamed.of_grown (h : Grows kind tree grown) {pattern q : Path}
    (hnamed : IsNamed grown pattern q) (hq : tree.isDirectory q = true) :
    IsNamed tree pattern q := by
  obtain ⟨hparse, patterns, hpatterns, hne, -, hexpands⟩ := (isNamed_iff h.isPlain_grown).mp hnamed
  have hcomponents := areComponents_of_mapM_parse hpatterns
  exact (isNamed_iff h.isPlain).mpr
    ⟨hparse, patterns, hpatterns, hne, hq, hexpands.of_grown h hcomponents hq⟩

end ClassRegistry.Glob
