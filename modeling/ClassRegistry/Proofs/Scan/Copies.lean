import ClassRegistry.Proofs.Scan.Identity

/-!
# Copies of a project

The same project can stand at two places. What stands below one base then stands below the other,
and what is searched from one base is searched from the other, step by step of each expansion. Only
the length of a path can make a difference, as the base is a part of it.
-/

namespace ClassRegistry

open FileTree (IsPlain textFault?)
open Glob (Pattern Step Expands StandForNames)

/-! ## Copies -/

/-- Two directories, each under a base of its own, that hold the same. -/
structure AreCopies (tree other : FileTree) (base base' : Path) (place place' : Address) : Prop where
  isPlain : tree.IsPlain
  isPlain_other : other.IsPlain
  resolve_base : tree.resolve base = .ok place
  resolve_base_other : other.resolve base' = .ok place'
  directory : tree.get? place = some .directory
  get?_eq : ∀ names, tree.get? (place ++ names) = other.get? (place' ++ names)

/-- The file name below a place is the last one of the names. -/
theorem fileName?_pathBelow_concat {root : Path} {front : Address} {name : String}
    (hfront : ∀ name ∈ front, IsEntryName name) (hname : IsEntryName name) :
    (pathBelow root (front ++ [name])).fileName? = some name := by
  rw [Path.fileName?, components_pathBelow]
  · simp
  · simpa [or_imp, forall_and] using ⟨hfront, hname⟩

namespace AreCopies

variable {tree other : FileTree} {base base' : Path} {place place' names : Address}

/-- Either of two copies is a copy of the other one. -/
theorem symm (h : AreCopies tree other base base' place place') :
    AreCopies other tree base' base place' place where
  isPlain := h.isPlain_other
  isPlain_other := h.isPlain
  resolve_base := h.resolve_base_other
  resolve_base_other := h.resolve_base
  directory := by
    have hsame := h.get?_eq []
    rw [List.append_nil, List.append_nil] at hsame
    rw [← hsame, h.directory]
  get?_eq := fun names => (h.get?_eq names).symm

section Entries

variable (h : AreCopies tree other base base' place place')
  (hnames : ∀ name ∈ names, IsEntryName name)
include h hnames

/-- What is below one base leads to the entry below the other one, when it can be followed. -/
theorem resolve_eq {address : Address} (hresolve : tree.resolve (pathBelow base names) = .ok address)
    (hthere : tree.get? address ≠ none) (htext : textFault? (pathBelow base' names) = none) :
    other.resolve (pathBelow base' names) = .ok (place' ++ names) ∧
      other.get? (place' ++ names) = tree.get? address := by
  obtain rfl := h.isPlain.eq_append_of_resolve hnames h.resolve_base hresolve
  have hsame := h.get?_eq names
  have hsizes := ((h.isPlain.resolve_pathBelow_iff hnames h.resolve_base hthere).mp hresolve).2
  refine ⟨?_, hsame.symm⟩
  exact (h.isPlain_other.resolve_pathBelow_iff hnames h.resolve_base_other (hsame ▸ hthere)).mpr
    ⟨htext, hsizes⟩

/-- What is there below one base is there below the other. -/
theorem contains_eq (hthere : tree.contains (pathBelow base names) = true)
    (htext : textFault? (pathBelow base' names) = none) :
    other.contains (pathBelow base' names) = true := by
  obtain ⟨address, hresolve, hget⟩ := FileTree.contains_iff.mp hthere
  obtain ⟨hother, hsame⟩ := h.resolve_eq hnames hresolve hget htext
  exact FileTree.contains_iff.mpr ⟨_, hother, hsame ▸ hget⟩

/-- A directory below one base is one below the other. -/
theorem isDirectory_eq (hdirectory : tree.isDirectory (pathBelow base names) = true)
    (htext : textFault? (pathBelow base' names) = none) :
    other.isDirectory (pathBelow base' names) = true := by
  obtain ⟨address, hresolve, hget⟩ := FileTree.isDirectory_iff.mp hdirectory
  obtain ⟨hother, hsame⟩ := h.resolve_eq hnames hresolve (by simp [hget]) htext
  exact FileTree.isDirectory_iff.mpr ⟨_, hother, hsame.trans hget⟩

/-- The names in a directory below one base are those in the directory below the other. -/
theorem mem_childNames {name : String} (hname : name ∈ Glob.childNames tree (pathBelow base names))
    (htext : textFault? (pathBelow base' names) = none) :
    name ∈ Glob.childNames other (pathBelow base' names) := by
  obtain ⟨address, hresolve, hdirectory, hthere⟩ := Glob.mem_childNames.mp hname
  obtain ⟨hother, hsame⟩ := h.resolve_eq hnames hresolve (by simp [hdirectory]) htext
  obtain rfl := h.isPlain.eq_append_of_resolve hnames h.resolve_base hresolve
  refine Glob.mem_childNames.mpr ⟨_, hother, hsame.trans hdirectory, ?_⟩
  rw [List.append_assoc] at hthere ⊢
  rwa [← h.get?_eq]

end Entries

/-- What can be followed below a base can be on the way there. -/
theorem textFault?_eq_none_of_append (h : AreCopies tree other base base' place place')
    {more : Address} (hmore : ∀ name ∈ names ++ more, IsEntryName name)
    (htext : textFault? (pathBelow base' (names ++ more)) = none) :
    textFault? (pathBelow base' names) = none := by
  have hne := (FileTree.textFault?_eq_none_iff.mp
    (h.isPlain_other.resolve_eq_ok_iff.mp h.resolve_base_other).1).1
  exact FileTree.textFault?_pathBelow_of_append hne hmore htext

/-! ## Steps in copies -/

section Steps

variable (h : AreCopies tree other base base' place place')
  (hbase : base.components ≠ [.current]) (hbase' : base'.components ≠ [.current])
include h hbase hbase'

/-- A step below one base is a step below the other one, when its end can be followed there. -/
theorem exists_step {patterns left : List Pattern} {path : Path} (hstand : StandForNames patterns)
    (hnames : ∀ name ∈ names, IsEntryName name)
    (hstep : Step tree patterns (pathBelow base names) left path) :
    ∃ name, IsEntryName name ∧ path = pathBelow base (names ++ [name]) ∧
      (textFault? (pathBelow base' (names ++ [name])) = none →
        Step other patterns (pathBelow base' names) left (pathBelow base' (names ++ [name]))) := by
  have hchild := Glob.childPath_pathBelow hbase hnames
  have hchild' := Glob.childPath_pathBelow hbase' hnames
  have hall : ∀ {name}, IsEntryName name → ∀ name' ∈ names ++ [name], IsEntryName name' := by
    intro name hname name' hmem
    rcases List.mem_append.mp hmem with hmem | hmem
    · exact hnames name' hmem
    · rwa [List.mem_singleton.mp hmem]
  cases hstep with
  | @literal p rest _ name hname hthere =>
      have hentry := (hstand p List.mem_cons_self).2 name hname
      refine ⟨name, hentry, hchild name, fun htext => ?_⟩
      rw [Glob.isThere_iff hentry, hchild] at hthere
      rw [← hchild']
      refine .literal hname ?_
      rw [Glob.isThere_iff hentry, hchild']
      exact h.contains_eq (hall hentry) hthere htext
  | @matched p q rest _ _ name hnone hname hpending hmatches =>
      have hentry := Glob.isEntryName_of_mem_childNames h.isPlain hname
      refine ⟨name, hentry, hchild name, fun htext => ?_⟩
      have habove := h.textFault?_eq_none_of_append (hall hentry) htext
      rw [Glob.FileNameMatches, hchild, fileName?_pathBelow_concat hnames hentry] at hmatches
      rw [← hchild']
      refine .matched hnone (h.mem_childNames hnames hname habove) hpending ?_
      rw [Glob.FileNameMatches, hchild', fileName?_pathBelow_concat hnames hentry]
      exact hmatches
  | @reached p rest _ name hnone hname hpending hdirectory =>
      have hentry := Glob.isEntryName_of_mem_childNames h.isPlain hname
      refine ⟨name, hentry, hchild name, fun htext => ?_⟩
      have habove := h.textFault?_eq_none_of_append (hall hentry) htext
      rw [hchild] at hdirectory
      rw [← hchild']
      refine .reached hnone (h.mem_childNames hnames hname habove) hpending ?_
      rw [hchild']
      exact h.isDirectory_eq (hall hentry) hdirectory htext
  | @descend p rest _ name hnone hname hrecursive hdirectory =>
      have hentry := Glob.isEntryName_of_mem_childNames h.isPlain hname
      refine ⟨name, hentry, hchild name, fun htext => ?_⟩
      have habove := h.textFault?_eq_none_of_append (hall hentry) htext
      rw [hchild] at hdirectory
      rw [← hchild']
      refine .descend hnone (h.mem_childNames hnames hname habove) hrecursive ?_
      rw [hchild']
      exact h.isDirectory_eq (hall hentry) hdirectory htext
  | @dots p _ _ name _ hhead _ hdots hmatches =>
      exact absurd ⟨hhead, name, hdots, hmatches⟩ (hstand p List.mem_cons_self).1

/-- What is found from below one base on is found from below the other one on, when it can be
followed there. -/
theorem exists_expands {patterns : List Pattern} {q : Path} (hstand : StandForNames patterns)
    (hnames : ∀ name ∈ names, IsEntryName name)
    (hexpands : Expands tree patterns (pathBelow base names) q) :
    ∃ more, (∀ name ∈ names ++ more, IsEntryName name) ∧ q = pathBelow base (names ++ more) ∧
      (textFault? (pathBelow base' (names ++ more)) = none →
        Expands other patterns (pathBelow base' names) (pathBelow base' (names ++ more))) := by
  generalize hdirectory : pathBelow base names = directory at hexpands
  induction hexpands generalizing names with
  | done =>
      refine ⟨[], by rwa [List.append_nil], by rw [List.append_nil, hdirectory], fun _ => ?_⟩
      rw [List.append_nil]
      exact .done
  | step hstep _ ih =>
      subst hdirectory
      obtain ⟨name, hname, rfl, hcopy⟩ := h.exists_step hbase hbase' hstand hnames hstep
      have hall : ∀ name' ∈ names ++ [name], IsEntryName name' := by
        simpa [or_imp, forall_and] using ⟨hnames, hname⟩
      obtain ⟨more, hmore, rfl, hrest⟩ := ih (fun p hp => hstand p (hstep.subset hp)) hall rfl
      have hsplit : names ++ name :: more = names ++ [name] ++ more := by simp
      refine ⟨name :: more, hsplit ▸ hmore, by rw [hsplit], fun htext => ?_⟩
      rw [hsplit] at htext ⊢
      exact .step (hcopy (h.textFault?_eq_none_of_append hmore htext)) (hrest htext)

end Steps

end AreCopies

/-! ## Places that are searched -/

/-- The same request from another base. -/
def ScanRequest.basedAt (r : ScanRequest) (base : Path) : ScanRequest :=
  { r with base := base }

/-- Includes and ignores that mean the same from any base that is written as they need it. -/
structure ScanRequest.IsPortable (r : ScanRequest) (base : Path) : Prop where
  includes_straight : ∀ text ∈ r.includes, Glob.IsWrittenStraight text
  ignores_proper : ∀ text ∈ r.ignores, Glob.hasWildcard text = false →
    ∀ name ∈ (Path.mk text).names, IsEntryName name
  base_plain : ∀ text ∈ r.includes, Glob.hasWildcard text = true → Glob.IsWrittenPlainly base

namespace AreCopies

variable {tree other : FileTree} {base base' : Path} {place place' names : Address}
  {r : ScanRequest}

section Roots

variable (h : AreCopies tree other base base' place place')
include h

theorem isDirectory_base : tree.isDirectory base = true :=
  FileTree.isDirectory_iff.mpr ⟨place, h.resolve_base, h.directory⟩

/-- What an include names from one base it names from the other one, when it can be followed
there. -/
theorem exists_included {text : String} (htext : Glob.IsWrittenStraight text)
    (hbase : Glob.hasWildcard text = true → Glob.IsWrittenPlainly base)
    (hbase' : Glob.hasWildcard text = true → Glob.IsWrittenPlainly base')
    {root : Path} (hroot : root ∈ (includedRoots tree base text).1) :
    ∃ names, (∀ name ∈ names, IsEntryName name) ∧ root = pathBelow base names ∧
      (textFault? (pathBelow base' names) = none →
        pathBelow base' names ∈ (includedRoots other base' text).1) := by
  simp only [mem_includedRoots] at hroot ⊢
  -- a path is looked up, a pattern is expanded
  split at hroot
  · rename_i hwildcard
    have hplain := hbase hwildcard
    have hplain' := hbase' hwildcard
    obtain ⟨hreadable, patterns, hpatterns, hdirectory, hexpands⟩ :=
      (Glob.isNamed_join_iff h.isPlain hplain htext h.isDirectory_base).mp hroot
    have hstart : Expands tree patterns (pathBelow base []) root := hexpands
    obtain ⟨more, hmore, rfl, hcopy⟩ := h.exists_expands hplain.components_ne_current
      hplain'.components_ne_current (Glob.standForNames_of_mapM_parse htext hpatterns)
      (List.forall_mem_nil _) hstart
    rw [List.nil_append] at hmore hdirectory hcopy
    refine ⟨more, hmore, rfl, fun hfollow => ?_⟩
    rw [if_pos hwildcard, Glob.isNamed_join_iff h.isPlain_other hplain' htext
      h.symm.isDirectory_base]
    exact ⟨hreadable, patterns, hpatterns, h.isDirectory_eq hmore hdirectory hfollow, hcopy hfollow⟩
  · rename_i hliteral
    obtain ⟨rfl, hthere⟩ := hroot
    rw [join_eq_pathBelow htext.isEntryName] at hthere
    refine ⟨_, htext.isEntryName, join_eq_pathBelow htext.isEntryName, fun hfollow => ?_⟩
    rw [if_neg hliteral, join_eq_pathBelow htext.isEntryName]
    exact ⟨rfl, h.contains_eq htext.isEntryName hthere hfollow⟩

/-- What is searched from one base is searched from the other one, when it can be followed there. -/
theorem exists_root (hr : r.IsPortable base) (hr' : r.IsPortable base') {root : Path}
    (hroot : root ∈ ((r.basedAt base).roots tree).1) :
    ∃ names, (∀ name ∈ names, IsEntryName name) ∧ root = pathBelow base names ∧
      (textFault? (pathBelow base' names) = none →
        pathBelow base' names ∈ ((r.basedAt base').roots other).1) := by
  simp only [mem_roots] at hroot ⊢
  rcases hroot with ⟨hnone, rfl⟩ | ⟨text, htext, hincluded⟩
  · exact ⟨[], List.forall_mem_nil _, rfl, fun _ => Or.inl ⟨hnone, rfl⟩⟩
  · obtain ⟨names, hnames, rfl, hcopy⟩ := h.exists_included (hr.includes_straight text htext)
      (hr.base_plain text htext) (hr'.base_plain text htext) hincluded
    exact ⟨names, hnames, rfl, fun hfollow => Or.inr ⟨text, htext, hcopy hfollow⟩⟩

/-- What is searched is below the base, and what is searched from one base is searched from the
other one, when it can be followed there. -/
theorem exists_spelling (hr : r.IsPortable base) (hr' : r.IsPortable base') {p : Path}
    {address : Address} (hthere : tree.get? address ≠ none)
    (hspelling : IsSpelling tree ((r.basedAt base).roots tree).1 p address) :
    ∃ names, address = place ++ names ∧ p = pathBelow base names ∧
      (textFault? (pathBelow base' names) = none →
        IsSpelling other ((r.basedAt base').roots other).1 (pathBelow base' names)
          (place' ++ names)) := by
  obtain ⟨root, hroot, above, more, habove, rfl, rfl⟩ := hspelling
  obtain ⟨front, hfront, rfl, hcopy⟩ := h.exists_root hr hr' hroot
  obtain rfl := h.isPlain.eq_append_of_resolve hfront h.resolve_base habove
  have hall : ∀ name ∈ front ++ more, IsEntryName name := fun name hname =>
    h.isPlain.isEntryName _ hthere name (by simp_all)
  refine ⟨front ++ more, List.append_assoc .., (pathBelow_append ..).symm, fun hfollow => ?_⟩
  have hfollow' := h.textFault?_eq_none_of_append hall hfollow
  have hget : tree.get? (place ++ front) ≠ none := by
    by_cases hnil : more = []
    · simpa [hnil] using hthere
    · simp [h.isPlain.get?_of_append hnil hthere]
  refine ⟨pathBelow base' front, hcopy hfollow', place' ++ front, more,
    (h.resolve_eq hfront habove hget hfollow').1, (List.append_assoc ..).symm, pathBelow_append ..⟩

end Roots

end AreCopies

end ClassRegistry
