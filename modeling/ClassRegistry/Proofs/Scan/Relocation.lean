import ClassRegistry.Proofs.Glob.Anywhere
import ClassRegistry.Proofs.Scan.Copies

/-!
# Scans of a project that is moved

Scans of two copies search the same places and leave out the same paths, so they differ at most in
files that an ignore pattern treats differently: patterns are matched against whole paths, the base
included. Of the patterns for test files one can match the base.
-/

namespace ClassRegistry

open FileTree (IsPlain textFault?)
open Glob (Pattern)

/-! ## Files that are listed -/

/-- A request searches an address: a place that it names is at or above it. -/
def Searches (tree : FileTree) (r : ScanRequest) (address : Address) : Prop :=
  ∃ p, IsSpelling tree (r.roots tree).1 p address

/-- Names lead from the base of a request to a file that is listed. -/
def ListsBelow (tree : FileTree) (r : ScanRequest) (names : Address) : Prop :=
  (∀ name ∈ names, IsEntryName name) ∧ (pathBelow r.base names).text ∈ (scan tree r).files

/-- What names lead to is beneath a path that is ignored. -/
def ScanRequest.Excludes (r : ScanRequest) (names : Address) : Prop :=
  ∃ text ∈ r.ignores, Glob.hasWildcard text = false ∧ (Path.mk text).names <+: names

/-- What names lead to from the base of a request is there, and no pattern of the request matches
the path to it. -/
def IsOpen (tree : FileTree) (r : ScanRequest) (names : Address) : Prop :=
  tree.contains (pathBelow r.base names) = true ∧
    ∀ p ∈ r.ignoreRules.patterns, p.matches (pathBelow r.base names).text = false

section Listed

variable {tree other : FileTree} {base base' : Path} {place place' names : Address}
  {r : ScanRequest}

/-- A path below the base is left out when its names are excluded or a pattern matches it. -/
theorem covers_pathBelow_eq_false_iff (hr : r.IsPortable base)
    (hnames : ∀ name ∈ names, IsEntryName name) :
    (r.basedAt base).ignoreRules.covers (pathBelow base names) = false ↔
      ¬ r.Excludes names ∧
        ∀ p ∈ r.ignoreRules.patterns, p.matches (pathBelow base names).text = false := by
  have hpaths : ((r.basedAt base).ignoreRules.paths.any (pathBelow base names).startsWith) = true ↔
      r.Excludes names := by
    simp only [ScanRequest.ignoreRules, ScanRequest.basedAt, List.any_map, List.any_filter,
      List.any_eq_true, Bool.and_eq_true, Bool.not_eq_true', Function.comp_apply,
      ScanRequest.Excludes]
    refine exists_congr fun text => and_congr_right fun htext => and_congr_right fun hliteral => ?_
    have hproper := hr.ignores_proper text htext hliteral
    rw [join_eq_pathBelow hproper, startsWith_pathBelow_iff hnames hproper]
  have hpatterns : (r.basedAt base).ignoreRules.patterns = r.ignoreRules.patterns := rfl
  rw [IgnoreRules.covers, Bool.or_eq_false_iff, ← Bool.not_eq_true, hpaths, hpatterns,
    List.any_eq_false]
  simp

/-- What a portable request lists below its base. -/
theorem listsBelow_iff (h : AreCopies tree other base base' place place') (hr : r.IsPortable base)
    (hr' : r.IsPortable base') :
    ListsBelow tree (r.basedAt base) names ↔ IsSourceAt tree (place ++ names) ∧
      Searches tree (r.basedAt base) (place ++ names) ∧ ¬ r.Excludes names ∧
      IsOpen tree (r.basedAt base) names := by
  constructor
  · rintro ⟨hnames, hfile⟩
    obtain ⟨address, hspelling, hsource, hresolve, huncovered⟩ :=
      (mem_files_scan_iff h.isPlain).mp hfile
    have hthere := hsource.get?_ne_none
    have hresolved : tree.resolve (pathBelow base names) = .ok address := hresolve
    obtain rfl := h.isPlain.eq_append_of_resolve hnames h.resolve_base hresolved
    obtain ⟨hkept, hunmatched⟩ := (covers_pathBelow_eq_false_iff hr hnames).mp huncovered
    exact ⟨hsource, ⟨_, hspelling⟩, hkept, FileTree.contains_iff.mpr ⟨_, hresolved, hthere⟩,
      hunmatched⟩
  · rintro ⟨hsource, ⟨p, hspelling⟩, hkept, hcontains, hunmatched⟩
    have hthere := hsource.get?_ne_none
    have hnames : ∀ name ∈ names, IsEntryName name := fun name hname =>
      h.isPlain.isEntryName _ hthere name (List.mem_append_right place hname)
    obtain ⟨address, hresolve, -⟩ := FileTree.contains_iff.mp hcontains
    obtain rfl := h.isPlain.eq_append_of_resolve hnames h.resolve_base hresolve
    obtain ⟨names', haddress, rfl, -⟩ := h.exists_spelling hr hr' hthere hspelling
    obtain rfl := List.append_cancel_left haddress
    exact ⟨hnames, (mem_files_scan_iff h.isPlain).mpr ⟨_, hspelling, hsource, hresolve,
      (covers_pathBelow_eq_false_iff hr hnames).mpr ⟨hkept, hunmatched⟩⟩⟩

/-- What is a source file in a copy is one in the other. -/
theorem AreCopies.isSourceAt (h : AreCopies tree other base base' place place')
    (hsource : IsSourceAt tree (place ++ names)) : IsSourceAt other (place' ++ names) := by
  obtain ⟨directory, name, contents, haddress, hfile, hname⟩ := hsource
  rcases List.eq_nil_or_concat' names with rfl | ⟨front, last, rfl⟩
  · rw [List.append_nil, h.directory] at hfile
    cases hfile
  · rw [← List.append_assoc] at haddress
    obtain ⟨-, hlast⟩ := List.append_inj' haddress rfl
    obtain rfl := List.singleton_inj.mp hlast
    exact ⟨place' ++ front, last, contents, (List.append_assoc ..).symm, h.get?_eq _ ▸ hfile, hname⟩

/-- What is searched in a copy is searched in the other, when it can be followed there. -/
theorem AreCopies.searches (h : AreCopies tree other base base' place place')
    (hr : r.IsPortable base) (hr' : r.IsPortable base') (hthere : tree.get? (place ++ names) ≠ none)
    (hsearches : Searches tree (r.basedAt base) (place ++ names))
    (hfollow : textFault? (pathBelow base' names) = none) :
    Searches other (r.basedAt base') (place' ++ names) := by
  obtain ⟨p, hspelling⟩ := hsearches
  obtain ⟨names', haddress, -, hcopy⟩ := h.exists_spelling hr hr' hthere hspelling
  obtain rfl := List.append_cancel_left haddress
  exact ⟨_, hcopy hfollow⟩

/-- What is there can be followed. -/
theorem FileTree.IsPlain.textFault?_eq_none (h : tree.IsPlain) {p : Path}
    (hthere : tree.contains p = true) : textFault? p = none := by
  obtain ⟨_, hresolve, -⟩ := FileTree.contains_iff.mp hthere
  exact (h.resolve_eq_ok_iff.mp hresolve).1

/-- What is listed in a copy is listed in the other one when it is open there. -/
theorem AreCopies.listsBelow (h : AreCopies tree other base base' place place')
    (hr : r.IsPortable base) (hr' : r.IsPortable base')
    (hopen : IsSourceAt tree (place ++ names) → Searches tree (r.basedAt base) (place ++ names) →
      ¬ r.Excludes names → IsOpen tree (r.basedAt base) names →
      IsOpen other (r.basedAt base') names)
    (hlists : ListsBelow tree (r.basedAt base) names) :
    ListsBelow other (r.basedAt base') names := by
  obtain ⟨hsource, hsearches, hkept, hfound⟩ := (listsBelow_iff h hr hr').mp hlists
  have hfound' := hopen hsource hsearches hkept hfound
  have hfollow := h.isPlain_other.textFault?_eq_none hfound'.1
  exact (listsBelow_iff h.symm hr' hr).mpr ⟨h.isSourceAt hsource,
    h.searches hr hr' hsource.get?_ne_none hsearches hfollow, hkept, hfound'⟩

/-- Scans of two copies list the same exactly when they treat alike what is searched and not
excluded. -/
theorem listsBelow_congr_iff (h : AreCopies tree other base base' place place')
    (hr : r.IsPortable base) (hr' : r.IsPortable base') :
    (∀ names, ListsBelow tree (r.basedAt base) names ↔ ListsBelow other (r.basedAt base') names) ↔
      ∀ names, IsSourceAt tree (place ++ names) →
        Searches tree (r.basedAt base) (place ++ names) ∨
          Searches other (r.basedAt base') (place' ++ names) →
        ¬ r.Excludes names →
        (IsOpen tree (r.basedAt base) names ↔ IsOpen other (r.basedAt base') names) := by
  -- in a copy only what is open can differ, for all else is copied
  constructor
  · intro hsame names hsource hsearched hkept
    have hsource' := h.isSourceAt hsource
    constructor
    · intro hopen
      have hfollow := h.isPlain.textFault?_eq_none hopen.1
      have hsearches : Searches tree (r.basedAt base) (place ++ names) := hsearched.elim id
        fun hother => h.symm.searches hr' hr hsource'.get?_ne_none hother hfollow
      have hlists := (listsBelow_iff h hr hr').mpr ⟨hsource, hsearches, hkept, hopen⟩
      exact ((listsBelow_iff h.symm hr' hr).mp ((hsame names).mp hlists)).2.2.2
    · intro hopen
      have hfollow := h.isPlain_other.textFault?_eq_none hopen.1
      have hsearches : Searches other (r.basedAt base') (place' ++ names) := hsearched.elim
        (fun hone => h.searches hr hr' hsource.get?_ne_none hone hfollow) id
      have hlists := (listsBelow_iff h.symm hr' hr).mpr ⟨hsource', hsearches, hkept, hopen⟩
      exact ((listsBelow_iff h hr hr').mp ((hsame names).mpr hlists)).2.2.2
  · intro halike names
    constructor
    · refine h.listsBelow hr hr' fun hsource hsearches hkept => ?_
      exact (halike names hsource (Or.inl hsearches) hkept).mp
    · refine h.symm.listsBelow hr' hr fun hsource hsearches hkept => ?_
      exact (halike names (h.symm.isSourceAt hsource) (Or.inr hsearches) hkept).mpr

end Listed

/-! ## Test files -/

/-- The endings of the names of files that hold tests. -/
def testEndings : List String :=
  [".test.tsx", ".test.ts", ".spec.tsx", ".spec.ts"]

/-- Which files below a base hold tests is told by the names from there on, but the base itself can
be a directory of tests. -/
theorem matches_testFilePatterns_eq_false_iff {root : Path} {names : Address}
    (hroot : root.text ≠ "") (hnames : ∀ name ∈ names, IsEntryName name) (hne : names ≠ []) :
    (∀ p ∈ testFilePatterns.filterMap fun text => (Pattern.parse text).toOption,
        p.matches (pathBelow root names).text = false) ↔
      (∀ ending ∈ testEndings, ¬ ending.toList <:+ ("/".intercalate names).toList) ∧
        "__tests__" ∉ root.leadingNames ∧ "__tests__" ∉ names.dropLast := by
  obtain ⟨front, hfront⟩ : ∃ front, root.lead.toList = front ++ ['/'] := by
    rw [Path.lead]
    split
    · rename_i hlast
      simp only [Bool.or_eq_true, String.isEmpty_iff, hroot, false_or, beq_iff_eq] at hlast
      exact ⟨_, (List.dropLast_append_getLast? '/' hlast).symm⟩
    · exact ⟨root.text.toList, String.toList_append⟩
  have hends : ∀ ending : String, '/' ∉ ending.toList →
      ((Glob.endingPattern ending).matches (pathBelow root names).text = false ↔
        ¬ ending.toList <:+ ("/".intercalate names).toList) := by
    intro ending hending
    rw [← Bool.not_eq_true, Glob.matches_endingPattern_iff, pathBelow_eq_lead hnames hne,
      String.toList_append, hfront, List.append_assoc, List.singleton_append,
      Path.suffix_append_slash_iff hending]
  have hbeneath : (Glob.beneathPattern "__tests__").matches (pathBelow root names).text = false ↔
      "__tests__" ∉ root.leadingNames ∧ "__tests__" ∉ names.dropLast := by
    rw [← Bool.not_eq_true, Glob.matches_beneathPattern_iff (by decide),
      names_pathBelow hnames hne, List.dropLast_append_of_ne_nil hne, List.mem_append, not_or]
  rw [Glob.filterMap_testFilePatterns]
  simp only [testEndings, List.forall_mem_cons, List.not_mem_nil, false_implies, implies_true,
    and_true, hbeneath, hends ".test.tsx" (by decide), hends ".test.ts" (by decide),
    hends ".spec.tsx" (by decide), hends ".spec.ts" (by decide), and_assoc]

section TestFiles

variable {tree other : FileTree} {base base' : Path} {place place' names : Address}
  {r : ScanRequest}

/-- Without patterns among the ignores, only the patterns of test files are left. -/
theorem patterns_ignoreRules (hliteral : ∀ text ∈ r.ignores, Glob.hasWildcard text = false) :
    r.ignoreRules.patterns = if r.ignoreTestFiles then
      testFilePatterns.filterMap fun text => (Pattern.parse text).toOption else [] := by
  have hnone : r.ignorePatterns = [] := by
    rw [ScanRequest.ignorePatterns, List.map_eq_nil_iff, List.filter_eq_nil_iff]
    simpa using hliteral
  rw [ScanRequest.ignoreRules, hnone]
  rfl

/-- Without patterns among the ignores, what can be followed is open from any base when no base, or
each of them, is in a directory of tests. -/
theorem AreCopies.isOpen (h : AreCopies tree other base base' place place')
    (hliteral : ∀ text ∈ r.ignores, Glob.hasWildcard text = false)
    (htests : r.ignoreTestFiles = true →
      ("__tests__" ∈ base.leadingNames ↔ "__tests__" ∈ base'.leadingNames))
    (hnames : ∀ name ∈ names, IsEntryName name) (hne : names ≠ [])
    (hfollow : textFault? (pathBelow base' names) = none)
    (hopen : IsOpen tree (r.basedAt base) names) : IsOpen other (r.basedAt base') names := by
  obtain ⟨hthere, hunmatched⟩ := hopen
  refine ⟨h.contains_eq hnames hthere hfollow, ?_⟩
  have hpatterns : ∀ root, (r.basedAt root).ignoreRules.patterns = r.ignoreRules.patterns :=
    fun root => rfl
  have hbases : ∀ root, (r.basedAt root).base = root := fun root => rfl
  rw [hpatterns, hbases, patterns_ignoreRules hliteral] at hunmatched ⊢
  split at hunmatched
  · rename_i htestFiles
    have htext := (FileTree.textFault?_eq_none_iff.mp
      (h.isPlain.resolve_eq_ok_iff.mp h.resolve_base).1).1
    have htext' := (FileTree.textFault?_eq_none_iff.mp
      (h.isPlain_other.resolve_eq_ok_iff.mp h.resolve_base_other).1).1
    rw [matches_testFilePatterns_eq_false_iff htext hnames hne] at hunmatched
    rw [if_pos htestFiles, matches_testFilePatterns_eq_false_iff htext' hnames hne,
      ← htests htestFiles]
    exact hunmatched
  · rename_i hall
    rw [if_neg hall]
    exact List.forall_mem_nil _

end TestFiles

/-! ## Relocation -/

section Relocation

variable {tree other : FileTree} {base base' : Path} {place place' : Address} {r : ScanRequest}

/-- All that a scan of a copy lists lies below its base. Scans of two copies list the same below
their bases exactly when they treat alike what is searched and not excluded, which is when each file
is open from both bases or from none. Without patterns among the ignores it is, as far as all paths
can be followed, unless only one of the bases is in a directory of tests that are left out. -/
theorem scan_of_copies (h : AreCopies tree other base base' place place') (hr : r.IsPortable base)
    (hr' : r.IsPortable base') :
    (∀ file ∈ (scan tree (r.basedAt base)).files, ∃ names,
      ListsBelow tree (r.basedAt base) names ∧ file = (pathBelow base names).text) ∧
    ((∀ names, ListsBelow tree (r.basedAt base) names ↔
        ListsBelow other (r.basedAt base') names) ↔
      ∀ names, IsSourceAt tree (place ++ names) →
        Searches tree (r.basedAt base) (place ++ names) ∨
          Searches other (r.basedAt base') (place' ++ names) →
        ¬ r.Excludes names →
        (IsOpen tree (r.basedAt base) names ↔ IsOpen other (r.basedAt base') names)) ∧
    ((∀ text ∈ r.ignores, Glob.hasWildcard text = false) →
      (∀ names, IsSourceAt tree (place ++ names) →
        textFault? (pathBelow base names) = none ∧ textFault? (pathBelow base' names) = none) →
      (r.ignoreTestFiles = true →
        ("__tests__" ∈ base.leadingNames ↔ "__tests__" ∈ base'.leadingNames)) →
      ∀ names, ListsBelow tree (r.basedAt base) names ↔
        ListsBelow other (r.basedAt base') names) := by
  refine ⟨?_, listsBelow_congr_iff h hr hr', ?_⟩
  · intro file hfile
    obtain ⟨address, hspelling, hsource, hresolve, -⟩ := (mem_files_scan_iff h.isPlain).mp hfile
    obtain ⟨names, rfl, hpath, -⟩ := h.exists_spelling hr hr' hsource.get?_ne_none hspelling
    have hnames : ∀ name ∈ names, IsEntryName name := fun name hname =>
      h.isPlain.isEntryName _ hsource.get?_ne_none name (List.mem_append_right place hname)
    have htext : file = (pathBelow base names).text := congrArg Path.text hpath
    exact ⟨names, ⟨hnames, htext ▸ hfile⟩, htext⟩
  · intro hliteral hfollow htests
    refine (listsBelow_congr_iff h hr hr').mpr fun names hsource _ _ => ?_
    obtain ⟨htext, htext'⟩ := hfollow names hsource
    have hnames : ∀ name ∈ names, IsEntryName name := fun name hname =>
      h.isPlain.isEntryName _ hsource.get?_ne_none name (List.mem_append_right place hname)
    have hne : names ≠ [] := by
      rintro rfl
      obtain ⟨_, _, contents, -, hfile, -⟩ := hsource
      rw [List.append_nil, h.directory] at hfile
      cases hfile
    exact ⟨h.isOpen hliteral htests hnames hne htext',
      h.symm.isOpen hliteral (fun htest => (htests htest).symm) hnames hne htext⟩

/-- A project of one source file in the directory of a name. -/
def projectIn (name : String) : FileTree :=
  (FileTree.insert ⟨[], []⟩ [name] .directory).insert [name, "sword.ts"] (.file "".toUTF8)

/-- What stands in such a directory. -/
theorem get?_projectIn (directory : String) (names : Address) :
    (projectIn directory).get? ([directory] ++ names) =
      if names = ["sword.ts"] then some (.file "".toUTF8)
      else if names = [] then some .directory else none := by
  rw [projectIn]
  by_cases hfile : names = ["sword.ts"]
  · rw [hfile, if_pos rfl]
    exact FileTree.get?_insert_self _ (List.cons_ne_nil _ _) _
  rw [if_neg hfile, FileTree.get?_insert_of_ne _ (by simpa using hfile)]
  by_cases hnil : names = []
  · rw [hnil, if_pos rfl, List.append_nil]
    exact FileTree.get?_insert_self _ (List.cons_ne_nil _ _) _
  · rw [if_neg hnil, FileTree.get?_insert_of_ne _ (by simpa using hnil)]
    rfl

/-- Such a project is a tree of files and directories. -/
theorem isPlain_projectIn {directory : String} (hdirectory : IsEntryName directory) :
    (projectIn directory).IsPlain := by
  have hempty : FileTree.IsPlain ⟨[], []⟩ := FileTree.isPlain_nil []
  have habove : (FileTree.insert ⟨[], []⟩ ([] ++ [directory]) .directory).IsPlain :=
    hempty.insert rfl hdirectory (fun _ => Entry.noConfusion) fun _ => rfl
  have hbelow : ((FileTree.insert ⟨[], []⟩ [directory] .directory).insert
      ([directory] ++ ["sword.ts"]) (.file "".toUTF8)).IsPlain := by
    refine habove.insert ?_ ⟨by decide, by decide, by decide, by decide⟩
      (fun _ => Entry.noConfusion) fun hthere => ?_
    · exact FileTree.get?_insert_self _ (List.cons_ne_nil _ _) _
    · rw [FileTree.get?_insert_of_ne _ (by simp)] at hthere
      cases hthere
  exact hbelow

/-- Projects in directories of proper names are copies. -/
theorem areCopies_projectIn {name name' : String} (hname : IsEntryName name)
    (hname' : IsEntryName name') (hresolve : (projectIn name).resolve ⟨name⟩ = .ok [name])
    (hresolve' : (projectIn name').resolve ⟨name'⟩ = .ok [name']) :
    AreCopies (projectIn name) (projectIn name') ⟨name⟩ ⟨name'⟩ [name] [name'] where
  isPlain := isPlain_projectIn hname
  isPlain_other := isPlain_projectIn hname'
  resolve_base := hresolve
  resolve_base_other := hresolve'
  directory := get?_projectIn name []
  get?_eq := fun names => by rw [get?_projectIn, get?_projectIn]

/-- A search for all but the tests. -/
def untestedRequest : ScanRequest := ⟨⟨"."⟩, ["sword.ts"], ["vendor"], true⟩

/-- It names and leaves out proper names only. -/
theorem isPortable_untestedRequest (base : Path) : untestedRequest.IsPortable base where
  includes_straight := by decide
  ignores_proper := by decide
  base_plain := by
    intro text htext hwildcard
    obtain rfl := List.mem_singleton.mp htext
    exact absurd hwildcard (by decide)

/-- From two directories the search lists the same. -/
theorem scan_of_projectIn :
    AreCopies (projectIn "src") (projectIn "lib") ⟨"src"⟩ ⟨"lib"⟩ ["src"] ["lib"] ∧
    (∀ base, untestedRequest.IsPortable base) ∧
    (∀ text ∈ untestedRequest.ignores, Glob.hasWildcard text = false) ∧
    ListsBelow (projectIn "src") (untestedRequest.basedAt ⟨"src"⟩) ["sword.ts"] ∧
    ListsBelow (projectIn "lib") (untestedRequest.basedAt ⟨"lib"⟩) ["sword.ts"] := by
  have hcopies : AreCopies (projectIn "src") (projectIn "lib") ⟨"src"⟩ ⟨"lib"⟩ ["src"] ["lib"] :=
    areCopies_projectIn (by decide) (by decide) (by decide) (by decide)
  have hlists : ListsBelow (projectIn "src") (untestedRequest.basedAt ⟨"src"⟩) ["sword.ts"] :=
    ⟨by decide, mem_files_scan.mpr (by decide)⟩
  have hignores : ∀ text ∈ untestedRequest.ignores, Glob.hasWildcard text = false := by decide
  obtain ⟨-, -, hsame⟩ := scan_of_copies hcopies (isPortable_untestedRequest ⟨"src"⟩)
    (isPortable_untestedRequest ⟨"lib"⟩)
  refine ⟨hcopies, isPortable_untestedRequest, hignores, hlists, ?_⟩
  refine (hsame hignores ?_ (fun _ => by decide) ["sword.ts"]).mp hlists
  intro names hsource
  obtain ⟨-, -, contents, -, hfile, -⟩ := hsource
  rw [get?_projectIn] at hfile
  split at hfile
  · rename_i hnames
    rw [hnames]
    exact ⟨by decide, by decide⟩
  · split at hfile <;> cases hfile

/-- A directory of tests is searched for nothing, though all that is in it is found elsewhere. -/
theorem tests_directory_hides_project :
    AreCopies (projectIn "copy") (projectIn "__tests__") ⟨"copy"⟩ ⟨"__tests__"⟩ ["copy"]
      ["__tests__"] ∧
    (∀ base, untestedRequest.IsPortable base) ∧
    ListsBelow (projectIn "copy") (untestedRequest.basedAt ⟨"copy"⟩) ["sword.ts"] ∧
    ¬ ListsBelow (projectIn "__tests__") (untestedRequest.basedAt ⟨"__tests__"⟩) ["sword.ts"] := by
  refine ⟨areCopies_projectIn (by decide) (by decide) (by decide) (by decide),
    isPortable_untestedRequest, ⟨by decide, mem_files_scan.mpr (by decide)⟩, ?_⟩
  rintro ⟨-, hfile⟩
  exact absurd (mem_files_scan.mp hfile) (by decide)

end Relocation

end ClassRegistry
