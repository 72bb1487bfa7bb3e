import ClassRegistry.Proofs.Scan.OwnOutput
import ClassRegistry.Proofs.Scan.Spelling

/-!
# Which files a scan selects

A scan lists the paths of the source files at and below the places that it searches, but for those
that an ignore applies to, as far as these paths can be followed. Hence the order and the repetition
of includes and ignores make no difference, a further include can only add files, and a further
ignore can only take files away. A path that is too long to be followed is not listed, though the
file is there.
-/

namespace ClassRegistry

open FileTree (textFault? maximalNameSize)
open Glob (Pattern)

/-! ## Names of sources -/

/-- The name of a source file: a stem and the extension of a source. A name that a generated file
would have is none, nor is that of a file of declarations. -/
def IsSourceName (name : String) : Prop :=
  ∃ stem extension, name = stem ++ "." ++ extension ∧ stem ≠ "" ∧
    extension ∈ ["ts", "tsx", "mts", "cts"] ∧ hasEnding stem ".gen" = false ∧
    (hasEnding stem ".d" = true → extension = "tsx")

/-- A path without an extension is none of a source file. -/
theorem isSourcePath_eq_false_of_extension? {p : Path} (h : p.extension? = none) :
    isSourcePath p = false := by
  rw [isSourcePath]
  cases p.fileName? with
  | none => rfl
  | some name => simp [h]

/-- A file name without a dot, or with one at its start only, has no extension. -/
theorem extension?_eq_none {p : Path} {name : String} (hname : p.fileName? = some name)
    (hdot : '.' ∉ name.toList.tail) : p.extension? = none := by
  have hdrop : name.toList.reverse.dropWhile (· ≠ '.') = [] ∨
      name.toList.reverse.dropWhile (· ≠ '.') = ['.'] := by
    cases hchars : name.toList with
    | nil => exact Or.inl rfl
    | cons c rest =>
        have hrest : ∀ d ∈ rest.reverse, decide (d ≠ '.') = true := by
          intro d hd
          rw [hchars, List.tail_cons] at hdot
          exact decide_eq_true fun heq => hdot (heq ▸ List.mem_reverse.mp hd)
        rw [List.reverse_cons, List.dropWhile_append_of_pos hrest]
        by_cases hc : c = '.'
        · right
          simp [hc]
        · left
          simp [hc]
  rw [Path.extension?, hname]
  rcases hdrop with hdrop | hdrop
  · simp only [hdrop]
  · simp only [hdrop]

/-- A path is that of a source file when its file name is the name of one. -/
theorem isSourcePath_iff_isSourceName {p : Path} {name : String} (hname : p.fileName? = some name) :
    isSourcePath p = true ↔ IsSourceName name := by
  have hending : ∀ (stem : List Char) (ending : String),
      hasEnding (String.ofList stem) ending = true ↔ ending.toList <:+ stem := by
    intro stem ending
    rw [hasEnding_iff, String.toList_ofList]
  constructor
  · intro hsource
    have hdot : '.' ∈ name.toList.tail := by
      by_contra hdot
      rw [isSourcePath_eq_false_of_extension? (extension?_eq_none hname hdot)] at hsource
      cases hsource
    obtain ⟨front, back, hsplit, hback⟩ := Path.exists_last_of_mem hdot
    obtain ⟨c, hc⟩ : ∃ c, name.toList = c :: front ++ '.' :: back := by
      cases hchars : name.toList with
      | nil => simp [hchars] at hdot
      | cons c rest => exact ⟨c, by rw [List.cons_append, ← hsplit, hchars, List.tail_cons]⟩
    obtain ⟨hextension, hgen, htsx⟩ :=
      (isSourcePath_iff hname hc hback (List.cons_ne_nil c front)).mp hsource
    refine ⟨String.ofList (c :: front), String.ofList back, ?_, by simp, hextension, ?_, ?_⟩
    · rw [← String.toList_inj, hc]
      simp [String.toList_append]
    · rw [← Bool.not_eq_true, hending]
      exact hgen
    · exact fun hd => htsx ((hending _ _).mp hd)
  · rintro ⟨stem, extension, rfl, hne, hextension, hgen, htsx⟩
    have hextensions : ∀ word ∈ ["ts", "tsx", "mts", "cts"], '.' ∉ word.toList := by decide
    have hsplit : (stem ++ "." ++ extension).toList = stem.toList ++ '.' :: extension.toList := by
      simp [String.toList_append]
    have hstem : stem.toList ≠ [] := fun hnil => hne (String.toList_eq_nil_iff.mp hnil)
    rw [isSourcePath_iff hname hsplit (hextensions extension hextension) hstem,
      String.ofList_toList]
    refine ⟨hextension, fun hsuffix => ?_, fun hsuffix => htsx (hasEnding_iff.mpr hsuffix)⟩
    rw [hasEnding_iff.mpr hsuffix] at hgen
    cases hgen

/-! ## What a request asks for -/

/-- A place that a scan searches: the base when there are no includes, or else the path of an
include that is there, or a directory that the pattern of an include names. -/
inductive IsSearched (tree : FileTree) (r : ScanRequest) : Path → Prop
  | base : r.includes = [] → IsSearched tree r r.base
  | path {text : String} : text ∈ r.includes → Glob.hasWildcard text = false →
    tree.contains (r.base.join ⟨text⟩) = true → IsSearched tree r (r.base.join ⟨text⟩)
  | pattern {text : String} {root : Path} : text ∈ r.includes → Glob.hasWildcard text = true →
    Glob.IsNamed tree (r.base.join ⟨text⟩) root → IsSearched tree r root

/-- An ignore applies to a path: one that is a path to all that starts with its components, one that
is a pattern to the texts that it matches, as do the patterns of tests when they are left out. -/
inductive IsIgnored (r : ScanRequest) (p : Path) : Prop
  | path {text : String} : text ∈ r.ignores → Glob.hasWildcard text = false →
    (r.base.join ⟨text⟩).components <+: p.components → IsIgnored r p
  | pattern {text : String} {pattern : Pattern} : text ∈ r.ignores →
    Glob.hasWildcard text = true → Pattern.parse text = .ok pattern →
    pattern.matches p.text = true → IsIgnored r p
  | test {text : String} {pattern : Pattern} : r.ignoreTestFiles = true →
    text ∈ testFilePatterns → Pattern.parse text = .ok pattern →
    pattern.matches p.text = true → IsIgnored r p

section Request

variable {tree : FileTree} {r : ScanRequest} {root p : Path}

/-- The places of a request are those that are searched. -/
theorem mem_roots_iff_isSearched : root ∈ (r.roots tree).1 ↔ IsSearched tree r root := by
  rw [mem_roots]
  constructor
  · rintro (⟨hnone, rfl⟩ | ⟨text, htext, hincluded⟩)
    · exact .base hnone
    · rw [mem_includedRoots] at hincluded
      split at hincluded
      · rename_i hwildcard
        exact .pattern htext hwildcard hincluded
      · rename_i hwildcard
        obtain ⟨rfl, hthere⟩ := hincluded
        exact .path htext (Bool.eq_false_iff.mpr hwildcard) hthere
  · intro hsearched
    cases hsearched with
    | base hnone => exact Or.inl ⟨hnone, rfl⟩
    | @path text htext hwildcard hthere =>
        refine Or.inr ⟨text, htext, ?_⟩
        rw [mem_includedRoots, if_neg (Bool.eq_false_iff.mp hwildcard)]
        exact ⟨rfl, hthere⟩
    | @pattern text _ htext hwildcard hnamed =>
        refine Or.inr ⟨text, htext, ?_⟩
        rw [mem_includedRoots, if_pos hwildcard]
        exact hnamed

/-- The rules of a request cover what its ignores apply to. -/
theorem covers_iff_isIgnored : r.ignoreRules.covers p = true ↔ IsIgnored r p := by
  have hpattern : ∀ (text : String) (pattern : Pattern),
      (Pattern.parse text).toOption = some pattern ↔ Pattern.parse text = .ok pattern := by
    intro text pattern
    cases Pattern.parse text with
    | error e => simp [Except.toOption]
    | ok other => simp [Except.toOption]
  rw [IgnoreRules.covers, Bool.or_eq_true, List.any_eq_true, List.any_eq_true]
  simp only [ScanRequest.ignoreRules, ScanRequest.ignorePatterns, List.mem_map, List.mem_append,
    List.mem_filter, List.mem_filterMap, Bool.not_eq_true', Path.startsWith,
    List.isPrefixOf_iff_prefix]
  constructor
  · rintro (⟨-, ⟨text, ⟨htext, hwildcard⟩, rfl⟩, hstarts⟩ | ⟨pattern, hmem, hmatches⟩)
    · exact .path htext hwildcard hstarts
    · rcases hmem with ⟨-, ⟨text, ⟨htext, hwildcard⟩, rfl⟩, hparse⟩ | htest
      · exact .pattern htext hwildcard ((hpattern text pattern).mp hparse) hmatches
      · split at htest
        · rename_i htests
          obtain ⟨text, htext, hparse⟩ := List.mem_filterMap.mp htest
          exact .test htests htext ((hpattern text pattern).mp hparse) hmatches
        · cases htest
  · intro hignored
    cases hignored with
    | path htext hwildcard hstarts => exact Or.inl ⟨_, ⟨_, ⟨htext, hwildcard⟩, rfl⟩, hstarts⟩
    | pattern htext hwildcard hparse hmatches =>
        exact Or.inr ⟨_, Or.inl ⟨_, ⟨_, ⟨htext, hwildcard⟩, rfl⟩, (hpattern _ _).mpr hparse⟩,
          hmatches⟩
    | test htests htext hparse hmatches =>
        refine Or.inr ⟨_, Or.inr ?_, hmatches⟩
        rw [if_pos htests]
        exact List.mem_filterMap.mpr ⟨_, htext, (hpattern _ _).mpr hparse⟩

/-- With more includes more is searched. The base is not searched any more once there is an
include. -/
theorem IsSearched.mono {other : ScanRequest} (h : IsSearched tree r root)
    (hbase : other.base = r.base) (hsome : r.includes ≠ [] ∨ other.includes = [])
    (hsubset : r.includes ⊆ other.includes) : IsSearched tree other root := by
  cases h with
  | base hnone =>
      rw [← hbase]
      exact .base (hsome.resolve_left (· hnone))
  | path htext hwildcard hthere =>
      rw [← hbase] at hthere ⊢
      exact .path (hsubset htext) hwildcard hthere
  | pattern htext hwildcard hnamed =>
      rw [← hbase] at hnamed
      exact .pattern (hsubset htext) hwildcard hnamed

/-- With more ignores more is ignored. -/
theorem IsIgnored.mono {other : ScanRequest} (h : IsIgnored r p) (hbase : other.base = r.base)
    (htests : other.ignoreTestFiles = r.ignoreTestFiles) (hsubset : r.ignores ⊆ other.ignores) :
    IsIgnored other p := by
  cases h with
  | path htext hwildcard hstarts =>
      rw [← hbase] at hstarts
      exact .path (hsubset htext) hwildcard hstarts
  | pattern htext hwildcard hparse hmatches =>
      exact .pattern (hsubset htext) hwildcard hparse hmatches
  | test htest htext hparse hmatches => exact .test (htests.trans htest) htext hparse hmatches

end Request

/-! ## The listed files -/

/-- A source file at a place or below it, by the names that lead there from the place. -/
def IsSourceBelow (tree : FileTree) (root : Path) (names : Address) : Prop :=
  ∃ place directory name contents, tree.resolve root = .ok place ∧
    place ++ names = directory ++ [name] ∧ tree.get? (place ++ names) = some (.file contents) ∧
    IsSourceName name

/-- The path to what is below a place can be followed: neither it nor a name on the way is too
long. -/
structure CanBeFollowed (root : Path) (names : Address) : Prop where
  textFault?_eq : textFault? (pathBelow root names) = none
  size_le : ∀ name ∈ names, name.utf8ByteSize ≤ maximalNameSize

section Listed

variable {tree : FileTree} {r : ScanRequest} {includes ignores : List String}

/-- The name of an entry is its file name as a path. -/
theorem FileTree.IsPlain.isSourcePath_name_iff (h : tree.IsPlain) {directory : Address}
    {name : String} (hthere : tree.get? (directory ++ [name]) ≠ none) :
    isSourcePath ⟨name⟩ = true ↔ IsSourceName name := by
  have hname := h.isEntryName _ hthere name (by simp)
  have hnames : (Path.mk name).names = [] ++ [name] := Path.names_eq_singleton hname.slash_notMem
  exact isSourcePath_iff_isSourceName
    (Path.fileName?_eq_some hnames hname.ne_empty hname.ne_current hname.ne_parent)

/-- A scan lists the source files at and below the places that are searched, by the paths that lead
there, but for those that can not be followed or that an ignore applies to. -/
theorem mem_files_scan_iff_of_isPlain (h : tree.IsPlain) {file : String} :
    file ∈ (scan tree r).files ↔ ∃ root names, IsSearched tree r root ∧
      IsSourceBelow tree root names ∧ ⟨file⟩ = pathBelow root names ∧
      ¬ IsIgnored r ⟨file⟩ ∧ CanBeFollowed root names := by
  rw [mem_files_scan_iff h, ← covers_iff_isIgnored, Bool.not_eq_true]
  constructor
  · rintro ⟨-, ⟨root, hroot, place, names, hplace, rfl, hfile⟩, hsource, hresolve, huncovered⟩
    have hthere := hsource.get?_ne_none
    have hnames : ∀ name ∈ names, IsEntryName name := fun name hname =>
      h.isEntryName _ hthere name (List.mem_append_right place hname)
    obtain ⟨directory, name, contents, hlast, hentry, hname⟩ := hsource
    rw [h.isSourcePath_name_iff (hlast ▸ hthere)] at hname
    rw [hfile, h.resolve_pathBelow_iff hnames hplace hthere] at hresolve
    exact ⟨root, names, mem_roots_iff_isSearched.mp hroot,
      ⟨place, directory, name, contents, hplace, hlast, hentry, hname⟩, hfile, huncovered,
      ⟨hresolve.1, hresolve.2⟩⟩
  · rintro ⟨root, names, hsearched, ⟨place, directory, name, contents, hplace, hlast, hentry,
      hname⟩, hfile, huncovered, hfollow⟩
    have hthere : tree.get? (place ++ names) ≠ none := by simp [hentry]
    have hnames : ∀ name ∈ names, IsEntryName name := fun name hname =>
      h.isEntryName _ hthere name (List.mem_append_right place hname)
    rw [← h.isSourcePath_name_iff (hlast ▸ hthere)] at hname
    refine ⟨place ++ names,
      ⟨root, mem_roots_iff_isSearched.mpr hsearched, place, names, hplace, rfl, hfile⟩,
      ⟨directory, name, contents, hlast, hentry, hname⟩, ?_, huncovered⟩
    rw [hfile, h.resolve_pathBelow_iff hnames hplace hthere]
    exact ⟨hfollow.textFault?_eq, hfollow.size_le⟩

/-- What is searched and what is not ignored is listed. -/
theorem files_scan_subset_of_isPlain {other : ScanRequest} (h : tree.IsPlain)
    (hsearched : ∀ root, IsSearched tree r root → IsSearched tree other root)
    (hignored : ∀ p, IsIgnored other p → IsIgnored r p) :
    (scan tree r).files ⊆ (scan tree other).files := by
  intro file hfile
  rw [mem_files_scan_iff_of_isPlain h] at hfile ⊢
  obtain ⟨root, names, hroot, hsource, hpath, hkept, hfollow⟩ := hfile
  exact ⟨root, names, hsearched root hroot, hsource, hpath, fun hp => hkept (hignored _ hp),
    hfollow⟩

/-- Scans that list the same files list them alike. -/
theorem files_scan_eq_of_subset {other : ScanRequest}
    (hsubset : (scan tree r).files ⊆ (scan tree other).files)
    (hback : (scan tree other).files ⊆ (scan tree r).files) :
    (scan tree r).files = (scan tree other).files := by
  rw [files_scan, files_scan]
  refine sortedDistinct_eq_of_mem_iff fun file => ?_
  rw [← mem_files_scan, ← mem_files_scan]
  exact ⟨fun hfile => hsubset hfile, fun hfile => hback hfile⟩

end Listed

/-- In a tree of files and directories a scan lists exactly the source files at and below the places
that are searched, by the paths that lead there and can be followed, and that no ignore applies to.
So the order and the repetition of includes and ignores make no difference, a further include takes
no file away, and a further ignore adds none. -/
theorem files_of_scan {tree : FileTree} (h : tree.IsPlain) (r : ScanRequest) :
    (∀ file, file ∈ (scan tree r).files ↔ ∃ root names, IsSearched tree r root ∧
      IsSourceBelow tree root names ∧ ⟨file⟩ = pathBelow root names ∧
      ¬ IsIgnored r ⟨file⟩ ∧ CanBeFollowed root names) ∧
    (∀ includes ignores, (∀ text, text ∈ includes ↔ text ∈ r.includes) →
      (∀ text, text ∈ ignores ↔ text ∈ r.ignores) →
      (scan tree { r with includes := includes, ignores := ignores }).files =
        (scan tree r).files) ∧
    (∀ includes, r.includes ≠ [] → r.includes ⊆ includes →
      (scan tree r).files ⊆ (scan tree { r with includes := includes }).files) ∧
    ∀ ignores, r.ignores ⊆ ignores →
      (scan tree { r with ignores := ignores }).files ⊆ (scan tree r).files := by
  refine ⟨fun file => mem_files_scan_iff_of_isPlain h, ?_, ?_, ?_⟩
  · intro includes ignores hincludes hignores
    have hsame : includes = [] ↔ r.includes = [] := by
      simp only [List.eq_nil_iff_forall_not_mem, hincludes]
    refine files_scan_eq_of_subset
      (files_scan_subset_of_isPlain h (fun root hroot => ?_) fun p hp => ?_)
      (files_scan_subset_of_isPlain h (fun root hroot => ?_) fun p hp => ?_)
    · exact hroot.mono rfl ((em (includes = [])).symm.imp_right hsame.mp) fun text =>
        (hincludes text).mp
    · exact hp.mono rfl rfl fun text => (hignores text).mpr
    · exact hroot.mono rfl ((em (r.includes = [])).symm.imp_right hsame.mpr) fun text =>
        (hincludes text).mpr
    · exact hp.mono rfl rfl fun text => (hignores text).mp
  · intro includes hsome hsubset
    exact files_scan_subset_of_isPlain h (fun root hroot => hroot.mono rfl (Or.inl hsome) hsubset)
      fun p hp => hp.mono rfl rfl (List.Subset.refl _)
  · intro ignores hsubset
    exact files_scan_subset_of_isPlain h
      (fun root hroot => hroot.mono rfl (em _).symm (List.Subset.refl _))
      fun p hp => hp.mono rfl rfl hsubset

/-- The source file of a small project is one that is searched for, and it stays the only one when
an include is repeated. -/
theorem files_of_scan_swordTree : swordTree.IsPlain ∧
    (∃ root names, IsSearched swordTree swordRequest root ∧
      IsSourceBelow swordTree root names ∧ ⟨"src/sword.ts"⟩ = pathBelow root names ∧
      ¬ IsIgnored swordRequest ⟨"src/sword.ts"⟩ ∧ CanBeFollowed root names) ∧
    (scan swordTree { swordRequest with includes := ["src", "src"] }).files = ["src/sword.ts"] := by
  obtain ⟨hlists, hsame, -, -⟩ := files_of_scan isPlain_swordTree swordRequest
  refine ⟨isPlain_swordTree, (hlists "src/sword.ts").mp ?_, ?_⟩
  · rw [files_scan_swordTree]
    exact List.mem_singleton_self _
  · have hrepeated := hsame ["src", "src"] swordRequest.ignores (by simp [swordRequest]) (by simp)
    rw [files_scan_swordTree] at hrepeated
    exact hrepeated

/-! ## Paths that are too long -/

/-- A path of dots, each of which leads nowhere else. -/
def dottedText : Nat → String
  | 0 => "."
  | n + 1 => dottedText n ++ "/."

/-- It has no other names than the dots. -/
theorem eq_of_mem_names_dottedText {n : Nat} {name : String}
    (h : name ∈ (Path.mk (dottedText n)).names) : name = "." := by
  induction n with
  | zero => exact List.mem_singleton.mp h
  | succ n ih =>
      have hchars : (dottedText (n + 1)).toList = (dottedText n).toList ++ '/' :: ['.'] := by
        rw [dottedText, String.toList_append]
        rfl
      rw [Path.names, hchars, Path.pieces_append_slash, List.map_append, List.mem_append] at h
      rcases h with h | h
      · exact ih h
      · exact List.mem_singleton.mp h

/-- Each further dot makes it longer by two bytes. -/
theorem utf8ByteSize_dottedText (n : Nat) : (dottedText n).utf8ByteSize = 2 * n + 1 := by
  induction n with
  | zero => rfl
  | succ n ih =>
      have hstep : "/.".utf8ByteSize = 2 := rfl
      rw [dottedText, String.utf8ByteSize_append, ih, hstep]
      omega

/-- It ends with a dot. -/
theorem exists_toList_dottedText (n : Nat) : ∃ front, (dottedText n).toList = front ++ ['.'] := by
  cases n with
  | zero => exact ⟨[], rfl⟩
  | succ n =>
      refine ⟨(dottedText n).toList ++ ['/'], ?_⟩
      rw [dottedText, String.toList_append, List.append_assoc]
      rfl

/-- It holds no zero. -/
theorem zero_notMem_dottedText (n : Nat) : '\x00' ∉ (dottedText n).toList := by
  induction n with
  | zero => decide
  | succ n ih =>
      rw [dottedText, String.toList_append, List.mem_append]
      exact not_or.mpr ⟨ih, by decide⟩

/-- As long a path of dots as still leaves room for a directory, but not for a file in it. -/
def longPath : Path := ⟨dottedText 2044⟩

/-- A search from there. -/
def longRequest : ScanRequest := ⟨longPath, [], [], false⟩

theorem longPath_text_ne : longPath.text ≠ "" := by
  obtain ⟨front, hfront⟩ := exists_toList_dottedText 2044
  rw [ne_eq, ← String.toList_eq_nil_iff, longPath, hfront]
  simp

/-- What is below is written behind a slash. -/
theorem text_pathBelow_longPath {names : Address} (hnames : ∀ name ∈ names, IsEntryName name)
    (hne : names ≠ []) :
    (pathBelow longPath names).text = longPath.text ++ "/" ++ "/".intercalate names := by
  obtain ⟨front, hfront⟩ := exists_toList_dottedText 2044
  have hlead : longPath.lead = longPath.text ++ "/" := by
    have hempty : longPath.text.isEmpty = false := by
      rw [← Bool.not_eq_true, String.isEmpty_iff]
      exact longPath_text_ne
    rw [Path.lead, hempty, longPath, hfront]
    simp
  rw [pathBelow_eq_lead hnames hne, hlead]

/-- What is below can be followed when its names do not take more than five bytes. -/
theorem textFault?_pathBelow_longPath {names : Address} (hnames : ∀ name ∈ names, IsEntryName name)
    (hne : names ≠ []) (hzero : '\x00' ∉ ("/".intercalate names).toList) :
    textFault? (pathBelow longPath names) = none ↔ ("/".intercalate names).utf8ByteSize ≤ 5 := by
  have hlong : longPath.text.utf8ByteSize = 4089 := utf8ByteSize_dottedText 2044
  have hsize : (pathBelow longPath names).text.utf8ByteSize =
      4090 + ("/".intercalate names).utf8ByteSize := by
    have hslash : "/".utf8ByteSize = 1 := rfl
    rw [text_pathBelow_longPath hnames hne, String.utf8ByteSize_append, String.utf8ByteSize_append,
      hlong, hslash]
  have hnone : '\x00' ∉ (pathBelow longPath names).text.toList := by
    have hdots : '\x00' ∉ longPath.text.toList := zero_notMem_dottedText 2044
    rw [text_pathBelow_longPath hnames hne, String.toList_append, String.toList_append,
      List.mem_append, List.mem_append]
    exact not_or.mpr ⟨not_or.mpr ⟨hdots, by decide⟩, hzero⟩
  have hsome : (pathBelow longPath names).text ≠ "" := by
    intro hempty
    rw [hempty, String.utf8ByteSize_empty] at hsize
    omega
  rw [FileTree.textFault?_eq_none_iff, hsize, FileTree.maximalPathSize]
  exact ⟨fun h => by omega, fun h => ⟨hsome, hnone, by omega⟩⟩

/-- The path names the root of a small project. -/
theorem resolve_longPath : swordTree.resolve longPath = .ok [] := by
  have hdots : ∀ name ∈ longPath.names, name = "" ∨ name = "." := fun name hname =>
    Or.inr (eq_of_mem_names_dottedText hname)
  have hsize : longPath.text.utf8ByteSize = 4089 := utf8ByteSize_dottedText 2044
  have hstart : FileTree.startOf swordTree.workingDirectory longPath = [] := ite_self []
  rw [isPlain_swordTree.resolve_eq_ok_iff, FileTree.textFault?_eq_none_iff, hstart, hsize]
  exact ⟨⟨longPath_text_ne, zero_notMem_dottedText 2044, by decide⟩,
    FileTree.follow_blanks rfl hdots⟩

/-- The search looks into the directory of a source file and comes upon this file, and no ignore
applies to it, but it is not listed: its path is too long. -/
theorem long_path_is_not_listed :
    swordTree.IsPlain ∧ IsSearched swordTree longRequest longPath ∧
    IsSourceBelow swordTree longPath ["src", "sword.ts"] ∧
    pathBelow longPath ["src", "sword.ts"] ∈ (walk swordTree longPath).paths ∧
    ¬ IsIgnored longRequest (pathBelow longPath ["src", "sword.ts"]) ∧
    (pathBelow longPath ["src", "sword.ts"]).text ∉ (scan swordTree longRequest).files := by
  have hplain := isPlain_swordTree
  have hthere : swordTree.get? ["src", "sword.ts"] ≠ none := by decide
  have hnames := hplain.isEntryName _ hthere
  have hparent : ∀ name ∈ ["src"], IsEntryName name := fun name hname =>
    hnames name (List.mem_append_left ["sword.ts"] hname)
  have hdirectory : swordTree.resolve (pathBelow longPath ["src"]) = .ok ["src"] := by
    refine (hplain.resolve_pathBelow_iff hparent resolve_longPath (by decide)).mpr ⟨?_, by decide⟩
    exact (textFault?_pathBelow_longPath hparent (List.cons_ne_nil _ _) (by decide)).mpr (by decide)
  refine ⟨hplain, .base rfl, ?_, ?_, ?_, ?_⟩
  · exact ⟨[], ["src"], "sword.ts", "".toUTF8, resolve_longPath, rfl, rfl, "sword", "ts", rfl,
      by decide, by decide, by decide, by decide⟩
  · exact FileTree.mem_walk.mpr ⟨[], resolve_longPath, Or.inr ⟨["src", "sword.ts"],
      List.cons_ne_nil _ _, hthere, ⟨["src"], hdirectory⟩, rfl⟩⟩
  · intro hignored
    cases hignored with
    | path htext => cases htext
    | pattern htext => cases htext
    | test htests => cases htests
  · rw [mem_files_scan_iff hplain]
    rintro ⟨address, -, -, hresolve, -⟩
    have hsame : ∀ p : Path, Path.mk p.text = p := fun _ => rfl
    rw [hsame] at hresolve
    have hfault := (hplain.resolve_eq_ok_iff.mp hresolve).1
    rw [textFault?_pathBelow_longPath hnames (List.cons_ne_nil _ _) (by decide)] at hfault
    exact absurd hfault (by decide)

end ClassRegistry
