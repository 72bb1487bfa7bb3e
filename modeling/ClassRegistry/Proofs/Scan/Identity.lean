import ClassRegistry.Proofs.Glob.Relative
import ClassRegistry.Proofs.Scan.OwnOutput

/-!
# Files that are scanned under several spellings

A scan lists spellings, so it lists a file as often as the places that are searched spell it. Two
places spell what is below both of them alike exactly when they write its names behind the same
text. Ignores look at spellings too. All that is searched from a plainly written base is spelled
from this base; then each file is listed once, and is kept or ignored whichever way it is reached.
-/

namespace ClassRegistry

open FileTree (IsPlain)

variable {tree : FileTree} {r : ScanRequest}

/-! ## Places that spell alike -/

/-- A name is written behind the path of a file and a slash. -/
theorem lead_eq_of_file (h : tree.IsPlain) {p : Path} {address : Address} {contents : ByteArray}
    (hresolve : tree.resolve p = .ok address) (hfile : tree.get? address = some (.file contents)) :
    p.lead = p.text ++ "/" := by
  have htext := (FileTree.textFault?_eq_none_iff.mp (h.resolve_eq_ok_iff.mp hresolve).1).1
  rw [Path.lead, if_neg]
  simp only [Bool.or_eq_true, String.isEmpty_iff, htext, false_or, beq_iff_eq]
  intro hslash
  -- a slash at the end would lead to a directory
  obtain ⟨front, hfront⟩ : ∃ front, p.text.toList = front ++ ['/'] :=
    ⟨_, (List.dropLast_append_getLast? '/' hslash).symm⟩
  have hnames : p.names = (Path.pieces front).map String.ofList ++ [""] := by
    rw [Path.names, hfront, Path.pieces_append_slash, List.map_append]
    rfl
  rcases h.reach_cases hnames (FileTree.resolve_eq_ok_iff.mp hresolve) with
    ⟨other, hother, hdirectory⟩ | ⟨_, _, _, hname, _⟩ | ⟨_, _, _, hmissing⟩
  · rw [← FileTree.Reached.entry.inj hother, hfile] at hdirectory
    cases hdirectory
  · exact hname.ne_empty rfl
  · cases hmissing

/-- Two places, one of which lies below the other, spell a file below them alike exactly when they
write names behind the same text. -/
theorem pathBelow_eq_iff_lead (h : tree.IsPlain) {root other : Path} {between names : Address}
    {address : Address} {contents : ByteArray}
    (hnames : ∀ name ∈ names, IsEntryName name)
    (hroot : tree.resolve (pathBelow root (between ++ names)) = .ok address)
    (hother : tree.resolve (pathBelow other names) = .ok address)
    (hfile : tree.get? address = some (.file contents)) :
    pathBelow root (between ++ names) = pathBelow other names ↔
      (pathBelow root between).lead = other.lead := by
  rw [pathBelow_append] at hroot ⊢
  by_cases hne : names = []
  · subst hne
    have hrootLead := lead_eq_of_file h hroot hfile
    have hotherLead := lead_eq_of_file h hother hfile
    have hnil (p : Path) : pathBelow p [] = p := rfl
    rw [hnil] at hrootLead hotherLead
    rw [hnil, hnil, hrootLead, hotherLead, String.append_left_inj]
    exact ⟨congrArg Path.text, fun htext => Path.mk.injEq .. ▸ htext⟩
  · exact pathBelow_inj hnames hne

/-- Wherever a searched place lies below another one, or is the same, and a file below both is listed
from either, they write its names behind the same text. -/
def SpellsAlike (tree : FileTree) (r : ScanRequest) : Prop :=
  ∀ root ∈ (r.roots tree).1, ∀ other ∈ (r.roots tree).1, ∀ place between names,
    tree.resolve root = .ok place → tree.resolve other = .ok (place ++ between) →
    tree.get? (place ++ between ++ names) ≠ none →
    (pathBelow root (between ++ names)).text ∈ (scan tree r).files →
    (pathBelow other names).text ∈ (scan tree r).files →
    (pathBelow root between).lead = other.lead

/-- No file is listed under two spellings. -/
def ListsOnce (tree : FileTree) (r : ScanRequest) : Prop :=
  ∀ file ∈ (scan tree r).files, ∀ other ∈ (scan tree r).files,
    tree.resolve ⟨file⟩ = tree.resolve ⟨other⟩ → file = other

/-- What is listed is a file that its path leads to. -/
theorem exists_of_mem_files (h : tree.IsPlain) {file : String} (hfile : file ∈ (scan tree r).files) :
    ∃ address contents, tree.resolve ⟨file⟩ = .ok address ∧
      tree.get? address = some (.file contents) := by
  obtain ⟨address, -, ⟨-, -, contents, -, hcontents, -⟩, hresolve, -⟩ :=
    (mem_files_scan_iff h).mp hfile
  exact ⟨address, contents, hresolve, hcontents⟩

/-- A scan lists each file once exactly when the places that are searched spell alike. -/
theorem listsOnce_iff (h : tree.IsPlain) : ListsOnce tree r ↔ SpellsAlike tree r := by
  constructor
  · intro honce root hroot other hother place between names hplace hbelow hthere hfirst hsecond
    have hentries : ∀ name ∈ between ++ names, IsEntryName name := fun name hname =>
      h.isEntryName _ hthere name (by simp_all)
    have hnames : ∀ name ∈ names, IsEntryName name := fun name hname =>
      hentries name (List.mem_append_right between hname)
    obtain ⟨address, contents, hresolve, hfile⟩ := exists_of_mem_files h hfirst
    obtain ⟨address', _, hresolve', -⟩ := exists_of_mem_files h hsecond
    obtain rfl := h.eq_append_of_resolve hentries hplace hresolve
    obtain rfl := h.eq_append_of_resolve hnames hbelow hresolve'
    rw [← List.append_assoc] at hresolve hfile
    have hsame := honce _ hfirst _ hsecond (hresolve.trans hresolve'.symm)
    exact (pathBelow_eq_iff_lead h hnames hresolve hresolve' hfile).mp
      (by rw [Path.mk.injEq]; exact hsame)
  · intro halike file hfile other hother hsame
    obtain ⟨address, ⟨root, hroot, place, names, hplace, haddress, hp⟩, hsource, hresolve, -⟩ :=
      (mem_files_scan_iff h).mp hfile
    obtain ⟨address', ⟨root', hroot', place', names', hplace', haddress', hp'⟩, -, hresolve', -⟩ :=
      (mem_files_scan_iff h).mp hother
    obtain rfl : address = address' := by
      rw [hresolve, hresolve'] at hsame
      exact Except.ok.inj hsame
    have hthere := hsource.get?_ne_none
    obtain ⟨-, -, contents, -, hcontents, -⟩ := hsource
    have hentry : ∀ name ∈ address, IsEntryName name := h.isEntryName address hthere
    have hsplit : place ++ names = place' ++ names' := haddress.symm.trans haddress'
    suffices hpath : Path.mk file = Path.mk other from congrArg Path.text hpath
    -- one of the places lies below the other
    rcases List.append_eq_append_iff.mp hsplit with ⟨between, rfl, rfl⟩ | ⟨between, rfl, rfl⟩
    · have hlead := halike root hroot root' hroot' place between names' hplace hplace'
        (by rwa [← haddress']) (by rwa [← hp]) (by rwa [← hp'])
      have hnames : ∀ name ∈ names', IsEntryName name := fun name hname =>
        hentry name (haddress' ▸ List.mem_append_right _ hname)
      rw [hp] at hresolve ⊢
      rw [hp'] at hresolve' ⊢
      exact (pathBelow_eq_iff_lead h hnames hresolve hresolve' hcontents).mpr hlead
    · have hlead := halike root' hroot' root hroot place' between names hplace' hplace
        (by rwa [← haddress]) (by rwa [← hp']) (by rwa [← hp])
      have hnames : ∀ name ∈ names, IsEntryName name := fun name hname =>
        hentry name (haddress ▸ List.mem_append_right _ hname)
      rw [hp] at hresolve ⊢
      rw [hp'] at hresolve' ⊢
      exact ((pathBelow_eq_iff_lead h hnames hresolve' hresolve hcontents).mpr hlead).symm

/-! ## Places that are spelled from a base -/

/-- Places that are spelled from a base: its path with names behind it. -/
def AreSpelledFrom (base : Path) (roots : List Path) : Prop :=
  ∀ root ∈ roots, ∃ names, (∀ name ∈ names, IsEntryName name) ∧ root = pathBelow base names

/-- A path below a base leads where its names do from the place that the base leads to. -/
theorem exists_base_of_resolve (h : tree.IsPlain) {base : Path} {names address : Address}
    (hnames : ∀ name ∈ names, IsEntryName name)
    (hresolve : tree.resolve (pathBelow base names) = .ok address) :
    ∃ place, tree.follow (FileTree.startOf tree.workingDirectory base) base.leadingNames =
        .ok (.entry place) ∧ address = place ++ names := by
  have hfollow := h.follow_leadingNames hresolve
  rw [startOf_pathBelow hnames, leadingNames_pathBelow hnames, FileTree.follow_append] at hfollow
  split at hfollow
  · rename_i place hplace
    exact ⟨place, hplace, h.eq_append_of_follow hnames hfollow⟩
  all_goals cases hfollow

/-- A spelling below places that are spelled from a base has the names of the address from the base
on. -/
theorem IsSpelling.exists_base (h : tree.IsPlain) {base p : Path} {roots : List Path}
    {address : Address} (hroots : AreSpelledFrom base roots)
    (hspelling : IsSpelling tree roots p address) :
    ∃ place names, tree.follow (FileTree.startOf tree.workingDirectory base) base.leadingNames =
      .ok (.entry place) ∧ address = place ++ names ∧ p = pathBelow base names := by
  obtain ⟨root, hroot, place, names, hplace, rfl, rfl⟩ := hspelling
  obtain ⟨front, hfront, rfl⟩ := hroots root hroot
  obtain ⟨origin, horigin, rfl⟩ := exists_base_of_resolve h hfront hplace
  exact ⟨origin, front ++ names, horigin, List.append_assoc .., (pathBelow_append ..).symm⟩

/-- Below places that are spelled from one base an address has one spelling. -/
theorem eq_of_isSpelling (h : tree.IsPlain) {base : Path} {roots others : List Path}
    (hroots : AreSpelledFrom base roots) (hothers : AreSpelledFrom base others) {p q : Path}
    {address : Address} (hp : IsSpelling tree roots p address)
    (hq : IsSpelling tree others q address) : p = q := by
  obtain ⟨place, names, hplace, haddress, rfl⟩ := hp.exists_base h hroots
  obtain ⟨place', names', hplace', haddress', rfl⟩ := hq.exists_base h hothers
  rw [hplace] at hplace'
  obtain rfl := FileTree.Reached.entry.inj (Except.ok.inj hplace')
  rw [List.append_cancel_left (haddress.symm.trans haddress')]

/-- A path below a base starts with another one when its names do. -/
theorem startsWith_pathBelow_iff {base : Path} {names front : Address}
    (hnames : ∀ name ∈ names, IsEntryName name) (hfront : ∀ name ∈ front, IsEntryName name) :
    (pathBelow base names).startsWith (pathBelow base front) = true ↔ front <+: names := by
  rw [Path.startsWith, List.isPrefixOf_iff_prefix, components_pathBelow hnames,
    components_pathBelow hfront, List.prefix_append_right_inj]
  exact List.prefix_map_iff_of_injective fun _ _ => Path.Component.name.inj

/-- A request that is written plainly, by a base without signs and by proper names from there on. -/
structure ScanRequest.IsWrittenPlainly (r : ScanRequest) : Prop where
  base_plain : Glob.IsWrittenPlainly r.base
  includes_straight : ∀ text ∈ r.includes, Glob.IsWrittenStraight text
  ignores_proper : ∀ text ∈ r.ignores, Glob.hasWildcard text = false →
    ∀ name ∈ (Path.mk text).names, IsEntryName name

/-- What an include names is spelled from a plainly written base, be it a path or a pattern. -/
theorem areSpelledFrom_includedRoots (h : tree.IsPlain) {base : Path} {text : String}
    (hbase : Glob.IsWrittenPlainly base) (htext : Glob.IsWrittenStraight text) :
    AreSpelledFrom base (includedRoots tree base text).1 := by
  intro root hroot
  rw [mem_includedRoots] at hroot
  split at hroot
  · exact Glob.exists_pathBelow_of_isNamed h hbase htext hroot
  · exact ⟨_, htext.isEntryName, hroot.1.trans (join_eq_pathBelow htext.isEntryName)⟩

/-- What a plainly written request searches is spelled from its base. -/
theorem areSpelledFrom_roots (h : tree.IsPlain) (hr : r.IsWrittenPlainly) :
    AreSpelledFrom r.base (r.roots tree).1 := by
  intro root hroot
  rcases mem_roots.mp hroot with ⟨-, rfl⟩ | ⟨text, htext, hincluded⟩
  · exact ⟨[], List.forall_mem_nil _, rfl⟩
  · exact areSpelledFrom_includedRoots h hr.base_plain (hr.includes_straight text htext) root
      hincluded

/-- A plainly written request lists each file once. -/
theorem listsOnce_of_isWrittenPlainly (h : tree.IsPlain) (hr : r.IsWrittenPlainly) :
    ListsOnce tree r := by
  intro file hfile other hother hsame
  obtain ⟨address, hspelling, -, hresolve, -⟩ := (mem_files_scan_iff h).mp hfile
  obtain ⟨address', hspelling', -, hresolve', -⟩ := (mem_files_scan_iff h).mp hother
  rw [hresolve, hresolve'] at hsame
  obtain rfl := Except.ok.inj hsame
  have hroots := areSpelledFrom_roots h hr
  exact congrArg Path.text
    (eq_of_isSpelling h hroots hroots hspelling hspelling')

/-- An ignored path excludes all that is beneath it. -/
theorem not_finds_of_ignored (h : tree.IsPlain) (hr : r.IsWrittenPlainly) {text : String}
    (htext : text ∈ r.ignores) (hliteral : Glob.hasWildcard text = false) {place below : Address}
    (hplace : tree.resolve (r.base.join ⟨text⟩) = .ok place) : ¬ Finds tree r (place ++ below) := by
  intro hfinds
  obtain ⟨hsource, p, hspelling, -, huncovered⟩ := (finds_iff h).mp hfinds
  have hnames := hr.ignores_proper text htext hliteral
  rw [join_eq_pathBelow hnames] at hplace
  obtain ⟨origin, horigin, rfl⟩ := exists_base_of_resolve h hnames hplace
  obtain ⟨origin', names, horigin', haddress, rfl⟩ :=
    hspelling.exists_base h (areSpelledFrom_roots h hr)
  rw [horigin] at horigin'
  obtain rfl := FileTree.Reached.entry.inj (Except.ok.inj horigin')
  rw [List.append_assoc] at haddress hsource
  obtain rfl := List.append_cancel_left haddress
  have hbelow : ∀ name ∈ (Path.mk text).names ++ below, IsEntryName name := fun name hname =>
    h.isEntryName _ hsource.get?_ne_none name (List.mem_append_right origin hname)
  have hcovered : r.ignoreRules.covers (pathBelow r.base ((Path.mk text).names ++ below)) = true := by
    rw [IgnoreRules.covers, Bool.or_eq_true, List.any_eq_true]
    refine Or.inl ⟨r.base.join ⟨text⟩, ?_, ?_⟩
    · exact List.mem_map_of_mem (List.mem_filter.mpr ⟨htext, by simp [hliteral]⟩)
    · rw [join_eq_pathBelow hnames, startsWith_pathBelow_iff hbelow hnames]
      exact List.prefix_append _ _
  rw [huncovered] at hcovered
  cases hcovered

/-! ## Identity -/

/-- The same request with one include. -/
def ScanRequest.including (r : ScanRequest) (text : String) : ScanRequest :=
  { r with includes := [text] }

/-- An include reaches an address: it names a place that the address is at or below. -/
def Reaches (tree : FileTree) (base : Path) (text : String) (address : Address) : Prop :=
  ∃ p, IsSpelling tree (includedRoots tree base text).1 p address

/-- What one include finds is told by the spellings that it reaches a source file under. -/
theorem finds_including_iff (h : tree.IsPlain) {text : String} {address : Address} :
    Finds tree (r.including text) address ↔ IsSourceAt tree address ∧
      ∃ p, IsSpelling tree (includedRoots tree r.base text).1 p address ∧
        tree.resolve p = .ok address ∧ r.ignoreRules.covers p = false := by
  have hroots : ∀ p, p ∈ ((r.including text).roots tree).1 ↔
      p ∈ (includedRoots tree r.base text).1 := by
    intro p
    rw [mem_roots]
    simp [ScanRequest.including]
  rw [finds_iff h]
  simp only [IsSpelling, hroots]
  exact Iff.rfl

/-- A scan of a tree of files and directories lists each file once exactly when the places that it
searches spell alike what they share, and one include keeps a source file exactly when a spelling
that it reaches the file under leads there and is not ignored. A request that is written plainly
lists each file once, keeps it by any include that reaches it or by none, and finds nothing beneath
a path that it ignores. -/
theorem identity_of_scan (h : tree.IsPlain) (r : ScanRequest) :
    (ListsOnce tree r ↔ SpellsAlike tree r) ∧
    (∀ text address, Finds tree (r.including text) address ↔ IsSourceAt tree address ∧
      ∃ p, IsSpelling tree (includedRoots tree r.base text).1 p address ∧
        tree.resolve p = .ok address ∧ r.ignoreRules.covers p = false) ∧
    (r.IsWrittenPlainly →
      ListsOnce tree r ∧
      (∀ text ∈ r.includes, ∀ other ∈ r.includes, ∀ address, Reaches tree r.base text address →
        Reaches tree r.base other address →
        (Finds tree (r.including text) address ↔ Finds tree (r.including other) address)) ∧
      ∀ text ∈ r.ignores, Glob.hasWildcard text = false → ∀ place below,
        tree.resolve (r.base.join ⟨text⟩) = .ok place → ¬ Finds tree r (place ++ below)) := by
  refine ⟨listsOnce_iff h, fun text address => finds_including_iff h, fun hr => ?_⟩
  refine ⟨listsOnce_of_isWrittenPlainly h hr, ?_, ?_⟩
  · intro text htext other hother address hreach hreach'
    have hspelled : ∀ part ∈ r.includes, AreSpelledFrom r.base (includedRoots tree r.base part).1 :=
      fun part hpart =>
        areSpelledFrom_includedRoots h hr.base_plain (hr.includes_straight part hpart)
    have hkept : ∀ part ∈ r.includes, ∀ whole ∈ r.includes, Reaches tree r.base whole address →
        Finds tree (r.including part) address → Finds tree (r.including whole) address := by
      rintro part hpart whole hwhole ⟨q, hq⟩ hfinds
      obtain ⟨hsource, p, hp, hresolve, huncovered⟩ := (finds_including_iff h).mp hfinds
      obtain rfl := eq_of_isSpelling h (hspelled part hpart) (hspelled whole hwhole) hp hq
      exact (finds_including_iff h).mpr ⟨hsource, p, hq, hresolve, huncovered⟩
    exact ⟨hkept text htext other hother hreach', hkept other hother text htext hreach⟩
  · intro text htext hliteral place below hplace
    exact not_finds_of_ignored h hr htext hliteral hplace

/-- A search of the source directory by its path and by a pattern, from the root on. -/
def rootedRequest : ScanRequest := ⟨⟨"/"⟩, ["src", "sr*"], ["lib"], false⟩

/-- Both ways reach the one file, under one spelling. -/
theorem identity_of_rootedRequest : swordTree.IsPlain ∧ rootedRequest.IsWrittenPlainly ∧
    ListsOnce swordTree rootedRequest ∧
    Reaches swordTree ⟨"/"⟩ "src" ["src", "sword.ts"] ∧
    Reaches swordTree ⟨"/"⟩ "sr*" ["src", "sword.ts"] ∧
    Finds swordTree (rootedRequest.including "src") ["src", "sword.ts"] ∧
    Finds swordTree (rootedRequest.including "sr*") ["src", "sword.ts"] := by
  have hplain : rootedRequest.IsWrittenPlainly := by
    refine ⟨⟨"/", [], Or.inl rfl, List.forall_mem_nil _, rfl⟩, by decide, by decide⟩
  obtain ⟨-, -, hrooted⟩ := identity_of_scan isPlain_swordTree rootedRequest
  obtain ⟨honce, hsame, -⟩ := hrooted hplain
  have hreach : ∀ text ∈ ["src", "sr*"], Reaches swordTree ⟨"/"⟩ text ["src", "sword.ts"] := by
    intro text htext
    refine ⟨⟨"/src/sword.ts"⟩, ⟨"/src"⟩, ?_, ["src"], ["sword.ts"], by decide, rfl, by decide⟩
    revert text
    decide
  have hfinds : Finds swordTree (rootedRequest.including "src") ["src", "sword.ts"] :=
    ⟨"/src/sword.ts", mem_files_scan.mpr (by decide), by decide⟩
  refine ⟨isPlain_swordTree, hplain, honce, hreach "src" (by decide), hreach "sr*" (by decide),
    hfinds, ?_⟩
  exact (hsame "src" (by decide) "sr*" (by decide) _ (hreach "src" (by decide))
    (hreach "sr*" (by decide))).mp hfinds

/-- The same search from the working directory, with or without an ignored path. -/
def dottedRequest (ignores : List String) : ScanRequest := ⟨⟨"."⟩, ["src", "sr*"], ignores, false⟩

/-- From the working directory the pattern spells the file without the dot that the path spells it
with. So it is listed twice, and only one of the spellings is beneath an ignored path. -/
theorem file_is_listed_twice : swordTree.IsPlain ∧
    (∀ file ∈ ["./src/sword.ts", "src/sword.ts"],
      file ∈ (scan swordTree (dottedRequest [])).files) ∧
    swordTree.resolve ⟨"./src/sword.ts"⟩ = swordTree.resolve ⟨"src/sword.ts"⟩ ∧
    ¬ ListsOnce swordTree (dottedRequest []) ∧
    Reaches swordTree ⟨"."⟩ "src" ["src", "sword.ts"] ∧
    Reaches swordTree ⟨"."⟩ "sr*" ["src", "sword.ts"] ∧
    ¬ Finds swordTree ((dottedRequest ["src"]).including "src") ["src", "sword.ts"] ∧
    Finds swordTree ((dottedRequest ["src"]).including "sr*") ["src", "sword.ts"] := by
  have hfiles : wantedFiles swordTree (dottedRequest []) = ["./src/sword.ts", "src/sword.ts"] := by
    decide
  have hnone : wantedFiles swordTree ((dottedRequest ["src"]).including "src") = [] := by decide
  have hresolve : swordTree.resolve ⟨"./src/sword.ts"⟩ = swordTree.resolve ⟨"src/sword.ts"⟩ := by
    decide
  have hmem : ∀ file ∈ ["./src/sword.ts", "src/sword.ts"],
      file ∈ (scan swordTree (dottedRequest [])).files := fun file hfile =>
    mem_files_scan.mpr (hfiles ▸ hfile)
  refine ⟨isPlain_swordTree, hmem, hresolve, ?_, ?_, ?_, ?_, ?_⟩
  · intro honce
    have hsame := honce _ (hmem _ (by decide)) _ (hmem _ (by decide)) hresolve
    exact absurd hsame (by decide)
  · exact ⟨⟨"./src/sword.ts"⟩, ⟨"./src"⟩, by decide, ["src"], ["sword.ts"], by decide, rfl, by decide⟩
  · exact ⟨⟨"src/sword.ts"⟩, ⟨"src"⟩, by decide, ["src"], ["sword.ts"], by decide, rfl, by decide⟩
  · rintro ⟨file, hfile, -⟩
    rw [mem_files_scan, hnone] at hfile
    cases hfile
  · exact ⟨"src/sword.ts", mem_files_scan.mpr (by decide), by decide⟩

end ClassRegistry
