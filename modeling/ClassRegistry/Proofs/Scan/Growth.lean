import ClassRegistry.Proofs.FirstSeen
import ClassRegistry.Proofs.Glob.Growth
import ClassRegistry.Proofs.Scan.Walk
import Mathlib.Data.String.Basic

/-!
# Scans of a tree that grows

A tree that grows by files which are no source files, and by directories, is scanned as before: a
source file that is found was there, so the places on the way to it were there too, and what was
found is found. Only a search that climbs out of a new directory could come upon an old file anew.
-/

namespace ClassRegistry

open FileTree (Grows KeepsDirectories)

/-! ## What a scan lists -/

/-- Sorting loses no text and adds none. -/
theorem mem_sortedDistinct {texts : List String} {text : String} :
    text ∈ sortedDistinct texts ↔ text ∈ texts := by
  rw [sortedDistinct, List.mem_eraseDups, List.mem_mergeSort]

/-- Texts in ascending order, each once, are told by which they are. -/
theorem sortedDistinct_eq_of_mem_iff {texts others : List String}
    (h : ∀ text, text ∈ texts ↔ text ∈ others) : sortedDistinct texts = sortedDistinct others := by
  have htrans : ∀ a b c : String, decide (a ≤ b) = true → decide (b ≤ c) = true →
      decide (a ≤ c) = true := by
    simpa using fun a b c : String => le_trans
  have htotal : ∀ a b : String, (decide (a ≤ b) || decide (b ≤ a)) = true := by
    simpa using fun a b : String => le_total a b
  have hsorted : ∀ texts : List String, (sortedDistinct texts).Pairwise (· ≤ ·) := by
    intro texts
    have hmerge := (List.pairwise_mergeSort htrans htotal texts).imp of_decide_eq_true
    exact hmerge.sublist (eraseDups_sublist _)
  have hmem : ∀ text, text ∈ sortedDistinct texts ↔ text ∈ sortedDistinct others := by
    intro text
    rw [mem_sortedDistinct, mem_sortedDistinct]
    exact h text
  have hperm := (List.perm_ext_iff_of_nodup (nodup_eraseDups _) (nodup_eraseDups _)).mpr hmem
  exact hperm.eq_of_pairwise (fun a b _ _ => le_antisymm) (hsorted texts) (hsorted others)

theorem sortedDistinct_singleton (text : String) : sortedDistinct [text] = [text] := by
  rw [sortedDistinct, List.mergeSort_singleton]
  rfl

/-- The wanted files as the walks from the places of a request come upon them. -/
def wantedFiles (tree : FileTree) (r : ScanRequest) : List String :=
  ((((r.roots tree).1.map (walk tree)).flatMap (·.paths)).filter (isWanted tree r.ignoreRules)).map
    (·.text)

section Scan

variable {tree : FileTree} {r : ScanRequest}

theorem files_scan : (scan tree r).files = sortedDistinct (wantedFiles tree r) :=
  rfl

/-- The wanted files are those that the walks from the places of a request come upon. -/
theorem mem_wantedFiles {file : String} : file ∈ wantedFiles tree r ↔
    ∃ p, (∃ root ∈ (r.roots tree).1, p ∈ (walk tree root).paths) ∧
      isWanted tree r.ignoreRules p = true ∧ p.text = file := by
  simp only [wantedFiles, List.mem_map, List.mem_filter, List.mem_flatMap,
    exists_exists_and_eq_and, and_assoc]

/-- A scan lists no other files. -/
theorem mem_files_scan {file : String} :
    file ∈ (scan tree r).files ↔ file ∈ wantedFiles tree r := by
  rw [files_scan, mem_sortedDistinct]

/-- A scan lists source files only. -/
theorem isSourcePath_of_mem_scan {file : String} (h : file ∈ (scan tree r).files) :
    isSourcePath ⟨file⟩ = true := by
  obtain ⟨p, -, hwanted, rfl⟩ := mem_wantedFiles.mp (mem_files_scan.mp h)
  rw [isWanted, Bool.and_eq_true] at hwanted
  exact hwanted.2

/-- The places that an include names: the directories of a pattern, or a path that is there. -/
theorem mem_includedRoots {base p : Path} {text : String} :
    p ∈ (includedRoots tree base text).1 ↔
      if Glob.hasWildcard text then Glob.IsNamed tree (base.join ⟨text⟩) p
      else p = base.join ⟨text⟩ ∧ tree.contains p = true := by
  simp only [includedRoots, Glob.IsNamed]
  by_cases hwildcard : Glob.hasWildcard text = true
  · rw [if_pos hwildcard, if_pos hwildcard]
    cases Glob.directories tree (base.join ⟨text⟩) with
    | ok roots => simp
    | error e => simp
  · rw [if_neg hwildcard, if_neg hwildcard]
    by_cases hthere : tree.contains (base.join ⟨text⟩) = true
    · rw [if_pos hthere, List.mem_singleton]
      exact ⟨fun hp => ⟨hp, hp ▸ hthere⟩, fun hp => hp.1⟩
    · rw [if_neg hthere]
      constructor
      · intro hp
        cases hp
      · rintro ⟨rfl, hp⟩
        exact absurd hp hthere

/-- The places that are searched: the base when there are no includes, or those that an include
names. -/
theorem mem_roots {p : Path} : p ∈ (r.roots tree).1 ↔
    (r.includes = [] ∧ p = r.base) ∨
      ∃ text ∈ r.includes, p ∈ (includedRoots tree r.base text).1 := by
  rw [ScanRequest.roots]
  cases r.includes with
  | nil => simp
  | cons text rest => simp

end Scan

/-! ## Trees that grow by other files -/

/-- A name that no source file bears. -/
def IsOtherName (name : String) : Prop :=
  ∀ p : Path, p.fileName? = some name → isSourcePath p = false

section Growth

variable {tree grown : FileTree} {r : ScanRequest} {rules : IgnoreRules} {p root : Path}

/-- A place that was searched is searched. -/
theorem mem_roots_of_grows {kind : String → Prop} (h : Grows kind tree grown)
    (hroot : root ∈ (r.roots tree).1) : root ∈ (r.roots grown).1 := by
  rw [mem_roots] at hroot ⊢
  refine hroot.imp_right ?_
  rintro ⟨text, htext, hincluded⟩
  refine ⟨text, htext, ?_⟩
  rw [mem_includedRoots] at hincluded ⊢
  split
  · rename_i hwildcard
    rw [if_pos hwildcard] at hincluded
    exact hincluded.grows h
  · rename_i hwildcard
    rw [if_neg hwildcard] at hincluded
    exact ⟨hincluded.1, h.contains_eq hincluded.2⟩

/-- A place that is searched was searched when it was there. -/
theorem mem_roots_of_grown {kind : String → Prop} (h : Grows kind tree grown)
    (hroot : root ∈ (r.roots grown).1) (hthere : tree.contains root = true) :
    root ∈ (r.roots tree).1 := by
  rw [mem_roots] at hroot ⊢
  refine hroot.imp_right ?_
  rintro ⟨text, htext, hincluded⟩
  refine ⟨text, htext, ?_⟩
  rw [mem_includedRoots] at hincluded ⊢
  split
  · rename_i hwildcard
    rw [if_pos hwildcard] at hincluded
    have hdirectory := Glob.isDirectory_of_isNamed hincluded
    exact hincluded.of_grown h (h.isDirectory_of_grown hdirectory hthere)
  · rename_i hwildcard
    rw [if_neg hwildcard] at hincluded
    exact ⟨hincluded.1, hthere⟩

theorem isWanted_of_grows {kind : String → Prop} (h : Grows kind tree grown)
    (hwanted : isWanted tree rules p = true) : isWanted grown rules p = true := by
  rw [isWanted, Bool.and_eq_true, Bool.and_eq_true] at hwanted ⊢
  exact ⟨⟨hwanted.1.1, h.isFile_eq hwanted.1.2⟩, hwanted.2⟩

/-- A file that is wanted was there. -/
theorem exists_of_isWanted_grown (h : Grows IsOtherName tree grown)
    (hwanted : isWanted grown rules p = true) :
    ∃ address, grown.resolve p = .ok address ∧
      ∃ contents, tree.get? address = some (.file contents) := by
  rw [isWanted, Bool.and_eq_true, Bool.and_eq_true] at hwanted
  obtain ⟨address, contents, hresolve, hfile⟩ := FileTree.isFile_iff.mp hwanted.1.2
  refine ⟨address, hresolve, h.exists_get?_eq_file hfile ?_⟩
  intro hnew
  have hreach := FileTree.resolve_eq_ok_iff.mp hresolve
  obtain ⟨directory, name, rfl, hname⟩ := h.isPlain_grown.fileName?_of_reach hreach hfile
  have hother := h.new_file directory name contents hfile hnew p hname
  rw [hwanted.2] at hother
  cases hother

/-- A tree that grows by other files is scanned as before, unless a search climbs out of a new
directory. -/
theorem files_scan_of_grows (h : Grows IsOtherName tree grown)
    (hclimb : KeepsDirectories tree grown ∨ ∀ root ∈ (r.roots grown).1, ".." ∉ root.names) :
    (scan grown r).files = (scan tree r).files := by
  rw [files_scan, files_scan]
  refine sortedDistinct_eq_of_mem_iff fun file => ?_
  rw [mem_wantedFiles, mem_wantedFiles]
  constructor
  · rintro ⟨p, ⟨root, hroot, hp⟩, hwanted, hfile⟩
    obtain ⟨address, hresolve, contents, hbefore⟩ := exists_of_isWanted_grown h hwanted
    have hthere : tree.get? address ≠ none := by simp [hbefore]
    obtain ⟨hmet, hnamed, place, hplace, hfound⟩ :=
      h.mem_walk_of_grown (hclimb.imp_right fun hup => hup root hroot) hp hresolve hthere
    have hwas := mem_roots_of_grown h hroot (FileTree.contains_iff.mpr ⟨place, hplace, hfound⟩)
    refine ⟨p, ⟨root, hwas, hmet⟩, ?_, hfile⟩
    rw [isWanted, Bool.and_eq_true, Bool.and_eq_true] at hwanted ⊢
    exact ⟨⟨hwanted.1.1, FileTree.isFile_iff.mpr ⟨address, contents, hnamed, hbefore⟩⟩, hwanted.2⟩
  · rintro ⟨p, ⟨root, hroot, hp⟩, hwanted, hfile⟩
    exact ⟨p, ⟨root, mem_roots_of_grows h hroot, h.mem_walk hp⟩, isWanted_of_grows h hwanted, hfile⟩

end Growth

end ClassRegistry
