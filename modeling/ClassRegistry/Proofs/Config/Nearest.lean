import ClassRegistry.Config.File
import ClassRegistry.Proofs.FileTree.Plain
import ClassRegistry.Proofs.Path.Ancestors

/-!
# The nearest configuration file

The search for a configuration file takes back one name of the start after the other. Where these
names lead straight down, to the directories of the start and of what is above it, the first
directory that decides is the nearest one. The search does not climb out of where the names start,
which for a relative path is the working directory, and a `..` makes it pass through directories
that do not enclose the start.
-/

namespace ClassRegistry

open FileTree (textFault? startOf maximalLinks)

namespace FileTree

variable {tree : FileTree} {p q : Path} {home above : Address} {name : String}

/-! ## What a directory holds -/

/-- Something is in a directory under a name, links followed. -/
def Holds (tree : FileTree) (directory : Address) (name : String) : Prop :=
  ∃ address, tree.followLinks maximalLinks directory [name] = .ok (.entry address) ∧
    tree.get? address ≠ none

/-- A path leads to a directory without coming upon a link on its way. -/
structure LeadsStraight (tree : FileTree) (p : Path) (home : Address) : Prop where
  follow_eq : tree.follow (startOf tree.workingDirectory p) p.leadingNames = .ok (.entry home)
  get?_eq : tree.get? home = some .directory

theorem LeadsStraight.isDirectoryOf (h : tree.LeadsStraight p home) :
    tree.IsDirectoryOf p home :=
  ⟨followLinks_of_follow_eq_entry h.follow_eq _, h.get?_eq⟩

/-- In a tree without links every path of a directory leads there straight. -/
theorem IsPlain.leadsStraight (h : tree.IsPlain) (hp : tree.IsDirectoryOf p home) :
    tree.LeadsStraight p home :=
  ⟨by rw [← h.followLinks_eq maximalLinks]; exact hp.leads, hp.get?_eq⟩

/-- A name that is joined to the path of a directory is there when the directory holds it. -/
theorem LeadsStraight.contains_join_iff (h : tree.LeadsStraight p home)
    (hname : '/' ∉ name.toList) (htext : textFault? (p.join ⟨name⟩) = none) :
    tree.contains (p.join ⟨name⟩) = true ↔ tree.Holds home name := by
  rw [contains_iff, Holds]
  simp only [resolve_eq_ok_iff, reach_join hname htext,
    followLinks_append_of_follow h.follow_eq]

/-! ## One step up -/

/-- Names that say nothing stay where they start. -/
theorem eq_of_follow_blanks {address reached : Address} {blanks : List String}
    (hblanks : ∀ blank ∈ blanks, blank = "" ∨ blank = ".")
    (h : tree.follow address blanks = .ok (.entry reached)) : reached = address := by
  by_cases hnone : blanks = []
  · rw [hnone] at h
    exact (Reached.entry.inj (Except.ok.inj h)).symm
  · rw [follow_blanks (get?_eq_directory_of_follow hnone h) hblanks] at h
    exact (Reached.entry.inj (Except.ok.inj h)).symm

/-- A name that leads on without a link leads nowhere else, up, or to the entry that bears it. -/
theorem exists_next_of_follow_cons {address reached : Address} {rest : List String}
    (h : tree.follow address (name :: rest) = .ok (.entry reached)) :
    ∃ next, tree.follow next rest = .ok (.entry reached) ∧
      (next = address ∨ name = ".." ∨ next = address ++ [name]) := by
  have hdirectory := get?_eq_directory_of_follow (List.cons_ne_nil name rest) h
  rcases follow_cons_cases hdirectory h with ⟨-, hrest⟩ | ⟨rfl, hrest⟩ | ⟨hspecial, hsize⟩
  · exact ⟨address, hrest, Or.inl rfl⟩
  · exact ⟨address.dropLast, hrest, Or.inr (Or.inl rfl)⟩
  · rw [follow_name hdirectory hspecial hsize] at h
    split at h
    · cases h
    · cases h
    · exact ⟨address ++ [name], h, Or.inr (Or.inr rfl)⟩

/-- The parent of a path leads straight to a directory, too: to the same one or, when no `..` is
among the names, to the one that it stands in. -/
theorem LeadsStraight.of_parent? (h : tree.LeadsStraight p home) (hparent : p.parent? = some q) :
    ∃ above, tree.LeadsStraight q above ∧
      (".." ∉ p.leadingNames → above = home ∨ ∃ name, home = above ++ [name]) := by
  obtain ⟨between, name, blanks, hnames, hblanks⟩ := Path.exists_leadingNames_of_parent? hparent
  have hfollow := h.follow_eq
  have hstart : startOf tree.workingDirectory q = startOf tree.workingDirectory p := by
    rw [startOf, startOf, Path.isAbsolute_of_parent? hparent]
  rw [hnames, List.append_assoc, follow_append] at hfollow
  split at hfollow
  · rename_i above habove
    have hmore : between ++ name :: blanks ≠ [] := by simp
    have hdirectory := get?_eq_directory_of_follow hmore hfollow
    refine ⟨above, ⟨hstart ▸ habove, hdirectory⟩, fun hup => ?_⟩
    have hbetween := follow_blanks hdirectory fun blank hblank =>
      hblanks blank (List.mem_append_left blanks hblank)
    rw [follow_append, hbetween] at hfollow
    obtain ⟨next, hnext, hcases⟩ := exists_next_of_follow_cons hfollow
    obtain rfl := eq_of_follow_blanks
      (fun blank hblank => hblanks blank (List.mem_append_right between hblank)) hnext
    rcases hcases with hsame | rfl | hentry
    · exact Or.inl hsame.symm
    · exact absurd (by simp [hnames]) hup
    · exact Or.inr ⟨name, hentry⟩
  all_goals cases hfollow

/-- A path without a parent leads nowhere else than its names start. -/
theorem LeadsStraight.eq_of_parent?_eq_none (h : tree.LeadsStraight p home)
    (hparent : p.parent? = none) : home = startOf tree.workingDirectory p :=
  eq_of_follow_blanks
    (fun _ hblank => Path.eq_of_mem_leadingNames_of_parent?_eq_none hparent hblank) h.follow_eq

/-- What can be followed with a name behind it can be followed with a shorter one behind its
parent. -/
theorem textFault?_join_of_parent? {other : String} (hname : '/' ∉ name.toList)
    (hother : '/' ∉ other.toList) (hzero : '\x00' ∉ other.toList) (hne : other ≠ "")
    (hsize : other.utf8ByteSize ≤ name.utf8ByteSize)
    (hlead : ∃ rest, p.lead = q.lead ++ rest) (h : textFault? (p.join ⟨name⟩) = none) :
    textFault? (q.join ⟨other⟩) = none := by
  obtain ⟨rest, hrest⟩ := hlead
  rw [Path.join_eq_lead (Path.isAbsolute_eq_false hname), textFault?_eq_none_iff, hrest] at h
  obtain ⟨-, hnone, hfits⟩ := h
  rw [Path.join_eq_lead (Path.isAbsolute_eq_false hother), textFault?_eq_none_iff]
  simp only [String.toList_append, List.mem_append, not_or, String.utf8ByteSize_append]
    at hnone hfits ⊢
  refine ⟨fun hempty => hne ?_, ⟨hnone.1.1, hzero⟩, by omega⟩
  exact (String.append_eq_empty_iff.mp hempty).2

end FileTree

namespace Config

open FileTree (IsDirectoryOf Holds LeadsStraight)

variable {tree : FileTree} {start p q : Path} {home above d : Address}

/-! ## What is looked for -/

/-- A directory that encloses another one, or this one itself, has a configuration file, and no
directory between the two has one or is the top of a working copy. -/
structure IsNearest (tree : FileTree) (home d : Address) : Prop where
  encloses : d <+: home
  holds : tree.Holds d fileName
  nearer : ∀ nearer, d <+: nearer → nearer <+: home → nearer ≠ d →
    ¬ tree.Holds nearer fileName ∧ ¬ tree.Holds nearer workingCopyMark

/-- The first of some directories that has a configuration file or is the top of a working copy has
a configuration file. -/
inductive Decides (tree : FileTree) : List Address → Address → Prop
  | here {d : Address} {farther : List Address} :
    tree.Holds d fileName → Decides tree (d :: farther) d
  | farther {nearer d : Address} {farther : List Address} : ¬ tree.Holds nearer fileName →
    ¬ tree.Holds nearer workingCopyMark → Decides tree farther d →
    Decides tree (nearer :: farther) d

/-- The configuration file that a search finds is that of a directory. -/
def FindsIn (tree : FileTree) (start : Path) (d : Address) : Prop :=
  ∃ q : Path, find? tree start = some (q.join ⟨fileName⟩) ∧ tree.IsDirectoryOf q d

/-- The nearest configuration file is that of the directory itself, or this has none and is not the
top of a working copy. -/
theorem IsNearest.cases (h : IsNearest tree home d) :
    (tree.Holds home fileName ∧ d = home) ∨
      (¬ tree.Holds home fileName ∧ ¬ tree.Holds home workingCopyMark ∧ d ≠ home) := by
  by_cases hd : d = home
  · exact Or.inl ⟨hd ▸ h.holds, hd⟩
  · obtain ⟨hfile, hmark⟩ := h.nearer home h.encloses List.prefix_rfl (Ne.symm hd)
    exact Or.inr ⟨hfile, hmark, hd⟩

/-- A directory with a configuration file has the nearest one. -/
theorem isNearest_self (h : tree.Holds home fileName) : IsNearest tree home home where
  encloses := List.prefix_rfl
  holds := h
  nearer _ hd hnearer hne :=
    absurd (hnearer.eq_of_length_le hd.length_le) hne

/-- A directory without a configuration file that is not the top of a working copy leaves the
decision to the one it stands in. -/
theorem isNearest_concat_iff {name : String} (hfile : ¬ tree.Holds (above ++ [name]) fileName)
    (hmark : ¬ tree.Holds (above ++ [name]) workingCopyMark) :
    IsNearest tree (above ++ [name]) d ↔ IsNearest tree above d := by
  constructor
  · intro h
    have hne : d ≠ above ++ [name] := fun hd => hfile (hd ▸ h.holds)
    have hencloses := (List.prefix_concat_iff.mp h.encloses).resolve_left hne
    refine ⟨hencloses, h.holds, fun nearer hd hnearer => ?_⟩
    exact h.nearer nearer hd (hnearer.trans (List.prefix_append above [name]))
  · intro h
    have hencloses := h.encloses.trans (List.prefix_append above [name])
    refine ⟨hencloses, h.holds, fun nearer hd hnearer => ?_⟩
    rcases List.prefix_concat_iff.mp hnearer with rfl | hnearer
    · exact fun _ => ⟨hfile, hmark⟩
    · exact h.nearer nearer hd hnearer

/-! ## The search -/

/-- A search looks at its start and goes on from the parent. -/
theorem find?_eq (tree : FileTree) (p : Path) : find? tree p =
    if tree.contains (p.join ⟨fileName⟩) then some (p.join ⟨fileName⟩)
    else if tree.contains (p.join ⟨workingCopyMark⟩) then none
    else p.parent?.bind (find? tree) := by
  have hsome : ∃ rest, p.ancestors = p :: rest ∧
      findIn? tree rest = p.parent?.bind (find? tree) := by
    cases hparent : p.parent? with
    | none => exact ⟨[], Path.ancestors_of_parent?_eq_none hparent, rfl⟩
    | some q => exact ⟨q.ancestors, Path.ancestors_of_parent?_eq_some hparent, rfl⟩
  obtain ⟨rest, hrest, hfind⟩ := hsome
  rw [find?, hrest, findIn?, hfind]

/-- Paths with the same name behind them are those of the same directories. -/
theorem isDirectoryOf_of_join_eq {name : String} (hname : '/' ∉ name.toList)
    (h : p.join ⟨name⟩ = q.join ⟨name⟩) (hp : tree.IsDirectoryOf p d) : tree.IsDirectoryOf q d := by
  have hnames : p.leadingNames = q.leadingNames := by
    have hjoined := Path.names_join (p := p) hname
    rw [h, Path.names_join hname] at hjoined
    exact (List.append_cancel_right hjoined).symm
  have hstart : p.isAbsolute = q.isAbsolute := by
    rw [← Path.isAbsolute_join (p := p) hname, h, Path.isAbsolute_join hname]
  refine ⟨?_, hp.get?_eq⟩
  have hleads := hp.leads
  rw [FileTree.startOf, hstart, hnames] at hleads
  exact hleads

/-- A start from which the search can look at directories: its path leads straight to one, and the
name of a configuration file fits behind it. -/
structure IsStart (tree : FileTree) (p : Path) (home : Address) : Prop where
  leadsStraight : tree.LeadsStraight p home
  textFault?_eq : textFault? (p.join ⟨fileName⟩) = none

/-- The configuration file that is found is that of the start, or this has none and is not the top
of a working copy, and the search from the parent finds it. -/
theorem IsStart.findsIn_iff (h : IsStart tree p home) : FindsIn tree p d ↔
    (tree.Holds home fileName ∧ d = home) ∨
      (¬ tree.Holds home fileName ∧ ¬ tree.Holds home workingCopyMark ∧
        ∃ q, p.parent? = some q ∧ FindsIn tree q d) := by
  have hslash : '/' ∉ fileName.toList := by decide
  have hmarkText : textFault? (p.join ⟨workingCopyMark⟩) = none :=
    FileTree.textFault?_join_of_parent? hslash (by decide) (by decide) (by decide) (by decide)
      ⟨"", String.append_empty.symm⟩ h.textFault?_eq
  have hfile := h.leadsStraight.contains_join_iff hslash h.textFault?_eq
  have hmark := h.leadsStraight.contains_join_iff (by decide) hmarkText
  rw [FindsIn, find?_eq, ← hfile, ← hmark]
  by_cases hhere : tree.contains (p.join ⟨fileName⟩) = true
  · rw [if_pos hhere]
    constructor
    · rintro ⟨q, hjoin, hq⟩
      have hd := isDirectoryOf_of_join_eq hslash (Option.some.inj hjoin).symm hq
      exact Or.inl ⟨hhere, hd.eq h.leadsStraight.isDirectoryOf⟩
    · rintro (⟨-, rfl⟩ | ⟨hnot, -⟩)
      · exact ⟨p, rfl, h.leadsStraight.isDirectoryOf⟩
      · exact absurd hhere hnot
  · rw [if_neg hhere]
    by_cases htop : tree.contains (p.join ⟨workingCopyMark⟩) = true
    · rw [if_pos htop]
      constructor
      · rintro ⟨q, hnone, -⟩
        cases hnone
      · rintro (⟨hfound, -⟩ | ⟨-, hnot, -⟩)
        · exact absurd hfound hhere
        · exact absurd htop hnot
    · rw [if_neg htop]
      constructor
      · rintro ⟨r, hr, hd⟩
        obtain ⟨q, hparent, hfind⟩ := Option.bind_eq_some_iff.mp hr
        exact Or.inr ⟨hhere, htop, q, hparent, r, hfind, hd⟩
      · rintro (⟨hfound, -⟩ | ⟨-, -, q, hparent, r, hr, hd⟩)
        · exact absurd hfound hhere
        · exact ⟨r, Option.bind_eq_some_iff.mpr ⟨q, hparent, hr⟩, hd⟩

/-- The parent of a start is one. -/
theorem IsStart.of_parent? (h : IsStart tree p home) (hparent : p.parent? = some q) :
    ∃ above, IsStart tree q above ∧
      (".." ∉ p.leadingNames → above = home ∨ ∃ name, home = above ++ [name]) := by
  obtain ⟨above, hleads, hup⟩ := h.leadsStraight.of_parent? hparent
  have hlead : ∃ rest, p.lead = q.lead ++ rest := by
    obtain ⟨rest, -, hrest⟩ := Path.exists_text_of_parent? hparent
    obtain ⟨more, hmore⟩ := p.exists_lead
    exact ⟨rest ++ more, by rw [hmore, hrest, String.append_assoc]⟩
  refine ⟨above, ⟨hleads, ?_⟩, hup⟩
  exact FileTree.textFault?_join_of_parent? (by decide) (by decide) (by decide) (by decide)
    (Nat.le_refl _) hlead h.textFault?_eq

/-- The search passes through the directories that the paths above the start lead to, and the first
of them that decides has the configuration file that it finds. -/
theorem IsStart.exists_decides (h : IsStart tree p home) : ∃ directories,
    List.Forall₂ tree.IsDirectoryOf p.ancestors directories ∧
      ∀ d, FindsIn tree p d ↔ Decides tree directories d := by
  induction p using Path.induction_on_parent? generalizing home with
  | top p hparent =>
      rw [Path.ancestors_of_parent?_eq_none hparent]
      refine ⟨[home], .cons h.leadsStraight.isDirectoryOf .nil, fun d => ?_⟩
      rw [h.findsIn_iff]
      constructor
      · rintro (⟨hfile, rfl⟩ | ⟨-, -, q, hq, -⟩)
        · exact .here hfile
        · rw [hparent] at hq
          cases hq
      · intro hdecides
        cases hdecides with
        | here hfile => exact Or.inl ⟨hfile, rfl⟩
        | farther _ _ hnone => cases hnone
  | step p q hparent ih =>
      obtain ⟨above, habove, -⟩ := h.of_parent? hparent
      obtain ⟨farther, hfarther, hfinds⟩ := ih habove
      rw [Path.ancestors_of_parent?_eq_some hparent]
      refine ⟨home :: farther, .cons h.leadsStraight.isDirectoryOf hfarther, fun d => ?_⟩
      rw [h.findsIn_iff]
      constructor
      · rintro (⟨hfile, rfl⟩ | ⟨hfile, hmark, r, hr, hfind⟩)
        · exact .here hfile
        · obtain rfl := Option.some.inj (hparent.symm.trans hr)
          exact .farther hfile hmark ((hfinds d).mp hfind)
      · intro hdecides
        cases hdecides with
        | here hfile => exact Or.inl ⟨hfile, rfl⟩
        | farther hfile hmark hfind =>
            exact Or.inr ⟨hfile, hmark, q, hparent, (hfinds d).mpr hfind⟩

/-- A step up without a `..` is one to the directory itself or to the one it stands in, from where
names start that start in the same place. -/
theorem IsStart.of_parent?_of_up_notMem (h : IsStart tree p home) (hup : ".." ∉ p.leadingNames)
    (hparent : p.parent? = some q) :
    startOf tree.workingDirectory q = startOf tree.workingDirectory p ∧ ".." ∉ q.leadingNames ∧
      ∃ above, IsStart tree q above ∧ (above = home ∨ ∃ name, home = above ++ [name]) := by
  obtain ⟨above, habove, hcases⟩ := h.of_parent? hparent
  obtain ⟨between, name, blanks, hnames, -⟩ := Path.exists_leadingNames_of_parent? hparent
  refine ⟨?_, fun hmem => hup ?_, above, habove, hcases hup⟩
  · rw [startOf, startOf, Path.isAbsolute_of_parent? hparent]
  · rw [hnames, List.append_assoc]
    exact List.mem_append_left _ hmem

/-- Names without a `..` lead to where they start or below. -/
theorem IsStart.prefix_of_up_notMem (h : IsStart tree p home) (hup : ".." ∉ p.leadingNames) :
    startOf tree.workingDirectory p <+: home := by
  induction p using Path.induction_on_parent? generalizing home with
  | top p hparent =>
      exact h.leadsStraight.eq_of_parent?_eq_none hparent ▸ List.prefix_rfl
  | step p q hparent ih =>
      obtain ⟨hstart, hupper, above, habove, hcases⟩ := h.of_parent?_of_up_notMem hup hparent
      have hwithin := ih habove hupper
      rw [hstart] at hwithin
      rcases hcases with rfl | ⟨name, rfl⟩
      · exact hwithin
      · exact hwithin.trans (List.prefix_append above [name])

/-- Without a `..` the search finds the nearest configuration file, as far as it is that of a
directory at or below where the names start. -/
theorem IsStart.findsIn_iff_isNearest (h : IsStart tree p home) (hup : ".." ∉ p.leadingNames) :
    FindsIn tree p d ↔ IsNearest tree home d ∧ startOf tree.workingDirectory p <+: d := by
  have hhere := h.prefix_of_up_notMem hup
  induction p using Path.induction_on_parent? generalizing home with
  | top p hparent =>
      rw [h.findsIn_iff]
      constructor
      · rintro (⟨hfile, rfl⟩ | ⟨-, -, q, hq, -⟩)
        · exact ⟨isNearest_self hfile, hhere⟩
        · rw [hparent] at hq
          cases hq
      · rintro ⟨hnearest, hwithin⟩
        rw [← h.leadsStraight.eq_of_parent?_eq_none hparent] at hwithin
        have hd := hnearest.encloses.eq_of_length_le hwithin.length_le
        exact Or.inl ⟨hd ▸ hnearest.holds, hd⟩
  | step p q hparent ih =>
      obtain ⟨hstart, hupper, above, habove, hcases⟩ := h.of_parent?_of_up_notMem hup hparent
      have hfind := ih habove hupper (habove.prefix_of_up_notMem hupper)
      have hsame : ¬ tree.Holds home fileName → ¬ tree.Holds home workingCopyMark →
          (IsNearest tree home d ↔ IsNearest tree above d) := by
        rcases hcases with rfl | ⟨name, rfl⟩
        · exact fun _ _ => Iff.rfl
        · exact isNearest_concat_iff
      rw [hstart] at hfind
      rw [h.findsIn_iff]
      constructor
      · rintro (⟨hfile, rfl⟩ | ⟨hfile, hmark, r, hr, hfound⟩)
        · exact ⟨isNearest_self hfile, hhere⟩
        · obtain rfl := Option.some.inj (hparent.symm.trans hr)
          rw [hsame hfile hmark]
          exact hfind.mp hfound
      · rintro ⟨hnearest, hwithin⟩
        rcases hnearest.cases with hfound | ⟨hfile, hmark, -⟩
        · exact Or.inl hfound
        · rw [hsame hfile hmark] at hnearest
          exact Or.inr ⟨hfile, hmark, q, hparent, hfind.mpr ⟨hnearest, hwithin⟩⟩

/-- From the working directory, named by a dot, the search does not climb: only the configuration
file of this directory is found. -/
theorem findsIn_current_iff (h : IsStart tree ⟨"."⟩ home) :
    FindsIn tree ⟨"."⟩ d ↔ d = tree.workingDirectory ∧ tree.Holds d fileName := by
  have hup : ".." ∉ (Path.mk ".").leadingNames := by decide
  have hhome : home = tree.workingDirectory :=
    FileTree.eq_of_follow_blanks (by decide) h.leadsStraight.follow_eq
  have hstart : startOf tree.workingDirectory ⟨"."⟩ = tree.workingDirectory := rfl
  rw [h.findsIn_iff_isNearest hup, hstart, hhome]
  constructor
  · rintro ⟨hnearest, hbelow⟩
    exact ⟨hnearest.encloses.eq_of_length_le hbelow.length_le, hnearest.holds⟩
  · rintro ⟨rfl, hfile⟩
    exact ⟨isNearest_self hfile, List.prefix_rfl⟩

/-- A configuration file that is found is that of a directory. -/
theorem IsStart.exists_findsIn (h : IsStart tree p home) {found : Path}
    (hfound : find? tree p = some found) : ∃ d, FindsIn tree p d := by
  induction p using Path.induction_on_parent? generalizing home with
  | top p hparent =>
      rw [find?_eq, hparent] at hfound
      split at hfound
      · rename_i hhere
        exact ⟨home, p, by rw [find?_eq, if_pos hhere], h.leadsStraight.isDirectoryOf⟩
      · split at hfound
        · cases hfound
        · cases hfound
  | step p q hparent ih =>
      obtain ⟨above, habove, -⟩ := h.of_parent? hparent
      rw [find?_eq, hparent] at hfound
      split at hfound
      · rename_i hhere
        exact ⟨home, p, by rw [find?_eq, if_pos hhere], h.leadsStraight.isDirectoryOf⟩
      · rename_i hhere
        split at hfound
        · cases hfound
        · rename_i htop
          obtain ⟨d, r, hr, hd⟩ := ih habove hfound
          refine ⟨d, r, ?_, hd⟩
          rw [find?_eq, if_neg hhere, if_neg htop, hparent]
          exact hr

/-- The search ends without a bound on its steps. From a directory that its path leads straight to
it passes through directories, and the first of them that decides has the configuration file that
it finds; it finds none when none of them decides. Without a `..` in the path this is the nearest
configuration file, unless that of a directory above the one in which the path starts: there the
search does not look. An absolute path starts at the root. -/
theorem nearest_of_find (tree : FileTree) (start : Path) (home : Address)
    (h : IsStart tree start home) :
    (∀ bound, start.text.length ≤ bound → start.ancestorsUpTo bound = start.ancestors) ∧
    (find? tree start = none ↔ ∀ d, ¬ FindsIn tree start d) ∧
    (∃ directories, List.Forall₂ tree.IsDirectoryOf start.ancestors directories ∧
      ∀ d, FindsIn tree start d ↔ Decides tree directories d) ∧
    (".." ∉ start.names →
      (∀ d, FindsIn tree start d ↔
        IsNearest tree home d ∧ startOf tree.workingDirectory start <+: d) ∧
      (start.isAbsolute = true → ∀ d, FindsIn tree start d ↔ IsNearest tree home d)) := by
  refine ⟨fun bound hbound => Path.ancestorsUpTo_eq_of_le (Nat.le_refl _) hbound, ?_,
    h.exists_decides, fun hup => ?_⟩
  · constructor
    · rintro hnone d ⟨q, hq, -⟩
      rw [hnone] at hq
      cases hq
    · intro hnone
      cases hfind : find? tree start with
      | none => rfl
      | some found =>
          obtain ⟨d, hd⟩ := h.exists_findsIn hfind
          exact absurd hd (hnone d)
  · have hleading : ".." ∉ start.leadingNames :=
      fun hmem => hup (Path.mem_names_of_mem_leadingNames hmem)
    have hnearest := fun d => h.findsIn_iff_isNearest (d := d) hleading
    refine ⟨hnearest, fun habsolute d => ?_⟩
    rw [hnearest d, startOf, if_pos habsolute]
    exact and_iff_left (List.nil_prefix)

/-! ## Two projects -/

/-- A run in a project with a configuration file and a directory of sources. -/
def sourceProject : FileTree where
  entries := [(["project"], .directory), (["project", ".reggenrc.json"], .file "{}".toUTF8),
    (["project", "src"], .directory)]
  workingDirectory := ["project"]

/-- From the sources, by a relative path or by an absolute one, the configuration file of the
project is found. -/
theorem nearest_of_sourceProject :
    IsStart sourceProject ⟨"src"⟩ ["project", "src"] ∧
    IsStart sourceProject ⟨"/project/src"⟩ ["project", "src"] ∧
    FindsIn sourceProject ⟨"src"⟩ ["project"] ∧
    FindsIn sourceProject ⟨"/project/src"⟩ ["project"] := by
  have hrelative : IsStart sourceProject ⟨"src"⟩ ["project", "src"] := ⟨⟨rfl, rfl⟩, by decide⟩
  have habsolute : IsStart sourceProject ⟨"/project/src"⟩ ["project", "src"] :=
    ⟨⟨rfl, rfl⟩, by decide⟩
  have hnearest : IsNearest sourceProject ["project", "src"] ["project"] := by
    refine ⟨⟨["src"], rfl⟩, ⟨["project", ".reggenrc.json"], rfl, by decide⟩, ?_⟩
    intro nearer hbelow (habove : nearer <+: ["project"] ++ ["src"]) hne
    obtain rfl : nearer = ["project"] ++ ["src"] :=
      (List.prefix_concat_iff.mp habove).resolve_right fun hup =>
        hne (hup.eq_of_length_le hbelow.length_le)
    constructor
    · rintro ⟨address, hfollow, -⟩
      cases hfollow
    · rintro ⟨address, hfollow, -⟩
      cases hfollow
  obtain ⟨-, -, -, hfirst⟩ := nearest_of_find _ _ _ hrelative
  obtain ⟨-, -, -, hsecond⟩ := nearest_of_find _ _ _ habsolute
  refine ⟨hrelative, habsolute, ?_, ?_⟩
  · exact ((hfirst (by decide)).1 ["project"]).mpr ⟨hnearest, List.prefix_rfl⟩
  · exact ((hsecond (by decide)).2 rfl ["project"]).mpr hnearest

/-- A run in a project without a configuration file, in which another directory has one. -/
def strayProject : FileTree where
  entries := [(["project"], .directory), (["project", "a"], .directory),
    (["project", "a", ".reggenrc.json"], .file "{}".toUTF8)]
  workingDirectory := ["project"]

/-- A path of the project finds the configuration file of a directory below, though the project and
what is above it have none. -/
theorem stray_config_is_found :
    strayProject.IsDirectoryOf ⟨"a/.."⟩ ["project"] ∧
    (∀ d, ¬ IsNearest strayProject ["project"] d) ∧
    find? strayProject ⟨"a/.."⟩ = some ⟨"a/.reggenrc.json"⟩ := by
  refine ⟨⟨rfl, rfl⟩, fun d hnearest => ?_, by decide⟩
  have hcases : d = ["project"] ∨ d = [] := by
    have hd : d <+: [] ++ ["project"] := hnearest.encloses
    exact (List.prefix_concat_iff.mp hd).imp_right List.prefix_nil.mp
  obtain ⟨address, hfollow, -⟩ := hnearest.holds
  rcases hcases with rfl | rfl
  · cases hfollow
  · cases hfollow

end Config

end ClassRegistry
