import ClassRegistry.FileTree
import ClassRegistry.Proofs.Path.Pieces

/-!
# Where a path leads

Names are followed one after the other, so what several names lead to is settled by what the first
ones lead to. Hence a path that names a file passes through the directory that the path of the
directory names, and such a directory is made a second time without any change.
-/

namespace ClassRegistry.FileTree

variable {tree : FileTree}

/-! ## One name -/

/-- Names are followed one after the other, each from a directory. -/
theorem follow_cons (tree : FileTree) (address : Address) (name : String) (rest : List String) :
    tree.follow address (name :: rest) =
      if tree.get? address ≠ some .directory then .error .notDirectory
      else if name = "" ∨ name = "." then tree.follow address rest
      else if name = ".." then tree.follow address.dropLast rest
      else if maximalNameSize < name.utf8ByteSize then .error .nameTooLong
      else match tree.get? (address ++ [name]) with
        | none => .ok (.missing address name rest)
        | some (.link target) => .ok (.link address target rest)
        | some _ => tree.follow (address ++ [name]) rest :=
  rfl

section Step

variable {directory : Address} (hdirectory : tree.get? directory = some .directory)

include hdirectory

/-- An empty name and a `.` lead nowhere else. -/
theorem follow_blank {name : String} (hname : name = "" ∨ name = ".") (rest : List String) :
    tree.follow directory (name :: rest) = tree.follow directory rest := by
  rw [follow_cons, if_neg (by simp [hdirectory]), if_pos hname]

/-- Names that say nothing lead nowhere else. -/
theorem follow_blanks {names : List String} (hnames : ∀ name ∈ names, name = "" ∨ name = ".") :
    tree.follow directory names = .ok (.entry directory) := by
  induction names with
  | nil => rfl
  | cons name rest ih =>
      rw [follow_blank hdirectory (hnames name List.mem_cons_self)]
      exact ih fun other hother => hnames other (List.mem_cons_of_mem name hother)

/-- A `..` leads to the directory above. -/
theorem follow_up (rest : List String) :
    tree.follow directory (".." :: rest) = tree.follow directory.dropLast rest := by
  rw [follow_cons, if_neg (by simp [hdirectory]), if_neg (by decide), if_pos rfl]

/-- A name that is too long cannot be followed. -/
theorem follow_tooLong {name : String} (hsize : maximalNameSize < name.utf8ByteSize)
    (rest : List String) : tree.follow directory (name :: rest) = .error .nameTooLong := by
  have hne : ∀ short : String, short.utf8ByteSize ≤ maximalNameSize → name ≠ short := by
    rintro short hshort rfl
    omega
  have hplain : ¬ (name = "" ∨ name = ".") := by
    rintro (h | h)
    · exact hne "" (by decide) h
    · exact hne "." (by decide) h
  rw [follow_cons, if_neg (by simp [hdirectory]), if_neg hplain, if_neg (hne ".." (by decide)),
    if_pos hsize]

/-- Any other name is that of an entry. -/
theorem follow_name {name : String} (hname : ¬ (name = "" ∨ name = "." ∨ name = ".."))
    (hsize : name.utf8ByteSize ≤ maximalNameSize) (rest : List String) :
    tree.follow directory (name :: rest) =
      match tree.get? (directory ++ [name]) with
      | none => .ok (.missing directory name rest)
      | some (.link target) => .ok (.link directory target rest)
      | some _ => tree.follow (directory ++ [name]) rest := by
  have hplain : ¬ (name = "" ∨ name = ".") := fun h => hname (h.imp_right Or.inl)
  have hup : ¬ name = ".." := fun h => hname (Or.inr (Or.inr h))
  rewrite [follow_cons, if_neg (by simp [hdirectory]), if_neg hplain, if_neg hup, if_neg (by omega)]
  cases tree.get? (directory ++ [name]) with
  | none => rfl
  | some entry => cases entry <;> rfl

/-- All that a name can be that is followed: one that says nothing, a `..`, or that of an entry. -/
theorem follow_cons_cases {name : String} {rest : List String} {found : Reached}
    (h : tree.follow directory (name :: rest) = .ok found) :
    ((name = "" ∨ name = ".") ∧ tree.follow directory rest = .ok found) ∨
    (name = ".." ∧ tree.follow directory.dropLast rest = .ok found) ∨
    (¬ (name = "" ∨ name = "." ∨ name = "..") ∧ name.utf8ByteSize ≤ maximalNameSize) := by
  by_cases hblank : name = "" ∨ name = "."
  · exact Or.inl ⟨hblank, by rwa [follow_blank hdirectory hblank] at h⟩
  by_cases hup : name = ".."
  · subst hup
    exact Or.inr (Or.inl ⟨rfl, by rwa [follow_up hdirectory] at h⟩)
  refine Or.inr (Or.inr ⟨?_, ?_⟩)
  · rw [← or_assoc]
    exact not_or.mpr ⟨hblank, hup⟩
  · by_contra hsize
    rw [follow_tooLong hdirectory (by omega)] at h
    cases h

end Step

/-! ## Names one after the other -/

/-- More names are followed from where the first ones lead. -/
theorem follow_append (tree : FileTree) (address : Address) (front back : List String) :
    tree.follow address (front ++ back) =
      match tree.follow address front with
      | .ok (.entry reached) => tree.follow reached back
      | .ok (.missing directory name rest) => .ok (.missing directory name (rest ++ back))
      | .ok (.link directory target rest) => .ok (.link directory target (rest ++ back))
      | .error e => .error e := by
  induction front generalizing address with
  | nil => rfl
  | cons name rest ih =>
      rw [List.cons_append, follow_cons, follow_cons]
      split
      · rfl
      · split
        · exact ih address
        · split
          · exact ih address.dropLast
          · split
            · rfl
            · cases tree.get? (address ++ [name]) with
              | none => rfl
              | some entry =>
                  cases entry with
                  | link target => rfl
                  | file contents => exact ih (address ++ [name])
                  | directory => exact ih (address ++ [name])

/-- Names that lead on lead on from a directory. -/
theorem get?_eq_directory_of_follow {address : Address} {found : Reached} {names : List String}
    (hne : names ≠ []) (h : tree.follow address names = .ok found) :
    tree.get? address = some .directory := by
  cases names with
  | nil => exact absurd rfl hne
  | cons name rest =>
      rw [follow_cons] at h
      by_contra hdirectory
      rw [if_pos hdirectory] at h
      cases h

/-! ## Names and links -/

/-- A link that names come upon is followed when there is one left, and then the names behind it. -/
theorem followLinks_eq (tree : FileTree) (links : Nat) (address : Address) (names : List String) :
    tree.followLinks links address names =
      match tree.follow address names with
      | .ok (.link directory target rest) =>
        match links with
        | 0 => .error .tooManyLinks
        | left + 1 => tree.followLinks left (startOf directory target) (target.names ++ rest)
      | reached => reached := by
  rewrite [followLinks]
  rfl

theorem followLinks_nil (links : Nat) (address : Address) :
    tree.followLinks links address [] = .ok (.entry address) := by
  rw [followLinks_eq]
  rfl

/-- Names without a link in them need none. -/
theorem followLinks_of_follow_eq_entry {address reached : Address} {names : List String}
    (h : tree.follow address names = .ok (.entry reached)) (links : Nat) :
    tree.followLinks links address names = .ok (.entry reached) := by
  rw [followLinks_eq, h]

/-- A link is followed from the directory that it stands in, and then the names behind it. -/
theorem followLinks_of_follow_eq_link {address directory : Address} {target : Path}
    {names rest : List String} (h : tree.follow address names = .ok (.link directory target rest))
    (links : Nat) :
    tree.followLinks (links + 1) address names =
      tree.followLinks links (startOf directory target) (target.names ++ rest) := by
  rw [followLinks_eq, h]

/-- Names lead to an entry without a link, or by the first link on their way. -/
theorem followLinks_cases {links : Nat} {address reached : Address} {names : List String}
    (h : tree.followLinks links address names = .ok (.entry reached)) :
    tree.follow address names = .ok (.entry reached) ∨
    ∃ left directory target rest, links = left + 1 ∧
      tree.follow address names = .ok (.link directory target rest) ∧
      tree.followLinks left (startOf directory target) (target.names ++ rest) =
        .ok (.entry reached) := by
  rw [followLinks_eq] at h
  split at h
  · rename_i directory target rest hfollow
    cases links with
    | zero => cases h
    | succ left => exact Or.inr ⟨left, directory, target, rest, rfl, hfollow, h⟩
  · exact Or.inl h

/-- Names behind an entry that is reached without a link are followed from there. -/
theorem followLinks_append_of_follow {address passed : Address} {front : List String}
    (h : tree.follow address front = .ok (.entry passed)) (links : Nat) (back : List String) :
    tree.followLinks links address (front ++ back) = tree.followLinks links passed back := by
  rw [followLinks_eq, followLinks_eq, follow_append, h]

/-- Names that lead to an entry lead to one on the way, with some of the links left, and from there
any other names can be followed. -/
theorem exists_followLinks_append {links : Nat} {address reached : Address}
    {front back : List String}
    (h : tree.followLinks links address (front ++ back) = .ok (.entry reached)) :
    ∃ passed left, ∀ more, tree.followLinks links address (front ++ more) =
      tree.followLinks left passed more := by
  induction links generalizing address front with
  | zero =>
      rcases followLinks_cases h with hall | ⟨left, _, _, _, hleft, -⟩
      · rw [follow_append] at hall
        split at hall
        · rename_i passed hfront
          exact ⟨passed, 0, followLinks_append_of_follow hfront 0⟩
        all_goals cases hall
      · cases hleft
  | succ links ih =>
      rcases followLinks_cases h with hall | ⟨left, directory, target, rest, hleft, hall, hrest⟩
      · rw [follow_append] at hall
        split at hall
        · rename_i passed hfront
          exact ⟨passed, links + 1, followLinks_append_of_follow hfront (links + 1)⟩
        all_goals cases hall
      · obtain rfl : links = left := Nat.succ.inj hleft
        rw [follow_append] at hall
        split at hall
        · rename_i passed hfront
          exact ⟨passed, links + 1, followLinks_append_of_follow hfront (links + 1)⟩
        · cases hall
        · -- the link stands in the front part, so what is behind it is followed with one link less
          rename_i inner goal behind hfront
          simp only [Except.ok.injEq, Reached.link.injEq] at hall
          obtain ⟨rfl, rfl, rfl⟩ := hall
          rw [← List.append_assoc] at hrest
          obtain ⟨passed, left, hpassed⟩ := ih hrest
          refine ⟨passed, left, fun more => ?_⟩
          have hmore : tree.follow address (front ++ more) =
              .ok (.link inner goal (behind ++ more)) := by
            rw [follow_append, hfront]
          rw [followLinks_of_follow_eq_link hmore, ← List.append_assoc, hpassed]
        · cases hall

/-- What has a name in it is a directory. -/
theorem get?_eq_directory_of_followLinks {links : Nat} {address reached : Address}
    {names : List String} (hne : names ≠ [])
    (h : tree.followLinks links address names = .ok (.entry reached)) :
    tree.get? address = some .directory := by
  cases names with
  | nil => exact absurd rfl hne
  | cons name rest =>
      by_contra hdirectory
      have hfollow : tree.follow address (name :: rest) = .error .notDirectory := by
        rw [follow_cons, if_pos hdirectory]
      rw [followLinks_eq, hfollow] at h
      cases h

/-! ## The directory of a path -/

/-- What is joined to a path is looked for in the directory at an address. -/
structure IsDirectoryOf (tree : FileTree) (p : Path) (address : Address) : Prop where
  leads : tree.followLinks maximalLinks (startOf tree.workingDirectory p) p.leadingNames =
    .ok (.entry address)
  get?_eq : tree.get? address = some .directory

/-- A path has one directory. -/
theorem IsDirectoryOf.eq {p : Path} {address other : Address} (h : tree.IsDirectoryOf p address)
    (hother : tree.IsDirectoryOf p other) : address = other := by
  have hleads := h.leads
  rw [hother.leads] at hleads
  exact (Reached.entry.inj (Except.ok.inj hleads)).symm

/-- A text can be followed when there is something in it, no zero character, and not too much. -/
theorem textFault?_eq_none_iff {p : Path} : textFault? p = none ↔
    p.text ≠ "" ∧ '\x00' ∉ p.text.toList ∧ p.text.utf8ByteSize ≤ maximalPathSize := by
  rw [textFault?]
  split
  · rename_i hempty
    simp [String.isEmpty_iff.mp hempty]
  · rename_i hempty
    have hne : p.text ≠ "" := fun h => hempty (String.isEmpty_iff.mpr h)
    split
    · rename_i hzero
      simp [List.contains_iff_mem.mp hzero]
    · rename_i hzero
      have hnone : '\x00' ∉ p.text.toList := fun h => hzero (List.contains_iff_mem.mpr h)
      split
      · simp only [reduceCtorEq, false_iff]
        omega
      · simp only [true_iff]
        exact ⟨hne, hnone, by omega⟩

/-- A path that is not empty can be followed when a longer one can. -/
theorem textFault?_eq_none_of_join {p : Path} {name : String} (hname : '/' ∉ name.toList)
    (hne : p.text ≠ "") (h : textFault? (p.join ⟨name⟩) = none) : textFault? p = none := by
  obtain ⟨rest, hrest⟩ := Path.exists_text_join (p := p) hname
  obtain ⟨-, hzero, hsize⟩ := textFault?_eq_none_iff.mp h
  rw [hrest, String.toList_append, List.mem_append] at hzero
  rw [hrest, String.utf8ByteSize_append] at hsize
  exact textFault?_eq_none_iff.mpr ⟨hne, fun hp => hzero (Or.inl hp), by omega⟩

/-- A name in the directory of a path is followed from there. -/
theorem reach_join {p : Path} {name : String} (hname : '/' ∉ name.toList)
    (htext : textFault? (p.join ⟨name⟩) = none) :
    tree.reach (p.join ⟨name⟩) = tree.followLinks maximalLinks (startOf tree.workingDirectory p)
      (p.leadingNames ++ [name]) := by
  rw [reach, htext, Path.names_join hname, startOf, startOf, Path.isAbsolute_join hname]

/-- What can be read was reached. -/
theorem exists_reach_of_read {p : Path} {contents : ByteArray}
    (h : tree.read p = .ok contents) : ∃ address, tree.reach p = .ok (.entry address) ∧
      tree.get? address = some (.file contents) := by
  rw [read, lookup, resolve] at h
  cases hreach : tree.reach p with
  | error e =>
      rw [hreach] at h
      cases h
  | ok found =>
      rw [hreach] at h
      cases found with
      | missing directory name rest => cases h
      | link directory target rest => cases h
      | entry address =>
          simp only at h
          refine ⟨address, rfl, ?_⟩
          cases hentry : tree.get? address with
          | none =>
              rw [hentry] at h
              cases h
          | some entry =>
              rw [hentry] at h
              cases entry with
              | file found => rw [Except.ok.inj h]
              | directory => cases h
              | link target => cases h

theorem read_of_reach {p : Path} {contents : ByteArray} {address : Address}
    (hreach : tree.reach p = .ok (.entry address))
    (hfile : tree.get? address = some (.file contents)) : tree.read p = .ok contents := by
  simp only [read, lookup, resolve, hreach, hfile]

/-- A path can be followed when it was. -/
theorem textFault?_eq_none_of_reach {p : Path} {found : Reached} (h : tree.reach p = .ok found) :
    textFault? p = none := by
  rw [reach] at h
  split at h
  · cases h
  · assumption

/-- What is reached under a name joined to a path stands in a directory. -/
theorem exists_isDirectoryOf_of_reach {p : Path} {name : String} (hname : '/' ∉ name.toList)
    {address : Address} (h : tree.reach (p.join ⟨name⟩) = .ok (.entry address)) :
    ∃ directory, tree.IsDirectoryOf p directory := by
  rw [reach_join hname (textFault?_eq_none_of_reach h)] at h
  obtain ⟨directory, left, hfollow⟩ := exists_followLinks_append h
  have hleading := hfollow []
  rw [List.append_nil, followLinks_nil] at hleading
  rw [hfollow [name]] at h
  exact ⟨directory, hleading, get?_eq_directory_of_followLinks (List.cons_ne_nil name []) h⟩

/-- All the names of a path lead to its directory. -/
theorem IsDirectoryOf.followLinks_names {p : Path} {address : Address}
    (h : tree.IsDirectoryOf p address) :
    tree.followLinks maximalLinks (startOf tree.workingDirectory p) p.names =
      .ok (.entry address) := by
  rcases p.names_eq_leadingNames with hnames | hnames
  · rw [hnames]
    exact h.leads
  · have hleading := h.leads
    rw [← List.append_nil p.leadingNames] at hleading
    obtain ⟨passed, left, hpassed⟩ := exists_followLinks_append hleading
    rw [hpassed, followLinks_nil] at hleading
    obtain rfl : passed = address := by simpa using hleading
    rw [hnames, hpassed]
    exact followLinks_of_follow_eq_entry (follow_blank h.get?_eq (Or.inl rfl) []) left

/-- The path of a directory names it. -/
theorem IsDirectoryOf.resolve_eq {p : Path} {address : Address}
    (h : tree.IsDirectoryOf p address) (htext : textFault? p = none) :
    tree.resolve p = .ok address := by
  have hreach : tree.reach p = .ok (.entry address) := by
    rw [reach, htext]
    exact h.followLinks_names
  rw [resolve, hreach]

theorem IsDirectoryOf.isDirectory_eq {p : Path} {address : Address}
    (h : tree.IsDirectoryOf p address) (htext : textFault? p = none) :
    tree.isDirectory p = true := by
  simp [isDirectory, lookup, h.resolve_eq htext, h.get?_eq]

/-- Names are those before the last one that is not empty, this one, and empty ones, or they are all
empty. -/
theorem splitLast_cases (names : List String) :
    ((splitLast names).1 = [] ∧ (splitLast names).2 = "") ∨
    ∃ more, (∀ name ∈ more, name = "") ∧
      names = (splitLast names).1 ++ (splitLast names).2 :: more := by
  let kept := (names.reverse.dropWhile (· = "")).reverse
  let blank := (names.reverse.takeWhile (· = "")).reverse
  have hnames : names = kept ++ blank := by
    rw [← List.reverse_append, List.takeWhile_append_dropWhile, List.reverse_reverse]
  have hsplit : splitLast names = (kept.dropLast, kept.getLast?.getD "") := rfl
  rw [hsplit]
  cases hlast : kept.getLast? with
  | none =>
      rw [List.getLast?_eq_none_iff.mp hlast]
      exact Or.inl ⟨rfl, rfl⟩
  | some last =>
      have hkept : kept.dropLast ++ [last] = kept := List.dropLast_append_getLast? last hlast
      have hblank : ∀ name ∈ blank, name = "" := by
        intro name hname
        simpa using List.all_eq_true.mp List.all_takeWhile name (List.mem_reverse.mp hname)
      refine Or.inr ⟨blank, hblank, ?_⟩
      calc
        names = kept.dropLast ++ [last] ++ blank := by rw [hkept, ← hnames]
        _ = kept.dropLast ++ last :: blank := List.append_cons .. |>.symm

/-- A name that leads somewhere is not too long and names an entry, but for the special ones. -/
theorem exists_get?_of_followLinks {links : Nat} {address reached : Address} {name : String}
    {rest : List String}
    (h : tree.followLinks links address (name :: rest) = .ok (.entry reached))
    (hspecial : ¬ (name = "" ∨ name = "." ∨ name = "..")) :
    name.utf8ByteSize ≤ maximalNameSize ∧ ∃ entry, tree.get? (address ++ [name]) = some entry := by
  have hdirectory := get?_eq_directory_of_followLinks (List.cons_ne_nil name rest) h
  rw [followLinks_eq] at h
  by_cases hsize : maximalNameSize < name.utf8ByteSize
  · rw [follow_tooLong hdirectory hsize] at h
    cases h
  · refine ⟨by omega, ?_⟩
    cases hentry : tree.get? (address ++ [name]) with
    | some entry => exact ⟨entry, rfl⟩
    | none =>
        rw [follow_name hdirectory hspecial (by omega), hentry] at h
        cases h

/-- A directory that is there cannot be made. -/
theorem IsDirectoryOf.makeDirectory_eq {p : Path} {address : Address}
    (h : tree.IsDirectoryOf p address) (htext : textFault? p = none) :
    tree.makeDirectory p = .error .exists := by
  have hnames := h.followLinks_names
  rw [makeDirectory, resolveParent, htext]
  rcases splitLast_cases p.names with ⟨hparents, hname⟩ | ⟨more, -, hsplit⟩
  · have hstart := get?_eq_directory_of_followLinks p.names_ne_nil hnames
    simp only [hparents, hname, followLinks_nil, hstart, if_true, true_or]
  · rw [hsplit] at hnames
    obtain ⟨parent, left, hparent⟩ := exists_followLinks_append hnames
    have hparents := hparent []
    rw [List.append_nil, followLinks_nil] at hparents
    rw [hparent] at hnames
    have hdirectory := get?_eq_directory_of_followLinks (List.cons_ne_nil _ more) hnames
    simp only [hparents, hdirectory, if_true]
    split
    · rfl
    · rename_i hspecial
      obtain ⟨hsize, entry, hentry⟩ := exists_get?_of_followLinks hnames hspecial
      rw [if_neg (by omega), hentry]

/-- A path is the first one of those above it. -/
theorem exists_ancestors_eq_cons (p : Path) : ∃ above, p.ancestors = p :: above := by
  rw [Path.ancestors]
  cases p.text.length with
  | zero => exact ⟨[], rfl⟩
  | succ bound => exact ⟨_, rfl⟩

/-- A directory that is there is not made, and nothing above it. -/
theorem IsDirectoryOf.makeDirectories_eq {p : Path} {address : Address}
    (h : tree.IsDirectoryOf p address) (htext : p.text ≠ "" → textFault? p = none) :
    tree.makeDirectories p = (.ok (), tree) := by
  obtain ⟨above, habove⟩ := exists_ancestors_eq_cons p
  by_cases hempty : p.text = ""
  · have hnone : p.ancestors.filter (fun q => !q.text.isEmpty) = [] := by
      rw [Path.ancestors, hempty]
      simp [Path.ancestorsUpTo, hempty]
    rw [makeDirectories, hnone, makeDirectoriesAlong]
  · have hsome : p.ancestors.filter (fun q => !q.text.isEmpty) =
        p :: above.filter (fun q => !q.text.isEmpty) := by
      rw [habove, List.filter_cons_of_pos]
      simpa [String.isEmpty_iff] using hempty
    rw [makeDirectories, hsome, makeDirectoriesAlong, h.makeDirectory_eq (htext hempty)]
    simp only [h.isDirectory_eq (htext hempty), if_true]

end ClassRegistry.FileTree
