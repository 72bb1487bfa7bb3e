import ClassRegistry.Proofs.FileTree.Resolution
import ClassRegistry.Proofs.Path.FileName

/-!
# Trees of files and directories

A tree without links, in which each entry stands in a directory under a proper name. Making
directories and writing files keeps it so. In such a tree names lead straight on, and a path that
leads to a file has the name of this file as its own.
-/

namespace ClassRegistry

/-- A name that an entry of a directory can have. -/
structure IsEntryName (name : String) : Prop where
  ne_empty : name ≠ ""
  ne_current : name ≠ "."
  ne_parent : name ≠ ".."
  slash_notMem : '/' ∉ name.toList

/-- A proper name is none of those that lead elsewhere. -/
theorem IsEntryName.not_special {name : String} (h : IsEntryName name) :
    ¬ (name = "" ∨ name = "." ∨ name = "..") := by
  rintro (hn | hn | hn)
  · exact h.ne_empty hn
  · exact h.ne_current hn
  · exact h.ne_parent hn

namespace FileTree

/-- Files and directories only, each in a directory and under a proper name. -/
structure IsPlain (tree : FileTree) : Prop where
  not_link : ∀ address target, tree.get? address ≠ some (.link target)
  parent_eq : ∀ address, tree.get? address ≠ none → tree.get? address.dropLast = some .directory
  isEntryName : ∀ address, tree.get? address ≠ none → ∀ name ∈ address, IsEntryName name

variable {tree : FileTree}

/-- An empty tree has only the root. -/
theorem isPlain_nil (directory : Address) : IsPlain ⟨[], directory⟩ := by
  have hroot : ∀ address, get? ⟨[], directory⟩ address ≠ none → address = [] := by
    intro address hget
    by_contra hne
    simp [get?, hne] at hget
  refine ⟨?_, ?_, ?_⟩
  · intro address target hget
    obtain rfl := hroot address (by simp [hget])
    cases hget
  · intro address hget
    obtain rfl := hroot address hget
    rfl
  · intro address hget name hname
    obtain rfl := hroot address hget
    cases hname

/-- An entry of a plain tree is a directory or a file. -/
theorem IsPlain.get?_cases (h : tree.IsPlain) (address : Address) :
    tree.get? address = none ∨ tree.get? address = some .directory ∨
      ∃ contents, tree.get? address = some (.file contents) := by
  cases hget : tree.get? address with
  | none => exact Or.inl rfl
  | some entry =>
      cases entry with
      | directory => exact Or.inr (Or.inl rfl)
      | file contents => exact Or.inr (Or.inr ⟨contents, rfl⟩)
      | link target => exact absurd hget (h.not_link address target)

/-! ## Entries that are put in -/

/-- An entry that is no link keeps a tree plain when it is put into a directory, unless it takes the
place of a directory. -/
theorem IsPlain.insert (h : tree.IsPlain) {directory : Address} {name : String} {entry : Entry}
    (hdirectory : tree.get? directory = some .directory) (hname : IsEntryName name)
    (hlink : ∀ target, entry ≠ .link target)
    (hplace : tree.get? (directory ++ [name]) = some .directory → entry = .directory) :
    (tree.insert (directory ++ [name]) entry).IsPlain := by
  have hne : directory ++ [name] ≠ [] := List.append_ne_nil_of_right_ne_nil directory (by simp)
  have hself := tree.get?_insert_self hne entry
  refine ⟨?_, ?_, ?_⟩
  · intro address target hget
    by_cases haddress : address = directory ++ [name]
    · rw [haddress, hself] at hget
      exact hlink target (Option.some.inj hget)
    · rw [tree.get?_insert_of_ne haddress] at hget
      exact h.not_link address target hget
  -- the directory above is the new entry itself only where a directory takes its own place
  · intro address hget
    have hparent : tree.get? address.dropLast = some .directory := by
      by_cases haddress : address = directory ++ [name]
      · rw [haddress, List.dropLast_concat]
        exact hdirectory
      · rw [tree.get?_insert_of_ne haddress] at hget
        exact h.parent_eq address hget
    by_cases hdrop : address.dropLast = directory ++ [name]
    · rw [hdrop] at hparent
      rw [hdrop, hself, hplace hparent]
    · rw [tree.get?_insert_of_ne hdrop]
      exact hparent
  · intro address hget
    by_cases haddress : address = directory ++ [name]
    · have hnames := h.isEntryName directory (by simp [hdirectory])
      intro other hother
      rw [haddress, List.mem_append, List.mem_singleton] at hother
      rcases hother with hother | rfl
      · exact hnames other hother
      · exact hname
    · rw [tree.get?_insert_of_ne haddress] at hget
      exact h.isEntryName address hget

/-! ## Directories that are made -/

/-- The directory that holds what a path names is there, and the names before the last one lead to
it. -/
theorem exists_of_resolveParent {p : Path} {directory : Address} {name : String}
    (h : tree.resolveParent p = .ok (directory, name)) :
    textFault? p = none ∧ tree.get? directory = some .directory ∧ name = (splitLast p.names).2 ∧
      tree.followLinks maximalLinks (startOf tree.workingDirectory p) (splitLast p.names).1 =
        .ok (.entry directory) := by
  rw [resolveParent] at h
  split at h
  · cases h
  · rename_i htext
    simp only at h
    split at h
    · rename_i hleads
      split at h
      · rename_i hdirectory
        obtain ⟨rfl, rfl⟩ := Prod.mk.inj (Except.ok.inj h)
        exact ⟨htext, hdirectory, rfl, hleads⟩
      · cases h
    · cases h
    · cases h

/-- All that making one directory does: a new entry, in a directory, under a proper name. -/
theorem exists_of_makeDirectory {made : FileTree} {p : Path} (h : tree.makeDirectory p = .ok made) :
    ∃ directory name, tree.resolveParent p = .ok (directory, name) ∧
      tree.get? directory = some .directory ∧ IsEntryName name ∧
      name.utf8ByteSize ≤ maximalNameSize ∧ tree.get? (directory ++ [name]) = none ∧
      made = tree.insert (directory ++ [name]) .directory := by
  rw [makeDirectory] at h
  cases hparent : tree.resolveParent p with
  | error e =>
      rw [hparent] at h
      cases h
  | ok found =>
      obtain ⟨directory, name⟩ := found
      rw [hparent] at h
      simp only at h
      obtain ⟨-, hdirectory, hname, -⟩ := exists_of_resolveParent hparent
      split at h
      · cases h
      · rename_i hspecial
        split at h
        · cases h
        · rename_i hsize
          split at h
          · cases h
          · rename_i hget
            refine ⟨directory, name, rfl, hdirectory, ?_, by omega, hget, (Except.ok.inj h).symm⟩
            refine ⟨fun hn => hspecial (Or.inl hn), fun hn => hspecial (Or.inr (Or.inl hn)),
              fun hn => hspecial (Or.inr (Or.inr hn)), ?_⟩
            rcases splitLast_cases p.names with ⟨-, hempty⟩ | ⟨more, -, hsplit⟩
            · exact absurd (Or.inl (hname.trans hempty)) hspecial
            · apply Path.slash_notMem_of_mem_names (p := p)
              rw [hsplit, hname]
              simp

/-- Making a directory keeps a tree plain. -/
theorem IsPlain.makeDirectory (h : tree.IsPlain) {made : FileTree} {p : Path}
    (hmade : tree.makeDirectory p = .ok made) : made.IsPlain := by
  obtain ⟨directory, name, -, hdirectory, hname, -, hget, rfl⟩ := exists_of_makeDirectory hmade
  exact h.insert hdirectory hname (fun target => by simp) fun _ => rfl

/-- What making a directory preserves is preserved by making several, also when that fails. -/
theorem makeDirectoriesAlong_preserves {I : FileTree → Prop} {paths : List Path}
    (hstep : ∀ p ∈ paths, ∀ tree made, I tree → tree.makeDirectory p = .ok made → I made)
    (h : I tree) : I (makeDirectoriesAlong paths tree).2 := by
  induction paths with
  | nil => exact h
  | cons p above ih =>
      have hp := hstep p List.mem_cons_self
      replace ih := ih fun q hq => hstep q (List.mem_cons_of_mem p hq)
      rw [makeDirectoriesAlong]
      split
      · rename_i made hmade
        exact hp tree made h hmade
      · split
        · rename_i e made hmade
          rw [hmade] at ih
          exact ih
        · rename_i parents hparents
          rw [hparents] at ih
          split
          · rename_i made hmade
            exact hp parents made ih hmade
          · exact ih
      · exact h

/-- Making directories keeps a tree plain, also when it fails. -/
theorem IsPlain.makeDirectories (h : tree.IsPlain) (p : Path) :
    (tree.makeDirectories p).2.IsPlain :=
  makeDirectoriesAlong_preserves (fun _ _ _ _ hplain hmade => hplain.makeDirectory hmade) h

/-! ## Names in a plain tree -/

/-- There are no links to come upon. -/
theorem IsPlain.follow_ne_link (h : tree.IsPlain) (address : Address) (names : List String)
    {directory : Address} {target : Path} {rest : List String} :
    tree.follow address names ≠ .ok (.link directory target rest) := by
  induction names generalizing address with
  | nil => simp [follow]
  | cons name names ih =>
      rw [follow_cons]
      split
      · simp
      · split
        · exact ih address
        · split
          · exact ih address.dropLast
          · split
            · simp
            · split
              · simp
              · rename_i found hfound
                exact absurd hfound (h.not_link _ _)
              · exact ih (address ++ [name])

/-- Names are followed straight on. -/
theorem IsPlain.followLinks_eq (h : tree.IsPlain) (links : Nat) (address : Address)
    (names : List String) : tree.followLinks links address names = tree.follow address names := by
  rw [FileTree.followLinks_eq]
  split
  · rename_i hlink
    exact absurd hlink (h.follow_ne_link address names)
  · rfl

/-- Where a name leads in a directory: nowhere else, to the directory above, or to the entry that
bears it. -/
inductive Leads (tree : FileTree) (address : Address) : String → Address → Prop
  | blank {name : String} : name = "" ∨ name = "." → Leads tree address name address
  | up : Leads tree address ".." address.dropLast
  | entry {name : String} : ¬ (name = "" ∨ name = "." ∨ name = "..") →
    name.utf8ByteSize ≤ maximalNameSize → tree.get? (address ++ [name]) ≠ none →
    Leads tree address name (address ++ [name])

/-- Names are followed one step at a time, from directory to directory. -/
theorem IsPlain.follow_cons_iff (h : tree.IsPlain) {address reached : Address} {name : String}
    {rest : List String} :
    tree.follow address (name :: rest) = .ok (.entry reached) ↔
      tree.get? address = some .directory ∧
        ∃ next, tree.Leads address name next ∧ tree.follow next rest = .ok (.entry reached) := by
  constructor
  · intro hfollow
    have hdirectory := get?_eq_directory_of_follow (List.cons_ne_nil name rest) hfollow
    refine ⟨hdirectory, ?_⟩
    rcases follow_cons_cases hdirectory hfollow with
      ⟨hblank, hrest⟩ | ⟨rfl, hrest⟩ | ⟨hspecial, hsize⟩
    · exact ⟨address, .blank hblank, hrest⟩
    · exact ⟨address.dropLast, .up, hrest⟩
    · rw [follow_name hdirectory hspecial hsize] at hfollow
      rcases h.get?_cases (address ++ [name]) with hnext | hnext | ⟨contents, hnext⟩
      · rw [hnext] at hfollow
        cases hfollow
      · rw [hnext] at hfollow
        exact ⟨address ++ [name], .entry hspecial hsize (by simp [hnext]), hfollow⟩
      · rw [hnext] at hfollow
        exact ⟨address ++ [name], .entry hspecial hsize (by simp [hnext]), hfollow⟩
  · rintro ⟨hdirectory, next, hleads, hfollow⟩
    cases hleads with
    | blank hblank =>
        rw [follow_blank hdirectory hblank]
        exact hfollow
    | up =>
        rw [follow_up hdirectory]
        exact hfollow
    | entry hspecial hsize hthere =>
        rw [follow_name hdirectory hspecial hsize]
        rcases h.get?_cases (address ++ [name]) with hnext | hnext | ⟨contents, hnext⟩
        · exact absurd hnext hthere
        · rw [hnext]
          exact hfollow
        · rw [hnext]
          exact hfollow

/-- A proper name leads to the entry that bears it, if there is one. -/
theorem IsPlain.follow_singleton (h : tree.IsPlain) {directory : Address} {name : String}
    (hdirectory : tree.get? directory = some .directory) (hname : IsEntryName name)
    (hsize : name.utf8ByteSize ≤ maximalNameSize) :
    tree.follow directory [name] =
      if tree.get? (directory ++ [name]) = none then .ok (.missing directory name [])
      else .ok (.entry (directory ++ [name])) := by
  rw [follow_name hdirectory hname.not_special hsize]
  cases hget : tree.get? (directory ++ [name]) with
  | none => rfl
  | some entry =>
      cases entry with
      | link target => exact absurd hget (h.not_link _ target)
      | file contents => simp [follow]
      | directory => simp [follow]

/-- All that a name can lead to: the directory itself or the one above it, or the entry that bears
the name, there or missing. -/
theorem IsPlain.follow_singleton_cases (h : tree.IsPlain) {directory : Address} {name : String}
    (hslash : '/' ∉ name.toList) {found : Reached}
    (hfollow : tree.follow directory [name] = .ok found) :
    (∃ address, found = .entry address ∧ tree.get? address = some .directory ∧
      ¬ IsEntryName name) ∨
    (tree.get? directory = some .directory ∧ IsEntryName name ∧
      name.utf8ByteSize ≤ maximalNameSize ∧
      ((tree.get? (directory ++ [name]) = none ∧ found = .missing directory name []) ∨
        (tree.get? (directory ++ [name]) ≠ none ∧ found = .entry (directory ++ [name])))) := by
  have hdirectory := get?_eq_directory_of_follow (List.cons_ne_nil name []) hfollow
  rcases follow_cons_cases hdirectory hfollow with
    ⟨hblank, hrest⟩ | ⟨rfl, hrest⟩ | ⟨hspecial, hsize⟩
  · have hnot : ¬ IsEntryName name := fun hname => hname.not_special (hblank.imp_right Or.inl)
    exact Or.inl ⟨directory, (Except.ok.inj hrest).symm, hdirectory, hnot⟩
  · have hparent := h.parent_eq directory (by simp [hdirectory])
    exact Or.inl ⟨directory.dropLast, (Except.ok.inj hrest).symm, hparent,
      fun hname => hname.ne_parent rfl⟩
  · have hname : IsEntryName name := ⟨fun hn => hspecial (Or.inl hn),
      fun hn => hspecial (Or.inr (Or.inl hn)), fun hn => hspecial (Or.inr (Or.inr hn)), hslash⟩
    refine Or.inr ⟨hdirectory, hname, hsize, ?_⟩
    rw [h.follow_singleton hdirectory hname hsize] at hfollow
    split at hfollow
    · rename_i hget
      exact Or.inl ⟨hget, (Except.ok.inj hfollow).symm⟩
    · rename_i hget
      exact Or.inr ⟨hget, (Except.ok.inj hfollow).symm⟩

/-! ## Paths in a plain tree -/

/-- A path leads where its names do. -/
theorem IsPlain.reach_eq_ok_iff (h : tree.IsPlain) {p : Path} {found : Reached} :
    tree.reach p = .ok found ↔ textFault? p = none ∧
      tree.follow (startOf tree.workingDirectory p) p.names = .ok found := by
  rw [reach, h.followLinks_eq]
  cases textFault? p with
  | none => simp
  | some error => simp

/-- What a path leads to, by its last name: a directory, the entry that bears this name in the
directory before it, or something missing. -/
theorem IsPlain.reach_cases (h : tree.IsPlain) {p : Path} {front : List String} {name : String}
    (hnames : p.names = front ++ [name]) {found : Reached} (hreach : tree.reach p = .ok found) :
    (∃ address, found = .entry address ∧ tree.get? address = some .directory) ∨
    (∃ directory, tree.follow (startOf tree.workingDirectory p) front = .ok (.entry directory) ∧
      tree.get? directory = some .directory ∧ IsEntryName name ∧
      name.utf8ByteSize ≤ maximalNameSize ∧
      ((tree.get? (directory ++ [name]) = none ∧ found = .missing directory name []) ∨
        (tree.get? (directory ++ [name]) ≠ none ∧ found = .entry (directory ++ [name])))) ∨
    ∃ directory missing rest, found = .missing directory missing (rest ++ [name]) := by
  have hslash : '/' ∉ name.toList := Path.slash_notMem_of_mem_names (p := p) (by simp [hnames])
  obtain ⟨-, hfollow⟩ := h.reach_eq_ok_iff.mp hreach
  rw [hnames, follow_append] at hfollow
  split at hfollow
  · rename_i directory hleads
    rcases h.follow_singleton_cases hslash hfollow with
      ⟨address, hfound, hdirectory, -⟩ | ⟨hdirectory, hname, hsize, hfound⟩
    · exact Or.inl ⟨address, hfound, hdirectory⟩
    · exact Or.inr (Or.inl ⟨directory, hleads, hdirectory, hname, hsize, hfound⟩)
  · rename_i directory missing rest _
    exact Or.inr (Or.inr ⟨directory, missing, rest, (Except.ok.inj hfollow).symm⟩)
  · rename_i hlink
    exact absurd hlink (h.follow_ne_link _ _)
  · cases hfollow

/-- A path has a last name. -/
theorem exists_names_eq_append (p : Path) : ∃ front name, p.names = front ++ [name] := by
  obtain hnil | ⟨front, name, hnames⟩ := List.eq_nil_or_concat' p.names
  · exact absurd hnil p.names_ne_nil
  · exact ⟨front, name, hnames⟩

/-- A path that leads to a file has the name of this file. -/
theorem IsPlain.fileName?_of_reach (h : tree.IsPlain) {p : Path} {address : Address}
    {contents : ByteArray} (hreach : tree.reach p = .ok (.entry address))
    (hfile : tree.get? address = some (.file contents)) :
    ∃ directory name, address = directory ++ [name] ∧ p.fileName? = some name := by
  obtain ⟨front, name, hnames⟩ := exists_names_eq_append p
  rcases h.reach_cases hnames hreach with
    ⟨other, hother, hdirectory⟩ | ⟨directory, -, -, hname, -, hfound⟩ | ⟨_, _, _, hmissing⟩
  · obtain rfl := Reached.entry.inj hother
    rw [hdirectory] at hfile
    cases hfile
  · rcases hfound with ⟨-, hmissing⟩ | ⟨-, hentry⟩
    · cases hmissing
    · exact ⟨directory, name, Reached.entry.inj hentry,
        Path.fileName?_eq_some hnames hname.ne_empty hname.ne_current hname.ne_parent⟩
  · cases hmissing

/-! ## What paths name -/

/-- A path names the entry it leads to. -/
theorem resolve_eq_ok_iff {p : Path} {address : Address} :
    tree.resolve p = .ok address ↔ tree.reach p = .ok (.entry address) := by
  rw [resolve]
  cases tree.reach p with
  | error e => simp
  | ok found => cases found <;> simp

/-- A path is that of a directory when it names one. -/
theorem isDirectory_iff {p : Path} : tree.isDirectory p = true ↔
    ∃ address, tree.resolve p = .ok address ∧ tree.get? address = some .directory := by
  rw [isDirectory, lookup]
  cases tree.resolve p with
  | error e => simp
  | ok address =>
      cases hget : tree.get? address with
      | none => simp [hget]
      | some entry => cases entry <;> simp [hget]

/-- A path is that of a file when it names one. -/
theorem isFile_iff {p : Path} : tree.isFile p = true ↔
    ∃ address contents, tree.resolve p = .ok address ∧
      tree.get? address = some (.file contents) := by
  rw [isFile, lookup]
  cases tree.resolve p with
  | error e => simp
  | ok address =>
      cases hget : tree.get? address with
      | none => simp [hget]
      | some entry => cases entry <;> simp [hget]

/-- A path is there when it names anything. -/
theorem contains_iff {p : Path} : tree.contains p = true ↔
    ∃ address, tree.resolve p = .ok address ∧ tree.get? address ≠ none := by
  rw [contains, lookup]
  cases tree.resolve p with
  | error e => simp [Except.isOk, Except.toBool]
  | ok address =>
      cases hget : tree.get? address with
      | none => simp [hget, Except.isOk, Except.toBool]
      | some entry => simp [hget, Except.isOk, Except.toBool]

theorem contains_of_isDirectory {p : Path} (h : tree.isDirectory p = true) :
    tree.contains p = true := by
  obtain ⟨address, hresolve, hdirectory⟩ := isDirectory_iff.mp h
  exact contains_iff.mpr ⟨address, hresolve, by simp [hdirectory]⟩

/-- A path of a plain tree names what its names lead to. -/
theorem IsPlain.resolve_eq_ok_iff (h : tree.IsPlain) {p : Path} {address : Address} :
    tree.resolve p = .ok address ↔ textFault? p = none ∧
      tree.follow (startOf tree.workingDirectory p) p.names = .ok (.entry address) := by
  rw [FileTree.resolve_eq_ok_iff, h.reach_eq_ok_iff]

/-- The names of entries lead to what is below. -/
theorem IsPlain.eq_append_of_follow (h : tree.IsPlain) {place address names : Address}
    (hnames : ∀ name ∈ names, IsEntryName name)
    (hfollow : tree.follow place names = .ok (.entry address)) : address = place ++ names := by
  induction names generalizing place with
  | nil =>
      rw [List.append_nil]
      exact (Reached.entry.inj (Except.ok.inj hfollow)).symm
  | cons name rest ih =>
      have hname := hnames name List.mem_cons_self
      have hrest : ∀ other ∈ rest, IsEntryName other :=
        fun other hother => hnames other (List.mem_cons_of_mem name hother)
      obtain ⟨-, next, hleads, hnext⟩ := h.follow_cons_iff.mp hfollow
      cases hleads with
      | blank hblank => exact absurd (hblank.imp_right Or.inl) hname.not_special
      | up => exact absurd rfl hname.ne_parent
      | entry => rw [ih hrest hnext, List.append_assoc, List.singleton_append]

/-- The names that what is joined to a path stands behind lead where the path does. -/
theorem IsPlain.follow_leadingNames (h : tree.IsPlain) {p : Path} {address : Address}
    (hresolve : tree.resolve p = .ok address) :
    tree.follow (startOf tree.workingDirectory p) p.leadingNames = .ok (.entry address) := by
  obtain ⟨-, hfollow⟩ := h.resolve_eq_ok_iff.mp hresolve
  rcases p.names_eq_leadingNames with hnames | hnames
  · rw [hnames] at hfollow
    exact hfollow
  · rw [hnames, follow_append] at hfollow
    split at hfollow
    · rename_i reached hleads
      have hdirectory := get?_eq_directory_of_follow (List.cons_ne_nil "" []) hfollow
      rw [follow_blank hdirectory (Or.inl rfl), follow] at hfollow
      rw [hleads]
      exact hfollow
    all_goals cases hfollow

/-- The path of a directory leads to it. -/
theorem IsPlain.exists_isDirectoryOf (h : tree.IsPlain) {p : Path}
    (hp : tree.isDirectory p = true) : ∃ address, tree.IsDirectoryOf p address := by
  obtain ⟨address, hresolve, hdirectory⟩ := isDirectory_iff.mp hp
  refine ⟨address, ?_, hdirectory⟩
  rw [h.followLinks_eq]
  exact h.follow_leadingNames hresolve

/-- No directories are made where there is one. -/
theorem IsPlain.makeDirectories_eq (h : tree.IsPlain) {p : Path} (hp : tree.isDirectory p = true) :
    tree.makeDirectories p = (.ok (), tree) := by
  obtain ⟨address, haddress⟩ := h.exists_isDirectoryOf hp
  obtain ⟨_, hresolve, -⟩ := isDirectory_iff.mp hp
  exact haddress.makeDirectories_eq fun _ => (h.resolve_eq_ok_iff.mp hresolve).1

/-! ## Files that are written -/

/-- A file is written where its path leads, where no directory is, or under a missing name at its
end. -/
theorem exists_reach_of_write {p : Path} {contents : ByteArray} {written : FileTree}
    (h : tree.write p contents = .ok written) :
    ∃ found address, tree.reach p = .ok found ∧
      written = tree.insert address (.file contents) ∧
      ((found = .entry address ∧ tree.get? address ≠ some .directory) ∨
        ∃ directory name, found = .missing directory name [] ∧ address = directory ++ [name]) := by
  rw [write] at h
  cases haddress : tree.writeAddress p with
  | error e =>
      rw [haddress] at h
      cases h
  | ok address =>
      rw [haddress] at h
      have hwritten : tree.insert address (.file contents) = written := Except.ok.inj h
      rw [writeAddress] at haddress
      split at haddress
      · split at haddress
        · cases haddress
        · cases haddress
      · cases hreach : tree.reach p with
        | error e =>
            rw [hreach] at haddress
            cases haddress
        | ok found =>
            rw [hreach] at haddress
            refine ⟨found, address, rfl, hwritten.symm, ?_⟩
            -- only an entry that is no directory, or a missing last name, gives an address
            cases found with
            | link directory target rest => cases haddress
            | entry other =>
                simp only at haddress
                split at haddress
                · cases haddress
                · rename_i hother
                  obtain rfl := Except.ok.inj haddress
                  exact Or.inl ⟨rfl, hother⟩
            | missing directory name rest =>
                cases rest with
                | cons _ _ => cases haddress
                | nil => exact Or.inr ⟨directory, name, rfl, (Except.ok.inj haddress).symm⟩

/-- A file that is written comes to stand under the last name of its path, in the directory that the
names before lead to, and where no directory is. -/
theorem IsPlain.exists_of_write (h : tree.IsPlain) {p : Path} {front : List String} {name : String}
    (hnames : p.names = front ++ [name]) {contents : ByteArray} {written : FileTree}
    (hwrite : tree.write p contents = .ok written) :
    ∃ directory, tree.follow (startOf tree.workingDirectory p) front = .ok (.entry directory) ∧
      tree.get? directory = some .directory ∧ IsEntryName name ∧
      name.utf8ByteSize ≤ maximalNameSize ∧
      tree.get? (directory ++ [name]) ≠ some .directory ∧
      written = tree.insert (directory ++ [name]) (.file contents) := by
  obtain ⟨found, address, hreach, rfl, hfound⟩ := exists_reach_of_write hwrite
  rcases h.reach_cases hnames hreach with
    ⟨other, rfl, hother⟩ | ⟨directory, hleads, hdirectory, hname, hsize, hplace⟩ |
      ⟨other, missing, rest, rfl⟩
  · rcases hfound with ⟨hentry, hfree⟩ | ⟨_, _, hmissing, -⟩
    · obtain rfl := Reached.entry.inj hentry
      exact absurd hother hfree
    · cases hmissing
  · refine ⟨directory, hleads, hdirectory, hname, hsize, ?_⟩
    rcases hplace with ⟨hget, rfl⟩ | ⟨-, rfl⟩
    · rcases hfound with ⟨hentry, -⟩ | ⟨_, _, hmissing, rfl⟩
      · cases hentry
      · obtain ⟨rfl, rfl, -⟩ := Reached.missing.inj hmissing
        exact ⟨by simp [hget], rfl⟩
    · rcases hfound with ⟨hentry, hfree⟩ | ⟨_, _, hmissing, -⟩
      · obtain rfl := Reached.entry.inj hentry
        exact ⟨hfree, rfl⟩
      · cases hmissing
  · rcases hfound with ⟨hentry, -⟩ | ⟨_, _, hend, -⟩
    · cases hentry
    · simp at hend

end FileTree

end ClassRegistry
