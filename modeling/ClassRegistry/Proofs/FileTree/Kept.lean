import ClassRegistry.Proofs.FileTree.Plain

/-!
# Files that are still found

In any tree, with links or without, a path that leads to an entry leads to it still when directories
are made where nothing was. So a file that was read is read again, and writing a file changes a tree
unless these contents were read there before.
-/

namespace ClassRegistry.FileTree

variable {tree : FileTree}

/-! ## Something that is put where nothing was -/

section Insert

variable {place : Address} (hfree : tree.get? place = none) (entry : Entry)

include hfree

/-- What was there stays as it was. -/
theorem get?_insert_of_get?_ne_none {address : Address} (h : tree.get? address ≠ none) :
    (tree.insert place entry).get? address = tree.get? address := by
  apply tree.get?_insert_of_ne
  rintro rfl
  exact h hfree

/-- Names come upon the same entry or link as before. -/
theorem follow_insert_of_none {address : Address} {names : List String} {found : Reached}
    (h : tree.follow address names = .ok found)
    (hfound : ∀ directory name rest, found ≠ .missing directory name rest) :
    (tree.insert place entry).follow address names = .ok found := by
  induction names generalizing address with
  | nil => exact h
  | cons name rest ih =>
      have hbefore := get?_eq_directory_of_follow (List.cons_ne_nil name rest) h
      have hafter : (tree.insert place entry).get? address = some .directory := by
        rw [get?_insert_of_get?_ne_none hfree entry (by simp [hbefore]), hbefore]
      rcases follow_cons_cases hbefore h with
        ⟨hblank, hrest⟩ | ⟨rfl, hrest⟩ | ⟨hspecial, hsize⟩
      · rw [follow_blank hafter hblank]
        exact ih hrest
      · rw [follow_up hafter]
        exact ih hrest
      · rw [follow_name hbefore hspecial hsize] at h
        rw [follow_name hafter hspecial hsize]
        cases hnext : tree.get? (address ++ [name]) with
        | none =>
            -- here the new entry could show, but names that end here are ruled out
            rw [hnext] at h
            exact absurd (Except.ok.inj h).symm (hfound address name rest)
        | some next =>
            rw [get?_insert_of_get?_ne_none hfree entry (by simp [hnext]), hnext]
            rw [hnext] at h
            cases next with
            | link target => exact h
            | file contents => exact ih h
            | directory => exact ih h

/-- Names lead to the same entry as before, through links or not. -/
theorem followLinks_insert_of_none {links : Nat} {address reached : Address} {names : List String}
    (h : tree.followLinks links address names = .ok (.entry reached)) :
    (tree.insert place entry).followLinks links address names = .ok (.entry reached) := by
  induction links generalizing address names with
  | zero =>
      rcases followLinks_cases h with hfollow | ⟨left, _, _, _, hleft, -⟩
      · exact followLinks_of_follow_eq_entry
          (follow_insert_of_none hfree entry hfollow fun _ _ _ => by simp) 0
      · cases hleft
  | succ links ih =>
      rcases followLinks_cases h with hfollow | ⟨left, directory, target, rest, hleft, hlink, hrest⟩
      · exact followLinks_of_follow_eq_entry
          (follow_insert_of_none hfree entry hfollow fun _ _ _ => by simp) _
      · obtain rfl : links = left := Nat.succ.inj hleft
        rw [followLinks_of_follow_eq_link
          (follow_insert_of_none hfree entry hlink fun _ _ _ => by simp)]
        exact ih hrest

/-- A path leads to the same entry as before. -/
theorem reach_insert_of_none {p : Path} {address : Address}
    (h : tree.reach p = .ok (.entry address)) :
    (tree.insert place entry).reach p = .ok (.entry address) := by
  rw [reach] at h ⊢
  split at h
  · cases h
  · exact followLinks_insert_of_none hfree entry h

/-- A file is read as before. -/
theorem read_insert_of_none {p : Path} {contents : ByteArray} (h : tree.read p = .ok contents) :
    (tree.insert place entry).read p = .ok contents := by
  obtain ⟨address, hreach, hfile⟩ := exists_reach_of_read h
  apply read_of_reach (reach_insert_of_none hfree entry hreach)
  rw [get?_insert_of_get?_ne_none hfree entry (by simp [hfile]), hfile]

end Insert

/-- A file is read as before when directories are made, also when that fails. -/
theorem read_makeDirectories {p : Path} {contents : ByteArray} (h : tree.read p = .ok contents)
    (q : Path) : (tree.makeDirectories q).2.read p = .ok contents := by
  refine makeDirectoriesAlong_preserves (I := fun now => now.read p = .ok contents) ?_ h
  intro _ _ before made hbefore hmade
  obtain ⟨above, name, -, -, -, -, hfree, rfl⟩ := exists_of_makeDirectory hmade
  exact read_insert_of_none hfree _ hbefore

/-- In any tree the path of a directory leads to it. -/
theorem exists_isDirectoryOf_of_isDirectory {p : Path} (h : tree.isDirectory p = true) :
    textFault? p = none ∧ ∃ address, tree.IsDirectoryOf p address := by
  obtain ⟨address, hresolve, hdirectory⟩ := isDirectory_iff.mp h
  have hreach := resolve_eq_ok_iff.mp hresolve
  have htext := textFault?_eq_none_of_reach hreach
  refine ⟨htext, ?_⟩
  rw [reach, htext] at hreach
  rcases p.names_eq_leadingNames with hnames | hnames
  · rw [hnames] at hreach
    exact ⟨address, hreach, hdirectory⟩
  · rw [hnames] at hreach
    obtain ⟨passed, left, hpassed⟩ := exists_followLinks_append hreach
    have hleading := hpassed []
    rw [List.append_nil, followLinks_nil] at hleading
    rw [hpassed] at hreach
    exact ⟨passed, hleading, get?_eq_directory_of_followLinks (List.cons_ne_nil "" []) hreach⟩

/-- No directories are made where there is one. -/
theorem makeDirectories_of_isDirectory {p : Path} (h : tree.isDirectory p = true) :
    tree.makeDirectories p = (.ok (), tree) := by
  obtain ⟨htext, address, haddress⟩ := exists_isDirectoryOf_of_isDirectory h
  exact haddress.makeDirectories_eq fun _ => htext

/-! ## A file that is written -/

/-- There is nothing of a name that is missing. -/
theorem get?_eq_none_of_follow {address directory : Address} {names rest : List String}
    {name : String} (h : tree.follow address names = .ok (.missing directory name rest)) :
    tree.get? (directory ++ [name]) = none := by
  induction names generalizing address with
  | nil => cases h
  | cons first more ih =>
      rw [follow_cons] at h
      split at h
      · cases h
      · split at h
        · exact ih h
        · split at h
          · exact ih h
          · split at h
            · cases h
            · split at h
              · rename_i hnone
                obtain ⟨rfl, rfl, -⟩ := Reached.missing.inj (Except.ok.inj h)
                exact hnone
              · cases h
              · exact ih h

/-- There is nothing of a name that is missing behind links. -/
theorem get?_eq_none_of_followLinks {links : Nat} {address directory : Address}
    {names rest : List String} {name : String}
    (h : tree.followLinks links address names = .ok (.missing directory name rest)) :
    tree.get? (directory ++ [name]) = none := by
  induction links generalizing address names with
  | zero =>
      rw [followLinks_eq] at h
      split at h
      · cases h
      · exact get?_eq_none_of_follow h
  | succ links ih =>
      rw [followLinks_eq] at h
      split at h
      · exact ih h
      · exact get?_eq_none_of_follow h

/-- A file comes to stand where its path leads to a file, or where nothing is. -/
theorem exists_insert_of_write {p : Path} {contents : ByteArray} {written : FileTree}
    (h : tree.write p contents = .ok written) :
    ∃ address, address ≠ [] ∧ written = tree.insert address (.file contents) ∧
      (tree.reach p = .ok (.entry address) ∨ tree.get? address = none) := by
  obtain ⟨found, address, hreach, rfl, ⟨rfl, hfree⟩ | ⟨directory, name, rfl, rfl⟩⟩ :=
    exists_reach_of_write h
  · refine ⟨address, ?_, rfl, Or.inl hreach⟩
    rintro rfl
    exact hfree rfl
  · refine ⟨directory ++ [name], by simp, rfl, Or.inr ?_⟩
    rw [reach] at hreach
    split at hreach
    · cases hreach
    · exact get?_eq_none_of_followLinks hreach

/-- A tree changes when a file is written that was not read there with these contents. -/
theorem ne_of_write {p : Path} {contents : ByteArray} {written : FileTree}
    (h : tree.write p contents = .ok written) (hread : tree.read p ≠ .ok contents) :
    written ≠ tree := by
  obtain ⟨address, hne, rfl, hplace⟩ := exists_insert_of_write h
  intro hsame
  have hfile : tree.get? address = some (.file contents) := by
    rw [← hsame]
    exact tree.get?_insert_self hne _
  rcases hplace with hreach | hnone
  · exact hread (read_of_reach hreach hfile)
  · rw [hnone] at hfile
    cases hfile

end ClassRegistry.FileTree
