import ClassRegistry.Proofs.FileTree.Growth

/-!
# Names in the directory of a path

In a plain tree a name that is joined to a path is that of one entry, there or missing, in the
directory of the path. The place stays the same one when the tree grows.
-/

namespace ClassRegistry.FileTree

variable {tree : FileTree} {p : Path} {name : String} {directory : Address}

/-- A name joined to a path is that of an entry, there or missing, of a directory. -/
structure IsPlaceOf (tree : FileTree) (p : Path) (name : String) (directory : Address) : Prop where
  textFault?_eq : textFault? (p.join ⟨name⟩) = none
  isDirectoryOf : tree.IsDirectoryOf p directory
  isEntryName : IsEntryName name
  size_le : name.utf8ByteSize ≤ maximalNameSize

/-- The names before lead to the directory of a place. -/
theorem IsPlain.isPlaceOf (h : tree.IsPlain) (hname : IsEntryName name)
    (hsize : name.utf8ByteSize ≤ maximalNameSize) {found : Reached}
    (hreach : tree.reach (p.join ⟨name⟩) = .ok found)
    (hleads : tree.follow (startOf tree.workingDirectory (p.join ⟨name⟩)) p.leadingNames =
      .ok (.entry directory)) (hdirectory : tree.get? directory = some .directory) :
    tree.IsPlaceOf p name directory := by
  rw [startOf, Path.isAbsolute_join hname.slash_notMem, ← startOf] at hleads
  refine ⟨textFault?_eq_none_of_reach hreach, ⟨?_, hdirectory⟩, hname, hsize⟩
  rw [h.followLinks_eq]
  exact hleads

/-- What is read under a name joined to a path is the file in this place. -/
theorem IsPlain.exists_isPlaceOf_of_read (h : tree.IsPlain) (hslash : '/' ∉ name.toList)
    {contents : ByteArray} (hread : tree.read (p.join ⟨name⟩) = .ok contents) :
    ∃ directory, tree.IsPlaceOf p name directory ∧
      tree.get? (directory ++ [name]) = some (.file contents) := by
  obtain ⟨address, hreach, hfile⟩ := exists_reach_of_read hread
  rcases h.reach_cases (Path.names_join hslash) hreach with
    ⟨other, hother, hdirectory⟩ | ⟨directory, hleads, hdirectory, hname, hsize, hfound⟩ |
      ⟨_, _, _, hmissing⟩
  · obtain rfl := Reached.entry.inj hother
    rw [hdirectory] at hfile
    cases hfile
  · refine ⟨directory, h.isPlaceOf hname hsize hreach hleads hdirectory, ?_⟩
    rcases hfound with ⟨-, hmissing⟩ | ⟨-, hentry⟩
    · cases hmissing
    · rw [← Reached.entry.inj hentry]
      exact hfile
  · cases hmissing

/-- A name joined to a path is that of what stands in its place. -/
theorem IsPlain.resolve_of_isPlaceOf (h : tree.IsPlain) (hplace : tree.IsPlaceOf p name directory)
    (hthere : tree.get? (directory ++ [name]) ≠ none) :
    tree.resolve (p.join ⟨name⟩) = .ok (directory ++ [name]) := by
  have hleads := hplace.isDirectoryOf.leads
  rw [h.followLinks_eq] at hleads
  rw [FileTree.resolve_eq_ok_iff, reach_join hplace.isEntryName.slash_notMem hplace.textFault?_eq,
    h.followLinks_eq, follow_append, hleads]
  simp only
  rw [h.follow_singleton hplace.isDirectoryOf.get?_eq hplace.isEntryName hplace.size_le,
    if_neg hthere]

/-- The file in a place is read under its name. -/
theorem IsPlain.read_of_isPlaceOf (h : tree.IsPlain) (hplace : tree.IsPlaceOf p name directory)
    {contents : ByteArray} (hfile : tree.get? (directory ++ [name]) = some (.file contents)) :
    tree.read (p.join ⟨name⟩) = .ok contents := by
  have hresolve := h.resolve_of_isPlaceOf hplace (by simp [hfile])
  exact read_of_reach (FileTree.resolve_eq_ok_iff.mp hresolve) hfile

/-- A file that a name joined to a path is that of bears this name. -/
theorem IsPlain.exists_of_resolve_join (h : tree.IsPlain) (hslash : '/' ∉ name.toList)
    {address : Address} {contents : ByteArray}
    (hresolve : tree.resolve (p.join ⟨name⟩) = .ok address)
    (hfile : tree.get? address = some (.file contents)) : ∃ above, address = above ++ [name] := by
  have hread := read_of_reach (FileTree.resolve_eq_ok_iff.mp hresolve) hfile
  obtain ⟨above, hplace, hthere⟩ := h.exists_isPlaceOf_of_read hslash hread
  rw [h.resolve_of_isPlaceOf hplace (by simp [hthere])] at hresolve
  exact ⟨above, (Except.ok.inj hresolve).symm⟩

/-- A file that is written under a name joined to a path comes to stand in this place, where no
directory is. -/
theorem IsPlain.exists_isPlaceOf_of_write (h : tree.IsPlain) (hslash : '/' ∉ name.toList)
    {contents : ByteArray} {written : FileTree}
    (hwrite : tree.write (p.join ⟨name⟩) contents = .ok written) :
    ∃ directory, tree.IsPlaceOf p name directory ∧
      tree.get? (directory ++ [name]) ≠ some .directory ∧
      written = tree.insert (directory ++ [name]) (.file contents) := by
  obtain ⟨directory, hleads, hdirectory, hname, hsize, hfree, hwritten⟩ :=
    h.exists_of_write (Path.names_join hslash) hwrite
  obtain ⟨found, address, hreach, -, -⟩ := exists_reach_of_write hwrite
  exact ⟨directory, h.isPlaceOf hname hsize hreach hleads hdirectory, hfree, hwritten⟩

/-- A place stays the same one when the tree grows. -/
theorem IsPlaceOf.grows {kind : String → Prop} {grown : FileTree}
    (h : tree.IsPlaceOf p name directory) (hgrows : Grows kind tree grown) :
    grown.IsPlaceOf p name directory := by
  have hleads := h.isDirectoryOf.leads
  rw [hgrows.isPlain.followLinks_eq] at hleads
  refine ⟨h.textFault?_eq, ⟨?_, ?_⟩, h.isEntryName, h.size_le⟩
  · rw [hgrows.isPlain_grown.followLinks_eq, hgrows.workingDirectory_eq]
    exact hgrows.follow_eq hleads
  · exact hgrows.directory directory h.isDirectoryOf.get?_eq

end ClassRegistry.FileTree
