import ClassRegistry.Output
import ClassRegistry.Proofs.FileTree.Growth

/-!
# Trees that units are written into

A tree grows by the files of the units that are written and by the directories that are made for
them. None are made when the directory for the units is there.
-/

namespace ClassRegistry

open FileTree (Grows KeepsDirectories)

variable {kind : String → Prop} {tree : FileTree} {outDir : Path}

namespace GeneratedUnit

variable {u : GeneratedUnit}

/-- All that writing a unit does to a tree: directories are made, and a file may be written then. -/
theorem write_tree_cases (u : GeneratedUnit) (tree : FileTree) (outDir : Path) :
    (u.write tree outDir).2 = (tree.makeDirectories outDir).2 ∨
      (tree.makeDirectories outDir).2.write (u.path outDir) u.contents.toUTF8 =
        .ok (u.write tree outDir).2 := by
  unfold GeneratedUnit.write writeFile
  split
  · rename_i hmade
    exact Or.inl (by rw [hmade])
  · rename_i made hmade
    rw [hmade]
    simp only
    split
    · exact Or.inl rfl
    · split
      · rename_i hwrite
        exact Or.inr hwrite
      · exact Or.inl rfl

/-- A tree grows by the file of a unit, when the last name of its path is of the kind. -/
theorem grows_write (h : tree.IsPlain) (hkind : ∀ name, (u.path outDir).fileName? = some name →
    kind name) : Grows kind tree (u.write tree outDir).2 := by
  have hmade : Grows kind tree (tree.makeDirectories outDir).2 := h.grows_makeDirectories outDir
  rcases u.write_tree_cases tree outDir with hsame | hwrite
  · rw [hsame]
    exact hmade
  · exact hmade.trans (hmade.isPlain_grown.grows_write hkind hwrite)

/-- There are no new directories when the one for units is there. -/
theorem keepsDirectories_write (h : tree.IsPlain) (hdirectory : tree.isDirectory outDir = true) :
    KeepsDirectories tree (u.write tree outDir).2 := by
  have hcases := u.write_tree_cases tree outDir
  rw [h.makeDirectories_eq hdirectory] at hcases
  rcases hcases with hsame | hwrite
  · rw [hsame]
    exact fun address hget => hget
  · exact h.keepsDirectories_write hwrite

end GeneratedUnit

/-- What writing each of the units preserves is preserved by writing them, also when that fails. -/
theorem writeUnits_preserves {I : FileTree → Prop} {units : List GeneratedUnit}
    (hstep : ∀ u ∈ units, ∀ tree, I tree → I (u.write tree outDir).2) (h : I tree) :
    I (writeUnits tree outDir units).tree := by
  induction units generalizing tree with
  | nil => exact h
  | cons u rest ih =>
      have hwritten := hstep u List.mem_cons_self tree h
      rw [writeUnits]
      split
      · rename_i hwrite
        rw [hwrite] at hwritten
        exact hwritten
      · rename_i hwrite
        rw [hwrite] at hwritten
        exact ih (fun v hv => hstep v (List.mem_cons_of_mem u hv)) hwritten

variable {units : List GeneratedUnit}

/-- A tree grows by the files of units, when the last names of their paths are of the kind. -/
theorem grows_writeUnits (h : tree.IsPlain)
    (hkind : ∀ u ∈ units, ∀ name, (u.path outDir).fileName? = some name → kind name) :
    Grows kind tree (writeUnits tree outDir units).tree := by
  refine writeUnits_preserves (I := Grows kind tree) ?_ (.refl h)
  intro u hu before hbefore
  exact hbefore.trans (GeneratedUnit.grows_write hbefore.isPlain_grown (hkind u hu))

/-- There are no new directories when the one for units is there: it stays there. -/
theorem keepsDirectories_writeUnits (h : tree.IsPlain)
    (hdirectory : tree.isDirectory outDir = true) :
    KeepsDirectories tree (writeUnits tree outDir units).tree := by
  suffices hpair : Grows (fun _ => True) tree (writeUnits tree outDir units).tree ∧
      KeepsDirectories tree (writeUnits tree outDir units).tree from hpair.2
  refine writeUnits_preserves
    (I := fun now => Grows (fun _ => True) tree now ∧ KeepsDirectories tree now) ?_
    ⟨.refl h, fun address hget => hget⟩
  rintro u - before ⟨hgrows, hkeeps⟩
  have hwritten : Grows (fun _ => True) before (u.write before outDir).2 :=
    GeneratedUnit.grows_write hgrows.isPlain_grown fun _ _ => trivial
  have hsame := GeneratedUnit.keepsDirectories_write (u := u) hgrows.isPlain_grown
    (hgrows.isDirectory_eq hdirectory)
  exact ⟨hgrows.trans hwritten, fun address hget => hkeeps address (hsame address hget)⟩

end ClassRegistry
