import ClassRegistry.Proofs.FileTree.Plain
import Mathlib.Data.List.Induction

/-!
# Trees that grow

What making directories and writing files can do to a plain tree: each entry stays a directory or a
file, and new files bear names of a certain kind. Paths that led to an entry lead there still. A
path that leads to an entry which was there before led to it before as well, unless it climbs out of
a new directory.
-/

namespace ClassRegistry.FileTree

/-- A plain tree and what has become of it: directories stay directories, files stay files, and new
files have new names of a kind. -/
structure Grows (kind : String → Prop) (tree grown : FileTree) : Prop where
  isPlain : tree.IsPlain
  isPlain_grown : grown.IsPlain
  workingDirectory_eq : grown.workingDirectory = tree.workingDirectory
  directory : ∀ address, tree.get? address = some .directory → grown.get? address = some .directory
  file : ∀ address contents, tree.get? address = some (.file contents) →
    ∃ now, grown.get? address = some (.file now)
  new_file : ∀ above name contents, grown.get? (above ++ [name]) = some (.file contents) →
    tree.get? (above ++ [name]) = none → kind name

variable {kind : String → Prop} {tree grown : FileTree}

/-! ## Growing step by step -/

/-- A plain tree that stays as it is grows by nothing. -/
theorem Grows.refl (h : tree.IsPlain) : Grows kind tree tree where
  isPlain := h
  isPlain_grown := h
  workingDirectory_eq := rfl
  directory _ hget := hget
  file _ contents hget := ⟨contents, hget⟩
  new_file _ _ _ hget hnone := by
    rw [hnone] at hget
    cases hget

/-- What has grown can grow further. -/
theorem Grows.trans {further : FileTree} (h : Grows kind tree grown)
    (h' : Grows kind grown further) : Grows kind tree further where
  isPlain := h.isPlain
  isPlain_grown := h'.isPlain_grown
  workingDirectory_eq := h'.workingDirectory_eq.trans h.workingDirectory_eq
  directory address hget := h'.directory address (h.directory address hget)
  file address contents hget := by
    obtain ⟨now, hnow⟩ := h.file address contents hget
    exact h'.file address now hnow
  new_file above name contents hget hnone := by
    rcases h.isPlain_grown.get?_cases (above ++ [name]) with hgrown | hgrown | ⟨now, hgrown⟩
    · exact h'.new_file above name contents hget hgrown
    · rw [h'.directory _ hgrown] at hget
      cases hget
    · exact h.new_file above name now hgrown hnone

/-- A tree grows by a directory where nothing was. -/
theorem IsPlain.grows_insert_directory (h : tree.IsPlain) {above : Address} {name : String}
    (habove : tree.get? above = some .directory) (hname : IsEntryName name)
    (hfree : tree.get? (above ++ [name]) = none) :
    Grows kind tree (tree.insert (above ++ [name]) .directory) where
  isPlain := h
  isPlain_grown := h.insert habove hname (fun target => by simp) fun _ => rfl
  workingDirectory_eq := rfl
  directory address hget := by
    -- nothing was at the address of the new directory
    have hne : address ≠ above ++ [name] := by
      rintro rfl
      rw [hfree] at hget
      cases hget
    rw [tree.get?_insert_of_ne hne]
    exact hget
  file address contents hget := by
    have hne : address ≠ above ++ [name] := by
      rintro rfl
      rw [hfree] at hget
      cases hget
    rw [tree.get?_insert_of_ne hne]
    exact ⟨contents, hget⟩
  new_file other last contents hget hnone := by
    by_cases hne : other ++ [last] = above ++ [name]
    · rw [hne, tree.get?_insert_self (by simp)] at hget
      cases hget
    · rw [tree.get?_insert_of_ne hne, hnone] at hget
      cases hget

/-- A tree grows by a file where no directory was. -/
theorem IsPlain.grows_insert_file (h : tree.IsPlain) {above : Address} {name : String}
    (habove : tree.get? above = some .directory) (hname : IsEntryName name) (hkind : kind name)
    (hfree : tree.get? (above ++ [name]) ≠ some .directory) (contents : ByteArray) :
    Grows kind tree (tree.insert (above ++ [name]) (.file contents)) where
  isPlain := h
  isPlain_grown := h.insert habove hname (fun target => by simp) fun hd => absurd hd hfree
  workingDirectory_eq := rfl
  directory address hget := by
    have hne : address ≠ above ++ [name] := by
      rintro rfl
      exact hfree hget
    rw [tree.get?_insert_of_ne hne]
    exact hget
  file address earlier hget := by
    by_cases hne : address = above ++ [name]
    · rw [hne, tree.get?_insert_self (by simp)]
      exact ⟨contents, rfl⟩
    · rw [tree.get?_insert_of_ne hne]
      exact ⟨earlier, hget⟩
  new_file other last _ hget hnone := by
    by_cases hne : other ++ [last] = above ++ [name]
    · rw [List.singleton_inj.mp (List.append_inj_right' hne rfl)]
      exact hkind
    · rw [tree.get?_insert_of_ne hne, hnone] at hget
      cases hget

/-- A tree grows by the directories that are made in it, also when that fails. -/
theorem IsPlain.grows_makeDirectories (h : tree.IsPlain) (p : Path) :
    Grows kind tree (tree.makeDirectories p).2 := by
  refine makeDirectoriesAlong_preserves (I := Grows kind tree) ?_ (.refl h)
  intro q _ before made hbefore hmade
  obtain ⟨above, name, -, habove, hname, -, hfree, rfl⟩ := exists_of_makeDirectory hmade
  exact hbefore.trans (hbefore.isPlain_grown.grows_insert_directory habove hname hfree)

/-- A tree grows by a file that is written, when the last name of its path is of the kind. -/
theorem IsPlain.grows_write (h : tree.IsPlain) {p : Path} {contents : ByteArray}
    (hkind : ∀ name, p.fileName? = some name → kind name) {written : FileTree}
    (hwrite : tree.write p contents = .ok written) : Grows kind tree written := by
  obtain ⟨front, name, hnames⟩ := exists_names_eq_append p
  obtain ⟨above, -, habove, hname, -, hfree, rfl⟩ := h.exists_of_write hnames hwrite
  have hlast := Path.fileName?_eq_some hnames hname.ne_empty hname.ne_current hname.ne_parent
  exact h.grows_insert_file habove hname (hkind name hlast) hfree contents

/-! ## Paths in a tree that grows -/

/-- An entry that is a directory and was there was a directory. -/
theorem Grows.get?_eq_directory (h : Grows kind tree grown) {address : Address}
    (hgrown : grown.get? address = some .directory) (hthere : tree.get? address ≠ none) :
    tree.get? address = some .directory := by
  rcases h.isPlain.get?_cases address with hnone | hdirectory | ⟨contents, hfile⟩
  · exact absurd hnone hthere
  · exact hdirectory
  · obtain ⟨now, hnow⟩ := h.file address contents hfile
    rw [hgrown] at hnow
    cases hnow

/-- An entry that is a file and was there was a file. -/
theorem Grows.exists_get?_eq_file (h : Grows kind tree grown) {address : Address}
    {contents : ByteArray} (hgrown : grown.get? address = some (.file contents))
    (hthere : tree.get? address ≠ none) : ∃ before, tree.get? address = some (.file before) := by
  rcases h.isPlain.get?_cases address with hnone | hdirectory | hfile
  · exact absurd hnone hthere
  · rw [h.directory address hdirectory] at hgrown
    cases hgrown
  · exact hfile

/-- What was there is there. -/
theorem Grows.get?_ne_none (h : Grows kind tree grown) {address : Address}
    (hthere : tree.get? address ≠ none) : grown.get? address ≠ none := by
  rcases h.isPlain.get?_cases address with hnone | hdirectory | ⟨contents, hfile⟩
  · exact absurd hnone hthere
  · simp [h.directory address hdirectory]
  · obtain ⟨now, hnow⟩ := h.file address contents hfile
    simp [hnow]

/-- Names lead where they led. -/
theorem Grows.follow_eq (h : Grows kind tree grown) {address reached : Address}
    {names : List String} (hfollow : tree.follow address names = .ok (.entry reached)) :
    grown.follow address names = .ok (.entry reached) := by
  induction names generalizing address with
  | nil => exact hfollow
  | cons name rest ih =>
      obtain ⟨hdirectory, next, hleads, hrest⟩ := h.isPlain.follow_cons_iff.mp hfollow
      refine h.isPlain_grown.follow_cons_iff.mpr
        ⟨h.directory address hdirectory, next, ?_, ih hrest⟩
      cases hleads with
      | blank hblank => exact .blank hblank
      | up => exact .up
      | entry hspecial hsize hthere => exact .entry hspecial hsize (h.get?_ne_none hthere)

/-! ## Entries that were there before -/

/-- The directories on the way to an entry of a plain tree are there. -/
theorem IsPlain.get?_of_append (h : tree.IsPlain) {address more : Address} (hne : more ≠ [])
    (hthere : tree.get? (address ++ more) ≠ none) : tree.get? address = some .directory := by
  induction more using List.reverseRecOn with
  | nil => exact absurd rfl hne
  | append_singleton front name ih =>
      have hparent := h.parent_eq _ hthere
      rw [← List.append_assoc, List.dropLast_concat] at hparent
      by_cases hfront : front = []
      · rw [hfront, List.append_nil] at hparent
        exact hparent
      · exact ih hfront (by simp [hparent])

/-- Names without a `..` lead to something below. -/
theorem IsPlain.prefix_of_follow (h : tree.IsPlain) {address reached : Address}
    {names : List String} (hnames : ".." ∉ names)
    (hfollow : tree.follow address names = .ok (.entry reached)) : address <+: reached := by
  induction names generalizing address with
  | nil =>
      obtain rfl := Reached.entry.inj (Except.ok.inj hfollow)
      exact List.prefix_rfl
  | cons name rest ih =>
      have hrest : ".." ∉ rest := fun hrest => hnames (List.mem_cons_of_mem name hrest)
      obtain ⟨-, next, hleads, hfollow⟩ := h.follow_cons_iff.mp hfollow
      cases hleads with
      | blank => exact ih hrest hfollow
      | up => exact absurd List.mem_cons_self hnames
      | entry => exact (List.prefix_append address [name]).trans (ih hrest hfollow)

/-- There are no new directories. -/
def KeepsDirectories (tree grown : FileTree) : Prop :=
  ∀ address, grown.get? address = some .directory → tree.get? address = some .directory

/-- There are no new directories where a file is written. -/
theorem IsPlain.keepsDirectories_write (h : tree.IsPlain) {p : Path} {contents : ByteArray}
    {written : FileTree} (hwrite : tree.write p contents = .ok written) :
    KeepsDirectories tree written := by
  obtain ⟨front, name, hnames⟩ := exists_names_eq_append p
  obtain ⟨above, -, -, -, -, -, rfl⟩ := h.exists_of_write hnames hwrite
  intro address hget
  by_cases hne : address = above ++ [name]
  · rw [hne, tree.get?_insert_self (by simp)] at hget
    cases hget
  · rw [tree.get?_insert_of_ne hne] at hget
    exact hget

/-- Names that lead to an entry which was there led to it, unless they climb out of a new
directory. -/
theorem Grows.follow_of_grown (h : Grows kind tree grown) {address reached : Address}
    {names : List String} (hclimb : KeepsDirectories tree grown ∨ ".." ∉ names)
    (hfollow : grown.follow address names = .ok (.entry reached))
    (hthere : tree.get? reached ≠ none) : tree.follow address names = .ok (.entry reached) := by
  induction names generalizing address with
  | nil => exact hfollow
  | cons name rest ih =>
      obtain ⟨hafter, next, hleads, hnext⟩ := h.isPlain_grown.follow_cons_iff.mp hfollow
      have hbefore : tree.get? address = some .directory := by
        rcases hclimb with hkeeps | hup
        · exact hkeeps address hafter
        · obtain ⟨more, rfl⟩ := h.isPlain_grown.prefix_of_follow hup hfollow
          by_cases hmore : more = []
          · rw [hmore, List.append_nil] at hthere
            exact h.get?_eq_directory hafter hthere
          · exact h.isPlain.get?_of_append hmore hthere
      have hrest : KeepsDirectories tree grown ∨ ".." ∉ rest :=
        hclimb.imp_right fun hup hmem => hup (List.mem_cons_of_mem name hmem)
      have hled := ih hrest hnext
      refine h.isPlain.follow_cons_iff.mpr ⟨hbefore, next, ?_, hled⟩
      cases hleads with
      | blank hblank => exact .blank hblank
      | up => exact .up
      | entry hspecial hsize _ =>
          refine .entry hspecial hsize ?_
          -- the entry of this name is the one reached, or a directory on the way to it
          cases rest with
          | nil =>
              obtain rfl := Reached.entry.inj (Except.ok.inj hled)
              exact hthere
          | cons following more =>
              rw [get?_eq_directory_of_follow (List.cons_ne_nil following more) hled]
              simp

/-! ## What paths name -/

/-- Paths name what they named. -/
theorem Grows.resolve_eq (h : Grows kind tree grown) {p : Path} {address : Address}
    (hresolve : tree.resolve p = .ok address) : grown.resolve p = .ok address := by
  obtain ⟨htext, hfollow⟩ := h.isPlain.resolve_eq_ok_iff.mp hresolve
  rw [h.isPlain_grown.resolve_eq_ok_iff, h.workingDirectory_eq]
  exact ⟨htext, h.follow_eq hfollow⟩

/-- A path that names an entry which was there named it, unless it climbs out of a new directory. -/
theorem Grows.resolve_of_grown (h : Grows kind tree grown) {p : Path} {address : Address}
    (hclimb : KeepsDirectories tree grown ∨ ".." ∉ p.names)
    (hresolve : grown.resolve p = .ok address) (hthere : tree.get? address ≠ none) :
    tree.resolve p = .ok address := by
  obtain ⟨htext, hfollow⟩ := h.isPlain_grown.resolve_eq_ok_iff.mp hresolve
  rw [h.workingDirectory_eq] at hfollow
  exact h.isPlain.resolve_eq_ok_iff.mpr ⟨htext, h.follow_of_grown hclimb hfollow hthere⟩

/-- What was there under a path is there. -/
theorem Grows.contains_eq (h : Grows kind tree grown) {p : Path} (hthere : tree.contains p = true) :
    grown.contains p = true := by
  obtain ⟨address, hresolve, hget⟩ := contains_iff.mp hthere
  exact contains_iff.mpr ⟨address, h.resolve_eq hresolve, h.get?_ne_none hget⟩

theorem Grows.isDirectory_eq (h : Grows kind tree grown) {p : Path}
    (hdirectory : tree.isDirectory p = true) : grown.isDirectory p = true := by
  obtain ⟨address, hresolve, hget⟩ := isDirectory_iff.mp hdirectory
  exact isDirectory_iff.mpr ⟨address, h.resolve_eq hresolve, h.directory address hget⟩

/-- Files are where they were. -/
theorem Grows.isFile_eq (h : Grows kind tree grown) {p : Path} (hfile : tree.isFile p = true) :
    grown.isFile p = true := by
  obtain ⟨address, contents, hresolve, hget⟩ := isFile_iff.mp hfile
  obtain ⟨now, hnow⟩ := h.file address contents hget
  exact isFile_iff.mpr ⟨address, now, h.resolve_eq hresolve, hnow⟩

/-- A path that is that of a directory was that of a directory when anything was there. -/
theorem Grows.isDirectory_of_grown (h : Grows kind tree grown) {p : Path}
    (hdirectory : grown.isDirectory p = true) (hthere : tree.contains p = true) :
    tree.isDirectory p = true := by
  obtain ⟨address, hresolve, hget⟩ := contains_iff.mp hthere
  obtain ⟨other, hother, hgrown⟩ := isDirectory_iff.mp hdirectory
  rw [h.resolve_eq hresolve] at hother
  obtain rfl := Except.ok.inj hother
  exact isDirectory_iff.mpr ⟨address, hresolve, h.get?_eq_directory hgrown hget⟩

end ClassRegistry.FileTree
