import ClassRegistry.Proofs.Scan.Growth
import ClassRegistry.Proofs.Scan.Names

/-!
# How files are spelled

A scan comes upon a file under the path of a searched place with the names behind it that lead from
the place to the file. How such a path is spelled is told by how the place is: the names are written
behind its text, and the components of the path are those of the place and the names.
-/

namespace ClassRegistry

open FileTree (IsPlain startOf textFault? maximalNameSize)

/-! ## Paths below a place -/

/-- A slash follows a proper name. -/
theorem Path.lead_join {p : Path} {name : String} (hname : IsEntryName name) :
    (p.join ⟨name⟩).lead = p.lead ++ name ++ "/" := by
  rw [join_eq_lead (isAbsolute_eq_false hname.slash_notMem), lead]
  have hne : name.toList ≠ [] := fun hnil => hname.ne_empty (String.toList_eq_nil_iff.mp hnil)
  have hempty : (p.lead ++ name).isEmpty = false := by
    rw [← Bool.not_eq_true, String.isEmpty_iff, ← String.toList_eq_nil_iff]
    simp [hname.ne_empty]
  have hlast : (p.lead ++ name).toList.getLast? ≠ some '/' := by
    rw [String.toList_append, List.getLast?_append_of_ne_nil _ hne]
    exact fun hslash => hname.slash_notMem (List.mem_of_getLast? hslash)
  rw [if_neg]
  simp only [hempty, Bool.false_or, beq_iff_eq]
  exact hlast

section Below

variable {root other : Path} {names : Address}

/-- The path below a place is reached by way of what is in between. -/
theorem pathBelow_append (root : Path) (front names : Address) :
    pathBelow root (front ++ names) = pathBelow (pathBelow root front) names :=
  List.foldl_append

/-- The names below a place are written behind its lead, with slashes between them. -/
theorem pathBelow_eq_lead (hnames : ∀ name ∈ names, IsEntryName name) (hne : names ≠ []) :
    pathBelow root names = ⟨root.lead ++ "/".intercalate names⟩ := by
  induction names generalizing root with
  | nil => exact absurd rfl hne
  | cons name rest ih =>
      obtain ⟨hname, hrest⟩ := List.forall_mem_cons.mp hnames
      cases rest with
      | nil =>
          rw [String.intercalate_singleton]
          exact Path.join_eq_lead (Path.isAbsolute_eq_false hname.slash_notMem)
      | cons next more =>
          have hbelow : pathBelow root (name :: next :: more) =
              pathBelow (root.join ⟨name⟩) (next :: more) := rfl
          rw [hbelow, ih hrest (List.cons_ne_nil next more), Path.lead_join hname,
            String.intercalate_cons_cons]
          simp only [String.append_assoc]

/-- Paths of the same names are the same when the leads of the places are. -/
theorem pathBelow_inj (hnames : ∀ name ∈ names, IsEntryName name) (hne : names ≠ []) :
    pathBelow root names = pathBelow other names ↔ root.lead = other.lead := by
  rw [pathBelow_eq_lead hnames hne, pathBelow_eq_lead hnames hne, Path.mk.injEq,
    String.append_left_inj]

/-- The components below a place are those of the place and the names. -/
theorem components_pathBelow (hnames : ∀ name ∈ names, IsEntryName name) :
    (pathBelow root names).components = root.components ++ names.map .name := by
  induction names generalizing root with
  | nil => simp [pathBelow]
  | cons name rest ih =>
      obtain ⟨hname, hrest⟩ := List.forall_mem_cons.mp hnames
      have hlist : ∀ text : String, name ≠ text → name.toList ≠ text.toList :=
        fun text htext heq => htext (String.toList_inj.mp heq)
      have hpieces : Path.pieces (Path.mk name).text.toList = [name.toList] :=
        Path.pieces_eq_singleton hname.slash_notMem
      have hempty := hlist "" hname.ne_empty
      have hcurrent := hlist "." hname.ne_current
      have hcomponents : (Path.mk name).components = [.name name] := by
        rw [Path.components_eq_filterMap hpieces hempty hcurrent]
        simp [Path.Component.ofPiece?_eq_name hempty hcurrent (hlist ".." hname.ne_parent)]
      have hbelow : pathBelow root (name :: rest) = pathBelow (root.join ⟨name⟩) rest := rfl
      rw [hbelow, ih hrest, Path.components_join hpieces hempty hcurrent, hcomponents,
        List.append_assoc, List.map_cons, List.singleton_append]

/-- A path of proper names is relative. -/
theorem isAbsolute_eq_false_of_names {p : Path} (hnames : ∀ name ∈ p.names, IsEntryName name) :
    p.isAbsolute = false := by
  rw [Path.isAbsolute, beq_eq_false_iff_ne]
  intro hslash
  have hfirst : p.names.head? = some "" := by
    obtain ⟨rest, hrest⟩ := List.head?_eq_some_iff.mp hslash
    rw [Path.names, hrest, Path.pieces, if_pos rfl]
    rfl
  exact (hnames "" (List.mem_of_head? hfirst)).ne_empty rfl

/-- A relative path of proper names leads from a place as its names do. -/
theorem join_eq_pathBelow {p : Path} (hnames : ∀ name ∈ p.names, IsEntryName name) :
    root.join p = pathBelow root p.names := by
  rw [pathBelow_eq_lead hnames p.names_ne_nil, p.intercalate_names,
    Path.join_eq_lead (isAbsolute_eq_false_of_names hnames)]

end Below

namespace FileTree

variable {tree : FileTree} {root : Path} {place names : Address}

/-- Proper names lead from a directory to what is below it, when none is too long. -/
theorem IsPlain.follow_eq_append_iff (h : tree.IsPlain) (hnames : ∀ name ∈ names, IsEntryName name)
    (hthere : tree.get? (place ++ names) ≠ none) :
    tree.follow place names = .ok (.entry (place ++ names)) ↔
      ∀ name ∈ names, name.utf8ByteSize ≤ maximalNameSize := by
  induction names generalizing place with
  | nil => simp [follow]
  | cons name rest ih =>
      obtain ⟨hname, hrest⟩ := List.forall_mem_cons.mp hnames
      have hsplit : place ++ name :: rest = place ++ [name] ++ rest := by simp
      have hplace := h.get?_of_append (List.cons_ne_nil name rest) hthere
      rw [hsplit] at hthere ⊢
      rw [h.follow_cons_iff, List.forall_mem_cons]
      have hnext := ih hrest hthere
      constructor
      · rintro ⟨-, next, hleads, hfollow⟩
        cases hleads with
        | blank hblank => exact absurd (hblank.imp_right Or.inl) hname.not_special
        | up => exact absurd rfl hname.ne_parent
        | entry _ hsize _ => exact ⟨hsize, hnext.mp hfollow⟩
      · rintro ⟨hsize, hsizes⟩
        refine ⟨hplace, place ++ [name], .entry hname.not_special hsize ?_, hnext.mpr hsizes⟩
        by_cases hnil : rest = []
        · rw [hnil, List.append_nil] at hthere
          exact hthere
        · simp [h.get?_of_append hnil hthere]

/-- What is below a place is named by the path below it, when neither this path nor a name is too
long. -/
theorem IsPlain.resolve_pathBelow_iff (h : tree.IsPlain)
    (hnames : ∀ name ∈ names, IsEntryName name) (hroot : tree.resolve root = .ok place)
    (hthere : tree.get? (place ++ names) ≠ none) :
    tree.resolve (pathBelow root names) = .ok (place ++ names) ↔
      textFault? (pathBelow root names) = none ∧
        ∀ name ∈ names, name.utf8ByteSize ≤ maximalNameSize := by
  by_cases hne : names = []
  · subst hne
    rw [List.append_nil]
    simpa [pathBelow, hroot] using (h.resolve_eq_ok_iff.mp hroot).1
  · rw [h.resolve_eq_ok_iff, startOf_pathBelow hnames, names_pathBelow hnames hne, follow_append,
      h.follow_leadingNames hroot]
    simp only
    rw [h.follow_eq_append_iff hnames hthere]

/-- The text of a place starts the texts of the paths below it. -/
theorem exists_text_pathBelow (root : Path) (names : Address)
    (hnames : ∀ name ∈ names, IsEntryName name) :
    ∃ rest, (pathBelow root names).text = root.text ++ rest := by
  induction names generalizing root with
  | nil => exact ⟨"", String.append_empty.symm⟩
  | cons name more ih =>
      obtain ⟨hname, hmore⟩ := List.forall_mem_cons.mp hnames
      obtain ⟨first, hfirst⟩ := Path.exists_text_join (p := root) hname.slash_notMem
      obtain ⟨rest, hrest⟩ := ih (root.join ⟨name⟩) hmore
      refine ⟨first ++ rest, ?_⟩
      rw [← String.append_assoc, ← hfirst]
      exact hrest

/-- A place on the way to what is below can be followed when the whole path can. -/
theorem textFault?_pathBelow_of_append {names more : Address} (hne : root.text ≠ "")
    (hnames : ∀ name ∈ names ++ more, IsEntryName name)
    (h : textFault? (pathBelow root (names ++ more)) = none) :
    textFault? (pathBelow root names) = none := by
  obtain ⟨front, hfront⟩ := exists_text_pathBelow root names
    fun name hname => hnames name (List.mem_append_left more hname)
  obtain ⟨rest, hrest⟩ := exists_text_pathBelow (pathBelow root names) more
    fun name hname => hnames name (List.mem_append_right names hname)
  rw [pathBelow_append, textFault?_eq_none_iff, hrest, String.toList_append, List.mem_append,
    String.utf8ByteSize_append] at h
  obtain ⟨-, hzero, hsize⟩ := h
  refine textFault?_eq_none_iff.mpr ⟨?_, fun hmem => hzero (Or.inl hmem), by omega⟩
  rw [hfront]
  simp [hne]

end FileTree

/-! ## Files and their spellings -/

/-- A source file stands at an address. -/
def IsSourceAt (tree : FileTree) (address : Address) : Prop :=
  ∃ directory name contents, address = directory ++ [name] ∧
    tree.get? address = some (.file contents) ∧ isSourcePath ⟨name⟩ = true

/-- A path by which a search of places comes upon an address: that of a place with the names behind
it which lead from the place to the address. -/
def IsSpelling (tree : FileTree) (roots : List Path) (p : Path) (address : Address) : Prop :=
  ∃ root ∈ roots, ∃ place names, tree.resolve root = .ok place ∧ address = place ++ names ∧
    p = pathBelow root names

section Spelling

variable {tree : FileTree} {r : ScanRequest} {p : Path} {address : Address}

/-- Something stands where a source file does. -/
theorem IsSourceAt.get?_ne_none (h : IsSourceAt tree address) : tree.get? address ≠ none := by
  obtain ⟨-, -, contents, -, hfile, -⟩ := h
  simp [hfile]

/-- The path of a source file is that of one. -/
theorem isSourceAt_iff (h : tree.IsPlain) {contents : ByteArray}
    (hresolve : tree.resolve p = .ok address) (hfile : tree.get? address = some (.file contents)) :
    IsSourceAt tree address ↔ isSourcePath p = true := by
  obtain ⟨directory, name, rfl, hname⟩ :=
    h.fileName?_of_reach (FileTree.resolve_eq_ok_iff.mp hresolve) hfile
  have hthere : tree.get? (directory ++ [name]) ≠ none := by simp [hfile]
  have hentry := h.isEntryName _ hthere name (by simp)
  have hbare : (Path.mk name).fileName? = some name := by
    have hnames : (Path.mk name).names = [] ++ [name] :=
      Path.names_eq_singleton hentry.slash_notMem
    exact Path.fileName?_eq_some hnames hentry.ne_empty hentry.ne_current hentry.ne_parent
  have hsame : isSourcePath p = isSourcePath ⟨name⟩ := isSourcePath_congr (hname.trans hbare.symm)
  rw [hsame]
  constructor
  · rintro ⟨other, last, -, heq, -, hsource⟩
    obtain ⟨-, hlast⟩ := List.append_inj' heq rfl
    rw [List.singleton_inj.mp hlast]
    exact hsource
  · intro hsource
    exact ⟨directory, name, contents, rfl, hfile, hsource⟩

/-- What is there below a root and can be followed is walked: the directory that it stands in can be
followed as well. -/
theorem pathBelow_mem_walk (h : tree.IsPlain) {root : Path} {place names : Address}
    (hplace : tree.resolve root = .ok place) (hthere : tree.get? (place ++ names) ≠ none)
    (hresolve : tree.resolve (pathBelow root names) = .ok (place ++ names)) :
    pathBelow root names ∈ (walk tree root).paths := by
  refine FileTree.mem_walk.mpr ⟨place, hplace, ?_⟩
  rcases List.eq_nil_or_concat' names with rfl | ⟨above, last, rfl⟩
  · exact Or.inl rfl
  · have hnames : ∀ name ∈ above ++ [last], IsEntryName name := fun name hname =>
      h.isEntryName _ hthere name (List.mem_append_right place hname)
    have habove : tree.get? (place ++ above) ≠ none := by
      rw [← List.append_assoc] at hthere
      simp [h.get?_of_append (List.cons_ne_nil _ []) hthere]
    obtain ⟨hfits, hshort⟩ := (h.resolve_pathBelow_iff hnames hplace hthere).mp hresolve
    have hroot := (FileTree.textFault?_eq_none_iff.mp (h.resolve_eq_ok_iff.mp hplace).1).1
    have hparent : tree.resolve (pathBelow root above) = .ok (place ++ above) := by
      rw [h.resolve_pathBelow_iff (fun name hname => hnames name (List.mem_append_left _ hname))
        hplace habove]
      exact ⟨FileTree.textFault?_pathBelow_of_append hroot hnames hfits,
        fun name hname => hshort name (List.mem_append_left _ hname)⟩
    refine Or.inr ⟨above ++ [last], by simp, hthere, ⟨place ++ above, ?_⟩, rfl⟩
    rw [List.dropLast_concat]
    exact hparent

/-- A scan lists the spellings of the source files that it comes upon, as far as they can be
followed and are not ignored. -/
theorem mem_files_scan_iff (h : tree.IsPlain) {file : String} :
    file ∈ (scan tree r).files ↔ ∃ address, IsSpelling tree (r.roots tree).1 ⟨file⟩ address ∧
      IsSourceAt tree address ∧ tree.resolve ⟨file⟩ = .ok address ∧
      r.ignoreRules.covers ⟨file⟩ = false := by
  rw [mem_files_scan, mem_wantedFiles]
  constructor
  · rintro ⟨p, ⟨root, hroot, hwalk⟩, hwanted, rfl⟩
    simp only [isWanted, Bool.and_eq_true, Bool.not_eq_true'] at hwanted
    obtain ⟨⟨huncovered, hisFile⟩, hsource⟩ := hwanted
    obtain ⟨address, contents, hresolve, hfile⟩ := FileTree.isFile_iff.mp hisFile
    have hsourceAt := (isSourceAt_iff h hresolve hfile).mpr hsource
    refine ⟨address, ?_, hsourceAt, hresolve, huncovered⟩
    -- a walk comes upon the root itself, or upon what is below it
    obtain ⟨place, hplace, rfl | ⟨names, -, hthere, -, rfl⟩⟩ := FileTree.mem_walk.mp hwalk
    · rw [hplace] at hresolve
      obtain rfl := Except.ok.inj hresolve
      exact ⟨p, hroot, place, [], hplace, (List.append_nil place).symm, rfl⟩
    · have hnames : ∀ name ∈ names, IsEntryName name := fun name hname =>
        h.isEntryName _ hthere name (List.mem_append_right place hname)
      exact ⟨root, hroot, place, names, hplace, h.eq_append_of_resolve hnames hplace hresolve, rfl⟩
  · rintro ⟨address, ⟨root, hroot, place, names, hplace, rfl, hp⟩, hsource, hresolve, huncovered⟩
    have hthere := hsource.get?_ne_none
    obtain ⟨-, -, contents, -, hfile, -⟩ := id hsource
    refine ⟨⟨file⟩, ⟨root, hroot, ?_⟩, ?_, rfl⟩
    · rw [hp] at hresolve ⊢
      exact pathBelow_mem_walk h hplace hthere hresolve
    · simp only [isWanted, Bool.and_eq_true, Bool.not_eq_true']
      exact ⟨⟨huncovered, FileTree.isFile_iff.mpr ⟨_, contents, hresolve, hfile⟩⟩,
        (isSourceAt_iff h hresolve hfile).mp hsource⟩

/-- A scan finds what is at an address: it lists a path of it. -/
def Finds (tree : FileTree) (r : ScanRequest) (address : Address) : Prop :=
  ∃ file ∈ (scan tree r).files, tree.resolve ⟨file⟩ = .ok address

/-- A source file is found when one of its spellings can be followed and is not ignored. -/
theorem finds_iff (h : tree.IsPlain) : Finds tree r address ↔ IsSourceAt tree address ∧
    ∃ p, IsSpelling tree (r.roots tree).1 p address ∧ tree.resolve p = .ok address ∧
      r.ignoreRules.covers p = false := by
  constructor
  · rintro ⟨file, hfile, hresolve⟩
    obtain ⟨other, hspelling, hsource, hother, huncovered⟩ := (mem_files_scan_iff h).mp hfile
    rw [hother] at hresolve
    obtain rfl := Except.ok.inj hresolve
    exact ⟨hsource, ⟨file⟩, hspelling, hother, huncovered⟩
  · rintro ⟨hsource, p, hspelling, hresolve, huncovered⟩
    exact ⟨p.text, (mem_files_scan_iff h).mpr ⟨address, hspelling, hsource, hresolve, huncovered⟩,
      hresolve⟩

end Spelling

end ClassRegistry
