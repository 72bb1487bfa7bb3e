import ClassRegistry.Proofs.FileTree.Entries
import ClassRegistry.Proofs.FileTree.Growth
import ClassRegistry.Scan

/-!
# Walks

A walk comes upon a place and everything below it that can be got at. In a plain tree the path of
what is below names the entry below, so a walk over a tree that has grown comes upon the same
entries and upon new ones.
-/

namespace ClassRegistry

open FileTree (Grows IsPlain KeepsDirectories)

/-! ## Paths below a place -/

/-- The names of a path with a name joined to it, which nothing replaces. -/
theorem Path.leadingNames_join {p : Path} {name : String} (hname : IsEntryName name) :
    (p.join ⟨name⟩).leadingNames = p.leadingNames ++ [name] := by
  rw [leadingNames, names_join hname.slash_notMem, List.getLast?_concat, if_neg]
  intro hempty
  exact hname.ne_empty (Option.some.inj hempty)

section Below

variable {root : Path} {names : Address}

/-- The names below a place stand behind those of the place. -/
theorem leadingNames_pathBelow (hnames : ∀ name ∈ names, IsEntryName name) :
    (pathBelow root names).leadingNames = root.leadingNames ++ names := by
  induction names using List.reverseRecOn with
  | nil => rw [pathBelow, List.foldl_nil, List.append_nil]
  | append_singleton front name ih =>
      have hfront := ih fun other hother => hnames other (by simp [hother])
      have hlast := hnames name (by simp)
      rw [pathBelow] at hfront ⊢
      rw [List.foldl_concat, Path.leadingNames_join hlast, hfront, List.append_assoc]

/-- The names of a path below a place, the place itself apart. -/
theorem names_pathBelow (hnames : ∀ name ∈ names, IsEntryName name) (hne : names ≠ []) :
    (pathBelow root names).names = root.leadingNames ++ names := by
  obtain hnil | ⟨front, name, rfl⟩ := List.eq_nil_or_concat' names
  · exact absurd hnil hne
  · have hfront : (pathBelow root front).leadingNames = root.leadingNames ++ front :=
      leadingNames_pathBelow fun other hother => hnames other (List.mem_append_left [name] hother)
    have hlast := hnames name (by simp)
    rw [pathBelow] at hfront ⊢
    rw [List.foldl_concat, Path.names_join hlast.slash_notMem, hfront, List.append_assoc]

/-- A path below a place starts where the place does. -/
theorem startOf_pathBelow (hnames : ∀ name ∈ names, IsEntryName name) (directory : Address) :
    FileTree.startOf directory (pathBelow root names) = FileTree.startOf directory root := by
  induction names using List.reverseRecOn with
  | nil => rfl
  | append_singleton front name ih =>
      have hfront := ih fun other hother => hnames other (by simp [hother])
      have hlast := hnames name (by simp)
      rw [pathBelow] at hfront ⊢
      rw [List.foldl_concat, FileTree.startOf, Path.isAbsolute_join hlast.slash_notMem,
        ← FileTree.startOf, hfront]

/-- No name below a place climbs, and no name of the place does when all of its path is free of
`..`. -/
theorem up_notMem_names_pathBelow (hnames : ∀ name ∈ names, IsEntryName name)
    (hroot : ".." ∉ root.names) : ".." ∉ (pathBelow root names).names := by
  by_cases hne : names = []
  · rw [hne]
    exact hroot
  · rw [names_pathBelow hnames hne, List.mem_append]
    rintro (hup | hup)
    · exact hroot (Path.mem_names_of_mem_leadingNames hup)
    · exact (hnames ".." hup).ne_parent rfl

end Below

namespace FileTree

variable {kind : String → Prop} {tree grown : FileTree} {root p : Path} {names : Address}
  {address place : Address}

/-- A path below a place names what stands there. -/
theorem IsPlain.eq_append_of_resolve (h : tree.IsPlain) (hnames : ∀ name ∈ names, IsEntryName name)
    (hroot : tree.resolve root = .ok place)
    (hbelow : tree.resolve (pathBelow root names) = .ok address) : address = place ++ names := by
  by_cases hne : names = []
  · rw [hne, pathBelow, List.foldl_nil, hroot] at hbelow
    rw [hne, List.append_nil]
    exact (Except.ok.inj hbelow).symm
  · obtain ⟨-, hfollow⟩ := h.resolve_eq_ok_iff.mp hbelow
    rw [startOf_pathBelow hnames, names_pathBelow hnames hne, follow_append,
      h.follow_leadingNames hroot] at hfollow
    exact h.eq_append_of_follow hnames hfollow

/-! ## What a walk comes upon -/

/-- A path can be looked into when it names something. -/
theorem accessError?_isNone_iff :
    (accessError? tree p).isNone = true ↔ ∃ address, tree.resolve p = .ok address := by
  rw [accessError?]
  cases tree.resolve p with
  | error e => simp
  | ok address => simp

/-- A walk comes upon a place, and upon what is below as far as the directory that it stands in can
be looked into. -/
theorem mem_walk : p ∈ (walk tree root).paths ↔ ∃ place, tree.resolve root = .ok place ∧
    (p = root ∨ ∃ names, names ≠ [] ∧ tree.get? (place ++ names) ≠ none ∧
      (∃ above, tree.resolve (pathBelow root names.dropLast) = .ok above) ∧
      p = pathBelow root names) := by
  rw [walk]
  cases hroot : tree.resolve root with
  | error e => simp
  | ok place =>
      simp only [List.mem_cons, List.mem_map, List.mem_filter, accessError?_isNone_iff,
        Except.ok.injEq, exists_eq_left']
      refine or_congr_right ⟨?_, ?_⟩
      · rintro ⟨⟨names, entry⟩, ⟨hbelow, habove⟩, rfl⟩
        obtain ⟨hne, hget⟩ := exists_mem_below.mp ⟨entry, hbelow⟩
        exact ⟨names, hne, hget, habove, rfl⟩
      · rintro ⟨names, hne, hget, habove, rfl⟩
        obtain ⟨entry, hbelow⟩ := exists_mem_below.mpr ⟨hne, hget⟩
        exact ⟨(names, entry), ⟨hbelow, habove⟩, rfl⟩

/-- A walk comes upon all that it came upon before the tree grew. -/
theorem Grows.mem_walk (h : Grows kind tree grown) (hp : p ∈ (walk tree root).paths) :
    p ∈ (walk grown root).paths := by
  obtain ⟨place, hroot, hcases⟩ := FileTree.mem_walk.mp hp
  refine FileTree.mem_walk.mpr ⟨place, h.resolve_eq hroot, hcases.imp_right ?_⟩
  rintro ⟨names, hne, hget, ⟨above, habove⟩, hpath⟩
  exact ⟨names, hne, h.get?_ne_none hget, ⟨above, h.resolve_eq habove⟩, hpath⟩

/-- What a walk comes upon and was there before, it came upon before the tree grew, and its place
was there. -/
theorem Grows.mem_walk_of_grown (h : Grows kind tree grown)
    (hclimb : KeepsDirectories tree grown ∨ ".." ∉ root.names) (hp : p ∈ (walk grown root).paths)
    (hresolve : grown.resolve p = .ok address) (hthere : tree.get? address ≠ none) :
    p ∈ (walk tree root).paths ∧ tree.resolve p = .ok address ∧
      ∃ place, tree.resolve root = .ok place ∧ tree.get? place ≠ none := by
  obtain ⟨place, hroot, rfl | ⟨names, hne, hget, ⟨above, habove⟩, rfl⟩⟩ := FileTree.mem_walk.mp hp
  · have hbefore := h.resolve_of_grown hclimb hresolve hthere
    exact ⟨FileTree.mem_walk.mpr ⟨address, hbefore, Or.inl rfl⟩, hbefore, address, hbefore, hthere⟩
  · have hnames : ∀ name ∈ names, IsEntryName name := fun name hname =>
      h.isPlain_grown.isEntryName _ hget name (List.mem_append_right place hname)
    have hparents : ∀ name ∈ names.dropLast, IsEntryName name := fun name hname =>
      hnames name ((List.dropLast_sublist names).subset hname)
    obtain rfl := h.isPlain_grown.eq_append_of_resolve hnames hroot hresolve
    obtain rfl := h.isPlain_grown.eq_append_of_resolve hparents hroot habove
    -- the place and the directory of the entry are on the way to it, so they were there too
    have hplace : tree.get? place ≠ none := by
      simp [h.isPlain.get?_of_append hne hthere]
    have hdirectory : tree.get? (place ++ names.dropLast) ≠ none := by
      have hsplit : place ++ names = place ++ names.dropLast ++ [names.getLast hne] := by
        rw [List.append_assoc, List.dropLast_append_getLast hne]
      rw [hsplit] at hthere
      simp [h.isPlain.get?_of_append (List.cons_ne_nil _ []) hthere]
    have hbelow : KeepsDirectories tree grown ∨ ".." ∉ (pathBelow root names).names :=
      hclimb.imp_right (up_notMem_names_pathBelow hnames)
    have hup : KeepsDirectories tree grown ∨ ".." ∉ (pathBelow root names.dropLast).names :=
      hclimb.imp_right (up_notMem_names_pathBelow hparents)
    have hbefore := h.resolve_of_grown hclimb hroot hplace
    refine ⟨?_, h.resolve_of_grown hbelow hresolve hthere, place, hbefore, hplace⟩
    exact FileTree.mem_walk.mpr ⟨place, hbefore, Or.inr ⟨names, hne, hthere,
      ⟨_, h.resolve_of_grown hup habove hdirectory⟩, rfl⟩⟩

end FileTree

end ClassRegistry
