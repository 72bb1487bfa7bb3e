import ClassRegistry.Proofs.Path.Pieces

/-!
# File names

The components of a path are told by its pieces one by one. So those of a relative path that is
joined to a directory stand behind those of the directory, its file name is that of the joined path,
and a piece that is a proper name is the file name when it comes last.
-/

namespace ClassRegistry.Path

/-! ## Components and pieces -/

/-- A proper name is a component. -/
theorem Component.ofPiece?_eq_name {piece : List Char} (hne : piece ≠ []) (hcurrent : piece ≠ ['.'])
    (hparent : piece ≠ ['.', '.']) :
    Component.ofPiece? piece = some (.name (String.ofList piece)) := by
  unfold Component.ofPiece?
  split
  · exact absurd rfl hne
  · exact absurd rfl hcurrent
  · exact absurd rfl hparent
  · rfl

/-- The first piece stands for a component like the others, unless it is empty or a dot. -/
theorem components_eq_filterMap {p : Path} {piece : List Char} {more : List (List Char)}
    (h : pieces p.text.toList = piece :: more) (hne : piece ≠ []) (hcurrent : piece ≠ ['.']) :
    p.components = (piece :: more).filterMap Component.ofPiece? := by
  unfold components
  rw [h]
  split
  · rename_i hpieces
    cases hpieces
  · rename_i hpieces
    exact absurd (List.cons.inj hpieces).1 hne
  · rename_i _ _ hpieces
    exact absurd (List.cons.inj hpieces).1 hne
  · rename_i _ hpieces
    exact absurd (List.cons.inj hpieces).1 hcurrent
  · rename_i _ _ _ _ _ hpieces
    rw [hpieces]

/-- The components that the first piece of a path stands for, when it is not the only one that says
nothing. -/
def Component.ofFirstPiece : List Char → List Component
  | [] => [.root]
  | ['.'] => [.current]
  | piece => (Component.ofPiece? piece).toList

/-- Each piece of a path stands for its own components. -/
theorem components_eq_append {p : Path} {piece : List Char} {more : List (List Char)}
    (h : pieces p.text.toList = piece :: more) (hne : piece ≠ [] ∨ more ≠ []) :
    p.components = Component.ofFirstPiece piece ++ more.filterMap Component.ofPiece? := by
  by_cases hempty : piece = []
  · obtain ⟨first, rest, hmore⟩ := List.exists_cons_of_ne_nil (hne.resolve_left (· hempty))
    rw [components, h, hempty, hmore]
    rfl
  · by_cases hcurrent : piece = ['.']
    · rw [components, h, hcurrent]
      rfl
    · have hfirst : Component.ofFirstPiece piece = (Component.ofPiece? piece).toList := by
        unfold Component.ofFirstPiece
        split
        · exact absurd rfl hempty
        · exact absurd rfl hcurrent
        · rfl
      rw [components_eq_filterMap h hempty hcurrent, hfirst]
      cases hpiece : Component.ofPiece? piece with
      | none => rw [List.filterMap_cons_none hpiece]; rfl
      | some step => rw [List.filterMap_cons_some hpiece]; rfl

/-- A piece that stands for no component says nothing. -/
theorem Component.eq_of_ofPiece?_eq_none {piece : List Char}
    (h : Component.ofPiece? piece = none) : piece = [] ∨ piece = ['.'] := by
  unfold Component.ofPiece? at h
  split at h
  · exact Or.inl rfl
  · exact Or.inr rfl
  · cases h
  · cases h

/-- A leading dot is no component of a later piece. -/
theorem Component.ofPiece?_ne_current (piece : List Char) :
    Component.ofPiece? piece ≠ some .current := by
  unfold Component.ofPiece?
  split
  · exact fun h => by cases h
  · exact fun h => by cases h
  · exact fun h => by cases h
  · exact fun h => by cases h

/-- A path with the one component `.` is relative and says nothing else. -/
theorem names_of_components_eq_current {p : Path} (h : p.components = [.current]) :
    p.isAbsolute = false ∧ ∀ name ∈ p.names, name = "" ∨ name = "." := by
  have hpieces : ∃ more, pieces p.text.toList = ['.'] :: more ∧
      more.filterMap Component.ofPiece? = [] := by
    unfold components at h
    split at h
    · cases h
    · cases h
    · cases h
    · rename_i more hmore
      exact ⟨more, hmore, (List.cons.inj h).2⟩
    · have hmem : Component.current ∈ [Component.current] := List.mem_singleton_self _
      rw [← h, List.mem_filterMap] at hmem
      obtain ⟨piece, -, hpiece⟩ := hmem
      exact absurd hpiece (Component.ofPiece?_ne_current piece)
  obtain ⟨more, hpieces, hnone⟩ := hpieces
  constructor
  · rw [isAbsolute]
    cases htext : p.text.toList with
    | nil => rfl
    | cons c rest =>
        by_cases hc : c = '/'
        · rw [htext, pieces, if_pos hc] at hpieces
          cases hpieces
        · simpa using hc
  · intro name hname
    rw [names, hpieces] at hname
    obtain ⟨piece, hpiece, rfl⟩ := List.mem_map.mp hname
    rcases List.mem_cons.mp hpiece with rfl | hpiece
    · exact Or.inr rfl
    · rcases Component.eq_of_ofPiece?_eq_none (List.filterMap_eq_nil_iff.mp hnone piece hpiece) with
        rfl | rfl
      · exact Or.inl rfl
      · exact Or.inr rfl

/-! ## The last component -/

/-- The last name of a path is its file name when it is a proper one. -/
theorem fileName?_eq_some {p : Path} {front : List String} {name : String}
    (h : p.names = front ++ [name]) (hne : name ≠ "") (hcurrent : name ≠ ".")
    (hparent : name ≠ "..") : p.fileName? = some name := by
  have hlist : ∀ text : String, name ≠ text → name.toList ≠ text.toList :=
    fun text htext heq => htext (String.toList_inj.mp heq)
  have hstep : Component.ofPiece? name.toList = some (.name name) := by
    rw [Component.ofPiece?_eq_name (hlist "" hne) (hlist "." hcurrent) (hlist ".." hparent),
      String.ofList_toList]
  obtain ⟨before, last, hpieces, -, hlast⟩ : ∃ before last,
      pieces p.text.toList = before ++ [last] ∧ before.map String.ofList = front ∧
        last = name.toList := by
    rw [names] at h
    obtain ⟨before, last, hpieces, hbefore, hlast⟩ := List.map_eq_append_iff.mp h
    obtain ⟨piece, rfl, rfl⟩ := List.map_eq_singleton_iff.mp hlast
    exact ⟨before, piece, hpieces, hbefore, String.toList_ofList.symm⟩
  rw [hlast] at hpieces
  have hcomponents : ∃ steps, p.components = steps ++ [.name name] := by
    cases before with
    | nil =>
        refine ⟨[], ?_⟩
        rw [components_eq_filterMap hpieces (hlist "" hne) (hlist "." hcurrent)]
        simp [hstep]
    | cons piece before =>
        refine ⟨Component.ofFirstPiece piece ++ before.filterMap Component.ofPiece?, ?_⟩
        rw [components_eq_append hpieces (Or.inr (by simp))]
        simp [hstep]
  obtain ⟨steps, hsteps⟩ := hcomponents
  rw [fileName?, hsteps, List.getLast?_concat]

/-- A path that starts with a proper piece is relative. -/
theorem isAbsolute_of_pieces {p : Path} {piece : List Char} {more : List (List Char)}
    (h : pieces p.text.toList = piece :: more) (hne : piece ≠ []) : p.isAbsolute = false := by
  rw [isAbsolute]
  cases htext : p.text.toList with
  | nil => rfl
  | cons c rest =>
      have hc : c ≠ '/' := by
        rintro rfl
        rw [htext, pieces, if_pos rfl] at h
        exact hne (List.cons.inj h).1.symm
      simpa using hc

/-- Behind a slash the components of a relative path are added to those of what stands before. -/
theorem components_eq_of_slash {p q : Path} {front : List Char} {first : List Char}
    {rest : List (List Char)} (hp : p.text.toList = front ++ '/' :: q.text.toList)
    (hfront : pieces front = first :: rest) {piece : List Char} {more : List (List Char)}
    (h : pieces q.text.toList = piece :: more) (hne : piece ≠ []) (hcurrent : piece ≠ ['.']) :
    p.components =
      Component.ofFirstPiece first ++ rest.filterMap Component.ofPiece? ++ q.components := by
  have hpieces : pieces p.text.toList = first :: (rest ++ piece :: more) := by
    rw [hp, pieces_append_slash, hfront, h, List.cons_append]
  rw [components_eq_append hpieces (Or.inr (by simp)), components_eq_filterMap h hne hcurrent,
    List.filterMap_append, List.append_assoc]

/-- The components of a relative path that is joined to a directory stand behind those of the
directory. -/
theorem components_join {p q : Path} {piece : List Char} {more : List (List Char)}
    (h : pieces q.text.toList = piece :: more) (hne : piece ≠ []) (hcurrent : piece ≠ ['.']) :
    (p.join q).components = p.components ++ q.components := by
  rw [join, isAbsolute_of_pieces h hne, Bool.false_or]
  by_cases hempty : p.text.toList = []
  · have htext : p.text = "" := String.toList_eq_nil_iff.mp hempty
    have hp : p.components = [] := by
      rw [components, hempty]
      rfl
    rw [if_pos (String.isEmpty_iff.mpr htext), hp, List.nil_append]
  · rw [if_neg (by simpa [String.isEmpty_iff, String.toList_eq_nil_iff] using hempty)]
    by_cases hslash : p.text.toList.getLast? = some '/'
    -- a slash at the end is not doubled
    · obtain ⟨front, hfront⟩ : ∃ front, p.text.toList = front ++ ['/'] :=
        ⟨_, (List.dropLast_append_getLast? '/' hslash).symm⟩
      obtain ⟨first, rest, hfirst⟩ := List.exists_cons_of_ne_nil (pieces_ne_nil front)
      have hp : pieces p.text.toList = first :: (rest ++ [[]]) := by
        rw [hfront, pieces_append_slash, hfirst]
        rfl
      have hblank : [[]].filterMap Component.ofPiece? = [] := rfl
      rw [if_pos (by simpa using hslash), components_eq_append hp (Or.inr (by simp)),
        List.filterMap_append, hblank, List.append_nil]
      exact components_eq_of_slash (by simp [String.toList_append, hfront]) hfirst h hne hcurrent
    -- a slash is put in between, behind a piece that says something
    · obtain ⟨first, rest, hfirst⟩ := List.exists_cons_of_ne_nil (pieces_ne_nil p.text.toList)
      have hsaid : first ≠ [] ∨ rest ≠ [] := by
        by_contra hblank
        obtain ⟨hnone, hrest⟩ : first = [] ∧ rest = [] := by simpa [not_or] using hblank
        exact hslash (getLast?_eq_slash hempty (by rw [hfirst, hnone, hrest]; rfl))
      rw [if_neg (by simpa using hslash), components_eq_append hfirst hsaid]
      exact components_eq_of_slash (by simp [String.toList_append]) hfirst h hne hcurrent

/-- A relative path keeps its file name when it is joined to a directory. -/
theorem fileName?_join {p q : Path} {piece : List Char} {more : List (List Char)}
    (h : pieces q.text.toList = piece :: more) (hne : piece ≠ []) (hcurrent : piece ≠ ['.']) :
    (p.join q).fileName? = q.fileName? := by
  have hsome : q.components ≠ [] := by
    rw [components_eq_filterMap h hne hcurrent, ne_eq, List.filterMap_eq_nil_iff]
    intro hnone
    rcases Component.eq_of_ofPiece?_eq_none (hnone piece List.mem_cons_self) with hpiece | hpiece
    · exact hne hpiece
    · exact hcurrent hpiece
  rw [fileName?, fileName?, components_join h hne hcurrent, List.getLast?_append_of_ne_nil _ hsome]

end ClassRegistry.Path
