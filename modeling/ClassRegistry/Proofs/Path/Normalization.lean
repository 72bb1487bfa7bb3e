import ClassRegistry.Proofs.Path.Place

/-!
# Normal forms of paths

A normalised path is read again as the steps that it was written with: the root of an absolute path,
then steps that climb, then proper names. So normalisation leaves no `.`, and no `..` behind a name,
has nothing to do when it is applied again, and keeps the place that is denoted in every working
directory. Paths are cut at the slashes and told by the dots alone, whatever the other characters
are.
-/

namespace ClassRegistry.Path

/-! ## Written steps -/

/-- A step below the root other than a dot is written as one piece, which stands for it. -/
theorem Component.IsBelow.ofPiece?_text {step : Component} (h : step.IsBelow)
    (hne : step ≠ .current) :
    '/' ∉ step.text.toList ∧ step.text.toList ≠ [] ∧ step.text.toList ≠ ['.'] ∧
      ofPiece? step.text.toList = some step := by
  cases h with
  | current => exact absurd rfl hne
  | parent => decide
  | @name text htext =>
      have hempty := mt String.toList_inj.mp htext.ne_empty
      have hcurrent := mt String.toList_inj.mp htext.ne_current
      have hparent := mt String.toList_inj.mp htext.ne_parent
      have hname := ofPiece?_eq_name hempty hcurrent hparent
      rw [String.ofList_toList] at hname
      exact ⟨htext.slash_notMem, hempty, hcurrent, hname⟩

/-- A step that is written behind others is read behind them. -/
theorem components_join_text {p : Path} {step : Component} (h : step.IsBelow)
    (hne : step ≠ .current) : (p.join ⟨step.text⟩).components = p.components ++ [step] := by
  obtain ⟨hslash, hempty, hcurrent, hstep⟩ := h.ofPiece?_text hne
  have hpieces : pieces (Path.mk step.text).text.toList = [step.text.toList] :=
    pieces_eq_singleton hslash
  rw [components_join hpieces hempty hcurrent, components_eq_filterMap hpieces hempty hcurrent,
    List.filterMap_cons_some hstep, List.filterMap_nil]

/-- Steps below the root are read again as they are written, behind the root or on their own. -/
theorem components_ofComponents {p : Path} {steps : List Component}
    (h : ∀ step ∈ steps, step.IsBelow ∧ step ≠ .current) :
    (ofComponents (p.rootSteps ++ steps)).components = p.rootSteps ++ steps := by
  induction steps using List.reverseRecOn with
  | nil =>
      rw [List.append_nil, rootSteps]
      split
      · decide
      · decide
  | append_singleton front step ih =>
      obtain ⟨hstep, hne⟩ := h step (by simp)
      have hjoin : ofComponents (p.rootSteps ++ (front ++ [step])) =
          (ofComponents (p.rootSteps ++ front)).join ⟨step.text⟩ := by
        rw [← List.append_assoc]
        exact List.foldl_concat ..
      rw [hjoin, components_join_text hstep hne,
        ih fun other hother => h other (List.mem_append_left [step] hother), List.append_assoc]

/-- Normal steps are steps below the root, none of them a dot. -/
theorem IsNormal.isBelow {steps : List Component} (h : IsNormal steps) :
    ∀ step ∈ steps, step.IsBelow ∧ step ≠ .current := by
  obtain ⟨up, names, rfl, hnames⟩ := h
  intro step hstep
  rcases List.mem_append.mp hstep with hup | hdown
  · rw [List.eq_of_mem_replicate hup]
    exact ⟨.parent, Component.noConfusion⟩
  · obtain ⟨name, hname, rfl⟩ := List.mem_map.mp hdown
    exact ⟨.name (hnames name hname), Component.noConfusion⟩

/-- The steps of a normalised path are those that it is written with. -/
theorem components_normalize (p : Path) : p.normalize.components = normalizeSteps p.components := by
  obtain ⟨steps, hsteps, hnormal⟩ := p.exists_normalizeSteps
  rw [normalize, hsteps, components_ofComponents hnormal.isBelow]

/-! ## The root -/

/-- Steps below the root start at the root when they stand behind that of an absolute path. -/
theorem head?_rootSteps_append_iff {p : Path} {steps : List Component}
    (h : ∀ step ∈ steps, step.IsBelow) :
    (p.rootSteps ++ steps).head? = some .root ↔ p.isAbsolute = true := by
  rw [rootSteps]
  cases p.isAbsolute with
  | true => simp
  | false =>
      refine iff_of_false (fun hroot => ?_) Bool.false_ne_true
      cases h .root (List.mem_of_head? hroot)

/-- A path is absolute exactly when its first step is that to the root. -/
theorem head?_components_iff (p : Path) :
    p.components.head? = some .root ↔ p.isAbsolute = true := by
  obtain ⟨steps, hcomponents, hbelow⟩ := p.exists_components_eq_append
  rw [hcomponents, head?_rootSteps_append_iff hbelow]

/-- Normalisation keeps the root. -/
theorem isAbsolute_normalize (p : Path) : p.normalize.isAbsolute = p.isAbsolute := by
  obtain ⟨steps, hsteps, hnormal⟩ := p.exists_normalizeSteps
  rw [Bool.eq_iff_iff, ← head?_components_iff, components_normalize, hsteps,
    head?_rootSteps_append_iff fun step hstep => (hnormal.isBelow step hstep).1]

/-! ## Normal steps again -/

/-- Climbing steps stay where no name stands before them. -/
theorem foldl_fold_replicate {done : List Component} (h : ∀ text, done.head? ≠ some (.name text))
    (n : Nat) : (List.replicate n Component.parent).foldl Component.fold done =
      List.replicate n .parent ++ done := by
  induction n with
  | zero => rfl
  | succ n ih =>
      rw [List.replicate_succ', List.foldl_concat, ih, Component.fold_parent_eq_cons,
        ← List.replicate_succ', List.replicate_succ, List.cons_append]
      cases n with
      | zero => exact h
      | succ n => exact fun text hhead => by cases hhead

/-- Names stay. -/
theorem foldl_fold_names (done : List Component) (names : List String) :
    (names.map Component.name).foldl Component.fold done =
      (names.map Component.name).reverse ++ done := by
  induction names generalizing done with
  | nil => rfl
  | cons name rest ih =>
      have hname : Component.fold done (.name name) = .name name :: done := rfl
      rw [List.map_cons, List.foldl_cons, hname, ih, List.reverse_cons, List.append_assoc,
        List.singleton_append]

/-- Normalisation has nothing to do on normal steps behind the root or on their own. -/
theorem normalizeSteps_eq_self {p : Path} {steps : List Component} (h : IsNormal steps) :
    normalizeSteps (p.rootSteps ++ steps) = p.rootSteps ++ steps := by
  obtain ⟨up, names, rfl, -⟩ := h
  have hroot : p.rootSteps.foldl Component.fold [] = p.rootSteps := by
    rw [rootSteps]
    split <;> rfl
  have htop : ∀ text, p.rootSteps.head? ≠ some (.name text) := by
    intro text
    rw [rootSteps]
    split <;> simp
  have hreverse : p.rootSteps.reverse = p.rootSteps := by
    rw [rootSteps]
    split <;> rfl
  rw [normalizeSteps, List.foldl_append, List.foldl_append, hroot, foldl_fold_replicate htop,
    foldl_fold_names, List.reverse_append, List.reverse_append, List.reverse_reverse,
    List.reverse_replicate, hreverse, List.append_assoc]

/-- Normalisation of a normalised path leaves it as it is. -/
theorem normalize_normalize (p : Path) : p.normalize.normalize = p.normalize := by
  obtain ⟨steps, hsteps, hnormal⟩ := p.exists_normalizeSteps
  rw [normalize, components_normalize, hsteps, normalizeSteps_eq_self hnormal, ← hsteps, normalize]

/-! ## The normal form of a path -/

/-- A normalised path denotes the place of the path in every directory. -/
theorem placeFrom_normalize (directory : Address) (p : Path) :
    p.normalize.placeFrom directory = p.placeFrom directory := by
  rw [← foldl_leadStep_components, components_normalize, foldl_leadStep_normalizeSteps,
    foldl_leadStep_components]

/-- The normal form of a path starts at the root if the path does, climbs then, and leads down by
proper names, so no `.` is left and a `..` at the start only. It is its own normal form, and whatever
the working directory is, both lead from it to the same place. -/
theorem normalForm_of_normalize (p : Path) :
    (∃ up names, p.normalize.components = normalSteps p.rootSteps up names ∧
      ∀ name ∈ names, IsEntryName name) ∧
    Component.current ∉ p.normalize.components ∧
    p.normalize.isAbsolute = p.isAbsolute ∧
    p.normalize.normalize = p.normalize ∧
    ∀ (workingDirectory : Path) (directory : Address),
      (workingDirectory.join p.normalize).placeFrom directory =
        (workingDirectory.join p).placeFrom directory := by
  obtain ⟨names, hsteps, hnames⟩ := p.exists_normalizeSteps_eq
  refine ⟨⟨p.climbs, names, ?_, hnames⟩, ?_, p.isAbsolute_normalize, p.normalize_normalize, ?_⟩
  · rw [components_normalize, hsteps]
  · rw [components_normalize]
    exact current_notMem_normalizeSteps p.components
  · intro workingDirectory directory
    rw [placeFrom_join, placeFrom_join, placeFrom_normalize]

example : (Path.mk "./a/../../b//c/.").normalize = ⟨"../b/c"⟩ := by decide

example : (Path.mk "/../a/./b/../c").normalize = ⟨"/../a/c"⟩ := by decide

end ClassRegistry.Path
