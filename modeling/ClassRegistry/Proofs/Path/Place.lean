import ClassRegistry.Proofs.FileTree.Plain
import ClassRegistry.Proofs.Path.FileName
import Mathlib.Data.List.Induction

/-!
# The place that a path denotes

Where the names of a path lead when they are read one after the other and no tree is looked at: a
`..` takes the last name away, and above the root there is nothing. Normalisation does not change
the place, and its steps are those that climb, with the names behind them.
-/

namespace ClassRegistry.Path

open FileTree (startOf)

variable {directory place : Address} {p q : Path}

/-! ## Names -/

/-- The place that a name leads to from another one. -/
def leadName (place : Address) (name : String) : Address :=
  if name = "" ∨ name = "." then place
  else if name = ".." then place.dropLast
  else place ++ [name]

/-- The place that a path denotes when it is read in a directory. -/
def placeFrom (directory : Address) (p : Path) : Address :=
  p.names.foldl leadName (startOf directory p)

/-- Proper names lead to what is below. -/
theorem foldl_leadName_of_isEntryName {names : List String}
    (h : ∀ name ∈ names, IsEntryName name) : names.foldl leadName place = place ++ names := by
  induction names generalizing place with
  | nil => exact (List.append_nil place).symm
  | cons name rest ih =>
      obtain ⟨hname, hrest⟩ := List.forall_mem_cons.mp h
      have hblank : ¬ (name = "" ∨ name = ".") := not_or.mpr ⟨hname.ne_empty, hname.ne_current⟩
      rw [List.foldl_cons, ih hrest, leadName, if_neg hblank, if_neg hname.ne_parent,
        List.append_assoc, List.singleton_append]

/-- Steps up take as many names away. -/
theorem foldl_leadName_replicate (n : Nat) :
    (List.replicate n "..").foldl leadName place = place.take (place.length - n) := by
  induction n generalizing place with
  | zero => simp
  | succ n ih =>
      have hup : leadName place ".." = place.dropLast := rfl
      rw [List.replicate_succ, List.foldl_cons, hup, ih, List.length_dropLast,
        List.dropLast_eq_take, List.take_take]
      congr 1
      omega

/-- A name leads on from a place, to what has this name at a place at least as far down, only if it
is a name of its own and both are the same place. -/
theorem leadName_eq_concat_iff {goal : Address} {name : String}
    (h : place.length ≤ goal.length) :
    leadName place name = goal ++ [name] ↔
      place = goal ∧ name ≠ "" ∧ name ≠ "." ∧ name ≠ ".." := by
  have hsize : (goal ++ [name]).length = goal.length + 1 := by simp
  rw [leadName]
  split
  -- a step that stays or climbs does not come further down
  · rename_i hblank
    constructor
    · intro hreach
      rw [hreach] at h
      omega
    · rintro ⟨-, hempty, hcurrent, -⟩
      exact absurd hblank (not_or.mpr ⟨hempty, hcurrent⟩)
  · rename_i hblank
    split
    · rename_i hup
      constructor
      · intro hreach
        have hdrop : place.dropLast.length = place.length - 1 := List.length_dropLast
        rw [hreach] at hdrop
        omega
      · rintro ⟨-, -, -, hparent⟩
        exact absurd hup hparent
    · rename_i hup
      obtain ⟨hempty, hcurrent⟩ := not_or.mp hblank
      rw [List.append_cancel_right_eq]
      exact ⟨fun hsame => ⟨hsame, hempty, hcurrent, hup⟩, fun hall => hall.1⟩

/-- Names lead to some of what they lead from, with some of the names behind it. -/
theorem exists_foldl_leadName (place : Address) (names : List String) :
    ∃ kept more, names.foldl leadName place = place.take kept ++ more ∧ more ⊆ names := by
  induction names using List.reverseRecOn with
  | nil => exact ⟨place.length, [], by simp, List.Subset.refl []⟩
  | append_singleton front name ih =>
      obtain ⟨kept, more, hfront, hmore⟩ := ih
      rw [List.foldl_concat, hfront, leadName]
      have hsub : more ⊆ front ++ [name] := fun other hother =>
        List.mem_append_left [name] (hmore hother)
      split
      · exact ⟨kept, more, rfl, hsub⟩
      · split
        · by_cases hnone : more = []
          · refine ⟨min (kept - 1) (place.length - 1), [], ?_, List.nil_subset _⟩
            rw [hnone, List.append_nil, List.append_nil, List.dropLast_eq_take, List.take_take,
              List.length_take]
            congr 1
            omega
          · refine ⟨kept, more.dropLast, List.dropLast_append_of_ne_nil hnone, ?_⟩
            exact fun other hother => hsub (List.dropLast_subset more hother)
        · refine ⟨kept, more ++ [name], List.append_assoc .., ?_⟩
          intro other hother
          rw [List.mem_append] at hother ⊢
          exact hother.imp_left fun hmem => hmore hmem

/-- The leading names of a path lead to its place. -/
theorem placeFrom_eq_foldl_leadingNames (directory : Address) (p : Path) :
    p.placeFrom directory = p.leadingNames.foldl leadName (startOf directory p) := by
  rw [placeFrom]
  rcases p.names_eq_leadingNames with hnames | hnames
  · rw [hnames]
  · rw [hnames, List.foldl_concat]
    rfl

/-- A path that is joined to another one is read in the place of this one. -/
theorem placeFrom_join (directory : Address) (p q : Path) :
    (p.join q).placeFrom directory = q.placeFrom (p.placeFrom directory) := by
  cases habsolute : q.isAbsolute with
  | true =>
      have hjoin : p.join q = q := by rw [join, habsolute, Bool.true_or, if_pos rfl]
      rw [hjoin, placeFrom, placeFrom, startOf, startOf, habsolute, if_pos rfl, if_pos rfl]
  | false =>
      have hstart : startOf directory (p.join q) = startOf directory p := by
        rw [startOf, startOf, isAbsolute_join_of_isAbsolute_eq_false habsolute]
      have hnext : ∀ place : Address, startOf place q = place := by
        intro place
        rw [startOf, habsolute, if_neg Bool.false_ne_true]
      rw [placeFrom_eq_foldl_leadingNames directory p, placeFrom, placeFrom, hstart, hnext,
        names_join_of_isAbsolute_eq_false habsolute, List.foldl_append]

/-! ## Components -/

/-- The place that a component leads to from another one. -/
def leadStep (place : Address) : Component → Address
  | .root => []
  | .current => place
  | .parent => place.dropLast
  | .name text => place ++ [text]

/-- A piece leads where the component does that it stands for. -/
theorem foldl_leadStep_ofPiece? (place : Address) (piece : List Char) :
    (Component.ofPiece? piece).toList.foldl leadStep place =
      leadName place (String.ofList piece) := by
  by_cases hempty : piece = []
  · rw [hempty]
    rfl
  · by_cases hcurrent : piece = ['.']
    · rw [hcurrent]
      rfl
    · by_cases hparent : piece = ['.', '.']
      · rw [hparent]
        rfl
      · have hword : ∀ text : String, piece ≠ text.toList → String.ofList piece ≠ text := by
          intro text hne htext
          rw [← htext, String.toList_ofList] at hne
          exact hne rfl
        have hblank : ¬ (String.ofList piece = "" ∨ String.ofList piece = ".") :=
          not_or.mpr ⟨hword "" hempty, hword "." hcurrent⟩
        rw [Component.ofPiece?_eq_name hempty hcurrent hparent, leadName, if_neg hblank,
          if_neg (hword ".." hparent)]
        rfl

/-- Pieces lead where the components do that they stand for. -/
theorem foldl_leadStep_filterMap (place : Address) (list : List (List Char)) :
    (list.filterMap Component.ofPiece?).foldl leadStep place =
      (list.map String.ofList).foldl leadName place := by
  induction list generalizing place with
  | nil => rfl
  | cons piece more ih =>
      have hsplit : (piece :: more).filterMap Component.ofPiece? =
          (Component.ofPiece? piece).toList ++ more.filterMap Component.ofPiece? := by
        cases hpiece : Component.ofPiece? piece with
        | none => rw [List.filterMap_cons_none hpiece]; rfl
        | some step => rw [List.filterMap_cons_some hpiece]; rfl
      rw [hsplit, List.foldl_append, foldl_leadStep_ofPiece?, ih, List.map_cons, List.foldl_cons]

/-- Behind an empty first piece there are others in an absolute path only. -/
theorem isAbsolute_of_pieces_eq_nil_cons {more : List (List Char)} (hne : more ≠ [])
    (h : pieces p.text.toList = [] :: more) : p.isAbsolute = true := by
  rw [isAbsolute]
  cases htext : p.text.toList with
  | nil =>
      rw [htext, pieces] at h
      exact absurd (List.cons.inj h).2.symm hne
  | cons c rest =>
      by_cases hc : c = '/'
      · rw [hc]
        rfl
      · obtain ⟨piece, others, hrest⟩ := List.exists_cons_of_ne_nil (pieces_ne_nil rest)
        rw [htext, pieces, if_neg hc, hrest] at h
        cases h

/-- A path of one empty piece is not absolute. -/
theorem isAbsolute_of_pieces_eq_singleton_nil (h : pieces p.text.toList = [[]]) :
    p.isAbsolute = false := by
  have htext : p.text.toList = [] := by
    rw [← intercalate_pieces p.text.toList, h]
    rfl
  rw [isAbsolute, htext]
  rfl

/-- The components of a path lead to its place. -/
theorem foldl_leadStep_components (directory : Address) (p : Path) :
    p.components.foldl leadStep directory = p.placeFrom directory := by
  obtain ⟨piece, more, hpieces⟩ := List.exists_cons_of_ne_nil (pieces_ne_nil p.text.toList)
  rw [placeFrom, names, hpieces, List.map_cons, List.foldl_cons]
  by_cases hempty : piece = []
  · subst hempty
    by_cases hnone : more = []
    · subst hnone
      have hstart : startOf directory p = directory := by
        rw [startOf, isAbsolute_of_pieces_eq_singleton_nil hpieces, if_neg Bool.false_ne_true]
      rw [components, hpieces, hstart]
      rfl
    · have hstart : startOf directory p = [] := by
        rw [startOf, isAbsolute_of_pieces_eq_nil_cons hnone hpieces, if_pos rfl]
      rw [components_eq_append hpieces (Or.inr hnone), List.foldl_append, foldl_leadStep_filterMap,
        hstart]
      rfl
  · have hstart : startOf directory p = directory := by
      rw [startOf, isAbsolute_of_pieces hpieces hempty, if_neg Bool.false_ne_true]
    have hfirst : (Component.ofFirstPiece piece).foldl leadStep directory =
        leadName directory (String.ofList piece) := by
      unfold Component.ofFirstPiece
      split
      · exact absurd rfl hempty
      · rfl
      · exact foldl_leadStep_ofPiece? directory piece
    rw [components_eq_append hpieces (Or.inl hempty), List.foldl_append, hfirst,
      foldl_leadStep_filterMap, hstart]

/-! ## Normalisation -/

/-- Normalisation of one step more keeps the place. -/
theorem foldl_leadStep_fold (directory : Address) (done : List Component) (step : Component) :
    (Component.fold done step).reverse.foldl leadStep directory =
      leadStep (done.reverse.foldl leadStep directory) step := by
  cases step with
  | root => simp [Component.fold]
  | current => rfl
  | name text => simp [Component.fold]
  | parent =>
      cases done with
      | nil => simp [Component.fold]
      | cons last earlier =>
          cases last with
          | name text => simp [Component.fold, leadStep]
          | root => simp [Component.fold]
          | current => simp [Component.fold]
          | parent => simp [Component.fold]

/-- Normalised steps lead to the same place. -/
theorem foldl_leadStep_normalizeSteps (directory : Address) (steps : List Component) :
    (normalizeSteps steps).foldl leadStep directory = steps.foldl leadStep directory := by
  have hfold : ∀ done : List Component,
      (steps.foldl Component.fold done).reverse.foldl leadStep directory =
        steps.foldl leadStep (done.reverse.foldl leadStep directory) := by
    induction steps with
    | nil => exact fun done => rfl
    | cons step rest ih =>
        intro done
        rw [List.foldl_cons, List.foldl_cons, ih, foldl_leadStep_fold]
  exact hfold []

/-- Steps that climb, with proper names behind them. -/
def IsNormal (steps : List Component) : Prop :=
  ∃ (up : Nat) (names : List String), steps = List.replicate up .parent ++ names.map .name ∧
    ∀ name ∈ names, IsEntryName name

/-- A step other than that to the root. -/
inductive Component.IsBelow : Component → Prop
  | current : IsBelow .current
  | parent : IsBelow .parent
  | name {text : String} : IsEntryName text → IsBelow (.name text)

/-- The step to the root of an absolute path. -/
def rootSteps (p : Path) : List Component :=
  if p.isAbsolute then [.root] else []

/-- Pieces stand for steps other than that to the root. -/
theorem Component.isBelow_of_ofPiece? {piece : List Char} {step : Component}
    (hslash : '/' ∉ piece) (h : Component.ofPiece? piece = some step) : step.IsBelow := by
  by_cases hempty : piece = []
  · rw [hempty] at h
    cases h
  · by_cases hcurrent : piece = ['.']
    · rw [hcurrent] at h
      cases h
    · by_cases hparent : piece = ['.', '.']
      · rw [hparent] at h
        obtain rfl := Option.some.inj h
        exact .parent
      · rw [Component.ofPiece?_eq_name hempty hcurrent hparent] at h
        obtain rfl := Option.some.inj h
        have hword : ∀ text : String, piece ≠ text.toList → String.ofList piece ≠ text := by
          intro text hne htext
          rw [← htext, String.toList_ofList] at hne
          exact hne rfl
        exact .name ⟨hword "" hempty, hword "." hcurrent, hword ".." hparent,
          by rwa [String.toList_ofList]⟩

/-- Behind the step to the root there is no other one. -/
theorem exists_components_eq_append (p : Path) :
    ∃ steps, p.components = p.rootSteps ++ steps ∧ ∀ step ∈ steps, step.IsBelow := by
  obtain ⟨piece, more, hpieces⟩ := List.exists_cons_of_ne_nil (pieces_ne_nil p.text.toList)
  have hslash : ∀ other ∈ piece :: more, '/' ∉ other := fun other hother =>
    slash_notMem_of_mem_pieces (hpieces ▸ hother)
  have hmore : ∀ step ∈ more.filterMap Component.ofPiece?, step.IsBelow := by
    intro step hstep
    obtain ⟨other, hother, hstep⟩ := List.mem_filterMap.mp hstep
    exact Component.isBelow_of_ofPiece? (hslash other (List.mem_cons_of_mem piece hother)) hstep
  by_cases hempty : piece = []
  · subst hempty
    by_cases hnone : more = []
    · subst hnone
      refine ⟨[], ?_, fun step hstep => absurd hstep List.not_mem_nil⟩
      rw [components, hpieces, rootSteps, isAbsolute_of_pieces_eq_singleton_nil hpieces,
        if_neg Bool.false_ne_true]
      rfl
    · refine ⟨_, ?_, hmore⟩
      rw [components_eq_append hpieces (Or.inr hnone), rootSteps,
        isAbsolute_of_pieces_eq_nil_cons hnone hpieces, if_pos rfl]
      rfl
  · have hfirst : ∀ step ∈ Component.ofFirstPiece piece, step.IsBelow := by
      intro step hstep
      unfold Component.ofFirstPiece at hstep
      split at hstep
      · exact absurd rfl hempty
      · obtain rfl := List.mem_singleton.mp hstep
        exact .current
      · exact Component.isBelow_of_ofPiece? (hslash piece List.mem_cons_self)
          (Option.mem_toList.mp hstep)
    refine ⟨Component.ofFirstPiece piece ++ more.filterMap Component.ofPiece?, ?_,
      List.forall_mem_append.mpr ⟨hfirst, hmore⟩⟩
    rw [components_eq_append hpieces (Or.inl hempty), rootSteps,
      isAbsolute_of_pieces hpieces hempty, if_neg Bool.false_ne_true, List.nil_append]

/-- A `..` is kept where no name stands before it. -/
theorem Component.fold_parent_eq_cons {done : List Component}
    (h : ∀ text, done.head? ≠ some (.name text)) :
    Component.fold done .parent = .parent :: done := by
  cases done with
  | nil => rfl
  | cons last earlier =>
      cases last with
      | name text => exact absurd rfl (h text)
      | root => rfl
      | current => rfl
      | parent => rfl

/-- Normalisation of one step more keeps the steps normal. -/
theorem exists_fold {top done : List Component} {step : Component}
    (htop : ∀ text, top.getLast? ≠ some (.name text)) (hstep : step.IsBelow)
    (h : ∃ steps, done.reverse = top ++ steps ∧ IsNormal steps) :
    ∃ steps, (Component.fold done step).reverse = top ++ steps ∧ IsNormal steps := by
  obtain ⟨steps, hdone, up, names, rfl, hnames⟩ := h
  cases hstep with
  | current => exact ⟨_, hdone, up, names, rfl, hnames⟩
  | @name text htext =>
      refine ⟨List.replicate up .parent ++ (names ++ [text]).map .name, ?_, up, names ++ [text],
        rfl, ?_⟩
      · have hfold : Component.fold done (.name text) = .name text :: done := rfl
        rw [hfold, List.reverse_cons, hdone]
        simp
      · intro name hname
        rcases List.mem_append.mp hname with hname | hname
        · exact hnames name hname
        · exact List.mem_singleton.mp hname ▸ htext
  | parent =>
      obtain rfl | ⟨front, last, rfl⟩ := List.eq_nil_or_concat' names
      -- without a name to take back one more step climbs
      · refine ⟨List.replicate (up + 1) .parent, ?_, up + 1, [], (List.append_nil _).symm, hnames⟩
        rw [List.map_nil, List.append_nil] at hdone
        rw [Component.fold_parent_eq_cons, List.reverse_cons, hdone, List.replicate_succ',
          List.append_assoc]
        intro text hhead
        rw [← List.getLast?_reverse, hdone] at hhead
        cases up with
        | zero => exact htop text (by simpa using hhead)
        | succ up =>
            rw [List.replicate_succ', ← List.append_assoc, List.getLast?_concat] at hhead
            cases hhead
      -- the last name is taken back
      · refine ⟨List.replicate up .parent ++ front.map .name, ?_, up, front, rfl,
          fun name hname => hnames name (List.mem_append_left [last] hname)⟩
        have hlast : done = .name last ::
            (top ++ (List.replicate up Component.parent ++ front.map Component.name)).reverse := by
          rw [← List.reverse_reverse done, hdone]
          simp
        rw [hlast, Component.fold, List.reverse_reverse]

/-- Normalised steps climb first, behind the root, and lead down then. -/
theorem exists_normalizeSteps (p : Path) :
    ∃ steps, normalizeSteps p.components = p.rootSteps ++ steps ∧ IsNormal steps := by
  obtain ⟨steps, hcomponents, hsteps⟩ := p.exists_components_eq_append
  have htop : ∀ text, p.rootSteps.getLast? ≠ some (.name text) := by
    intro text
    rw [rootSteps]
    split <;> simp
  have hroot : p.rootSteps.foldl Component.fold [] = p.rootSteps.reverse := by
    rw [rootSteps]
    split <;> rfl
  have hfold : ∀ done : List Component, (∃ steps, done.reverse = p.rootSteps ++ steps ∧
      IsNormal steps) → ∃ normal, (steps.foldl Component.fold done).reverse =
        p.rootSteps ++ normal ∧ IsNormal normal := by
    clear hcomponents
    induction steps with
    | nil => exact fun done h => h
    | cons step rest ih =>
        intro done h
        obtain ⟨hstep, hrest⟩ := List.forall_mem_cons.mp hsteps
        exact ih hrest _ (exists_fold htop hstep h)
  rw [normalizeSteps, hcomponents, List.foldl_append, hroot]
  refine hfold _ ⟨[], ?_, 0, [], rfl, fun name hname => absurd hname List.not_mem_nil⟩
  rw [List.reverse_reverse, List.append_nil]

/-- Steps that climb so many times behind the first ones, and then follow names. -/
def normalSteps (top : List Component) (up : Nat) (names : List String) : List Component :=
  top ++ List.replicate up .parent ++ names.map .name

/-- The number of steps that climb out of where a path starts. -/
def climbs (p : Path) : Nat :=
  (normalizeSteps p.components).count .parent

/-- The steps that climb are counted. -/
theorem exists_normalizeSteps_eq (p : Path) :
    ∃ names, normalizeSteps p.components = normalSteps p.rootSteps p.climbs names ∧
      ∀ name ∈ names, IsEntryName name := by
  obtain ⟨_, hsteps, up, names, rfl, hnames⟩ := p.exists_normalizeSteps
  have hclimbs : p.climbs = up := by
    have hroot : p.rootSteps.count .parent = 0 := by
      rw [rootSteps]
      split <;> rfl
    have hdown : (names.map Component.name).count .parent = 0 := by
      rw [List.count_eq_zero]
      simp
    rw [climbs, hsteps, List.count_append, List.count_append, hroot, hdown,
      List.count_replicate_self, Nat.zero_add, Nat.add_zero]
  exact ⟨names, by rw [hclimbs, hsteps, normalSteps, List.append_assoc], hnames⟩

/-! ## Places of steps -/

/-- Steps up take as many names away. -/
theorem foldl_leadStep_replicate (n : Nat) :
    (List.replicate n Component.parent).foldl leadStep place = place.take (place.length - n) := by
  rw [← foldl_leadName_replicate]
  induction n generalizing place with
  | zero => rfl
  | succ n ih =>
      have hup : leadStep place .parent = leadName place ".." := rfl
      rw [List.replicate_succ, List.foldl_cons, List.replicate_succ, List.foldl_cons, hup, ih]

/-- Names lead to what is below. -/
theorem foldl_leadStep_names (names : List String) :
    (names.map Component.name).foldl leadStep place = place ++ names := by
  induction names generalizing place with
  | nil => exact (List.append_nil place).symm
  | cons name rest ih =>
      rw [List.map_cons, List.foldl_cons, ih, leadStep, List.append_assoc, List.singleton_append]

end ClassRegistry.Path
