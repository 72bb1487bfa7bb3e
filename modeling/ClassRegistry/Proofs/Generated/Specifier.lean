import ClassRegistry.Proofs.Generated.ModuleName
import ClassRegistry.Proofs.Path.Place

/-!
# Where module specifiers lead

A specifier climbs as far as the directory has steps of its own and then follows the steps that the
target has of its own. So it leads to the module of the target when the directory and the target
are taken to start in one place and the names on the way are written as they are. Neither is always
so: a `..` that is left in the directory alone is climbed a second time, a backslash becomes a
slash, and the rule for endings can leave no name.
-/

namespace ClassRegistry.Path

variable {place : Address}

/-! ## Shared steps -/

/-- Steps in common are shared. -/
theorem sharedSteps_append (common source target : List Component) :
    sharedSteps (common ++ source) (common ++ target) =
      common.length + sharedSteps source target := by
  induction common with
  | nil => simp
  | cons step rest ih =>
      rw [List.cons_append, List.cons_append, sharedSteps, if_pos rfl, ih, List.length_cons]
      omega

/-- Nothing is shared by steps of which the first ones differ, if there are any. -/
theorem sharedSteps_eq_zero {source target : List Component}
    (h : ∀ step, source.head? = some step → target.head? ≠ some step) :
    sharedSteps source target = 0 := by
  cases source with
  | nil => rfl
  | cons step rest =>
      cases target with
      | nil => rfl
      | cons other others =>
          have hne : step ≠ other := fun hsame => h step rfl (hsame ▸ rfl)
          rw [sharedSteps, if_neg hne]

/-- Names are shared as far as they are the same. -/
theorem exists_sharedSteps_names (source target : List String) :
    ∃ common more others, source = common ++ more ∧ target = common ++ others ∧
      sharedSteps (source.map .name) (target.map .name) = common.length := by
  induction source generalizing target with
  | nil => exact ⟨[], [], target, rfl, rfl, rfl⟩
  | cons name rest ih =>
      cases target with
      | nil => exact ⟨[], name :: rest, [], rfl, rfl, rfl⟩
      | cons other others =>
          by_cases hsame : name = other
          · obtain ⟨common, more, left, hmore, hleft, hshared⟩ := ih others
            refine ⟨name :: common, more, left, by rw [hmore]; rfl, by rw [hsame, hleft]; rfl, ?_⟩
            rw [List.map_cons, List.map_cons, sharedSteps, if_pos (by rw [hsame]), hshared,
              List.length_cons]
          · refine ⟨[], name :: rest, other :: others, rfl, rfl, sharedSteps_eq_zero ?_⟩
            simpa using Ne.symm hsame

theorem head?_names_ne_parent (names : List String) :
    (names.map Component.name).head? ≠ some .parent := by
  cases names <;> simp

/-- How two lists of normal steps part: one of them may climb on, and then come names. -/
structure Parting (top : List Component) (up other : Nat) (source target : List String) where
  common : List Component
  own : List String
  behind : List String
  source_eq : normalSteps top up source = normalSteps common (up - other) own
  target_eq : normalSteps top other target = normalSteps common (other - up) behind
  shared_eq : sharedSteps (normalSteps top up source) (normalSteps top other target) =
    common.length
  /-- Steps that climb on are behind all steps of the other list that climb. -/
  common_eq : other < up → common = top ++ List.replicate other .parent
  behind_suffix : behind <:+ target

section Parting

variable {top : List Component} {up other : Nat} {source target : List String}

/-- Steps that climb more are steps behind those that climb less. -/
theorem normalSteps_add (top : List Component) (up more : Nat) (names : List String) :
    normalSteps top (up + more) names =
      normalSteps (top ++ List.replicate up .parent) more names := by
  simp only [normalSteps, List.replicate_add, List.append_assoc]

/-- Steps that climb start with one that does. -/
theorem head?_climb {more : Nat} (hmore : more ≠ 0) (names : List String) :
    (List.replicate more Component.parent ++ names.map Component.name).head? = some .parent := by
  obtain ⟨n, rfl⟩ := Nat.exists_eq_succ_of_ne_zero hmore
  rfl

/-- Behind the steps in front that they share, normal steps share what they do without these. -/
theorem sharedSteps_normalSteps (common : List Component) (n m : Nat) (names others : List String) :
    sharedSteps (normalSteps common n names) (normalSteps common m others) = common.length +
      sharedSteps (List.replicate n .parent ++ names.map .name)
        (List.replicate m .parent ++ others.map .name) := by
  rw [normalSteps, normalSteps, List.append_assoc, List.append_assoc, sharedSteps_append]

/-- Two lists of normal steps part somewhere. -/
theorem nonempty_parting (top : List Component) (up other : Nat) (source target : List String) :
    Nonempty (Parting top up other source target) := by
  rcases Nat.lt_trichotomy up other with hless | rfl | hless
  · -- the target climbs on where the names of the source begin
    obtain ⟨more, rfl⟩ := Nat.exists_eq_add_of_le (Nat.le_of_lt hless)
    have hsource : normalSteps top up source =
        normalSteps (top ++ List.replicate up .parent) 0 source := normalSteps_add top up 0 source
    refine ⟨⟨top ++ List.replicate up .parent, source, target, ?_, ?_, ?_, ?_, List.suffix_rfl⟩⟩
    · rw [hsource, Nat.sub_eq_zero_of_le (Nat.le_add_right up more)]
    · rw [normalSteps_add, Nat.add_sub_cancel_left]
    · rw [hsource, normalSteps_add, sharedSteps_normalSteps, sharedSteps_eq_zero, Nat.add_zero]
      intro step hstep
      rw [head?_climb (by omega : more ≠ 0)]
      rintro ⟨⟩
      exact head?_names_ne_parent source hstep
    · exact fun h => absurd h (by omega)
  · -- both climb as far, so they part among the names
    obtain ⟨common, own, behind, rfl, rfl, hshared⟩ := exists_sharedSteps_names source target
    have hsplit : ∀ names : List String, normalSteps top up (common ++ names) =
        normalSteps (top ++ List.replicate up .parent ++ common.map .name) (up - up) names := by
      intro names
      simp [normalSteps]
    refine ⟨⟨top ++ List.replicate up .parent ++ common.map .name, own, behind, hsplit own,
      hsplit behind, ?_, fun h => absurd h (Nat.lt_irrefl up), List.suffix_append common behind⟩⟩
    rw [normalSteps, normalSteps, sharedSteps_append, hshared]
    simp [Nat.add_assoc]
  · -- the source climbs on where the names of the target begin
    obtain ⟨more, rfl⟩ := Nat.exists_eq_add_of_le (Nat.le_of_lt hless)
    have htarget : normalSteps top other target =
        normalSteps (top ++ List.replicate other .parent) 0 target :=
      normalSteps_add top other 0 target
    refine ⟨⟨top ++ List.replicate other .parent, source, target, ?_, ?_, ?_, fun _ => rfl,
      List.suffix_rfl⟩⟩
    · rw [normalSteps_add, Nat.add_sub_cancel_left]
    · rw [htarget, Nat.sub_eq_zero_of_le (Nat.le_add_right other more)]
    · rw [htarget, normalSteps_add, sharedSteps_normalSteps, sharedSteps_eq_zero, Nat.add_zero]
      intro step hstep
      rw [head?_climb (by omega : more ≠ 0)] at hstep
      obtain rfl := Option.some.inj hstep
      exact head?_names_ne_parent target

/-- The number of steps that climb from one of two lists to the other one. -/
def Parting.ups (h : Parting top up other source target) : Nat :=
  up - other + h.own.length + (other - up)

/-- The way between two lists of steps climbs from the own steps of one and follows those of the
other one. -/
theorem Parting.stepsBetween_eq (h : Parting top up other source target) :
    stepsBetween (normalSteps top up source) (normalSteps top other target) =
      normalSteps [] h.ups h.behind := by
  have hown : (normalSteps top up source).length - h.common.length =
      up - other + h.own.length := by
    rw [h.source_eq]
    simp [normalSteps]
  rw [stepsBetween, h.shared_eq, hown, h.target_eq, normalSteps, normalSteps, ups, List.nil_append,
    List.append_assoc, List.drop_left, ← List.append_assoc, ← List.replicate_add]

end Parting

/-! ## The text of a way -/

/-- Steps are written with slashes between them. -/
theorem names_ofComponents {steps : List Component} (hne : steps ≠ [])
    (h : ∀ step ∈ steps, step.text ≠ "" ∧ '/' ∉ step.text.toList) :
    (ofComponents steps).names = steps.map Component.text := by
  induction steps using List.reverseRecOn with
  | nil => exact absurd rfl hne
  | append_singleton front step ih =>
      obtain ⟨-, hslash⟩ := h step (by simp)
      have hjoin : ofComponents (front ++ [step]) = (ofComponents front).join ⟨step.text⟩ :=
        List.foldl_concat ..
      have hfront : (ofComponents front).leadingNames = front.map Component.text := by
        obtain rfl | ⟨before, last, rfl⟩ := List.eq_nil_or_concat' front
        · rfl
        · have hbefore := ih (by simp) fun other hother => h other (List.mem_append_left _ hother)
          obtain ⟨hlast, -⟩ := h last (by simp)
          have hend : (ofComponents (before ++ [last])).names.getLast? ≠ some "" := by
            rw [hbefore, List.map_append, List.map_singleton, List.getLast?_concat]
            exact fun heq => hlast (Option.some.inj heq)
          rw [leadingNames, if_neg hend, hbefore]
      rw [hjoin, names_join hslash, hfront, List.map_append, List.map_singleton]

/-- The text of steps has slashes between them. -/
theorem text_ofComponents {steps : List Component}
    (h : ∀ step ∈ steps, step.text ≠ "" ∧ '/' ∉ step.text.toList) :
    (ofComponents steps).text = "/".intercalate (steps.map Component.text) := by
  by_cases hne : steps = []
  · rw [hne]
    rfl
  · rw [← intercalate_names, names_ofComponents hne h]

/-- A text with slashes in the place of backslashes. -/
def slashed (text : String) : String :=
  String.ofList (text.toList.map fun c => if c = '\\' then '/' else c)

theorem slashed_append_slash (front back : String) :
    slashed (front ++ "/" ++ back) = slashed front ++ "/" ++ slashed back := by
  rw [← String.toList_inj]
  simp [slashed, String.toList_append]

/-- A text without backslashes stays. -/
theorem slashed_eq_self {text : String} (h : '\\' ∉ text.toList) : slashed text = text := by
  have hsame : text.toList.map (fun c => if c = '\\' then '/' else c) = text.toList.map id := by
    refine List.map_congr_left fun c hc => if_neg ?_
    rintro rfl
    exact h hc
  rw [slashed, hsame, List.map_id, String.ofList_toList]

/-- No backslash is left. -/
theorem backslash_notMem_slashed (text : String) : '\\' ∉ (slashed text).toList := by
  rw [slashed, String.toList_ofList, List.mem_map]
  rintro ⟨c, -, hc⟩
  split at hc
  · cases hc
  · rename_i hne
    exact hne hc

/-- What is written for a way: with slashes throughout, and ended as a module is named. -/
def written (texts : List String) : String :=
  withoutScriptEnding (slashed ("/".intercalate texts))

/-- The names that are written for a way: those that the texts fall into, the last of them ended as
a module is named. -/
theorem names_written (front : List String) (last : String) :
    (Path.mk (written (front ++ [last]))).names =
      front.flatMap (fun text => (Path.mk (slashed text)).names) ++
        (Path.mk (withoutScriptEnding (slashed last))).names := by
  induction front with
  | nil =>
      rw [List.nil_append, List.flatMap_nil, List.nil_append, written,
        String.intercalate_singleton]
  | cons text rest ih =>
      obtain ⟨next, more, hnext⟩ := List.exists_cons_of_ne_nil (List.concat_ne_nil last rest)
      have hcons : written (text :: (rest ++ [last])) =
          slashed text ++ "/" ++ written (rest ++ [last]) := by
        rw [written, hnext, String.intercalate_cons_cons, slashed_append_slash,
          withoutScriptEnding_append_slash, written]
      have hchars : (slashed text ++ "/" ++ written (rest ++ [last])).toList =
          (slashed text).toList ++ '/' :: (written (rest ++ [last])).toList := by
        simp [String.toList_append]
      have hnames : ∀ word : String,
          (Path.mk word).names = (pieces word.toList).map String.ofList := fun _ => rfl
      rw [List.cons_append, hcons, hnames, hchars, pieces_append_slash, List.map_append, ← hnames,
        ← hnames, ih, List.flatMap_cons, List.append_assoc]

/-- A text without slashes and backslashes is its only name. -/
theorem names_slashed {text : String} (hslash : '/' ∉ text.toList) (hback : '\\' ∉ text.toList) :
    (Path.mk (slashed text)).names = [text] := by
  rw [slashed_eq_self hback, names_eq_singleton hslash]

/-- The characters of a name are in the text. -/
theorem mem_of_mem_names {text name : String} (h : name ∈ (Path.mk text).names) {c : Char}
    (hc : c ∈ name.toList) : c ∈ text.toList := by
  obtain ⟨piece, hpiece, rfl⟩ := List.mem_map.mp h
  rw [String.toList_ofList] at hc
  exact mem_of_mem_pieces hpiece hc

/-- No backslash is left in the names that are written. -/
theorem backslash_notMem_of_mem_written {texts : List String} {name : String}
    (h : name ∈ (Path.mk (written texts)).names) : '\\' ∉ name.toList := by
  intro hback
  have hmem : '\\' ∈ (written texts).toList := mem_of_mem_names h hback
  have hmodule : IsModuleName (slashed ("/".intercalate texts)) (written texts) :=
    isModuleName_withoutScriptEnding _
  exact backslash_notMem_slashed _ ((hmodule.mem_iff (by decide)).mp hmem)

/-- A text with a `./` before it, unless it starts with `../`. -/
def dotted (text : String) : String :=
  if "../".toList.isPrefixOf text.toList then text else "./" ++ text

/-- It starts with `./` or with `../`. -/
theorem dotted_prefix (text : String) :
    "./".toList <+: (dotted text).toList ∨ "../".toList <+: (dotted text).toList := by
  rw [dotted]
  split
  · rename_i hup
    exact Or.inr (List.isPrefixOf_iff_prefix.mp hup)
  · left
    rw [String.toList_append]
    exact List.prefix_append _ _

/-- The names of the text lead on from a directory: a `./` before them says nothing. -/
theorem placeFrom_dotted (text : String) (directory : Address) :
    (Path.mk (dotted text)).placeFrom directory =
      (Path.mk text).names.foldl leadName directory := by
  rw [dotted]
  split
  · rename_i hup
    obtain ⟨rest, hrest⟩ := List.isPrefixOf_iff_prefix.mp hup
    have hstart : FileTree.startOf directory ⟨text⟩ = directory := by
      rw [FileTree.startOf, isAbsolute, ← hrest]
      rfl
    rw [placeFrom, hstart]
  · have hchars : ("./" ++ text).toList = ['.'] ++ '/' :: text.toList := by
      simp [String.toList_append]
    have hstart : FileTree.startOf directory ⟨"./" ++ text⟩ = directory := by
      rw [FileTree.startOf, isAbsolute, hchars]
      rfl
    rw [placeFrom, hstart, names, hchars, pieces_append_slash]
    rfl

/-! ## Where a way leads -/

/-- The place of the module of what is at a place. -/
def asModule (place : Address) : Address :=
  match place.getLast? with
  | none => []
  | some last => place.dropLast ++ [withoutScriptEnding last]

/-- The module is named for the last name. -/
theorem asModule_concat (front : Address) (last : String) :
    asModule (front ++ [last]) = front ++ [withoutScriptEnding last] := by
  rw [asModule, List.getLast?_concat]
  simp only [List.dropLast_concat]

/-- A module is as far from the root as its file. -/
theorem length_asModule (place : Address) : (asModule place).length = place.length := by
  obtain rfl | ⟨front, last, rfl⟩ := List.eq_nil_or_concat' place
  · rfl
  · rw [asModule_concat]
    simp

/-- Climbing steps are written as they are. -/
theorem flatMap_replicate_up (n : Nat) :
    (List.replicate n "..").flatMap (fun text => (Path.mk (slashed text)).names) =
      List.replicate n ".." := by
  have hup : (Path.mk (slashed "..")).names = [".."] := names_slashed (by decide) (by decide)
  induction n with
  | zero => rfl
  | succ n ih => rw [List.replicate_succ, List.flatMap_cons, ih, hup, List.singleton_append]

/-- A way that only climbs leads up. -/
theorem foldl_leadName_written_replicate (place : Address) (n : Nat) :
    (Path.mk (written (List.replicate n ".."))).names.foldl leadName place =
      place.take (place.length - n) := by
  cases n with
  | zero =>
      have hnone : (Path.mk (written (List.replicate 0 ".."))).names = [""] := by decide
      rw [hnone, Nat.sub_zero, List.take_length]
      rfl
  | succ n =>
      have hup : (Path.mk (withoutScriptEnding (slashed ".."))).names = [".."] := by decide
      rw [List.replicate_succ', names_written, flatMap_replicate_up, hup, ← List.replicate_succ',
        foldl_leadName_replicate]

/-- A way with names leads up first and then where the names lead as they are written. -/
theorem foldl_leadName_written_concat (place : Address) (n : Nat) (front : List String)
    (last : String) :
    (Path.mk (written (List.replicate n ".." ++ (front ++ [last])))).names.foldl leadName place =
      (Path.mk (written (front ++ [last]))).names.foldl leadName
        (place.take (place.length - n)) := by
  rw [← List.append_assoc, names_written, names_written, List.flatMap_append,
    flatMap_replicate_up, List.append_assoc, List.foldl_append, foldl_leadName_replicate]

/-- Names without a backslash lead to the module that the last one of them names, when there is a
name left of it. -/
theorem foldl_leadName_written_of_plain {front : List String} {last : String}
    (hnames : ∀ name ∈ front ++ [last], IsEntryName name)
    (hback : ∀ name ∈ front ++ [last], '\\' ∉ name.toList) :
    (Path.mk (written (front ++ [last]))).names.foldl leadName place =
      leadName (place ++ front) (withoutScriptEnding last) := by
  have hfront : front.flatMap (fun text => (Path.mk (slashed text)).names) = front := by
    have hsame : ∀ name ∈ front, (Path.mk (slashed name)).names = [name] := fun name hname =>
      names_slashed (hnames name (List.mem_append_left _ hname)).slash_notMem
        (hback name (List.mem_append_left _ hname))
    rw [List.flatMap_congr hsame, List.flatMap_singleton']
  have hmodule := (isModuleName_withoutScriptEnding last).mem_iff (c := '/') (by decide)
  have hslash := (hnames last (by simp)).slash_notMem
  have hproper : ∀ name ∈ front, IsEntryName name := fun name hname =>
    hnames name (List.mem_append_left _ hname)
  rw [names_written, hfront, slashed_eq_self (hback last (by simp)),
    names_eq_singleton (fun hmem => hslash (hmodule.mp hmem)), List.foldl_concat,
    foldl_leadName_of_isEntryName hproper]

/-- A name of its own is left of the module. -/
def IsModuleFor (last : String) : Prop :=
  withoutScriptEnding last ≠ "" ∧ withoutScriptEnding last ≠ "." ∧ withoutScriptEnding last ≠ ".."

/-- What is written leads to names behind a place at least as far down only if they have no
backslash: nothing with a backslash is written. -/
theorem backslash_notMem_of_foldl_written {start goal : Address} {front : List String}
    {last : String} (h : start.length ≤ goal.length)
    (hreach : (Path.mk (written (front ++ [last]))).names.foldl leadName start =
      goal ++ (front ++ [withoutScriptEnding last])) :
    ∀ name ∈ front ++ [last], '\\' ∉ name.toList := by
  intro name hname hmem
  obtain ⟨other, hother, hslash⟩ :
      ∃ other ∈ front ++ [withoutScriptEnding last], '\\' ∈ other.toList := by
    rcases List.mem_append.mp hname with hfront | hlast
    · exact ⟨name, List.mem_append_left _ hfront, hmem⟩
    · rw [List.mem_singleton.mp hlast] at hmem
      have hmodule := isModuleName_withoutScriptEnding last
      exact ⟨_, by simp, (hmodule.mem_iff (by decide)).mpr hmem⟩
  obtain ⟨kept, more, hfold, hmore⟩ :=
    exists_foldl_leadName start (Path.mk (written (front ++ [last]))).names
  have hshort : (start.take kept).length ≤ goal.length := by
    rw [List.length_take]
    omega
  have hbehind := congrArg (List.drop goal.length) (hfold.symm.trans hreach)
  rw [List.drop_left, List.drop_append, List.drop_eq_nil_of_le hshort, List.nil_append] at hbehind
  rw [← hbehind] at hother
  exact backslash_notMem_of_mem_written (hmore (List.mem_of_mem_drop hother)) hslash

/-- A place that is above another one, or this one itself, is followed by names to the module of
what the names lead to from the other one only if both are the same place, no name has a backslash,
and the module has a name. -/
theorem foldl_leadName_written_eq_iff {start goal : Address} (hwithin : start <+: goal)
    {front : List String} {last : String} (hnames : ∀ name ∈ front ++ [last], IsEntryName name) :
    (Path.mk (written (front ++ [last]))).names.foldl leadName start =
        asModule (goal ++ (front ++ [last])) ↔
      start = goal ∧ (∀ name ∈ front ++ [last], '\\' ∉ name.toList) ∧ IsModuleFor last := by
  have hmodule : asModule (goal ++ (front ++ [last])) =
      goal ++ (front ++ [withoutScriptEnding last]) := by
    rw [← List.append_assoc, asModule_concat, List.append_assoc]
  have hplain : (∀ name ∈ front ++ [last], '\\' ∉ name.toList) →
      ((Path.mk (written (front ++ [last]))).names.foldl leadName start =
        goal ++ (front ++ [withoutScriptEnding last]) ↔ start = goal ∧ IsModuleFor last) := by
    intro hback
    have hlength : (start ++ front).length ≤ (goal ++ front).length := by
      simpa using hwithin.length_le
    rw [foldl_leadName_written_of_plain hnames hback, ← List.append_assoc,
      leadName_eq_concat_iff hlength, List.append_cancel_right_eq, IsModuleFor]
  rw [hmodule]
  constructor
  · intro hreach
    have hback := backslash_notMem_of_foldl_written hwithin.length_le hreach
    obtain ⟨hsame, hleft⟩ := (hplain hback).mp hreach
    exact ⟨hsame, hback, hleft⟩
  · rintro ⟨hsame, hback, hleft⟩
    exact (hplain hback).mpr ⟨hsame, hleft⟩

/-- A place that is above another one, or this one itself, is the module of what is there only if
both are the same place, and this is its own module. -/
theorem eq_asModule_iff {start goal : Address} (hwithin : start <+: goal) :
    start = asModule goal ↔ start = goal ∧ asModule goal = goal := by
  constructor
  · intro hsame
    have hsize : start.length = goal.length := by rw [hsame, length_asModule]
    have hstart := hwithin.eq_of_length hsize
    exact ⟨hstart, hsame.symm.trans hstart⟩
  · rintro ⟨rfl, hgoal⟩
    exact hgoal.symm

/-! ## Both places -/

section Places

variable {top : List Component} {up other : Nat} {source target : List String}

/-- Normal steps lead up first and down then. -/
theorem foldl_leadStep_normalSteps (here : Address) (top : List Component) (up : Nat)
    (names : List String) : (normalSteps top up names).foldl leadStep here =
      (top.foldl leadStep here).take ((top.foldl leadStep here).length - up) ++ names := by
  rw [normalSteps, List.foldl_append, List.foldl_append, foldl_leadStep_replicate,
    foldl_leadStep_names]

/-- Where two lists of steps lead, seen from where they part: the way between them climbs from the
place of the one to a start, and the names behind lead to the place of the other one from a goal
that is at or below this start. -/
theorem Parting.exists_goal (h : Parting top up other source target) (here : Address)
    {origin start : Address} (horigin : (normalSteps top up source).foldl leadStep here = origin)
    (hstart : origin.take (origin.length - h.ups) = start) :
    ∃ goal : Address,
      (normalSteps top other target).foldl leadStep here = goal ++ h.behind ∧ start <+: goal ∧
      (start = goal ↔ up ≤ other ∨ (top.foldl leadStep here).length ≤ other) := by
  -- where the two lists part
  obtain ⟨place, hplace⟩ : ∃ place, place = h.common.foldl leadStep here := ⟨_, rfl⟩
  have hstart : start =
      place.take (place.length - (up - other) - (up - other) - (other - up)) := by
    rw [← hstart, ← horigin, h.source_eq, foldl_leadStep_normalSteps, ← hplace,
      List.take_append_of_le_length, List.take_take]
    · congr 1
      simp only [List.length_append, List.length_take, Parting.ups]
      omega
    · simp only [List.length_append, List.length_take, Parting.ups]
      omega
  refine ⟨place.take (place.length - (other - up)), ?_, ?_, ?_⟩
  · rw [h.target_eq, foldl_leadStep_normalSteps, ← hplace]
  · rw [hstart]
    exact List.take_prefix_take_left (by omega)
  · have hsame : start = place.take (place.length - (other - up)) ↔
        up ≤ other ∨ place.length = 0 := by
      rw [hstart, List.take_eq_take_iff]
      omega
    rw [hsame]
    -- steps that climb further stay at the root from there on
    by_cases hup : up ≤ other
    · simp [hup]
    · have hlength : place.length = (top.foldl leadStep here).length - other := by
        rw [hplace, h.common_eq (by omega), List.foldl_append, foldl_leadStep_replicate,
          List.length_take]
        omega
      simp only [hup, false_or, hlength]
      omega

end Places

/-! ## Specifiers -/

section Specifier

variable {workingDirectory directory target p : Path}

/-- A path that is not empty is made absolute without a change of its place. -/
theorem absolute_spec (hworking : workingDirectory.isAbsolute = true) (hne : p.text ≠ "") :
    (p.absolute workingDirectory).isAbsolute = true ∧
      (p.absolute workingDirectory).placeFrom (workingDirectory.placeFrom []) =
        p.placeFrom (workingDirectory.placeFrom []) := by
  have hempty : p.text.isEmpty = false := by
    rw [← Bool.not_eq_true, String.isEmpty_iff]
    exact hne
  rw [absolute, hempty, Bool.false_or]
  cases habsolute : p.isAbsolute with
  | true =>
      rw [if_pos rfl]
      exact ⟨habsolute, rfl⟩
  | false =>
      have hhere : workingDirectory.placeFrom (workingDirectory.placeFrom []) =
          workingDirectory.placeFrom [] := by
        rw [placeFrom, placeFrom, FileTree.startOf, FileTree.startOf, hworking, if_pos rfl,
          if_pos rfl]
      rw [if_neg Bool.false_ne_true, isAbsolute_join_of_isAbsolute_eq_false habsolute,
        placeFrom_join, hhere]
      exact ⟨hworking, rfl⟩

/-- The steps that are compared are those of two paths which both start at the root or both in the
working directory, and denote the places of the directory and of the target. -/
theorem exists_comparableSteps (hworking : workingDirectory.isAbsolute = true)
    (hsame : directory.isAbsolute = target.isAbsolute ∨ directory.text ≠ "" ∧ target.text ≠ "") :
    ∃ p q : Path, comparableSteps workingDirectory directory target =
        (normalizeSteps p.components, normalizeSteps q.components) ∧
      p.isAbsolute = q.isAbsolute ∧
      p.placeFrom (workingDirectory.placeFrom []) =
        directory.placeFrom (workingDirectory.placeFrom []) ∧
      q.placeFrom (workingDirectory.placeFrom []) =
        target.placeFrom (workingDirectory.placeFrom []) ∧
      ((p.isAbsolute = true ∧ (directory.isAbsolute = true ∨ target.isAbsolute = true)) ∨
        (p = directory ∧ q = target)) := by
  by_cases hkind : directory.isAbsolute = target.isAbsolute
  · exact ⟨directory, target, by rw [comparableSteps, if_pos hkind], hkind, rfl, rfl,
      Or.inr ⟨rfl, rfl⟩⟩
  · obtain ⟨hdirectory, htarget⟩ := hsame.resolve_left hkind
    obtain ⟨hfirst, hplace⟩ := absolute_spec hworking hdirectory
    obtain ⟨hsecond, hgoal⟩ := absolute_spec hworking htarget
    refine ⟨directory.absolute workingDirectory, target.absolute workingDirectory,
      by rw [comparableSteps, if_neg hkind], by rw [hfirst, hsecond], hplace, hgoal,
      Or.inl ⟨hfirst, ?_⟩⟩
    rcases hdirectoryKind : directory.isAbsolute with _ | _
    · right
      rw [hdirectoryKind] at hkind
      simpa using Ne.symm hkind
    · exact Or.inl rfl

/-- The directory and the target are taken to start in one place: one of the paths is absolute, or
the directory climbs no further than the target, or the target climbs to the root. -/
def StartsTogether (workingDirectory directory target : Path) : Prop :=
  directory.isAbsolute = true ∨ target.isAbsolute = true ∨ directory.climbs ≤ target.climbs ∨
    (workingDirectory.placeFrom []).length ≤ target.climbs

/-- The name that a step leads down to. -/
def Component.down? : Component → Option String
  | .name text => some text
  | _ => none

/-- The names that a target has of its own, behind the steps that it shares with a directory. -/
def namesBehind (workingDirectory directory target : Path) : List String :=
  let (source, goal) := comparableSteps workingDirectory directory target
  (goal.drop (sharedSteps source goal)).filterMap Component.down?

/-- The names that a target has of its own are written as they are, and a name is left of the
module. A target without names of its own is where its module is. -/
structure EndsAsModule (workingDirectory directory target : Path) : Prop where
  asModule_eq : namesBehind workingDirectory directory target = [] →
    asModule (target.placeFrom (workingDirectory.placeFrom [])) =
      target.placeFrom (workingDirectory.placeFrom [])
  backslash_notMem : ∀ name ∈ namesBehind workingDirectory directory target,
    '\\' ∉ name.toList
  isModuleFor : ∀ last ∈ (namesBehind workingDirectory directory target).getLast?,
    IsModuleFor last

/-- A specifier is written for the way between the steps that are compared. -/
theorem specifier_eq (workingDirectory directory target : Path) :
    specifier workingDirectory directory target =
      dotted (withoutScriptEnding (slashed (ofComponents (stepsBetween
        (comparableSteps workingDirectory directory target).1
        (comparableSteps workingDirectory directory target).2)).text)) := by
  rw [specifier]
  rfl

/-- The text of climbing steps and of names behind them. -/
theorem text_ofComponents_normalSteps (n : Nat) {names : List String}
    (hnames : ∀ name ∈ names, IsEntryName name) :
    (ofComponents (normalSteps [] n names)).text =
      "/".intercalate (List.replicate n ".." ++ names) := by
  have htexts : (normalSteps [] n names).map Component.text = List.replicate n ".." ++ names := by
    simp [normalSteps, Component.text, Function.comp_def]
  rw [text_ofComponents, htexts]
  intro step hstep
  rw [normalSteps, List.nil_append] at hstep
  rcases List.mem_append.mp hstep with hup | hdown
  · rw [List.eq_of_mem_replicate hup]
    exact ⟨by decide, by decide⟩
  · obtain ⟨name, hname, rfl⟩ := List.mem_map.mp hdown
    exact ⟨(hnames name hname).ne_empty, (hnames name hname).slash_notMem⟩

/-- The names behind are those of the target that the way follows. -/
theorem Parting.namesBehind_eq {top : List Component} {up other : Nat} {source names : List String}
    (h : Parting top up other source names)
    (hsteps : comparableSteps workingDirectory directory target =
      (normalSteps top up source, normalSteps top other names)) :
    namesBehind workingDirectory directory target = h.behind := by
  have hclimb : ∀ n : Nat, (List.replicate n Component.parent).filterMap Component.down? = [] := by
    intro n
    rw [List.filterMap_eq_nil_iff]
    intro step hstep
    rw [List.eq_of_mem_replicate hstep]
    rfl
  have hnames : ∀ names : List String,
      (names.map Component.name).filterMap Component.down? = names := by
    intro names
    rw [List.filterMap_map]
    exact List.filterMap_some
  rw [namesBehind, hsteps]
  simp only
  rw [h.shared_eq, h.target_eq, normalSteps, List.append_assoc, List.drop_left,
    List.filterMap_append, hclimb, hnames, List.nil_append]

/-- A target without names of its own has to be where its module is. -/
theorem endsAsModule_iff_of_eq_nil (h : namesBehind workingDirectory directory target = []) :
    EndsAsModule workingDirectory directory target ↔
      asModule (target.placeFrom (workingDirectory.placeFrom [])) =
        target.placeFrom (workingDirectory.placeFrom []) :=
  ⟨fun hends => hends.asModule_eq h, fun hmodule => ⟨fun _ => hmodule, by simp [h], by simp [h]⟩⟩

/-- The names of its own that a target has are free of backslashes, and the last one names a
module. -/
theorem endsAsModule_iff_of_eq_concat {front : List String} {last : String}
    (h : namesBehind workingDirectory directory target = front ++ [last]) :
    EndsAsModule workingDirectory directory target ↔
      (∀ name ∈ front ++ [last], '\\' ∉ name.toList) ∧ IsModuleFor last := by
  constructor
  · intro hends
    have hback := hends.backslash_notMem
    rw [h] at hback
    exact ⟨hback, hends.isModuleFor last (by rw [h, List.getLast?_concat]; exact rfl)⟩
  · rintro ⟨hback, hmodule⟩
    refine ⟨fun hnone => absurd (h.symm.trans hnone) (by simp), by rwa [h], ?_⟩
    rw [h, List.getLast?_concat]
    rintro _ ⟨⟩
    exact hmodule

/-- The specifier for a file, read in the place of a directory, leads to the place of the module of
the file exactly when the directory and the file are taken to start in one place and the names of
the file are written so that they name the module. -/
theorem specifier_reaches_iff (hworking : workingDirectory.isAbsolute = true)
    (hsame : directory.isAbsolute = target.isAbsolute ∨ directory.text ≠ "" ∧ target.text ≠ "") :
    (Path.mk (specifier workingDirectory directory target)).placeFrom
        (directory.placeFrom (workingDirectory.placeFrom [])) =
      asModule (target.placeFrom (workingDirectory.placeFrom [])) ↔
    StartsTogether workingDirectory directory target ∧
      EndsAsModule workingDirectory directory target := by
  obtain ⟨here, hhere⟩ : ∃ here, here = workingDirectory.placeFrom [] := ⟨_, rfl⟩
  obtain ⟨p, q, hsteps, hkind, hplace, hgoal, hcases⟩ := exists_comparableSteps hworking hsame
  obtain ⟨source, hsource, -⟩ := p.exists_normalizeSteps_eq
  obtain ⟨names, htarget, hnames⟩ := q.exists_normalizeSteps_eq
  have hroot : q.rootSteps = p.rootSteps := by rw [rootSteps, rootSteps, hkind]
  rw [hsource, htarget, hroot] at hsteps
  obtain ⟨h⟩ := nonempty_parting p.rootSteps p.climbs q.climbs source names
  -- where the way starts, and where the target is
  rw [← hhere, ← foldl_leadStep_components, ← foldl_leadStep_normalizeSteps, hsource] at hplace
  rw [← hhere, ← foldl_leadStep_components, ← foldl_leadStep_normalizeSteps, htarget, hroot]
    at hgoal
  obtain ⟨goal, hbehind, hwithin, hstart⟩ := h.exists_goal here hplace rfl
  rw [hgoal] at hbehind
  have htogether : StartsTogether workingDirectory directory target ↔
      (directory.placeFrom here).take ((directory.placeFrom here).length - h.ups) = goal := by
    rw [hstart, StartsTogether, ← hhere, rootSteps]
    rcases hcases with ⟨habsolute, hone⟩ | ⟨rfl, rfl⟩
    · rw [habsolute, if_pos rfl, ← or_assoc]
      exact ⟨fun _ => Or.inr (Nat.zero_le _), fun _ => Or.inl hone⟩
    · rw [hkind]
      cases q.isAbsolute with
      | true => exact ⟨fun _ => Or.inr (Nat.zero_le _), fun _ => Or.inl rfl⟩
      | false => simp
  have hproper : ∀ name ∈ h.behind, IsEntryName name := fun name hname =>
    hnames name (h.behind_suffix.subset hname)
  have hwritten : ∀ texts : List String,
      withoutScriptEnding (slashed ("/".intercalate texts)) = written texts := fun _ => rfl
  rw [htogether, specifier_eq, hsteps, h.stepsBetween_eq, text_ofComponents_normalSteps _ hproper,
    hwritten, placeFrom_dotted, ← hhere, hbehind]
  have hown := h.namesBehind_eq hsteps
  obtain hnone | ⟨front, last, hlast⟩ := List.eq_nil_or_concat' h.behind
  · rw [endsAsModule_iff_of_eq_nil (hown.trans hnone), ← hhere, hbehind, hnone, List.append_nil,
      List.append_nil, foldl_leadName_written_replicate, eq_asModule_iff hwithin]
  · rw [hlast] at hproper
    rw [endsAsModule_iff_of_eq_concat (hown.trans hlast), hlast, foldl_leadName_written_concat,
      foldl_leadName_written_eq_iff hwithin hproper]

/-- A specifier starts with `./` or with `../`, and the rule for endings gives the name of a module.
Read in the place of the directory, the specifier leads to the place of the module of the target
exactly when the directory and the target are taken to start in one place and the names of the
target are written so that they name the module. -/
theorem place_of_specifier (workingDirectory directory target : Path)
    (hworking : workingDirectory.isAbsolute = true)
    (hsame : directory.isAbsolute = target.isAbsolute ∨ directory.text ≠ "" ∧ target.text ≠ "") :
    ("./".toList <+: (specifier workingDirectory directory target).toList ∨
      "../".toList <+: (specifier workingDirectory directory target).toList) ∧
    (∀ name, IsModuleName name (withoutScriptEnding name)) ∧
    ((Path.mk (specifier workingDirectory directory target)).placeFrom
        (directory.placeFrom (workingDirectory.placeFrom [])) =
      asModule (target.placeFrom (workingDirectory.placeFrom [])) ↔
    StartsTogether workingDirectory directory target ∧
      EndsAsModule workingDirectory directory target) := by
  refine ⟨?_, isModuleName_withoutScriptEnding, specifier_reaches_iff hworking hsame⟩
  rw [specifier_eq]
  exact dotted_prefix _

/-- From the usual output directory a specifier leads to the module of a source file. -/
theorem place_of_specifier_items :
    (Path.mk "/work/project").isAbsolute = true ∧
    (Path.mk "src/generated").isAbsolute = (Path.mk "./src/a/../items.d.ts").isAbsolute ∧
    (Path.mk (specifier ⟨"/work/project"⟩ ⟨"src/generated"⟩ ⟨"./src/a/../items.d.ts"⟩)).placeFrom
        ((Path.mk "src/generated").placeFrom ((Path.mk "/work/project").placeFrom [])) =
      ["work", "project", "src", "items"] := by
  have hworking : (Path.mk "/work/project").isAbsolute = true := by decide
  have hkind : (Path.mk "src/generated").isAbsolute =
      (Path.mk "./src/a/../items.d.ts").isAbsolute := by decide
  have hown : namesBehind ⟨"/work/project"⟩ ⟨"src/generated"⟩ ⟨"./src/a/../items.d.ts"⟩ =
      [] ++ ["items.d.ts"] := by decide
  obtain ⟨-, -, hreaches⟩ := place_of_specifier ⟨"/work/project"⟩ ⟨"src/generated"⟩
    ⟨"./src/a/../items.d.ts"⟩ hworking (Or.inl hkind)
  have hends : EndsAsModule ⟨"/work/project"⟩ ⟨"src/generated"⟩ ⟨"./src/a/../items.d.ts"⟩ :=
    (endsAsModule_iff_of_eq_concat hown).mpr ⟨by decide, by decide, by decide, by decide⟩
  have htogether : StartsTogether ⟨"/work/project"⟩ ⟨"src/generated"⟩ ⟨"./src/a/../items.d.ts"⟩ :=
    Or.inr (Or.inr (Or.inl (by decide)))
  refine ⟨hworking, hkind, (hreaches.mpr ⟨htogether, hends⟩).trans ?_⟩
  decide

/-- From a directory that is named by way of what is above the working directory a specifier leads
elsewhere. -/
theorem specifier_misses_target :
    specifier ⟨"/work/project"⟩ ⟨"../project/gen"⟩ ⟨"src/items.ts"⟩ = "../../../src/items" ∧
    (Path.mk "../../../src/items").placeFrom
        ((Path.mk "../project/gen").placeFrom ((Path.mk "/work/project").placeFrom [])) =
      ["src", "items"] ∧
    asModule ((Path.mk "src/items.ts").placeFrom ((Path.mk "/work/project").placeFrom [])) =
      ["work", "project", "src", "items"] := by
  decide

end Specifier

end ClassRegistry.Path
