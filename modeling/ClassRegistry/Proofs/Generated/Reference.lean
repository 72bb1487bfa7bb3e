import ClassRegistry.Proofs.Generated.Layout

/-!
# References in a script

A name that is written inside of a namespace denotes what is declared in this namespace, in one that
encloses it, or outside of any. The unit of global scripts puts its entries into the namespace of
the first member and writes bare class names, so an entry finds its class exactly when the namespace
of the class is that of the first member or encloses it. The name that a module refers to the same
member by starts at the top and finds the class from everywhere.
-/

namespace ClassRegistry

/-! ## Denotation -/

/-- The segments between the dots of a name. -/
def segments (name : String) : List String :=
  (name.toList.splitOn '.').map String.ofList

/-- The segments of a namespace, none outside of any. -/
def scopeSegments (scope : String) : List String :=
  if scope.isEmpty then [] else segments scope

/-- A name that is written inside of a namespace can denote a target: the target is found under the
name in this namespace, in one that encloses it, or outside of any. -/
def CanDenote (around : List String) (name : String) (target : List String) : Prop :=
  ∃ front, front <+: around ∧ front ++ segments name = target

/-- Where the class of a member is declared. -/
def Member.target (m : Member) : List String :=
  scopeSegments m.scope ++ segments m.typeName

/-- The segments of a name with a dot are those before it and those behind it. -/
theorem segments_dotted (front rest : String) :
    segments (front ++ "." ++ rest) = segments front ++ segments rest := by
  have hlist : (front ++ "." ++ rest).toList = front.toList ++ '.' :: rest.toList := by
    simp [String.toList_append]
  rw [segments, segments, segments, hlist, List.splitOn, List.splitOn, List.splitOn,
    List.splitOnP_append_cons _ _ (by simp), List.map_append]

/-- The qualified name of a member says where its class is declared. -/
theorem Member.segments_qualifiedName (m : Member) : segments m.qualifiedName = m.target := by
  rw [qualifiedName, target, scopeSegments]
  split
  · rfl
  · exact segments_dotted m.scope m.typeName

/-- The bare name of a class denotes it from within its namespace, and from no place outside. -/
theorem Member.canDenote_typeName_iff {around : List String} {m : Member} :
    CanDenote around m.typeName m.target ↔ scopeSegments m.scope <+: around := by
  constructor
  · rintro ⟨front, hfront, he⟩
    rwa [← List.append_cancel_right he]
  · intro h
    exact ⟨_, h, rfl⟩

/-- The qualified name of a class denotes it from everywhere. -/
theorem Member.canDenote_qualifiedName (around : List String) (m : Member) :
    CanDenote around m.qualifiedName m.target :=
  ⟨[], List.nil_prefix, m.segments_qualifiedName⟩

/-! ## Units of scripts -/

/-- A unit imports nothing exactly when its members are all of global scripts. Then its entries stand
in the namespace of the first member, an entry can denote its class exactly when the namespace of
the class is a prefix of that one, and the qualified name, which a module refers to the member by,
can denote it in any case. -/
theorem references_of_generate {workingDirectory : Path} {options : CollectOptions}
    {emit : EmitOptions} {declarations : List ClassDeclaration} {g : Generation}
    (h : generate workingDirectory options emit declarations = .ok g) {unit : GeneratedUnit}
    (hu : unit ∈ g.units) :
    ∃ r ∈ g.registries, ∃ first, r.canonical? = some first ∧ unit.registry = r.name ∧
      ((r.importTable workingDirectory emit.outDir).lines = [] ↔
        ∀ m ∈ r.members, m.origin = none) ∧
      (r.needsModule = false →
        (first.scope = "" → unit.contents = linesText
          ([generatedHeader, "namespace " ++ helperName r.name ++ " \x7b"] ++
            typeMapLines "" first.valueType r.entries ++ ["\x7d"])) ∧
        (first.scope ≠ "" → unit.contents = linesText
          ([generatedHeader, "namespace " ++ first.scope ++ " \x7b",
              "    export namespace " ++ helperName r.name ++ " \x7b"] ++
            typeMapLines "    " first.valueType r.entries ++ ["    \x7d", "\x7d"])) ∧
        (∀ m ∈ r.members,
          CanDenote (scopeSegments first.scope) (r.reference m) m.target ↔
            scopeSegments m.scope <+: scopeSegments first.scope) ∧
        ∀ m ∈ r.members, m.moduleReference = m.qualifiedName ∧
          CanDenote (scopeSegments first.scope) m.moduleReference m.target) := by
  obtain ⟨r, hr, first, hf, hunit⟩ := exists_of_mem_units h hu
  have hcollect := (generate_eq_ok_iff.mp h).1
  have hscripts : r.needsModule = false ↔ ∀ m ∈ r.members, m.origin = none := by
    simp [Registry.needsModule]
  have hname : unit.registry = r.name := (Registry.exists_lines_of_unit? hf hunit).1
  refine ⟨r, hr, first, hf, hname, ?_, ?_⟩
  · rw [← hscripts]
    exact Registry.lines_importTable_eq_nil_iff hcollect hr
  intro hm
  have hreference (m : Member) : r.reference m = m.typeName := by
    rw [Registry.reference, hm, if_neg Bool.false_ne_true]
  have hentries : (r.members.map fun m => (m.typeName, m.typeName)) = r.entries := by
    simp only [Registry.entries, hreference]
  have hcontents : unit.contents = linesText (scriptLines r.name first r.members) := by
    rw [Registry.unit?, hf, Option.map_some] at hunit
    obtain rfl := Option.some.inj hunit
    simp only [hm, Bool.false_eq_true, if_false]
  refine ⟨?_, ?_, ?_, ?_⟩
  · intro hs
    rw [hcontents, scriptLines_of_flat (by simp [hs]), hentries]
  · intro hs
    rw [hcontents, scriptLines_of_nested (by simp [hs]), hentries]
  · intro m hmember
    rw [hreference]
    exact Member.canDenote_typeName_iff
  · intro m hmember
    have hmodule : m.moduleReference = m.qualifiedName := by
      simp [Member.moduleReference, Member.exportName?, hscripts.mp hm m hmember]
    rw [hmodule]
    exact ⟨rfl, m.canDenote_qualifiedName _⟩

/-- Classes of a script in a namespace, in one that encloses it, and outside of any. -/
def enclosingClasses : List ClassDeclaration :=
  [.registered "Items" "src/items.ts" "Game.Data" "Sword" [] none,
    .registered "Items" "src/items.ts" "Game" "Shield" [] none,
    .registered "Items" "src/items.ts" "" "Potion" [] none]

/-- All of them can be denoted by their bare names. -/
theorem references_of_enclosingClasses : ∃ g unit, ∃ r ∈ g.registries, ∃ first,
    generate ⟨"/"⟩ .standard ⟨"ts", ⟨"src/generated"⟩⟩ enclosingClasses = .ok g ∧ unit ∈ g.units ∧
    unit.registry = r.name ∧ r.canonical? = some first ∧
    (r.importTable ⟨"/"⟩ ⟨"src/generated"⟩).lines = [] ∧
    r.entries = [("Sword", "Sword"), ("Shield", "Shield"), ("Potion", "Potion")] ∧
    ∀ m ∈ r.members, CanDenote (scopeSegments first.scope) (r.reference m) m.target := by
  obtain ⟨registries, s, hcollect, hs, hp⟩ :=
    Registries.exists_collected_of_any enclosingClasses (p := fun r => decide (
      r.entries = [("Sword", "Sword"), ("Shield", "Shield"), ("Potion", "Potion")] ∧
      (∀ m ∈ r.members, m.origin = none) ∧ r.canonical?.map Member.scope = some "Game.Data" ∧
      ∀ m ∈ r.members, scopeSegments m.scope <+: scopeSegments "Game.Data")) (by decide)
  obtain ⟨hentries, hscripts, hscope, hprefix⟩ := of_decide_eq_true hp
  obtain ⟨g, unit, hg, rfl, hu, hunit, -⟩ :=
    exists_generation_of_collect hcollect hs ⟨"/"⟩ ⟨"ts", ⟨"src/generated"⟩⟩
  obtain ⟨r, hr, first, hf, hname, himports, hscript⟩ := references_of_generate hg hu
  obtain rfl : r = s := eq_of_name_eq hg hr hs (hname.symm.trans hunit)
  have hm : r.needsModule = false := by simpa [Registry.needsModule] using hscripts
  obtain ⟨-, -, hdenote, -⟩ := hscript hm
  have hfirst : first.scope = "Game.Data" := by simpa [hf] using hscope
  refine ⟨g, unit, r, hr, first, hg, hu, hname, hf, himports.mpr hscripts, hentries, ?_⟩
  intro m hmember
  exact (hdenote m hmember).mpr (hfirst ▸ hprefix m hmember)

/-- Classes of a script in two namespaces side by side. -/
def parallelClasses : List ClassDeclaration :=
  [.registered "Inventory" "src/items.ts" "Game.Data" "Foo" [] none,
    .registered "Inventory" "src/items.ts" "Game.Other" "Bar" [] none]

/-- The second class is out of reach of its bare name in the namespace of the first one, although
its qualified name would denote it. -/
theorem bare_name_misses_class : ∃ g unit, ∃ r ∈ g.registries, ∃ first, ∃ m ∈ r.members,
    generate ⟨"/"⟩ .standard ⟨"ts", ⟨"src/generated"⟩⟩ parallelClasses = .ok g ∧ unit ∈ g.units ∧
    r.unit? ⟨"/"⟩ ⟨"ts", ⟨"src/generated"⟩⟩ = some unit ∧ r.canonical? = some first ∧
    (r.importTable ⟨"/"⟩ ⟨"src/generated"⟩).lines = [] ∧ first.scope = "Game.Data" ∧
    r.entries = [("Foo", "Foo"), ("Bar", "Bar")] ∧
    m.typeName = "Bar" ∧ r.reference m = "Bar" ∧ m.qualifiedName = "Game.Other.Bar" ∧
    ¬ CanDenote (scopeSegments first.scope) (r.reference m) m.target ∧
    CanDenote (scopeSegments first.scope) m.qualifiedName m.target := by
  obtain ⟨registries, r, hcollect, hr, hp⟩ :=
    Registries.exists_collected_of_any parallelClasses (p := fun r => decide (
      r.entries = [("Foo", "Foo"), ("Bar", "Bar")] ∧ r.needsModule = false ∧
      r.canonical?.map Member.scope = some "Game.Data" ∧
      ∃ m ∈ r.members, m.scope = "Game.Other" ∧ m.typeName = "Bar" ∧ r.reference m = "Bar" ∧
        m.qualifiedName = "Game.Other.Bar")) (by decide)
  obtain ⟨hentries, hscripts, hscope, m, hm, hmscope, hname, hreference, hqualified⟩ :=
    of_decide_eq_true hp
  obtain ⟨g, unit, hg, rfl, hu, -, hunit⟩ :=
    exists_generation_of_collect hcollect hr ⟨"/"⟩ ⟨"ts", ⟨"src/generated"⟩⟩
  obtain ⟨first, hf, hfirst⟩ := Option.map_eq_some_iff.mp hscope
  refine ⟨g, unit, r, hr, first, m, hm, hg, hu, hunit, hf,
    (Registry.lines_importTable_eq_nil_iff hcollect hr).mpr hscripts, hfirst, hentries, hname,
    hreference, hqualified, ?_, m.canDenote_qualifiedName _⟩
  rw [hreference, ← hname, Member.canDenote_typeName_iff, hmscope, hfirst]
  decide

end ClassRegistry
