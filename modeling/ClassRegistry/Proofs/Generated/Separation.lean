import ClassRegistry.Proofs.Generated.Layout

/-!
# Registries apart from each other

A registry is made of the declarations that enter it and of nothing else. Declarations can be left
out of a pass that succeeds without making it fail, and those that enter one registry are enough to
give its unit: what the others are and where they stand between them makes no difference.
-/

namespace ClassRegistry

namespace Registries

variable {options : CollectOptions}

/-! ## Fewer declarations -/

/-- The members of fewer declarations are among those of all. -/
theorem membersOf_sublist {kept declarations : List ClassDeclaration}
    (h : kept.Sublist declarations) :
    (membersOf options kept).Sublist (membersOf options declarations) :=
  h.filterMap _

/-- Nothing in a list offends exactly when no declaration fails on its own and the members of one
registry share their base type. -/
theorem forall_not_offendsAt_iff {declarations : List ClassDeclaration} :
    (∀ i, ¬ OffendsAt options declarations i) ↔
      (∀ d ∈ declarations, ∀ e, d.member? options ≠ .error e) ∧
      ∀ o ∈ membersOf options declarations, ∀ p ∈ membersOf options declarations,
        o.registry = p.registry → o.baseType = p.baseType := by
  constructor
  · intro h
    refine ⟨?_, baseType_eq_of_not_offendsAt h⟩
    intro d hd e he
    obtain ⟨i, hi⟩ := List.mem_iff_getElem?.mp hd
    exact h i ⟨d, hi, Or.inl ⟨e, he⟩⟩
  · rintro ⟨hown, hshared⟩ i ⟨d, hd, hoffends⟩
    have hmem : d ∈ declarations := List.mem_of_getElem? hd
    rcases hoffends with ⟨e, he⟩ | ⟨m, hm, o, ho, hregistry, hbase⟩
    · exact hown d hmem e he
    · have ho' := (membersOf_sublist (List.take_sublist i declarations)).subset ho
      have hm' : m ∈ membersOf options declarations := mem_membersOf.mpr ⟨d, hmem, hm⟩
      exact hbase (hshared o ho' m hm' hregistry)

/-- A pass that succeeds on declarations succeeds on fewer of them, and groups their members. -/
theorem collect_of_sublist {kept declarations : List ClassDeclaration} {s : Registries}
    (h : collect declarations options = .ok s) (hkept : kept.Sublist declarations) :
    collect kept options = .ok (ofMembers (membersOf options kept)) := by
  obtain ⟨hown, hshared⟩ := forall_not_offendsAt_iff.mp (not_offendsAt_of_collect h)
  have hmembers : (membersOf options kept).Sublist (membersOf options declarations) :=
    membersOf_sublist hkept
  apply collect_of_not_offendsAt
  rw [forall_not_offendsAt_iff]
  constructor
  · intro d hd
    exact hown d (hkept.subset hd)
  · intro o ho p hp
    exact hshared o (hmembers.subset ho) p (hmembers.subset hp)

/-! ## The declarations of one registry -/

/-- The members of the declarations that enter a registry are the members of its name. -/
theorem membersOf_filter_enters (name : String) (declarations : List ClassDeclaration) :
    membersOf options (declarations.filter fun d => d.Enters options name) =
      (membersOf options declarations).filter (·.registry = name) := by
  rw [membersOf, membersOf, List.filterMap_filter, List.filter_filterMap]
  refine List.filterMap_congr fun d _ => ?_
  by_cases h : d.Enters options name
  · obtain ⟨m, hm, hname⟩ := h
    have henters : d.Enters options name := ⟨m, hm, hname⟩
    simp [henters, hm, hname, Except.toOption, Option.filter]
  · cases hm : (d.member? options).toOption.join with
    | none => simp
    | some m =>
        have hname : m.registry ≠ name := by
          intro hname
          exact h (ClassDeclaration.enters_iff.mp (by rw [hm, Option.map_some, hname]))
        simp [h, hname, Option.filter]

/-- Grouped members of one name are the group of that name. -/
theorem filter_ofMembers (members : List Member) (name : String) :
    (ofMembers members).filter (·.name = name) =
      ofMembers (members.filter (·.registry = name)) := by
  have hnames : (members.filter (·.registry = name)).map (·.registry) =
      (members.map (·.registry)).filter (· = name) := by
    rw [List.filter_map]
    rfl
  rw [ofMembers, ofMembers, hnames, eraseDups_filter, List.filter_map]
  refine List.map_congr_left fun other hother => ?_
  have hother : other = name := by simpa using (List.mem_filter.mp hother).2
  rw [hother, List.filter_filter]
  simp only [Bool.and_self]

/-- Members of one name give one registry. -/
theorem ofMembers_eq_singleton {members : List Member} {name : String} (hne : members ≠ [])
    (h : ∀ m ∈ members, m.registry = name) : ofMembers members = [⟨name, members⟩] := by
  have hnames : (members.map (·.registry)).eraseDups = [name] := by
    apply eraseDups_eq_singleton
    · simpa using hne
    · intro registry hregistry
      obtain ⟨m, hm, rfl⟩ := List.mem_map.mp hregistry
      exact h m hm
  have hall : members.filter (·.registry = name) = members := by
    rw [List.filter_eq_self]
    intro m hm
    exact decide_eq_true (h m hm)
  rw [ofMembers, hnames, List.map_singleton, hall]

/-- The units of a name are those of the registries of this name. -/
theorem filter_units (workingDirectory : Path) (emit : EmitOptions) (s : Registries)
    (name : String) :
    (s.units workingDirectory emit).filter (·.registry = name) =
      units workingDirectory emit (s.filter (·.name = name)) := by
  rw [units, units, List.filter_filterMap, List.filterMap_filter]
  refine List.filterMap_congr fun r _ => ?_
  rw [Registry.unit?]
  cases r.canonical? with
  | none => simp
  | some first =>
      by_cases hname : r.name = name
      · simp [hname]
      · simp [hname]

/-- Members of one name have one unit, when there are any. -/
theorem length_units_ofMembers (workingDirectory : Path) (emit : EmitOptions)
    {members : List Member} {name : String} (h : ∀ m ∈ members, m.registry = name) :
    (units workingDirectory emit (ofMembers members)).length =
      if members = [] then 0 else 1 := by
  cases members with
  | nil => rfl
  | cons first more =>
      rw [ofMembers_eq_singleton (List.cons_ne_nil first more) h]
      rfl

/-- No declaration enters a registry when no member bears its name. -/
theorem filter_enters_eq_nil_iff {name : String} {declarations : List ClassDeclaration} :
    (declarations.filter fun d => d.Enters options name) = [] ↔
      (membersOf options declarations).filter (·.registry = name) = [] := by
  simp only [List.filter_eq_nil_iff, decide_eq_true_eq, mem_membersOf]
  constructor
  · rintro h m ⟨d, hd, hm⟩ hname
    exact h d hd ⟨m, hm, hname⟩
  · rintro h d hd ⟨m, hm, hname⟩
    exact h m ⟨d, hd, hm⟩ hname

end Registries

/-- Two passes that succeed give the same unit of a name, or none, when the same declarations enter
the registry of this name in the same order, whatever other declarations there are. A pass over
these declarations alone succeeds as well and gives this registry and unit, and nothing else. -/
theorem units_of_registry (workingDirectory : Path) (options : CollectOptions)
    (emit : EmitOptions) (name : String) :
    (∀ declarations others g h, generate workingDirectory options emit declarations = .ok g →
      generate workingDirectory options emit others = .ok h →
      (declarations.filter fun d => d.Enters options name) =
        (others.filter fun d => d.Enters options name) →
      g.units.filter (·.registry = name) = h.units.filter (·.registry = name)) ∧
    ∀ declarations g, generate workingDirectory options emit declarations = .ok g →
      let kept := declarations.filter fun d => d.Enters options name
      generate workingDirectory options emit kept =
        .ok ⟨g.registries.filter (·.name = name), g.units.filter (·.registry = name)⟩ ∧
      (g.units.filter (·.registry = name)).length = if kept = [] then 0 else 1 := by
  have hkept : ∀ declarations g, generate workingDirectory options emit declarations = .ok g →
      generate workingDirectory options emit
          (declarations.filter fun d => d.Enters options name) =
        .ok ⟨g.registries.filter (·.name = name), g.units.filter (·.registry = name)⟩ := by
    intro declarations g hg
    obtain ⟨hcollect, hunits⟩ := generate_eq_ok_iff.mp hg
    rw [generate_eq_ok_iff]
    constructor
    · rw [Registries.collect_of_sublist hcollect List.filter_sublist,
        Registries.membersOf_filter_enters, Registries.eq_ofMembers_of_collect hcollect,
        Registries.filter_ofMembers]
    · rw [hunits, Registries.filter_units]
  constructor
  · intro declarations others g h hg hh hsame
    have hone := hkept declarations g hg
    rw [hsame, hkept others h hh] at hone
    exact (congrArg Generation.units (Except.ok.inj hone)).symm
  · intro declarations g hg
    obtain ⟨hcollect, hunits⟩ := generate_eq_ok_iff.mp hg
    refine ⟨hkept declarations g hg, ?_⟩
    have hname : ∀ m ∈ (Registries.membersOf options declarations).filter (·.registry = name),
        m.registry = name := by
      intro m hm
      simpa using (List.mem_filter.mp hm).2
    rw [hunits, Registries.filter_units, Registries.eq_ofMembers_of_collect hcollect,
      Registries.filter_ofMembers, Registries.length_units_ofMembers _ _ hname]
    simp only [Registries.filter_enters_eq_nil_iff]

/-- Classes of a module and of a script, a class without a marker, and a class of another registry
between them. -/
def mixedClasses : List ClassDeclaration :=
  [.registered "Items" "src/sword.ts" "" "Sword" ["Item"] (some ⟨some (.named "Sword"), none⟩),
    .registered "Tools" "src/tools.ts" "Game" "Hammer" ["Tool"] none,
    ⟨"", "Plain", [], [], ⟨⟨"src/plain.ts", 1, 7⟩, "class Plain {}"⟩, none⟩,
    .registered "Items" "src/shield.ts" "Game" "Shield" ["Item"] none]

/-- The same classes of one registry behind another class of the other one. -/
def otherMixedClasses : List ClassDeclaration :=
  [.registered "Tools" "src/saw.ts" "" "Saw" [] none,
    .registered "Items" "src/sword.ts" "" "Sword" ["Item"] (some ⟨some (.named "Sword"), none⟩),
    .registered "Items" "src/shield.ts" "Game" "Shield" ["Item"] none]

/-- Both give the same unit of that registry, which its two classes alone give as well. -/
theorem units_of_mixedClasses : ∃ g h unit,
    generate ⟨"/"⟩ .standard ⟨"ts", ⟨"src/generated"⟩⟩ mixedClasses = .ok g ∧
    generate ⟨"/"⟩ .standard ⟨"ts", ⟨"src/generated"⟩⟩ otherMixedClasses = .ok h ∧
    (mixedClasses.filter fun d => d.Enters .standard "Items").map (·.name) = ["Sword", "Shield"] ∧
    g.units.filter (·.registry = "Items") = [unit] ∧
    h.units.filter (·.registry = "Items") = [unit] ∧
    generate ⟨"/"⟩ .standard ⟨"ts", ⟨"src/generated"⟩⟩
      (mixedClasses.filter fun d => d.Enters .standard "Items") =
        .ok ⟨g.registries.filter (·.name = "Items"), [unit]⟩ := by
  obtain ⟨g, hg⟩ : ∃ g, generate ⟨"/"⟩ .standard ⟨"ts", ⟨"src/generated"⟩⟩ mixedClasses = .ok g :=
    ⟨_, rfl⟩
  obtain ⟨h, hh⟩ :
      ∃ h, generate ⟨"/"⟩ .standard ⟨"ts", ⟨"src/generated"⟩⟩ otherMixedClasses = .ok h :=
    ⟨_, rfl⟩
  obtain ⟨hsame, halone⟩ := units_of_registry ⟨"/"⟩ .standard ⟨"ts", ⟨"src/generated"⟩⟩ "Items"
  obtain ⟨hkept, hlength⟩ := halone mixedClasses g hg
  rw [if_neg (by decide)] at hlength
  obtain ⟨unit, hunit⟩ := List.length_eq_one_iff.mp hlength
  have hother := hsame mixedClasses otherMixedClasses g h hg hh (by decide)
  exact ⟨g, h, unit, hg, hh, by decide, hunit, hother.symm.trans hunit, hunit ▸ hkept⟩

end ClassRegistry
