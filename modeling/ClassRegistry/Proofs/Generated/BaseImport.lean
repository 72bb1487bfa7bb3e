import ClassRegistry.Proofs.Declaration.Names
import ClassRegistry.Proofs.Generated.Bindings
import ClassRegistry.Proofs.Generated.Layout

/-!
# The names that a base type needs

The unit of a module types its map by the text of a base type, with all its arguments. Of the names
in this text one is imported, the name that the text starts with, and only when the module of the
first member imports it or exports it. So the text is complete exactly when every other name in it
that this module binds happens to be that of an imported member.
-/

namespace ClassRegistry

variable {workingDirectory outDir : Path} {options : CollectOptions} {emit : EmitOptions}

/-- A blank is no part of a name. -/
theorem boundName_rootName (type : String) :
    boundName (ModuleScope.rootName type) = ModuleScope.rootName type := by
  have hblank : ∀ c ∈ (ModuleScope.rootName type).toList.reverse, c ≠ ' ' := by
    rintro c hc rfl
    rw [List.mem_reverse, ModuleScope.rootName, String.toList_ofList] at hc
    exact absurd (List.mem_takeWhile_imp hc) (by decide)
  rw [boundName, List.takeWhile_eq_self_iff.mpr (by simpa using hblank), List.reverse_reverse,
    String.ofList_toList]

namespace Registry

/-- The unit of a registry binds a name for a member. -/
def ImportsMember (workingDirectory outDir : Path) (r : Registry) (name : String) : Prop :=
  ∃ m ∈ r.members, ∃ exported, m.exportName? = some exported ∧ boundName m.typeName = name ∧
    (m.importRequest workingDirectory outDir exported).IsHeldBy
      (r.importTable workingDirectory outDir)

/-- The unit of a registry binds a name for the base type of a class: the name that the base type
starts with, for what the source of the class takes it for. -/
def ImportsBase (workingDirectory outDir : Path) (r : Registry) (s : Source) (d : ClassDeclaration)
    (name : String) : Prop :=
  ∃ type base, d.baseTypes.head? = some type ∧ s.typeImport? type = some base ∧
    ModuleScope.rootName type = name ∧
    (base.importRequest workingDirectory outDir).IsHeldBy (r.importTable workingDirectory outDir)

/-- What a unit imports are members and the base type of the first one. -/
theorem mem_importRequests {r : Registry} {first : Member} (hf : r.canonical? = some first)
    {q : ImportRequest} : q ∈ r.importRequests workingDirectory outDir ↔
      (∃ m ∈ r.members, ∃ exported, m.exportName? = some exported ∧
        m.importRequest workingDirectory outDir exported = q) ∨
      ∃ base, first.baseImport? = some base ∧
        base.importRequest workingDirectory outDir = q := by
  simp only [importRequests, hf, List.mem_append, List.mem_filterMap, List.mem_map,
    Option.mem_toList, Option.map_eq_some_iff, Option.bind_some, Member.baseImport?]

/-- The names that the unit of a registry binds are those for its members and for the base type of
the first one. -/
theorem mem_localNames_importTable {r : Registry} {first : Member} (hf : r.canonical? = some first)
    {s : Source} {d : ClassDeclaration} (hd : s.Declares d)
    (hm : d.member? options = .ok (some first)) {name : String} :
    name ∈ (r.importTable workingDirectory outDir).localNames ↔
      r.ImportsMember workingDirectory outDir name ∨
        r.ImportsBase workingDirectory outDir s d name := by
  rw [importTable, ImportTable.mem_localNames_ofRequests]
  simp only [mem_importRequests hf, ClassDeclaration.baseImport?_of_member? hm,
    hd.baseImport?_eq, Option.bind_eq_some_iff]
  constructor
  · rintro ⟨q, ⟨m, hmember, exported, he, rfl⟩ | ⟨base, ⟨type, htype, himport⟩, rfl⟩, hheld, rfl⟩
    · exact Or.inl ⟨m, hmember, exported, he, rfl, hheld⟩
    · refine Or.inr ⟨type, base, htype, himport, ?_, hheld⟩
      rw [TypeImport.importRequest, Source.name_of_typeImport?_eq_some himport, boundName_rootName]
  · rintro (⟨m, hmember, exported, he, rfl, hheld⟩ | ⟨type, base, htype, himport, rfl, hheld⟩)
    · exact ⟨_, Or.inl ⟨m, hmember, exported, he, rfl⟩, hheld, rfl⟩
    · refine ⟨_, Or.inr ⟨base, ⟨type, htype, himport⟩, rfl⟩, hheld, ?_⟩
      rw [TypeImport.importRequest, Source.name_of_typeImport?_eq_some himport, boundName_rootName]

end Registry

/-- The unit of a registry binds a name for each member that a module hands out, as far as its table
holds them, and one more: the name that the base type starts with, when the module of the first
member imports or exports it. So the names in the text of the base type that are bound in this
module are all imported exactly when each of them is one of these. -/
theorem base_names_of_generate {sources : List Source} {declarations : List ClassDeclaration}
    (hs : Source.allDeclarations sources = .ok declarations) {g : Generation}
    (h : generate workingDirectory options emit declarations = .ok g) {unit : GeneratedUnit}
    (hu : unit ∈ g.units) :
    ∃ r ∈ g.registries, ∃ first opening closing, r.canonical? = some first ∧
      unit.registry = r.name ∧
      let table := r.importTable workingDirectory emit.outDir
      unit.contents = linesText (generatedHeader :: table.lines ++ opening ++
        r.entries.map (entryLine (r.indent first)) ++ closing) ∧
      (∀ line ∈ opening ++ closing, IsFrameLine line) ∧
      (∃ s ∈ sources, ∃ d, s.Declares d ∧ d.member? options = .ok (some first)) ∧
      ∀ s ∈ sources, ∀ d, s.Declares d → d.member? options = .ok (some first) →
        ∀ scope, s.scope? = some scope →
        let type := first.baseType
        let root := ModuleScope.rootName type
        ((s.typeImport? type).isSome = true ↔
          (scope.import? root).isSome = true ∨ (scope.export? root).isSome = true) ∧
        (∀ name, name ∈ table.localNames ↔
          r.ImportsMember workingDirectory emit.outDir name ∨
            r.ImportsBase workingDirectory emit.outDir s d name) ∧
        ((∀ name ∈ typeNamesOfText type, name ∈ s.topLevelNames → name ∈ table.localNames) ↔
          ∀ name ∈ typeNamesOfText type, name ∈ s.topLevelNames →
            r.ImportsMember workingDirectory emit.outDir name ∨
              r.ImportsBase workingDirectory emit.outDir s d name) := by
  obtain ⟨r, hr, first, hf, hunit⟩ := exists_of_mem_units h hu
  obtain ⟨hname, opening, closing, hcontents, hframe, -⟩ := Registry.exists_lines_of_unit? hf hunit
  have hcollect := (generate_eq_ok_iff.mp h).1
  obtain ⟨-, d, hd, hm⟩ :=
    (Registries.mem_members_iff hcollect hr).mp (List.mem_of_head? hf)
  obtain ⟨s, hsource, hdeclares⟩ := (Source.mem_allDeclarations_iff hs).mp hd
  refine ⟨r, hr, first, opening, closing, hf, hname, hcontents, hframe,
    ⟨s, hsource, d, hdeclares, hm⟩, ?_⟩
  -- the class that stands behind the first member need not be the only one that reads like this
  clear hdeclares hsource hm hd s d
  intro s _ d hd hm scope hscope
  have hlocal (name : String) :
      name ∈ (r.importTable workingDirectory emit.outDir).localNames ↔
        r.ImportsMember workingDirectory emit.outDir name ∨
          r.ImportsBase workingDirectory emit.outDir s d name :=
    Registry.mem_localNames_importTable hf hd hm
  refine ⟨?_, hlocal, ?_⟩
  · rw [Source.typeImport?, hscope, Option.bind_some]
    exact ModuleScope.typeImport?_isSome_iff
  · simp only [hlocal]

/-- A module whose class is an argument of its own base type. -/
def selfArgumentModule : Source :=
  ⟨"src/sword.ts", ("import \x7b Item \x7d from \"./item\"; " ++
    "@Register(\"Items\") export class Sword extends Item<Sword> \x7b\x7d").toList⟩

/-- Its base type is complete in the unit. -/
theorem base_names_of_selfArgumentModule : ∃ declarations g unit, ∃ r ∈ g.registries, ∃ first,
    Source.allDeclarations [selfArgumentModule] = .ok declarations ∧
    generate ⟨"/"⟩ .standard ⟨"ts", ⟨"src/generated"⟩⟩ declarations = .ok g ∧ unit ∈ g.units ∧
    unit.registry = r.name ∧ r.canonical? = some first ∧ first.baseType = "Item<Sword>" ∧
    selfArgumentModule.scope?.isSome = true ∧
    typeNamesOfText first.baseType = ["Item", "Sword"] ∧
    selfArgumentModule.topLevelNames = ["Item", "Sword"] ∧
    ∀ name ∈ typeNamesOfText first.baseType, name ∈ selfArgumentModule.topLevelNames →
      name ∈ (r.importTable ⟨"/"⟩ ⟨"src/generated"⟩).localNames := by
  let base : TypeImport := ⟨"Item", .named "Item", .file "src/./item"⟩
  obtain ⟨hnames, hbound, hscope⟩ : typeNamesOfText "Item<Sword>" = ["Item", "Sword"] ∧
      selfArgumentModule.topLevelNames = ["Item", "Sword"] ∧
      selfArgumentModule.scope?.isSome = true := by decide +kernel
  obtain ⟨declarations, registries, r, hdeclarations, hcollect, hr, hp⟩ :=
    Source.exists_collected_of_any [selfArgumentModule] (p := fun r => decide (
      r.members.map (fun m => (m.typeName, m.baseType, m.exportName?, m.baseImport?)) =
        [("Sword", "Item<Sword>", some (.named "Sword"),
          some ⟨"Item", .named "Item", .file "src/./item"⟩)])) (by decide +kernel)
  obtain ⟨first, rest, hlist, hfirst, -⟩ := List.map_eq_cons_iff.mp (of_decide_eq_true hp)
  obtain ⟨hname, htype, hexport, himport⟩ : first.typeName = "Sword" ∧
      first.baseType = "Item<Sword>" ∧ first.exportName? = some (.named "Sword") ∧
      first.baseImport? = some base := by simpa using hfirst
  obtain ⟨g, unit, hg, rfl, hu, hunit, -⟩ :=
    exists_generation_of_collect hcollect hr ⟨"/"⟩ ⟨"ts", ⟨"src/generated"⟩⟩
  obtain ⟨s, hs, found, -, -, hf, hfound, -, -, ⟨t, ht, d, hd, hm⟩, hlaw⟩ :=
    base_names_of_generate hdeclarations hg hu
  obtain rfl : s = r := eq_of_name_eq hg hs hr (hfound.symm.trans hunit)
  obtain rfl : first = found := by
    rw [Registry.canonical?, hlist, List.head?_cons] at hf
    exact Option.some.inj hf
  obtain rfl := List.mem_singleton.mp ht
  obtain ⟨scope, hsome⟩ := Option.isSome_iff_exists.mp hscope
  obtain ⟨-, -, hcomplete⟩ := hlaw _ ht d hd hm scope hsome
  refine ⟨declarations, g, unit, s, hs, first, hdeclarations, hg, hu, hunit, hf, htype, hscope,
    htype ▸ hnames, hbound, hcomplete.mpr ?_⟩
  intro name hneeded _
  rw [htype, hnames, List.mem_pair] at hneeded
  rcases hneeded with rfl | rfl
  · obtain ⟨type, hhead, hbase⟩ := Option.bind_eq_some_iff.mp
      ((hd.baseImport?_eq.symm.trans (ClassDeclaration.baseImport?_of_member? hm).symm).trans
        himport)
    refine Or.inr ⟨type, base, hhead, hbase, (Source.name_of_typeImport?_eq_some hbase).symm, ?_⟩
    exact ImportTable.isHeldBy_of_not_isSlot
      ((Registry.mem_importRequests hf).mpr (Or.inr ⟨base, himport, rfl⟩)) (by decide)
  · refine Or.inl ⟨first, by simp [hlist], .named "Sword", hexport, ?_, ?_⟩
    · rw [hname]
      decide
    · exact ImportTable.isHeldBy_of_not_isSlot
        ((Registry.mem_importRequests hf).mpr
          (Or.inl ⟨first, by simp [hlist], .named "Sword", hexport, rfl⟩)) (by
            simp [Member.importRequest, ExportName.imported, ImportedName.isSlot])

/-- A module that imports its base type and an argument of it. -/
def importedArgumentModule : Source :=
  ⟨"src/foo.ts", ("import \x7b Base \x7d from \"./base\"; " ++
    "import \x7b Item \x7d from \"./item\"; " ++
    "@Register(\"Inventory\") export class Foo extends Base<Item> \x7b\x7d").toList⟩

/-- The argument is in the text of the base type, and the unit does not import it. -/
theorem type_argument_is_not_imported : ∃ declarations g unit, ∃ r ∈ g.registries, ∃ first,
    Source.allDeclarations [importedArgumentModule] = .ok declarations ∧
    generate ⟨"/"⟩ .standard ⟨"ts", ⟨"src/generated"⟩⟩ declarations = .ok g ∧ unit ∈ g.units ∧
    r.unit? ⟨"/"⟩ ⟨"ts", ⟨"src/generated"⟩⟩ = some unit ∧ r.canonical? = some first ∧
    importedArgumentModule.scope?.isSome = true ∧ first.baseType = "Base<Item>" ∧
    first.context.location.file = importedArgumentModule.file ∧
    "Item" ∈ typeNamesOfText first.baseType ∧ "Item" ∈ importedArgumentModule.topLevelNames ∧
    (r.importTable ⟨"/"⟩ ⟨"src/generated"⟩).localNames = ["Foo", "Base"] ∧
    "Item" ∉ (r.importTable ⟨"/"⟩ ⟨"src/generated"⟩).localNames := by
  obtain ⟨declarations, registries, r, hdeclarations, hcollect, hr, hp⟩ :=
    Source.exists_collected_of_any [importedArgumentModule] (p := fun r => decide (
      r.members.map (fun m => (m.baseType, m.context.location.file)) =
        [("Base<Item>", "src/foo.ts")] ∧
      (r.importTable ⟨"/"⟩ ⟨"src/generated"⟩).localNames = ["Foo", "Base"])) (by decide +kernel)
  obtain ⟨hmembers, hlocal⟩ := of_decide_eq_true hp
  obtain ⟨g, unit, hg, rfl, hu, -, hunit⟩ :=
    exists_generation_of_collect hcollect hr ⟨"/"⟩ ⟨"ts", ⟨"src/generated"⟩⟩
  obtain ⟨first, rest, hlist, hfirst, -⟩ := List.map_eq_cons_iff.mp hmembers
  obtain ⟨hbase, hfile⟩ : first.baseType = "Base<Item>" ∧
      first.context.location.file = "src/foo.ts" := by simpa using hfirst
  have hf : r.canonical? = some first := by rw [Registry.canonical?, hlist, List.head?_cons]
  obtain ⟨hscope, hneeded, hbound⟩ : importedArgumentModule.scope?.isSome = true ∧
      "Item" ∈ typeNamesOfText "Base<Item>" ∧ "Item" ∈ importedArgumentModule.topLevelNames := by
    decide +kernel
  refine ⟨declarations, g, unit, r, hr, first, hdeclarations, hg, hu, hunit, hf, hscope, hbase,
    hfile, hbase ▸ hneeded, hbound, hlocal, ?_⟩
  rw [hlocal]
  decide

end ClassRegistry
