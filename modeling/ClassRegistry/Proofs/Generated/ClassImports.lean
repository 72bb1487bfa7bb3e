import ClassRegistry.Proofs.Declaration.Exports
import ClassRegistry.Proofs.Generated.Members

/-!
# Imported classes

A unit constructs the classes that it imports, so it needs them as values. A module hands out a class
as a value by exporting its declaration or its name, but by a name that is marked as a type it hands
out the type alone. The first export of a class counts, marked or not. Main statement: under which
export name a class is imported, when its module provides only a type by this name, and which classes
are refused since their modules do not hand them out at all.
-/

namespace ClassRegistry

open TypeScript (Node Code Ident ExportBinding Span)

variable {code : Code} {items : List (Node code)} {name : String} {e : ExportName}

/-! ## Exports of values -/

/-- An item hands out a class of its module as a value: it is an export of the class or of its name,
and the name is not marked as a type. -/
inductive HandsOutValue : Node code → Nat → String → ExportName → Prop
  | declaration {span classSpan : Span} {isDeclaration : Bool} {name : Ident code}
    {decorators parameters implemented members : List (Node code)}
    {superclass superArguments : Option (Node code)} :
    HandsOutValue (.exportDeclaration span (.classDefinition classSpan isDeclaration (some name)
      decorators parameters superclass superArguments implemented members)) 0 name.name
      (.named name.name)
  | byDefault {span classSpan : Span} {isDeclaration : Bool} {name : Ident code}
    {decorators parameters implemented members : List (Node code)}
    {superclass superArguments : Option (Node code)} :
    HandsOutValue (.exportDefault span (.classDefinition classSpan isDeclaration (some name)
      decorators parameters superclass superArguments implemented members)) 0 name.name .default
  | nameByDefault {span : Span} {name : Ident code} :
    HandsOutValue (.exportDefault span (.identifier name)) 0 name.name .default
  | listed {span : Span} {bindings : List ExportBinding} {number : Nat} {b : ExportBinding} :
    bindings[number]? = some b → b.isType = false →
      HandsOutValue (.exportNames span bindings) number b.localName (.ofText b.exportedName)

/-- What is handed out as a value is handed out. -/
theorem HandsOutValue.handsOut {item : Node code} {number : Nat}
    (h : HandsOutValue item number name e) : HandsOut item number name e := by
  rw [handsOut_iff]
  cases h with
  | declaration => rfl
  | byDefault => rfl
  | nameByDefault => rfl
  | listed hb => simp [exportedNames, hb]

/-- The exported names of an item are those that it hands out. -/
theorem mem_exportedNames_iff {item : Node code} :
    (name, e) ∈ exportedNames item ↔ ∃ number, HandsOut item number name e := by
  simp only [handsOut_iff, List.mem_iff_getElem?]

/-- The names that an item hands out as values. -/
def exportedValues : Node code → List (String × ExportName)
  | .exportDeclaration _ (.classDefinition _ _ (some name) _ _ _ _ _ _) =>
    [(name.name, .named name.name)]
  | .exportDefault _ (.classDefinition _ _ (some name) _ _ _ _ _ _)
  | .exportDefault _ (.identifier name) => [(name.name, .default)]
  | .exportNames _ bindings =>
    (bindings.filter (!·.isType)).map fun b => (b.localName, .ofText b.exportedName)
  | _ => []

/-- They are told by the form of the item. -/
theorem mem_exportedValues_iff {item : Node code} :
    (name, e) ∈ exportedValues item ↔ ∃ number, HandsOutValue item number name e := by
  constructor
  · intro h
    unfold exportedValues at h
    split at h
    · obtain ⟨rfl, rfl⟩ := Prod.mk.inj (List.mem_singleton.mp h)
      exact ⟨0, .declaration⟩
    · obtain ⟨rfl, rfl⟩ := Prod.mk.inj (List.mem_singleton.mp h)
      exact ⟨0, .byDefault⟩
    · obtain ⟨rfl, rfl⟩ := Prod.mk.inj (List.mem_singleton.mp h)
      exact ⟨0, .nameByDefault⟩
    · obtain ⟨b, hb, heq⟩ := List.mem_map.mp h
      obtain ⟨rfl, rfl⟩ := Prod.mk.inj heq
      obtain ⟨hmem, htype⟩ := List.mem_filter.mp hb
      obtain ⟨number, hnumber⟩ := List.mem_iff_getElem?.mp hmem
      exact ⟨number, .listed hnumber (by simpa using htype)⟩
    · cases h
  · rintro ⟨number, _ | _ | _ | ⟨hb, htype⟩⟩
    · exact List.mem_singleton_self _
    · exact List.mem_singleton_self _
    · exact List.mem_singleton_self _
    · exact List.mem_map_of_mem
        (List.mem_filter.mpr ⟨List.mem_of_getElem? hb, by simpa using htype⟩)

/-- A module provides a name of its own by an export name, but never as a value. -/
def IsTypeOnly (items : List (Node code)) (name : String) (e : ExportName) : Prop :=
  (∃ item ∈ items, ∃ number, HandsOut item number name e) ∧
    ∀ item ∈ items, ∀ number, ¬ HandsOutValue item number name e

/-- It is told by the exports of the items. -/
theorem isTypeOnly_iff : IsTypeOnly items name e ↔
    (∃ item ∈ items, (name, e) ∈ exportedNames item) ∧
      ∀ item ∈ items, (name, e) ∉ exportedValues item := by
  simp only [IsTypeOnly, mem_exportedNames_iff, mem_exportedValues_iff, not_exists]

/-- It can be told whether a module provides only a type. -/
instance decidableIsTypeOnly (items : List (Node code)) (name : String) (e : ExportName) :
    Decidable (IsTypeOnly items name e) :=
  decidable_of_iff _ isTypeOnly_iff.symm

/-- The first export of a name in a module, with the items around and its number in its own item. -/
structure IsFirstExportAt (items : List (Node code)) (name : String) (e : ExportName)
    (before : List (Node code)) (item : Node code) (after : List (Node code)) (number : Nat) :
    Prop where
  items_eq : items = before ++ item :: after
  handsOut : HandsOut item number name e
  not_before : ∀ other ∈ before, ∀ n other', ¬ HandsOut other n name other'
  not_earlier : ∀ n < number, ∀ other', ¬ HandsOut item n name other'

/-- The first export of a name stands somewhere. -/
theorem isFirstExport_iff : IsFirstExport items name e ↔
    ∃ before item after number, IsFirstExportAt items name e before item after number := by
  constructor
  · rintro ⟨before, item, after, number, hitems, hhands, hbefore, hearlier⟩
    exact ⟨before, item, after, number, hitems, hhands, hbefore, hearlier⟩
  · rintro ⟨before, item, after, number, h⟩
    exact ⟨before, item, after, number, h.items_eq, h.handsOut, h.not_before, h.not_earlier⟩

/-- A module that exports a name first by an export name provides only a type by it exactly if
neither this export is one of a value, nor a later one that gives the same export name once more. -/
theorem IsFirstExportAt.isTypeOnly_iff {before after : List (Node code)} {item : Node code}
    {number : Nat} (h : IsFirstExportAt items name e before item after number) :
    IsTypeOnly items name e ↔ ¬ HandsOutValue item number name e ∧
      (∀ n > number, ¬ HandsOutValue item n name e) ∧
      ∀ other ∈ after, ∀ n, ¬ HandsOutValue other n name e := by
  have hitem : item ∈ items := by simp [h.items_eq]
  constructor
  · rintro ⟨-, hnone⟩
    refine ⟨hnone item hitem number, fun n _ => hnone item hitem n, fun other hother => ?_⟩
    exact hnone other (by simp [h.items_eq, hother])
  · rintro ⟨hfirst, hlater, hafter⟩
    refine ⟨⟨item, hitem, number, h.handsOut⟩, fun other hother n hvalue => ?_⟩
    rw [h.items_eq, List.mem_append, List.mem_cons] at hother
    rcases hother with hother | rfl | hother
    · exact h.not_before other hother n e hvalue.handsOut
    · rcases Nat.lt_trichotomy n number with hn | rfl | hn
      · exact h.not_earlier n hn e hvalue.handsOut
      · exact hfirst hvalue
      · exact hlater n hn hvalue
    · exact hafter other hother n hvalue

/-! ## Classes that are handed out -/

/-- A class of a module is one of its items, as told by the place of its name. -/
def IsItemClass (items : List (Node code)) (site : ClassSite code) : Prop :=
  ∃ item ∈ items, ∃ ident, itemClass? item = some ident ∧
    ident.span.start = site.name.span.start

/-- A module has no export of a name exactly if none of its items hands it out. -/
theorem ModuleScope.export?_eq_none_iff {scope : ModuleScope} (h : ofItems? items = some scope) :
    scope.export? name = none ↔ ∀ item ∈ items, ∀ number e, ¬ HandsOut item number name e := by
  rw [export?, eq_of_ofItems? h, List.find?_flatMap, Option.map_eq_none_iff,
    List.findSome?_eq_none_iff]
  exact forall₂_congr fun item _ => find?_exportedNames_eq_none_iff

/-- The scope of a module keeps the places of the classes that are items. -/
theorem ModuleScope.contains_iff_isItemClass {scope : ModuleScope}
    (h : ofItems? items = some scope) {site : ClassSite code} :
    scope.classes.contains site.name.span.start = true ↔ IsItemClass items site := by
  simp only [eq_of_ofItems? h, List.contains_iff_mem, List.mem_filterMap, Option.map_eq_some_iff,
    IsItemClass]

namespace Source

variable {s : Source} {items : List (Node s.code)} {site : ClassSite s.code}

/-- A class has an export name exactly if it is an item of a module that hands its name out, and
then it is that of the first export. -/
theorem exportName_of_declaration_iff {origin : ModuleOrigin}
    (h : (s.declaration (ModuleScope.ofItems? items) site).origin = some origin) :
    origin.exportName = some e ↔ IsItemClass items site ∧ IsFirstExport items site.name.name e := by
  obtain ⟨scope, hscope, rfl⟩ := Option.map_eq_some_iff.mp h
  rw [← ModuleScope.contains_iff_isItemClass hscope, ← ModuleScope.export?_eq_some_iff hscope,
    ModuleScope.origin]
  split
  · rename_i hclass
    exact (and_iff_right hclass).symm
  · rename_i hclass
    exact iff_of_false (by simp) fun h => hclass h.1

/-- A class is hidden in its module exactly if it is no item of it, or its name is not handed out. -/
theorem isHidden_of_declaration_iff :
    (s.declaration (ModuleScope.ofItems? items) site).isHidden = true ↔
      (∃ item ∈ items, isModuleItem item = true) ∧ (IsItemClass items site →
        ∀ item ∈ items, ∀ number e, ¬ HandsOut item number site.name.name e) := by
  cases hscope : ModuleScope.ofItems? items with
  | none =>
      have hplain := ModuleScope.ofItems?_eq_none_iff.mp hscope
      simp only [ClassDeclaration.isHidden, declaration, Option.map_none, Bool.false_eq_true,
        false_iff, not_and]
      rintro ⟨item, hitem, hmodule⟩
      rw [hplain item hitem] at hmodule
      cases hmodule
  | some scope =>
      have hmodule : ∃ item ∈ items, isModuleItem item = true := by
        by_contra hnone
        rw [ModuleScope.ofItems?_eq_none_iff.mpr (by simpa using hnone)] at hscope
        cases hscope
      simp only [hmodule, true_and, ClassDeclaration.isHidden, declaration, Option.map_some,
        ModuleScope.origin, Option.isNone_iff_eq_none, ite_eq_right_iff,
        ModuleScope.contains_iff_isItemClass hscope, ModuleScope.export?_eq_none_iff hscope]

end Source

/-- A class with a registry name is refused as unexported exactly if it is hidden in its module. -/
theorem ClassDeclaration.member?_eq_unexportedType_iff {d : ClassDeclaration}
    {options : CollectOptions} {marker : Marker} {registry : String}
    (hmarker : d.registerMarker? options.marker = some marker)
    (hregistry : d.registryName marker options.registryArgument = .ok registry) :
    d.member? options = .error (.unexportedType d.name registry d.context) ↔
      d.isHidden = true := by
  rw [member?, hmarker]
  simp only [hregistry]
  split
  · rename_i hhidden
    exact iff_of_true rfl hhidden
  · rename_i hhidden
    split
    · exact iff_of_false (by simp) hhidden
    · exact iff_of_false (by simp) hhidden

/-! ## Main statement -/

/-- A unit asks for a member by what its module hands out, and constructs it by its class name. An
export with a name is imported by a line of the unit. -/
structure Registry.Constructs (workingDirectory : Path) (emit : EmitOptions) (r : Registry)
    (m : Member) (e : ExportName) : Prop where
  request_mem : m.importRequest workingDirectory emit.outDir e ∈
    r.importRequests workingDirectory emit.outDir
  isWrittenIn : e ≠ .default → (m.importRequest workingDirectory emit.outDir e).IsWrittenIn
    (r.importTable workingDirectory emit.outDir).lines
  entry_mem : (m.typeName, m.typeName) ∈ r.entries

/-- A member that is handed out is constructed. -/
theorem Registry.constructs_of_exportName? {r : Registry} {m : Member} (hm : m ∈ r.members)
    (he : m.exportName? = some e) (workingDirectory : Path) (emit : EmitOptions) :
    r.Constructs workingDirectory emit m e where
  request_mem := importRequest_mem_importRequests hm he
  isWrittenIn := by
    intro hnamed
    exact ImportTable.isWrittenIn_of_isHeldBy (importRequest_mem_importRequests hm he)
      ((isHeldBy_importTable_iff hm he).mpr fun hdefault => absurd hdefault hnamed)
  entry_mem := List.mem_map.mpr ⟨m, hm, by rw [(reference_eq hm).1 e he]⟩

/-- A member with an export name is a class of one of the sources, an item of its module, and has the
name of the first export of this class. -/
theorem exists_firstExport_of_member {sources : List Source} {declarations : List ClassDeclaration}
    {options : CollectOptions} {registries : Registries} {r : Registry} {m : Member}
    (hread : Source.allDeclarations sources = .ok declarations)
    (hcollect : Registries.collect declarations options = .ok registries) (hr : r ∈ registries)
    (hm : m ∈ r.members) (he : m.exportName? = some e) :
    ∃ s ∈ sources, ∃ items site, s.items = .ok items ∧ site ∈ classSitesAll "" items ∧
      m.typeName = site.name.name ∧ m.context = s.context site.name.span.start ∧
      IsItemClass items site ∧ IsFirstExport items m.typeName e := by
  obtain ⟨-, d, hd, hmember⟩ := (Registries.mem_members_iff hcollect hr).mp hm
  obtain ⟨s, hs, items, hitems, site, hsite, rfl⟩ := (Source.mem_allDeclarations_iff hread).mp hd
  obtain ⟨marker, registry, -, -, -, -, rfl⟩ := ClassDeclaration.member?_eq_some hmember
  obtain ⟨origin, horigin, hexport⟩ := Option.bind_eq_some_iff.mp he
  obtain ⟨hclass, hfirst⟩ := (Source.exportName_of_declaration_iff horigin).mp hexport
  exact ⟨s, hs, items, site, hitems, hsite, rfl, rfl, hclass, hfirst⟩

/-- The units of a pass over sources are those of its registries. Each has a block of import lines,
other lines that do not import, and the entries of a map that constructs its members. A member of a
module is a class of one of the sources, an item of its module, and imported by what the first export
of this class gives it, marked as a type or not. By this export name the module provides no more than
a type exactly if neither the first export is one of a value, nor a later export under the same name.
A class is refused as unexported exactly if it is no item of its module or has no export at all. -/
theorem class_imports_of_generate {sources : List Source} {declarations : List ClassDeclaration}
    {workingDirectory : Path} {options : CollectOptions} {emit : EmitOptions} {g : Generation}
    (hread : Source.allDeclarations sources = .ok declarations)
    (h : generate workingDirectory options emit declarations = .ok g) :
    (∀ unit ∈ g.units, ∃ r ∈ g.registries, r.unit? workingDirectory emit = some unit) ∧
    (∀ r ∈ g.registries, ∃ unit ∈ g.units, r.unit? workingDirectory emit = some unit ∧
      (∃ indent opening closing, unit.contents = linesText (generatedHeader ::
          (r.importTable workingDirectory emit.outDir).lines ++ opening ++
          r.entries.map (entryLine indent) ++ closing) ∧
        ∀ line ∈ opening ++ closing, IsFrameLine line) ∧
      ∀ m ∈ r.members, ∀ e, m.exportName? = some e → r.Constructs workingDirectory emit m e ∧
        ∃ s ∈ sources, ∃ items site, s.items = .ok items ∧ site ∈ classSitesAll "" items ∧
          m.typeName = site.name.name ∧ m.context = s.context site.name.span.start ∧
          IsItemClass items site ∧
          ∃ before item after number,
            IsFirstExportAt items m.typeName e before item after number ∧
            (IsTypeOnly items m.typeName e ↔ ¬ HandsOutValue item number m.typeName e ∧
              (∀ n > number, ¬ HandsOutValue item n m.typeName e) ∧
              ∀ other ∈ after, ∀ n, ¬ HandsOutValue other n m.typeName e)) ∧
    ∀ s : Source, ∀ items, s.items = .ok items → ∀ site ∈ classSitesAll "" items,
      let d := s.declaration (ModuleScope.ofItems? items) site
      ∀ marker registry, d.registerMarker? options.marker = some marker →
        d.registryName marker options.registryArgument = .ok registry →
        (d.member? options = .error (.unexportedType d.name registry d.context) ↔
          (∃ item ∈ items, isModuleItem item = true) ∧ (IsItemClass items site →
            ∀ item ∈ items, ∀ number e, ¬ HandsOut item number d.name e)) := by
  have hcollect := (generate_eq_ok_iff.mp h).1
  refine ⟨fun unit hunit => ?_, fun r hr => ?_,
    fun s items _ site _ marker registry hmarker hregistry => ?_⟩
  · obtain ⟨r, hr, -, -, hu⟩ := exists_of_mem_units h hunit
    exact ⟨r, hr, hu⟩
  · obtain ⟨first, hf⟩ := ((Registries.grouped_of_collect hcollect).isUniform r hr).exists_canonical
    obtain ⟨g', unit, hg, -, hunit, -, hu⟩ :=
      exists_generation_of_collect hcollect hr workingDirectory emit
    obtain rfl : g = g' := Except.ok.inj (h.symm.trans hg)
    obtain ⟨-, opening, closing, hcontents, hframe, -⟩ := Registry.exists_lines_of_unit? hf hu
    refine ⟨unit, hunit, hu, ⟨_, opening, closing, hcontents, hframe⟩, fun m hm e he => ?_⟩
    refine ⟨Registry.constructs_of_exportName? hm he workingDirectory emit, ?_⟩
    obtain ⟨s, hs, items, site, hitems, hsite, hname, hplace, hclass, hfirst⟩ :=
      exists_firstExport_of_member hread hcollect hr hm he
    obtain ⟨before, item, after, number, hfirst⟩ := isFirstExport_iff.mp hfirst
    exact ⟨s, hs, items, site, hitems, hsite, hname, hplace, hclass, before, item, after, number,
      hfirst, hfirst.isTypeOnly_iff⟩
  · rw [ClassDeclaration.member?_eq_unexportedType_iff hmarker hregistry]
    exact Source.isHidden_of_declaration_iff

/-- A pass over one file that is found to read and to give something does so. -/
theorem exists_generation_of_any (s : Source) {p : List (Node s.code) → Bool}
    {q : Registry → Bool} (hitems : s.items.toOption.any p = true)
    (hmembers : ((Source.allDeclarations [s]).toOption.any fun declarations =>
      (Registries.collect declarations .standard).toOption.any (·.any q)) = true)
    (workingDirectory : Path) (emit : EmitOptions) :
    ∃ items declarations g r, s.items = .ok items ∧ p items = true ∧
      Source.allDeclarations [s] = .ok declarations ∧
      generate workingDirectory .standard emit declarations = .ok g ∧ r ∈ g.registries ∧
      q r = true := by
  obtain ⟨items, hitems, hp⟩ := exists_ok_of_any hitems
  obtain ⟨declarations, registries, r, hread, hcollect, hr, hq⟩ :=
    Source.exists_collected_of_any [s] hmembers
  obtain ⟨g, -, hg, rfl, -⟩ := exists_generation_of_collect hcollect hr workingDirectory emit
  exact ⟨items, declarations, g, r, hitems, hp, hread, hg, hr, hq⟩

/-- A module that hands out a class as a value, and then once more as a type. -/
def swordModule : Source :=
  ⟨"src/sword.ts", ("@Register(\"Inventory\") class Sword \x7b\x7d " ++
    "export \x7b Sword \x7d; export type \x7b Sword as Kind \x7d;").toList⟩

/-- The class is imported as a value, by its first export. -/
theorem class_imports_of_swordModule : ∃ items declarations g r m,
    swordModule.items = .ok items ∧ Source.allDeclarations [swordModule] = .ok declarations ∧
    generate ⟨"/"⟩ .standard ⟨"ts", ⟨"src/generated"⟩⟩ declarations = .ok g ∧ r ∈ g.registries ∧
    m ∈ r.members ∧ m.exportName? = some (.named "Sword") ∧
    r.Constructs ⟨"/"⟩ ⟨"ts", ⟨"src/generated"⟩⟩ m (.named "Sword") ∧
    IsFirstExport items m.typeName (.named "Sword") ∧
    ¬ IsTypeOnly items m.typeName (.named "Sword") ∧
    IsTypeOnly items m.typeName (.named "Kind") := by
  obtain ⟨items, declarations, g, r, hitems, hexports, hread, hg, hr, hq⟩ :=
    exists_generation_of_any swordModule
      (p := fun items => decide (¬ IsTypeOnly items "Sword" (.named "Sword") ∧
        IsTypeOnly items "Sword" (.named "Kind")))
      (q := fun r => r.members.any fun m =>
        decide (m.typeName = "Sword" ∧ m.exportName? = some (.named "Sword")))
      (by decide +kernel) (by decide +kernel) ⟨"/"⟩ ⟨"ts", ⟨"src/generated"⟩⟩
  obtain ⟨m, hm, hmember⟩ := List.any_eq_true.mp hq
  obtain ⟨hname, he⟩ := of_decide_eq_true hmember
  obtain ⟨-, hregistries, -⟩ := class_imports_of_generate hread hg
  obtain ⟨-, -, -, -, himported⟩ := hregistries r hr
  obtain ⟨hconstructs, s, hs, items', site, hitems', -, -, -, -, hfirst⟩ := himported m hm _ he
  obtain rfl := List.mem_singleton.mp hs
  obtain rfl := Except.ok.inj (hitems.symm.trans hitems')
  obtain ⟨before, item, after, number, hfirst, -⟩ := hfirst
  refine ⟨items, declarations, g, r, m, hitems, hread, hg, hr, hm, he, hconstructs,
    isFirstExport_iff.mpr ⟨before, item, after, number, hfirst⟩, ?_⟩
  rw [hname]
  exact of_decide_eq_true hexports

/-- A module that hands out a class as a type only. -/
def shieldModule : Source :=
  ⟨"src/shield.ts", ("@Register(\"Inventory\") class Shield \x7b\x7d " ++
    "export type \x7b Shield \x7d;").toList⟩

/-- What the unit of its registry holds. -/
def contentsOfShield : String :=
  linesText
    [generatedHeader,
      importLine "\x7b Shield \x7d" "../shield",
      "",
      "export namespace InventoryHelper \x7b",
      "    export const Type: Map<string, unknown> = new Map<string, unknown>([",
      "        [\"Shield\", new Shield()],",
      "    ]);",
      "\x7d"]

/-- The class is not refused: it is imported by the name of a type, and constructed. -/
theorem imported_class_is_type : ∃ items declarations g r m,
    shieldModule.items = .ok items ∧ Source.allDeclarations [shieldModule] = .ok declarations ∧
    generate ⟨"/"⟩ .standard ⟨"ts", ⟨"src/generated"⟩⟩ declarations = .ok g ∧ r ∈ g.registries ∧
    m ∈ r.members ∧ m.exportName? = some (.named "Shield") ∧
    (r.unit? ⟨"/"⟩ ⟨"ts", ⟨"src/generated"⟩⟩).map (·.contents) = some contentsOfShield ∧
    IsTypeOnly items m.typeName (.named "Shield") ∧
    ∀ item ∈ items, ∀ number e, ¬ HandsOutValue item number m.typeName e := by
  obtain ⟨items, declarations, g, r, hitems, hexports, hread, hg, hr, hq⟩ :=
    exists_generation_of_any shieldModule
      (p := fun items => decide (IsTypeOnly items "Shield" (.named "Shield") ∧
        ∀ item ∈ items, exportedValues item = []))
      (q := fun r => r.members.any fun m =>
        decide (m.typeName = "Shield" ∧ m.exportName? = some (.named "Shield") ∧
          (r.unit? ⟨"/"⟩ ⟨"ts", ⟨"src/generated"⟩⟩).map (·.contents) = some contentsOfShield))
      (by decide +kernel) (by decide +kernel) ⟨"/"⟩ ⟨"ts", ⟨"src/generated"⟩⟩
  obtain ⟨m, hm, hmember⟩ := List.any_eq_true.mp hq
  obtain ⟨hname, he, hcontents⟩ := of_decide_eq_true hmember
  obtain ⟨htype, hnone⟩ := of_decide_eq_true hexports
  refine ⟨items, declarations, g, r, m, hitems, hread, hg, hr, hm, he, hcontents, hname ▸ htype, ?_⟩
  intro item hitem number e hvalue
  have hmem := mem_exportedValues_iff.mpr ⟨number, hvalue⟩
  rw [hnone item hitem] at hmem
  cases hmem

end ClassRegistry
