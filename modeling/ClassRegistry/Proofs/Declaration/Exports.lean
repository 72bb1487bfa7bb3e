import ClassRegistry.Proofs.Declaration.Sites
import Mathlib.Data.List.Pairwise

/-!
# Exports of classes

A module hands out names by its items, and for each name the first export counts, in the order of
the items and of the names in their lists. The class that is meant is the one that is an item of the
module itself: it is told from classes of the same name inside of functions and namespaces by the
place of its name in the text. So a class has an export name exactly when it is such an item and its
name is handed out, and that name is the one of the first export.
-/

namespace ClassRegistry

open TypeScript (Node Code Ident Place StandsIn ExportBinding NamespaceName Span)

variable {code : Code}

/-! ## Exported names -/

/-- The declarations that can be exported for their type, with the name they bind: classes,
interfaces, type aliases, enumerations and namespaces. -/
inductive NamesType : Node code → String → Prop
  | classDefinition {span : Span} {isDeclaration : Bool} {name : Ident code}
    {decorators parameters implemented members : List (Node code)}
    {superclass superArguments : Option (Node code)} :
    NamesType (.classDefinition span isDeclaration (some name) decorators parameters superclass
      superArguments implemented members) name.name
  | typeDeclaration {span : Span} {name : Ident code} {parts : List (Node code)} :
    NamesType (.typeDeclaration span name parts) name.name
  | namespaceBlock {span : Span} {first : String} {rest : List String} {body : List (Node code)} :
    NamesType (.namespaceBlock span (.dotted first rest) body) first
  | globalScope {span : Span} {body : List (Node code)} :
    NamesType (.namespaceBlock span .globalScope body) "global"

/-- What can be exported by default under a name of its own: named declarations and bare names. -/
inductive NamesDefault : Node code → String → Prop
  | classDefinition {span : Span} {isDeclaration : Bool} {name : Ident code}
    {decorators parameters implemented members : List (Node code)}
    {superclass superArguments : Option (Node code)} :
    NamesDefault (.classDefinition span isDeclaration (some name) decorators parameters superclass
      superArguments implemented members) name.name
  | function {span : Span} {name : Ident code}
    {decorators parameters types body : List (Node code)} :
    NamesDefault (.function span (some name) decorators parameters types body) name.name
  | typeDeclaration {span : Span} {name : Ident code} {parts : List (Node code)} :
    NamesDefault (.typeDeclaration span name parts) name.name
  | identifier {name : Ident code} : NamesDefault (.identifier name) name.name

/-- An item hands out a name of its module by an export name. The number is that of the name in a
list of exports; the other forms hand out one name. -/
inductive HandsOut : Node code → Nat → String → ExportName → Prop
  | declaration {span : Span} {declaration : Node code} {name : String} :
    NamesType declaration name →
      HandsOut (.exportDeclaration span declaration) 0 name (.named name)
  | byDefault {span : Span} {value : Node code} {name : String} :
    NamesDefault value name → HandsOut (.exportDefault span value) 0 name .default
  | listed {span : Span} {bindings : List ExportBinding} {number : Nat} {b : ExportBinding} :
    bindings[number]? = some b → b.exportedName ≠ "default" →
      HandsOut (.exportNames span bindings) number b.localName (.named b.exportedName)
  | listedDefault {span : Span} {bindings : List ExportBinding} {number : Nat}
    {b : ExportBinding} : bindings[number]? = some b → b.exportedName = "default" →
      HandsOut (.exportNames span bindings) number b.localName .default

/-- The name of a declaration as a type is told by its form. -/
theorem namesType_iff {declaration : Node code} {name : String} :
    NamesType declaration name ↔ declaredTypeName? declaration = some name := by
  constructor
  · rintro (_ | _ | _ | _) <;> rfl
  · intro h
    unfold declaredTypeName? at h
    split at h
    · exact Option.some.inj h ▸ .classDefinition
    · exact Option.some.inj h ▸ .typeDeclaration
    · exact Option.some.inj h ▸ .namespaceBlock
    · exact Option.some.inj h ▸ .globalScope
    · cases h

/-- The name of a default export is told by its form. -/
theorem namesDefault_iff {value : Node code} {name : String} :
    NamesDefault value name ↔ defaultName? value = some name := by
  constructor
  · rintro (_ | _ | _ | _) <;> rfl
  · intro h
    unfold defaultName? at h
    split at h
    · exact Option.some.inj h ▸ .classDefinition
    · exact Option.some.inj h ▸ .function
    · exact Option.some.inj h ▸ .typeDeclaration
    · exact Option.some.inj h ▸ .identifier
    · cases h

theorem getElem?_map_toList_eq_some {α β : Type} {found : Option α} {f : α → β} {number : Nat}
    {b : β} : (found.toList.map f)[number]? = some b ↔
      number = 0 ∧ ∃ a, found = some a ∧ f a = b := by
  cases found <;> cases number <;> simp

/-- The exported names of an item are those that it hands out, by their numbers. -/
theorem handsOut_iff {item : Node code} {number : Nat} {name : String} {e : ExportName} :
    HandsOut item number name e ↔ (exportedNames item)[number]? = some (name, e) := by
  constructor
  · rintro (h | h | ⟨hb, hname⟩ | ⟨hb, hname⟩)
    · simp [exportedNames, namesType_iff.mp h]
    · simp [exportedNames, namesDefault_iff.mp h]
    · simp [exportedNames, hb, ExportName.ofText, hname]
    · simp [exportedNames, hb, ExportName.ofText, hname]
  · intro h
    cases item with
    | exportDeclaration span declaration =>
        obtain ⟨rfl, found, hfound, he⟩ := getElem?_map_toList_eq_some.mp h
        obtain ⟨rfl, rfl⟩ := Prod.mk.inj he
        exact .declaration (namesType_iff.mpr hfound)
    | exportDefault span value =>
        obtain ⟨rfl, found, hfound, he⟩ := getElem?_map_toList_eq_some.mp h
        obtain ⟨rfl, rfl⟩ := Prod.mk.inj he
        exact .byDefault (namesDefault_iff.mpr hfound)
    | exportNames span bindings =>
        rw [exportedNames, List.getElem?_map, Option.map_eq_some_iff] at h
        obtain ⟨b, hb, he⟩ := h
        obtain ⟨rfl, rfl⟩ := Prod.mk.inj he
        rw [ExportName.ofText]
        split
        · rename_i hname
          exact .listedDefault hb hname
        · rename_i hname
          exact .listed hb hname
    | _ => simp [exportedNames] at h

/-- The first export of a name in a module: no item before it hands out the name, nor does the same
item in front of it. -/
def IsFirstExport (items : List (Node code)) (name : String) (e : ExportName) : Prop :=
  ∃ before item after number, items = before ++ item :: after ∧ HandsOut item number name e ∧
    (∀ other ∈ before, ∀ n other', ¬ HandsOut other n name other') ∧
    ∀ n < number, ∀ other', ¬ HandsOut item n name other'

/-- An item exports no name that it does not hand out. -/
theorem find?_exportedNames_eq_none_iff {item : Node code} {name : String} :
    (exportedNames item).find? (·.1 = name) = none ↔ ∀ number e, ¬ HandsOut item number name e := by
  simp only [handsOut_iff, List.find?_eq_none, List.mem_iff_getElem?]
  constructor
  · intro h number e hget
    exact h (name, e) ⟨number, hget⟩ (by simp)
  · rintro h ⟨other, e⟩ ⟨number, hget⟩ hname
    obtain rfl : other = name := by simpa using hname
    exact h number e hget

/-- The first export of a name among those of one item. -/
theorem find?_exportedNames_eq_some_iff {item : Node code} {name : String} {e : ExportName} :
    (exportedNames item).find? (·.1 = name) = some (name, e) ↔
      ∃ number, HandsOut item number name e ∧
        ∀ n < number, ∀ other, ¬ HandsOut item n name other := by
  simp only [handsOut_iff, List.find?_eq_some_iff_getElem, decide_true, true_and]
  constructor
  · rintro ⟨number, hlt, hget, hbefore⟩
    refine ⟨number, List.getElem?_eq_some_iff.mpr ⟨hlt, hget⟩, ?_⟩
    intro n hn other hother
    obtain ⟨hlt', hget'⟩ := List.getElem?_eq_some_iff.mp hother
    simpa [hget'] using hbefore n hn
  · rintro ⟨number, hget, hbefore⟩
    obtain ⟨hlt, hget⟩ := List.getElem?_eq_some_iff.mp hget
    refine ⟨number, hlt, hget, ?_⟩
    intro n hn
    have hne : (exportedNames item)[n].1 ≠ name := by
      intro hname
      exact hbefore n hn _ (List.getElem?_eq_some_iff.mpr ⟨by omega, Prod.ext hname rfl⟩)
    simpa using hne

/-- A scope is read off the items of its module. -/
theorem ModuleScope.eq_of_ofItems? {items : List (Node code)} {scope : ModuleScope}
    (h : ofItems? items = some scope) :
    scope = ⟨items.flatMap importedBindings, items.flatMap exportedNames,
      items.filterMap fun item => (itemClass? item).map (·.span.start)⟩ := by
  rw [ofItems?] at h
  split at h
  · exact (Option.some.inj h).symm
  · cases h

/-- The export name of a name in a module is that of its first export. -/
theorem ModuleScope.export?_eq_some_iff {items : List (Node code)} {scope : ModuleScope}
    (h : ofItems? items = some scope) {name : String} {e : ExportName} :
    scope.export? name = some e ↔ IsFirstExport items name e := by
  rw [export?, eq_of_ofItems? h, List.find?_flatMap]
  constructor
  · intro h
    obtain ⟨⟨other, e⟩, hfound, rfl⟩ := Option.map_eq_some_iff.mp h
    obtain ⟨before, item, after, rfl, hitem, hbefore⟩ := List.findSome?_eq_some_iff.mp hfound
    obtain rfl : other = name := by simpa using List.find?_some hitem
    obtain ⟨number, hhands, hfirst⟩ := find?_exportedNames_eq_some_iff.mp hitem
    exact ⟨before, item, after, number, rfl, hhands,
      fun item' hitem' => find?_exportedNames_eq_none_iff.mp (hbefore item' hitem'), hfirst⟩
  · rintro ⟨before, item, after, number, rfl, hhands, hbefore, hfirst⟩
    refine Option.map_eq_some_iff.mpr ⟨(name, e), List.findSome?_eq_some_iff.mpr
      ⟨before, item, after, rfl, ?_, ?_⟩, rfl⟩
    · exact find?_exportedNames_eq_some_iff.mpr ⟨number, hhands, hfirst⟩
    · exact fun item' hitem' => find?_exportedNames_eq_none_iff.mpr (hbefore item' hitem')

/-! ## Classes that are items -/

/-- The places of the items of a module, or of what they export. -/
inductive IsItem (items : List (Node code)) : Place code → Prop
  | statement {number : Nat} {node : Node code} :
    items[number]? = some node → IsItem items ⟨[number], [], node⟩
  | exported {number : Nat} {span : Span} {node : Node code} :
    items[number]? = some (.exportDeclaration span node) →
      IsItem items ⟨[number, 0], [.exportDeclaration span node], node⟩
  | exportedDefault {number : Nat} {span : Span} {node : Node code} :
    items[number]? = some (.exportDefault span node) →
      IsItem items ⟨[number, 0], [.exportDefault span node], node⟩

variable {items : List (Node code)} {p q : Place code}

/-- An item stands in its module. -/
theorem IsItem.standsIn (h : IsItem items p) : StandsIn items p := by
  cases h with
  | statement h => exact .top h
  | exported h => exact .inside (p := ⟨[0], [], _⟩) h (.top rfl)
  | exportedDefault h => exact .inside (p := ⟨[0], [], _⟩) h (.top rfl)

/-- The class of an item is the one that is declared at its place. -/
theorem exists_itemClass?_iff {ident : Ident code} :
    (∃ item ∈ items, itemClass? item = some ident) ↔
      ∃ p site, IsItem items p ∧ declaredClassAt? "" p = some site ∧ site.name = ident := by
  constructor
  · rintro ⟨item, hmem, hclass⟩
    obtain ⟨number, hitem⟩ := List.mem_iff_getElem?.mp hmem
    unfold itemClass? at hclass
    split at hclass
    · subst hclass
      exact ⟨_, _, .statement hitem, rfl, rfl⟩
    · subst hclass
      exact ⟨_, _, .exported hitem, rfl, rfl⟩
    · subst hclass
      exact ⟨_, _, .exportedDefault hitem, rfl, rfl⟩
    · cases hclass
  · rintro ⟨p, site, hitem, hsite, rfl⟩
    obtain ⟨-, span, parameters, members, hnode⟩ := eq_of_declaredClass? hsite
    cases hitem with
    | statement hitem =>
        obtain rfl := hnode
        exact ⟨_, List.mem_of_getElem? hitem, rfl⟩
    | exported hitem =>
        obtain rfl := hnode
        exact ⟨_, List.mem_of_getElem? hitem, rfl⟩
    | exportedDefault hitem =>
        obtain rfl := hnode
        exact ⟨_, List.mem_of_getElem? hitem, rfl⟩

/-- Classes whose names start in different places are declared in different places. -/
theorem StandsIn.eq_of_start_eq
    (hnodup : ((classSitesAll "" items).map (·.name.span.start)).Nodup)
    (hp : StandsIn items p) (hq : StandsIn items q) {site other : ClassSite code}
    (hsite : declaredClassAt? "" p = some site) (hother : declaredClassAt? "" q = some other)
    (h : site.name.span.start = other.name.span.start) : p = q := by
  obtain ⟨places, hplaces⟩ := exists_isWalkOf items
  rw [hplaces.classSites_eq, List.Nodup, List.pairwise_map, List.pairwise_filterMap] at hnodup
  have hsymm : Std.Symm fun p q : Place code => ∀ a, declaredClassAt? "" p = some a →
      ∀ b, declaredClassAt? "" q = some b → a.name.span.start ≠ b.name.span.start :=
    ⟨fun p q hne a ha b hb => (hne b hb a ha).symm⟩
  by_contra hne
  exact hnodup.forall ((hplaces.mem_iff p).mpr hp) ((hplaces.mem_iff q).mpr hq) hne site hsite other
    hother h

/-- The places that a scope keeps are those of the names of classes that are items. -/
theorem ModuleScope.contains_classes_iff {scope : ModuleScope} (h : ofItems? items = some scope)
    {start : Nat} : scope.classes.contains start = true ↔
      ∃ p site, IsItem items p ∧ declaredClassAt? "" p = some site ∧
        site.name.span.start = start := by
  simp only [eq_of_ofItems? h, List.contains_iff_mem, List.mem_filterMap, Option.map_eq_some_iff]
  constructor
  · rintro ⟨item, hitem, ident, hclass, rfl⟩
    obtain ⟨p, site, hp, hsite, rfl⟩ := exists_itemClass?_iff.mp ⟨item, hitem, hclass⟩
    exact ⟨p, site, hp, hsite, rfl⟩
  · rintro ⟨p, site, hp, hsite, rfl⟩
    obtain ⟨item, hitem, hclass⟩ := exists_itemClass?_iff.mpr ⟨p, site, hp, hsite, rfl⟩
    exact ⟨item, hitem, site.name, hclass, rfl⟩

/-! ## Export names -/

/-- Without an item that imports or exports there is no scope. -/
theorem ModuleScope.ofItems?_eq_none_iff :
    ofItems? items = none ↔ ∀ item ∈ items, isModuleItem item = false := by
  simp [ofItems?]

namespace Source

/-- The classes of a file are those declared at its places. In a file that neither imports nor
exports none has a module. In a module all have one, and when no two of their names start in one
place, the classes with an export name are the items of the module that hands their name out, and
they have the name of its first export. -/
theorem exports_of_declarationsOf (s : Source) (items : List (Node s.code))
    (hnodup : ((classSitesAll "" items).map (·.name.span.start)).Nodup) :
    (∀ d, d ∈ s.declarationsOf items ↔ ∃ p, s.DeclaresAt items p d) ∧
    ∀ p d, s.DeclaresAt items p d →
      (d.origin = none ↔ ∀ item ∈ items, isModuleItem item = false) ∧
      ∀ origin, d.origin = some origin → ∀ e,
        origin.exportName = some e ↔ IsItem items p ∧ IsFirstExport items d.name e := by
  obtain ⟨places, hplaces⟩ := exists_isWalkOf items
  refine ⟨fun d => ?_, fun p d hd => ?_⟩
  · simp only [declarationsOf, hplaces.classSites_eq, List.map_filterMap, List.mem_filterMap,
      Option.map_eq_some_iff, declaresAt_iff, hplaces.mem_iff]
  · obtain ⟨hp, site, hsite, rfl⟩ := declaresAt_iff.mp hd
    refine ⟨?_, fun origin horigin e => ?_⟩
    · rw [← ModuleScope.ofItems?_eq_none_iff, declaration, Option.map_eq_none_iff]
    · obtain ⟨scope, hscope, rfl⟩ := Option.map_eq_some_iff.mp horigin
      rw [ModuleScope.origin]
      constructor
      · intro he
        split at he
        case isFalse => cases he
        case isTrue hstart =>
          obtain ⟨q, other, hq, hother, hsame⟩ :=
            (ModuleScope.contains_classes_iff hscope).mp hstart
          obtain rfl := StandsIn.eq_of_start_eq hnodup hp hq.standsIn hsite hother hsame.symm
          exact ⟨hq, (ModuleScope.export?_eq_some_iff hscope).mp he⟩
      · rintro ⟨hitem, hfirst⟩
        have hstart := (ModuleScope.contains_classes_iff hscope).mpr ⟨p, site, hitem, hsite, rfl⟩
        rw [if_pos hstart]
        exact (ModuleScope.export?_eq_some_iff hscope).mpr hfirst

/-- A module that hands out a class twice, first in front of it, and has another one of its name. -/
def fooModule : Source :=
  ⟨"src/foo.ts", ("export \x7b Foo as Bar \x7d; class Foo \x7b\x7d " ++
    "namespace Inner \x7b export class Foo \x7b\x7d \x7d export default Foo;").toList⟩

/-- The class that is an item has the name of the first export, the other one has none. -/
theorem exports_of_fooModule : ∃ items first second p q, fooModule.items = .ok items ∧
    fooModule.declarationsOf items = [first, second] ∧
    (first.scope = "" ∧ first.name = "Foo" ∧ fooModule.DeclaresAt items p first ∧
      IsItem items p ∧ IsFirstExport items first.name (.named "Bar")) ∧
    second.scope = "Inner" ∧ second.name = "Foo" ∧ fooModule.DeclaresAt items q second ∧
      ¬ IsItem items q := by
  have h : fooModule.items.toOption.any (fun items =>
      decide (((classSitesAll "" items).map (·.name.span.start)).Nodup ∧
        (fooModule.declarationsOf items).map (fun d =>
          (d.scope, d.name, d.origin.map (·.exportName))) =
            [("", "Foo", some (some (.named "Bar"))), ("Inner", "Foo", some none)])) = true := by
    decide +kernel
  cases hitems : fooModule.items with
  | error e => simp [hitems, Except.toOption] at h
  | ok items =>
      rw [hitems] at h
      obtain ⟨hnodup, hfound⟩ := of_decide_eq_true h
      obtain ⟨first, rest, hdeclarations, hfirst, hrest⟩ := List.map_eq_cons_iff.mp hfound
      obtain ⟨second, more, rfl, hsecond, hmore⟩ := List.map_eq_cons_iff.mp hrest
      obtain rfl := List.map_eq_nil_iff.mp hmore
      obtain ⟨hmem, hexports⟩ := exports_of_declarationsOf fooModule items hnodup
      obtain ⟨p, hp⟩ := (hmem first).mp (by simp [hdeclarations])
      obtain ⟨q, hq⟩ := (hmem second).mp (by simp [hdeclarations])
      simp only [Prod.mk.injEq, Option.map_eq_some_iff] at hfirst hsecond
      obtain ⟨hfirstScope, hfirstName, origin, horigin, hexport⟩ := hfirst
      obtain ⟨hsecondScope, hsecondName, other, hother, hnone⟩ := hsecond
      have hitem := ((hexports p first hp).2 origin horigin _).mp hexport
      refine ⟨items, first, second, p, q, rfl, hdeclarations,
        ⟨hfirstScope, hfirstName, hp, hitem⟩, hsecondScope, hsecondName, hq, fun hinner => ?_⟩
      have hexported := ((hexports q second hq).2 other hother (.named "Bar")).mpr
        ⟨hinner, by rw [hsecondName, ← hfirstName]; exact hitem.2⟩
      rw [hnone] at hexported
      cases hexported

end Source

end ClassRegistry
