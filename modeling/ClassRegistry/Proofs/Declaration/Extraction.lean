import ClassRegistry.Declaration.Extraction
import ClassRegistry.Proofs.Registry.Membership
import Mathlib.Data.List.TakeWhile

/-!
# Declarations of sources

A declaration of several sources comes from a class of one of them, in the order of the sources.
What it says of its base type is read off the scope of its own module alone: the name that the base
type starts with, as this module imports or exports it.
-/

namespace ClassRegistry

open TypeScript (Node)

/-- The import behind the base type of a class. -/
def ClassDeclaration.baseImport? (d : ClassDeclaration) : Option TypeImport :=
  d.origin.bind (·.baseImport)

/-- The import behind the base type of a member. -/
def Member.baseImport? (m : Member) : Option TypeImport :=
  m.origin.bind (·.baseImport)

/-- A member keeps the import behind the base type of its class. -/
theorem ClassDeclaration.baseImport?_of_member? {d : ClassDeclaration} {options : CollectOptions}
    {m : Member} (hm : d.member? options = .ok (some m)) : m.baseImport? = d.baseImport? := by
  rw [ClassDeclaration.eq_of_member?_eq_some hm]
  rfl

namespace ModuleScope

variable {scope : ModuleScope} {file type : String} {base : TypeImport}

/-- The name that a name starts with is the name itself. -/
theorem rootName_rootName (type : String) : rootName (rootName type) = rootName type := by
  rw [rootName, rootName, String.toList_ofList, List.takeWhile_idem]

/-- Only the name that a type starts with is looked up. -/
theorem typeImport?_rootName (scope : ModuleScope) (file type : String) :
    scope.typeImport? file (rootName type) = scope.typeImport? file type := by
  simp only [typeImport?, rootName_rootName]

/-- An import for a type is under the name that the type starts with. -/
theorem name_of_typeImport?_eq_some (h : scope.typeImport? file type = some base) :
    base.name = rootName type := by
  rw [typeImport?] at h
  split at h
  · rw [← Option.some.inj h]
  · obtain ⟨exported, -, rfl⟩ := Option.map_eq_some_iff.mp h
    rfl

/-- There is an import for a type when the module imports or exports the name it starts with. -/
theorem typeImport?_isSome_iff :
    (scope.typeImport? file type).isSome = true ↔
      (scope.import? (rootName type)).isSome = true ∨
        (scope.export? (rootName type)).isSome = true := by
  cases hi : scope.import? (rootName type) with
  | none => simp [typeImport?, hi]
  | some found => simp [typeImport?, hi]

end ModuleScope

namespace Source

/-- The scope of a source, none for a global script and for a source that cannot be read. -/
def scope? (s : Source) : Option ModuleScope :=
  match s.items with
  | .ok items => ModuleScope.ofItems? items
  | .error _ => none

/-- What a type stands for in a source, as far as its module binds it. -/
def typeImport? (s : Source) (type : String) : Option TypeImport :=
  s.scope?.bind (·.typeImport? s.file type)

/-- Only the name that a type starts with is looked up. -/
theorem typeImport?_rootName (s : Source) (type : String) :
    s.typeImport? (ModuleScope.rootName type) = s.typeImport? type := by
  simp only [typeImport?, ModuleScope.typeImport?_rootName]

/-- What a type stands for is known under the name that the type starts with. -/
theorem name_of_typeImport?_eq_some {s : Source} {type : String} {base : TypeImport}
    (h : s.typeImport? type = some base) : base.name = ModuleScope.rootName type := by
  obtain ⟨scope, -, hbase⟩ := Option.bind_eq_some_iff.mp h
  exact ModuleScope.name_of_typeImport?_eq_some hbase

/-- A declaration is that of a class in a source that can be read. -/
def Declares (s : Source) (d : ClassDeclaration) : Prop :=
  ∃ items, s.items = .ok items ∧ ∃ site ∈ classSitesAll "" items,
    d = s.declaration (ModuleScope.ofItems? items) site

/-- The declarations of a source are those of its classes. -/
theorem mem_declarationsOf_iff {s : Source} {items : List (Node s.code)} (h : s.items = .ok items)
    {d : ClassDeclaration} : d ∈ s.declarationsOf items ↔ s.Declares d := by
  rw [declarationsOf, List.mem_map]
  constructor
  · rintro ⟨site, hsite, rfl⟩
    exact ⟨items, h, site, hsite, rfl⟩
  · rintro ⟨others, hothers, site, hsite, rfl⟩
    obtain rfl : items = others := Except.ok.inj (h.symm.trans hothers)
    exact ⟨site, hsite, rfl⟩

/-- The declarations of several sources are those of the classes in each of them. -/
theorem mem_allDeclarations_iff {sources : List Source} {declarations : List ClassDeclaration}
    (h : allDeclarations sources = .ok declarations) {d : ClassDeclaration} :
    d ∈ declarations ↔ ∃ s ∈ sources, s.Declares d := by
  induction sources generalizing declarations with
  | nil =>
      obtain rfl : [] = declarations := Except.ok.inj h
      simp
  | cons s rest ih =>
      rw [allDeclarations, List.mapM_cons] at h
      cases hitems : s.items with
      | error e =>
          rw [Source.declarations, hitems] at h
          cases h
      | ok items =>
          cases hrest : rest.mapM Source.declarations with
          | error e =>
              rw [Source.declarations, hitems, hrest] at h
              cases h
          | ok others =>
              rw [Source.declarations, hitems, hrest] at h
              obtain rfl : s.declarationsOf items ++ others.flatten = declarations :=
                Except.ok.inj h
              have hothers : allDeclarations rest = .ok others.flatten := by
                rw [allDeclarations, hrest]
                rfl
              rw [List.mem_append, mem_declarationsOf_iff hitems, ih hothers]
              simp only [List.mem_cons, exists_eq_or_imp]

/-- What a class says of its base type is what the base type stands for in its source. -/
theorem Declares.baseImport?_eq {s : Source} {d : ClassDeclaration} (h : s.Declares d) :
    d.baseImport? = d.baseTypes.head?.bind s.typeImport? := by
  obtain ⟨items, hitems, site, -, rfl⟩ := h
  simp only [ClassDeclaration.baseImport?, declaration]
  cases site.baseTypes.head? with
  | none => cases ho : ModuleScope.ofItems? items <;> simp [ModuleScope.origin]
  | some base =>
      cases ho : ModuleScope.ofItems? items <;>
        simp [Source.typeImport?, scope?, hitems, ho, ModuleScope.origin]

/-- A base type stands for what it stands for in the source of its class. -/
theorem Declares.baseImport?_of_baseType {s : Source} {d : ClassDeclaration} (h : s.Declares d)
    (hbase : d.baseTypes ≠ []) : d.baseImport? = s.typeImport? d.baseType := by
  obtain ⟨base, more, hb⟩ := List.exists_cons_of_ne_nil hbase
  rw [h.baseImport?_eq, ClassDeclaration.baseType, hb, List.head?_cons, List.headD_cons,
    Option.bind_some]

/-- A class whose base type stands for something has a base type. -/
theorem Declares.baseType_of_baseImport? {s : Source} {d : ClassDeclaration} (h : s.Declares d)
    {base : TypeImport} (hb : d.baseImport? = some base) :
    d.baseTypes ≠ [] ∧ s.typeImport? d.baseType = some base := by
  have hbase : d.baseTypes ≠ [] := by
    intro hnone
    rw [h.baseImport?_eq, hnone] at hb
    simp at hb
  exact ⟨hbase, (h.baseImport?_of_baseType hbase).symm.trans hb⟩

/-- What sources are found to give, they give. -/
theorem exists_collected_of_any (sources : List Source) {p : Registry → Bool}
    (h : ((Source.allDeclarations sources).toOption.any fun declarations =>
      (Registries.collect declarations .standard).toOption.any (·.any p)) = true) :
    ∃ declarations registries r, Source.allDeclarations sources = .ok declarations ∧
      Registries.collect declarations .standard = .ok registries ∧ r ∈ registries ∧
      p r = true := by
  obtain ⟨declarations, hd, hany⟩ := exists_ok_of_any h
  obtain ⟨registries, r, hc, hr, hp⟩ := Registries.exists_collected_of_any declarations hany
  exact ⟨declarations, registries, r, hd, hc, hr, hp⟩

end Source

end ClassRegistry
