import ClassRegistry.Generated.Specifier
import ClassRegistry.Proofs.Declaration.Extraction

/-!
# The base type of a registry

The members of a registry share the text of their base type. What this text stands for is settled in
the module of each member by the name that the text starts with, and no check compares that: the
pass gives the same outcome whatever the imports behind the base types are. So the members have one
base type exactly when the declarations that come to the registry agree on it.
-/

namespace ClassRegistry

/-! ## What an import stands for -/

/-- A text without the ending of a script source. -/
def Path.withoutSourceEnding (text : String) : String :=
  let fitting := scriptEndings.findSome? fun (ending, _) =>
    (withoutEnding? ending.toList text.toList).map String.ofList
  fitting.getD text

/-- A source with the path of a file normalised and without the ending of a script. -/
def ImportSource.normalized : ImportSource → ImportSource
  | .file path => .file (Path.withoutSourceEnding (Path.mk path).normalize.text)
  | .package name => .package name

/-- What an import takes and from where; the local name does not matter. -/
def TypeImport.meaning (base : TypeImport) : ImportedName × ImportSource :=
  (base.imported, base.source.normalized)

/-- All base types that come from modules are written alike and stand for the same. -/
def Registry.HasOneBase (r : Registry) : Prop :=
  ∀ m ∈ r.members, ∀ n ∈ r.members, ∀ b c, m.baseImport? = some b → n.baseImport? = some c →
    m.baseType = n.baseType ∧ b.meaning = c.meaning

/-- A source has a class with a base type that becomes a member of the registry of a name. -/
def Source.Enters (options : CollectOptions) (name : String) (s : Source) : Prop :=
  ∃ d, s.Declares d ∧ d.baseTypes ≠ [] ∧ d.Enters options name

/-! ## Other imports behind base types -/

/-- The import behind the base type, told anew from the place of the class. -/
def ModuleOrigin.rebind (change : SourceContext → Option TypeImport) (context : SourceContext)
    (origin : ModuleOrigin) : ModuleOrigin :=
  { origin with baseImport := change context }

section Rebind

variable (change : SourceContext → Option TypeImport) {options : CollectOptions}

/-- A class with another import behind its base type. -/
def ClassDeclaration.rebind (d : ClassDeclaration) : ClassDeclaration :=
  { d with origin := d.origin.map (·.rebind change d.context) }

/-- A member with another import behind its base type. -/
def Member.rebind (m : Member) : Member :=
  { m with origin := m.origin.map (·.rebind change m.context) }

/-- A registry with other imports behind the base types of its members. -/
def Registry.rebind (r : Registry) : Registry :=
  { r with members := r.members.map (·.rebind change) }

/-- The member that a class becomes follows its import. -/
theorem ClassDeclaration.member?_rebind (d : ClassDeclaration) :
    (d.rebind change).member? options =
      (d.member? options).map (Option.map (·.rebind change)) := by
  have hhidden : (d.rebind change).isHidden = d.isHidden := by
    cases ho : d.origin <;> simp [isHidden, rebind, ho, ModuleOrigin.rebind]
  have hmarker : (d.rebind change).registerMarker? options.marker =
      d.registerMarker? options.marker := rfl
  have hname (marker : Marker) : (d.rebind change).registryName marker options.registryArgument =
      d.registryName marker options.registryArgument := rfl
  have hbase : (d.rebind change).baseType = d.baseType := rfl
  simp only [member?, hhidden, hmarker, hname, hbase]
  split
  · rfl
  · split
    · rfl
    · split
      · rfl
      · split <;> rfl

/-- A registry answers an offer without a look at imports. -/
theorem Registry.offer_rebind (r : Registry) (m : Member) :
    (r.rebind change).offer (m.rebind change) =
      ((r.offer m).1, (r.offer m).2.rebind change) := by
  obtain ⟨name, members⟩ := r
  cases members with
  | nil => rfl
  | cons first more =>
      by_cases hb : first.baseType = m.baseType
      · simp [offer, canonical?, rebind, Member.rebind, hb]
      · simp [offer, canonical?, rebind, Member.rebind, hb, conflict]

namespace Registries

/-- So do registries. -/
theorem offer_rebind (s : Registries) (m : Member) :
    offer (s.map (·.rebind change)) (m.rebind change) =
      ((s.offer m).1, (s.offer m).2.map (·.rebind change)) := by
  induction s with
  | nil => rfl
  | cons r rest ih =>
      -- what decides is untouched by the change: the names here, the base types in the registry
      have hname : (r.rebind change).name = r.name := rfl
      have hregistry : (m.rebind change).registry = m.registry := rfl
      by_cases hr : r.name = m.registry
      · simp only [List.map_cons, offer, hname, hregistry, hr, if_true, Registry.offer_rebind]
      · simp only [List.map_cons, offer, hname, hregistry, hr, if_false, ih]

/-- A declaration is added without a look at imports. -/
theorem add_rebind (s : Registries) (d : ClassDeclaration) :
    add options (s.map (·.rebind change)) (d.rebind change) =
      (add options s d).map (List.map (·.rebind change)) := by
  rw [add, add, d.member?_rebind change]
  cases d.member? options with
  | error e => rfl
  | ok found =>
      cases found with
      | none => rfl
      | some m =>
          simp only [Except.map, Option.map_some, insert, offer_rebind]
          rcases s.offer m with ⟨answer, after⟩
          cases answer with
          | error e => rfl
          | ok u => rfl

/-- The whole pass gives the same outcome whatever stands behind the base types. -/
theorem collect_rebind (declarations : List ClassDeclaration) :
    collect (declarations.map (·.rebind change)) options =
      (collect declarations options).map (List.map (·.rebind change)) := by
  induction declarations using List.reverseRecOn with
  | nil => rfl
  | append_singleton before d ih =>
      rw [List.map_append, collect_append, ih, collect_append]
      cases collect before options with
      | error e => rfl
      | ok s =>
          change [d.rebind change].foldlM (add options) (s.map (·.rebind change)) =
            ([d].foldlM (add options) s).map (List.map (·.rebind change))
          simp only [List.foldlM_cons, List.foldlM_nil, bind_pure, add_rebind]

end Registries

end Rebind

/-! ## One base type -/

namespace Registries

variable {options : CollectOptions} {declarations : List ClassDeclaration} {s : Registries}

/-- A registry has one base type exactly when the declarations that enter it agree on what stands
behind theirs. -/
theorem hasOneBase_iff (h : collect declarations options = .ok s) {r : Registry} (hr : r ∈ s) :
    r.HasOneBase ↔ ∀ d ∈ declarations, ∀ e ∈ declarations,
      d.Enters options r.name → e.Enters options r.name →
      ∀ b c, d.baseImport? = some b → e.baseImport? = some c → b.meaning = c.meaning := by
  constructor
  · rintro hone d hd e he ⟨m, hm, hmname⟩ ⟨n, hn, hnname⟩ b c hb hc
    have hmr := (mem_members_iff h hr).mpr ⟨hmname, d, hd, hm⟩
    have hnr := (mem_members_iff h hr).mpr ⟨hnname, e, he, hn⟩
    exact (hone m hmr n hnr b c ((ClassDeclaration.baseImport?_of_member? hm).trans hb)
      ((ClassDeclaration.baseImport?_of_member? hn).trans hc)).2
  · intro hagree m hmr n hnr b c hb hc
    obtain ⟨hmname, d, hd, hm⟩ := (mem_members_iff h hr).mp hmr
    obtain ⟨hnname, e, he, hn⟩ := (mem_members_iff h hr).mp hnr
    refine ⟨baseType_eq_of_mem h hr hmr hnr, ?_⟩
    exact hagree d hd e he ⟨m, hm, hmname⟩ ⟨n, hn, hnname⟩ b c
      ((ClassDeclaration.baseImport?_of_member? hm).symm.trans hb)
      ((ClassDeclaration.baseImport?_of_member? hn).symm.trans hc)

/-- A registry of sources has one base type exactly when the sources whose classes enter it with a
base type agree on what the name stands for that the base type starts with. -/
theorem hasOneBase_iff_of_sources (h : collect declarations options = .ok s) {r : Registry}
    (hr : r ∈ s) {sources : List Source} (hs : Source.allDeclarations sources = .ok declarations)
    {base : String} (hbase : ∀ m ∈ r.members, m.baseType = base) :
    r.HasOneBase ↔ ∀ t ∈ sources, ∀ u ∈ sources,
      t.Enters options r.name → u.Enters options r.name →
      ∀ b c, t.typeImport? (ModuleScope.rootName base) = some b →
        u.typeImport? (ModuleScope.rootName base) = some c → b.meaning = c.meaning := by
  have hsame {d : ClassDeclaration} (hd : d ∈ declarations) (he : d.Enters options r.name) :
      d.baseType = base := by
    obtain ⟨m, hm, hname⟩ := he
    rw [← hbase m ((mem_members_iff h hr).mpr ⟨hname, d, hd, hm⟩),
      ClassDeclaration.eq_of_member?_eq_some hm]
  rw [hasOneBase_iff h hr]
  simp only [Source.typeImport?_rootName]
  constructor
  · rintro hagree t ht u hu ⟨d, htd, hdbase, hdname⟩ ⟨e, hue, hebase, hename⟩ b c hb hc
    have hd := (Source.mem_allDeclarations_iff hs).mpr ⟨t, ht, htd⟩
    have he := (Source.mem_allDeclarations_iff hs).mpr ⟨u, hu, hue⟩
    rw [← hsame hd hdname, ← htd.baseImport?_of_baseType hdbase] at hb
    rw [← hsame he hename, ← hue.baseImport?_of_baseType hebase] at hc
    exact hagree d hd e he hdname hename b c hb hc
  · intro hagree d hd e he hdname hename b c hb hc
    obtain ⟨t, ht, htd⟩ := (Source.mem_allDeclarations_iff hs).mp hd
    obtain ⟨u, hu, hue⟩ := (Source.mem_allDeclarations_iff hs).mp he
    obtain ⟨hdbase, hb⟩ := htd.baseType_of_baseImport? hb
    obtain ⟨hebase, hc⟩ := hue.baseType_of_baseImport? hc
    rw [hsame hd hdname] at hb
    rw [hsame he hename] at hc
    exact hagree t ht u hu ⟨d, htd, hdbase, hdname⟩ ⟨e, hue, hebase, hename⟩ b c hb hc

/-- The members of a registry share the text of their base type, and the pass would group other
declarations alike, whatever stood behind their base types. So the registry has one base type
exactly when the declarations that enter it agree on theirs, and for declarations of sources exactly
when their modules agree on the name that the common text starts with. -/
theorem one_base_of_collect (h : collect declarations options = .ok s) {r : Registry}
    (hr : r ∈ s) : ∃ base, (∀ m ∈ r.members, m.baseType = base) ∧
    (∀ change, collect (declarations.map (·.rebind change)) options =
      .ok (s.map (·.rebind change))) ∧
    (r.HasOneBase ↔ ∀ d ∈ declarations, ∀ e ∈ declarations,
      d.Enters options r.name → e.Enters options r.name →
      ∀ b c, d.baseImport? = some b → e.baseImport? = some c → b.meaning = c.meaning) ∧
    ∀ sources, Source.allDeclarations sources = .ok declarations →
      (r.HasOneBase ↔ ∀ t ∈ sources, ∀ u ∈ sources,
        t.Enters options r.name → u.Enters options r.name →
        ∀ b c, t.typeImport? (ModuleScope.rootName base) = some b →
          u.typeImport? (ModuleScope.rootName base) = some c → b.meaning = c.meaning) := by
  obtain ⟨first, hf⟩ := ((grouped_of_collect h).isUniform r hr).exists_canonical
  have hbase : ∀ m ∈ r.members, m.baseType = first.baseType := fun m hm =>
    baseType_eq_of_mem h hr hm (List.mem_of_head? hf)
  refine ⟨first.baseType, hbase, ?_, hasOneBase_iff h hr, ?_⟩
  · intro change
    rw [collect_rebind, h]
    rfl
  · intro sources hs
    exact hasOneBase_iff_of_sources h hr hs hbase

end Registries

/-- Classes of two modules that import one base type by different paths. -/
def classesOfOneBase : List ClassDeclaration :=
  [.registered "Items" "src/sword.ts" "" "Sword" ["Item"]
      (some ⟨some (.named "Sword"), some ⟨"Item", .named "Item", .file "src/./items/base"⟩⟩),
    .registered "Items" "src/items/shield.ts" "" "Shield" ["Item"]
      (some ⟨some (.named "Shield"), some ⟨"Item", .named "Item", .file "src/items/./base.ts"⟩⟩)]

/-- The paths lead to one file, so the base type is one. -/
theorem one_base_of_classesOfOneBase : ∃ registries r,
    Registries.collect classesOfOneBase .standard = .ok registries ∧ r ∈ registries ∧
    r.members.map (·.baseImport?) =
      [some ⟨"Item", .named "Item", .file "src/./items/base"⟩,
        some ⟨"Item", .named "Item", .file "src/items/./base.ts"⟩] ∧
    r.HasOneBase := by
  obtain ⟨registries, r, hcollect, hr, h⟩ :=
    Registries.exists_collected_of_any classesOfOneBase (p := fun r =>
      decide (r.members.map (·.baseImport?) =
        [some ⟨"Item", .named "Item", .file "src/./items/base"⟩,
          some ⟨"Item", .named "Item", .file "src/items/./base.ts"⟩])) (by decide)
  have hagree : ∀ d ∈ classesOfOneBase, ∀ e ∈ classesOfOneBase,
      d.baseImport?.map TypeImport.meaning = e.baseImport?.map TypeImport.meaning := by decide
  obtain ⟨-, -, -, hone, -⟩ := Registries.one_base_of_collect hcollect hr
  refine ⟨registries, r, hcollect, hr, of_decide_eq_true h, hone.mpr ?_⟩
  intro d hd e he _ _ b c hb hc
  have hmeaning := hagree d hd e he
  rw [hb, hc] at hmeaning
  exact Option.some.inj hmeaning

/-- Two modules that import different base types of one name. -/
def modulesOfTwoBases : List Source :=
  [⟨"src/a.ts", ("import \x7b Item \x7d from \"./x/item\"; " ++
      "@Register(\"Inventory\") export class A extends Item \x7b\x7d").toList⟩,
    ⟨"src/b.ts", ("import \x7b Item \x7d from \"./y/item\"; " ++
      "@Register(\"Inventory\") export class B extends Item \x7b\x7d").toList⟩]

/-- The pass takes their classes into one registry, although they do not have one base type. -/
theorem one_registry_of_two_bases : ∃ declarations registries r,
    Source.allDeclarations modulesOfTwoBases = .ok declarations ∧
    Registries.collect declarations .standard = .ok registries ∧ r ∈ registries ∧
    r.members.map (fun m => (m.typeName, m.baseImport?)) =
      [("A", some ⟨"Item", .named "Item", .file "src/./x/item"⟩),
        ("B", some ⟨"Item", .named "Item", .file "src/./y/item"⟩)] ∧
    ¬ r.HasOneBase := by
  obtain ⟨declarations, registries, r, hdeclarations, hcollect, hr, h⟩ :=
    Source.exists_collected_of_any modulesOfTwoBases (p := fun r =>
      decide (r.members.map (fun m => (m.typeName, m.baseImport?)) =
        [("A", some ⟨"Item", .named "Item", .file "src/./x/item"⟩),
          ("B", some ⟨"Item", .named "Item", .file "src/./y/item"⟩)])) (by decide +kernel)
  have hbases := of_decide_eq_true h
  refine ⟨declarations, registries, r, hdeclarations, hcollect, hr, hbases, fun hone => ?_⟩
  obtain ⟨a, rest, hmembers, ha, hrest⟩ := List.map_eq_cons_iff.mp hbases
  obtain ⟨b, more, rfl, hb, -⟩ := List.map_eq_cons_iff.mp hrest
  obtain ⟨-, hmeaning⟩ := hone a (by simp [hmembers]) b (by simp [hmembers]) _ _
    (Prod.mk.inj ha).2 (Prod.mk.inj hb).2
  revert hmeaning
  decide

end ClassRegistry
