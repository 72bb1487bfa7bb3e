import ClassRegistry.Generated.Render
import ClassRegistry.Proofs.Registry.Collection

/-!
# Members of collected registries

A pass that succeeds has met no offence, so its registries are the grouped members of all
declarations. Hence a member of a registry is exactly what some declaration of that registry's name
becomes, and it carries the facts of its declaration unchanged.
-/

namespace ClassRegistry

/-- A result that is found to fit is there. -/
theorem exists_ok_of_any {ε α : Type} {e : Except ε α} {p : α → Bool}
    (h : e.toOption.any p = true) : ∃ a, e = .ok a ∧ p a = true := by
  cases e with
  | error error => cases h
  | ok a => exact ⟨a, rfl, h⟩

namespace Registries

variable {options : CollectOptions} {declarations : List ClassDeclaration} {s : Registries}

theorem lt_length_of_offendsAt {i : Nat} (h : OffendsAt options declarations i) :
    i < declarations.length := by
  obtain ⟨d, hd, -⟩ := h
  exact (List.getElem?_eq_some_iff.mp hd).1

/-- A pass that succeeds has met no offence. -/
theorem not_offendsAt_of_collect (h : collect declarations options = .ok s) :
    ∀ i, ¬ OffendsAt options declarations i := by
  induction declarations using List.reverseRecOn generalizing s with
  | nil => exact fun i hi => absurd (lt_length_of_offendsAt hi) (Nat.not_lt_zero i)
  | append_singleton before d ih =>
      cases hb : collect before options with
      | error e =>
          rw [collect_append, hb] at h
          cases h
      | ok start =>
          have hbefore := ih hb
          intro i hi
          have hlt := lt_length_of_offendsAt hi
          rw [List.length_append, List.length_singleton] at hlt
          by_cases hlast : i < before.length
          · exact hbefore i ((offendsAt_append_iff hlast).mp hi)
          · obtain rfl : i = before.length := by omega
            obtain ⟨e, hadd, -⟩ := add_ofMembers_of_offends hbefore (offendsAt_length_iff.mp hi)
            rw [collect_append_cons_of_add_error hbefore hadd []] at h
            cases h

/-- The registries of a pass that succeeds are the grouped members of its declarations. -/
theorem eq_ofMembers_of_collect (h : collect declarations options = .ok s) :
    s = ofMembers (membersOf options declarations) := by
  rw [collect_of_not_offendsAt (not_offendsAt_of_collect h)] at h
  exact (Except.ok.inj h).symm

/-- The members that declarations become, one by one. -/
theorem mem_membersOf {m : Member} :
    m ∈ membersOf options declarations ↔ ∃ d ∈ declarations, d.member? options = .ok (some m) := by
  rw [membersOf, List.mem_filterMap]
  refine exists_congr fun d => and_congr_right fun _ => ?_
  cases d.member? options with
  | error e => simp [Except.toOption]
  | ok found => simp [Except.toOption]

/-- A registry holds the members that bear its name. -/
theorem members_eq_filter {members : List Member} {r : Registry} (hr : r ∈ ofMembers members) :
    r.members = members.filter (·.registry = r.name) := by
  obtain ⟨name, -, rfl⟩ := List.mem_map.mp hr
  rfl

/-- A member of a collected registry is what some declaration becomes under its name. -/
theorem mem_members_iff (h : collect declarations options = .ok s) {r : Registry} (hr : r ∈ s)
    {m : Member} : m ∈ r.members ↔
      m.registry = r.name ∧ ∃ d ∈ declarations, d.member? options = .ok (some m) := by
  rw [eq_ofMembers_of_collect h] at hr
  rw [members_eq_filter hr, List.mem_filter, mem_membersOf, decide_eq_true_eq, and_comm]

/-- The members of a collected registry share their base type. -/
theorem baseType_eq_of_mem (h : collect declarations options = .ok s) {r : Registry} (hr : r ∈ s)
    {m n : Member} (hm : m ∈ r.members) (hn : n ∈ r.members) : m.baseType = n.baseType := by
  obtain ⟨first, hf⟩ := ((grouped_of_collect h).isUniform r hr).exists_canonical
  have hbase := ((grouped_of_collect h).isUniform r hr).baseType_eq first hf
  rw [hbase m hm, hbase n hn]

/-- What declarations are found to give, they give. -/
theorem exists_collected_of_any (declarations : List ClassDeclaration) {p : Registry → Bool}
    (h : (collect declarations .standard).toOption.any (·.any p) = true) :
    ∃ registries r, collect declarations .standard = .ok registries ∧ r ∈ registries ∧
      p r = true := by
  obtain ⟨registries, hcollect, hany⟩ := exists_ok_of_any h
  obtain ⟨r, hr, hp⟩ := List.any_eq_true.mp hany
  exact ⟨registries, r, hcollect, hr, hp⟩

end Registries

namespace ClassDeclaration

variable {options : CollectOptions} {d : ClassDeclaration} {m : Member}

/-- All that is behind a member: a marker with a registry name, a module that hands the class out if
it has one, and a base type where one is required. -/
theorem member?_eq_some (h : d.member? options = .ok (some m)) :
    ∃ marker registry, d.registerMarker? options.marker = some marker ∧
      d.registryName marker options.registryArgument = .ok registry ∧ d.isHidden = false ∧
      (options.requireBaseType && d.baseType.isEmpty) = false ∧
      m = ⟨d.scope, d.name, d.baseType, registry, d.context, d.origin⟩ := by
  rw [member?] at h
  split at h
  · cases h
  · rename_i marker hmarker
    split at h
    · cases h
    · rename_i registry hregistry
      split at h
      · cases h
      · rename_i hvisible
        split at h
        · cases h
        · rename_i hbase
          exact ⟨marker, registry, hmarker, hregistry, by simpa using hvisible, by simpa using hbase,
            (Option.some.inj (Except.ok.inj h)).symm⟩

/-- A member carries the facts of its declaration. -/
theorem eq_of_member?_eq_some (h : d.member? options = .ok (some m)) :
    m = ⟨d.scope, d.name, d.baseType, m.registry, d.context, d.origin⟩ := by
  obtain ⟨marker, registry, -, -, -, -, rfl⟩ := member?_eq_some h
  rfl

/-- The registry name that a marker gives is a proper name. -/
theorem isName_of_registryName {marker : Marker} {parameter registry : String}
    (h : d.registryName marker parameter = .ok registry) : Text.isName registry = true := by
  unfold registryName at h
  split at h
  · cases h
  · split at h
    · cases h
    · rename_i name _
      split at h
      · cases h
      · split at h
        · cases h
        · rename_i hname
          obtain rfl : name = registry := Except.ok.inj h
          simpa using hname

/-- The registry of a member bears a proper name. -/
theorem isName_of_member? (h : d.member? options = .ok (some m)) :
    Text.isName m.registry = true := by
  obtain ⟨marker, registry, -, hregistry, -, -, rfl⟩ := member?_eq_some h
  exact isName_of_registryName hregistry

/-- A class becomes a member of the registry of a name. -/
def Enters (options : CollectOptions) (name : String) (d : ClassDeclaration) : Prop :=
  ∃ m, d.member? options = .ok (some m) ∧ m.registry = name

/-- The member a class becomes tells which registry it enters. -/
theorem enters_iff {name : String} :
    (d.member? options).toOption.join.map (·.registry) = some name ↔ d.Enters options name := by
  rw [Option.map_eq_some_iff]
  refine exists_congr fun m => and_congr_left fun _ => ?_
  cases d.member? options with
  | error e => simp [Except.toOption]
  | ok found => simp [Except.toOption]

/-- It can be told whether a class enters a registry. -/
instance decidableEnters (options : CollectOptions) (name : String) :
    DecidablePred (Enters options name) :=
  fun _ => decidable_of_iff _ enters_iff

/-- A class that is registered by the decorator `@Register("registry")`. -/
def registered (registry file scope name : String) (baseTypes : List String)
    (origin : Option ModuleOrigin) : ClassDeclaration where
  scope := scope
  name := name
  baseTypes := baseTypes
  markers := [⟨"Register", [⟨0, none, .literal registry⟩]⟩]
  context := ⟨⟨file, 1, 1⟩, ""⟩
  origin := origin

/-- Only a class of a script becomes a member without an export. -/
theorem exportName?_eq_none_iff_of_member? (h : d.member? options = .ok (some m)) :
    m.exportName? = none ↔ m.origin = none := by
  obtain ⟨marker, registry, -, -, hvisible, -, rfl⟩ := member?_eq_some h
  cases ho : d.origin with
  | none => simp [Member.exportName?]
  | some origin =>
      have hexported : origin.exportName ≠ none := by
        simpa [isHidden, ho, Option.isSome_iff_ne_none] using hvisible
      simp [Member.exportName?, hexported]

end ClassDeclaration

end ClassRegistry
