import ClassRegistry.Proofs.Generated.Imports

/-!
# The names that imports bind

A binding of an import declaration binds its last word, whatever it takes from the module. So a table
binds a name for every request that it meets, and it binds no name twice exactly when any two such
requests for one name ask for the same binding of the same module.
-/

namespace ClassRegistry

/-- The name that a binding is known by: its last word. -/
def boundName (binding : String) : String :=
  String.ofList (binding.toList.reverse.takeWhile (· ≠ ' ')).reverse

/-- What is taken from the front of a list ends at a value that does not fit. -/
theorem takeWhile_append_cons {α : Type} {p : α → Bool} {stop : α} (h : p stop = false)
    (front rest : List α) : (front ++ stop :: rest).takeWhile p = front.takeWhile p := by
  rw [List.takeWhile_append]
  split
  case isTrue hlength =>
    rw [List.takeWhile_cons_of_neg (by simp [h]), List.append_nil,
      (List.takeWhile_prefix p).eq_of_length hlength]
  case isFalse => rfl

/-- A name behind `as` hides what stands in front. -/
theorem boundName_as (front name : String) : boundName (front ++ " as " ++ name) = boundName name := by
  have hreverse : (front ++ " as " ++ name).toList.reverse =
      name.toList.reverse ++ ' ' :: ("sa ".toList ++ front.toList.reverse) := by
    simp [String.toList_append]
  rw [boundName, boundName, hreverse, takeWhile_append_cons (by simp)]

/-- A named binding is known by its local name. -/
theorem boundName_namedBinding (name localName : String) :
    boundName (namedBinding name localName) = boundName localName := by
  rw [namedBinding]
  split
  · rfl
  · exact boundName_as name localName

/-- A request asks for a binding: what is imported, and how the binding is written. -/
def ImportRequest.binding (q : ImportRequest) : ImportedName × String :=
  match q.imported with
  | .named name => (.named (namedBinding name q.localName), namedBinding name q.localName)
  | slot => (slot, q.localName)

/-- The binding that is asked for is known by the local name. -/
theorem ImportRequest.boundName_binding (q : ImportRequest) :
    boundName q.binding.2 = boundName q.localName := by
  unfold binding
  split
  · exact boundName_namedBinding _ _
  · rfl

namespace ModuleImports

/-- The bindings of one module, in the order written. -/
def bindings (imports : ModuleImports) : List (ImportedName × String) :=
  imports.defaultName.toList.map (fun name => (.default, name)) ++
  imports.everythingName.toList.map (fun name => (.everything, name)) ++
  imports.named.map fun binding => (.named binding, binding)

/-- A binding is a named one, or it stands in a slot. -/
theorem mem_bindings {imports : ModuleImports} {kind : ImportedName} {binding : String} :
    (kind, binding) ∈ imports.bindings ↔
      (kind = .named binding ∧ binding ∈ imports.named) ∨
        kind.isSlot = true ∧ imports.slot? kind = some binding := by
  cases kind <;>
    simp [bindings, slot?, ImportedName.isSlot, eq_comm, and_comm]

/-- No binding is written twice when no named one is. -/
theorem nodup_bindings {imports : ModuleImports} (h : imports.named.Nodup) :
    imports.bindings.Nodup := by
  have hslots : (imports.defaultName.toList.map (fun name => (ImportedName.default, name)) ++
      imports.everythingName.toList.map (fun name => (ImportedName.everything, name))).Nodup := by
    cases imports.defaultName <;> cases imports.everythingName <;> simp
  have hnamed : (imports.named.map fun binding => (ImportedName.named binding, binding)).Nodup :=
    h.map fun a b he => (Prod.mk.inj he).2
  refine List.nodup_append'.mpr ⟨hslots, hnamed, ?_⟩
  intro entry hslot hentry
  obtain ⟨binding, -, rfl⟩ := List.mem_map.mp hentry
  simp at hslot

end ModuleImports

namespace ImportTable

/-- The bindings of a table, each beside its module. -/
def bindings (table : ImportTable) : List (String × ImportedName × String) :=
  table.flatMap fun (specifier, imports) => imports.bindings.map fun binding => (specifier, binding)

/-- The names that a table binds. -/
def localNames (table : ImportTable) : List String :=
  table.bindings.map fun binding => boundName binding.2.2

/-- The bindings of a table that lists no module twice are those of its modules. -/
theorem mem_bindings_iff {table : ImportTable} (hnodup : (table.map (·.1)).Nodup)
    {specifier : String} {binding : ImportedName × String} :
    (specifier, binding) ∈ table.bindings ↔ binding ∈ (table.imports specifier).bindings := by
  rw [bindings, List.mem_flatMap]
  constructor
  · rintro ⟨entry, hentry, hmem⟩
    obtain ⟨found, hfound, he⟩ := List.mem_map.mp hmem
    obtain ⟨rfl, rfl⟩ := Prod.mk.inj he
    rwa [imports_eq_of_mem hnodup hentry]
  · intro hmem
    have hknown : specifier ∈ table.map (·.1) := by
      by_contra hnew
      have hnone : table.find? (·.1 = specifier) = none := by
        rw [List.find?_eq_none]
        intro entry hentry he
        exact hnew (List.mem_map.mpr ⟨entry, hentry, by simpa using he⟩)
      rw [imports, hnone] at hmem
      simp [ModuleImports.bindings, ModuleImports.none] at hmem
    exact ⟨_, mem_of_mem_map_fst hknown, List.mem_map_of_mem hmem⟩

/-- A table binds no binding twice when no named one is repeated in a module. -/
theorem nodup_bindings {table : ImportTable} (hnodup : (table.map (·.1)).Nodup)
    (hnamed : ∀ specifier, (table.imports specifier).named.Nodup) : table.bindings.Nodup := by
  refine List.nodup_flatMap.mpr ⟨?_, ?_⟩
  · intro entry hentry
    have hbindings := ModuleImports.nodup_bindings (hnamed entry.1)
    rw [imports_eq_of_mem hnodup hentry] at hbindings
    exact hbindings.map fun a b he => (Prod.mk.inj he).2
  · refine (List.pairwise_map.mp hnodup).imp ?_
    intro a b hne binding ha hb
    obtain ⟨one, -, rfl⟩ := List.mem_map.mp ha
    obtain ⟨other, -, he⟩ := List.mem_map.mp hb
    exact hne (Prod.mk.inj he).1.symm

end ImportTable

/-- A request is met when its binding is among those of its module. -/
theorem ImportRequest.isHeldBy_iff_mem_bindings {table : ImportTable} {q : ImportRequest} :
    q.IsHeldBy table ↔ q.binding ∈ (table.imports q.specifier).bindings := by
  unfold IsHeldBy binding
  cases q.imported with
  | named name => simp [ModuleImports.mem_bindings, ImportedName.isSlot]
  | default => simp [ModuleImports.mem_bindings, ImportedName.isSlot]
  | everything => simp [ModuleImports.mem_bindings, ImportedName.isSlot]

namespace ImportTable

/-- The table that answers requests binds what they ask for, as far as it meets them. -/
theorem mem_bindings_ofRequests {requests : List ImportRequest} {specifier : String}
    {binding : ImportedName × String} :
    (specifier, binding) ∈ (ofRequests requests).bindings ↔
      ∃ q ∈ requests, q.IsHeldBy (ofRequests requests) ∧ q.specifier = specifier ∧
        q.binding = binding := by
  rw [mem_bindings_iff (nodup_map_fst_ofRequests requests)]
  constructor
  · intro hmem
    -- a named binding may come from any request, one in a slot is that of the first
    have hasked : ∃ q ∈ requests, q.specifier = specifier ∧ q.binding = binding := by
      obtain ⟨kind, text⟩ := binding
      rcases ModuleImports.mem_bindings.mp hmem with ⟨rfl, hnamed⟩ | ⟨hslot, hname⟩
      · obtain ⟨q, hq, hs, name, hi, rfl⟩ := mem_named_imports_ofRequests.mp hnamed
        exact ⟨q, hq, hs, by simp only [ImportRequest.binding, hi]⟩
      · rw [slot?_imports_ofRequests requests specifier hslot] at hname
        obtain ⟨q, hfound, rfl⟩ := Option.map_eq_some_iff.mp hname
        obtain ⟨hs, hi⟩ : q.specifier = specifier ∧ q.imported = kind := by
          simpa using List.find?_some hfound
        refine ⟨q, List.mem_of_find?_eq_some hfound, hs, ?_⟩
        rw [ImportRequest.binding, hi]
        cases kind with
        | named name => exact absurd hslot Bool.false_ne_true
        | default => rfl
        | everything => rfl
    obtain ⟨q, hq, rfl, rfl⟩ := hasked
    exact ⟨q, hq, ImportRequest.isHeldBy_iff_mem_bindings.mpr hmem, rfl, rfl⟩
  · rintro ⟨q, -, hheld, rfl, rfl⟩
    exact ImportRequest.isHeldBy_iff_mem_bindings.mp hheld

/-- The names that the table binds are those of the requests that it meets. -/
theorem mem_localNames_ofRequests {requests : List ImportRequest} {name : String} :
    name ∈ (ofRequests requests).localNames ↔
      ∃ q ∈ requests, q.IsHeldBy (ofRequests requests) ∧ boundName q.localName = name := by
  rw [localNames, List.mem_map]
  constructor
  · rintro ⟨⟨specifier, binding⟩, hmem, rfl⟩
    obtain ⟨q, hq, hheld, rfl, rfl⟩ := mem_bindings_ofRequests.mp hmem
    exact ⟨q, hq, hheld, q.boundName_binding.symm⟩
  · rintro ⟨q, hq, hheld, rfl⟩
    exact ⟨(q.specifier, q.binding), mem_bindings_ofRequests.mpr ⟨q, hq, hheld, rfl, rfl⟩,
      q.boundName_binding⟩

/-- The table binds no name twice exactly when the requests that it meets for one name all ask for
the same binding of the same module. -/
theorem nodup_localNames_ofRequests_iff {requests : List ImportRequest} :
    (ofRequests requests).localNames.Nodup ↔
      ∀ p ∈ requests, ∀ q ∈ requests, p.IsHeldBy (ofRequests requests) →
        q.IsHeldBy (ofRequests requests) → boundName p.localName = boundName q.localName →
        p.specifier = q.specifier ∧ p.binding = q.binding := by
  have hnodup : (ofRequests requests).bindings.Nodup :=
    nodup_bindings (nodup_map_fst_ofRequests requests) (nodup_named_ofRequests requests)
  rw [localNames, List.nodup_map_iff_inj_on hnodup]
  constructor
  · intro hinj p hp q hq hpheld hqheld hname
    have hpmem := mem_bindings_ofRequests.mpr ⟨p, hp, hpheld, rfl, rfl⟩
    have hqmem := mem_bindings_ofRequests.mpr ⟨q, hq, hqheld, rfl, rfl⟩
    rw [← p.boundName_binding, ← q.boundName_binding] at hname
    exact Prod.mk.inj (hinj _ hpmem _ hqmem hname)
  · rintro hsame ⟨specifier, binding⟩ hmem ⟨other, otherBinding⟩ hother hname
    obtain ⟨p, hp, hpheld, rfl, rfl⟩ := mem_bindings_ofRequests.mp hmem
    obtain ⟨q, hq, hqheld, rfl, rfl⟩ := mem_bindings_ofRequests.mp hother
    rw [p.boundName_binding, q.boundName_binding] at hname
    obtain ⟨hspecifier, hbinding⟩ := hsame p hp q hq hpheld hqheld hname
    rw [hspecifier, hbinding]

end ImportTable

end ClassRegistry
