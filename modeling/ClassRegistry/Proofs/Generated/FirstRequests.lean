import ClassRegistry.Proofs.Generated.Imports

/-!
# First requests decide

What a table imports from a module is decided by the first requests for it: the first name for a
slot, and each named binding where it is first asked for. So to ask again changes nothing, whatever
is asked for later keeps what is bound at its place, and the written lines follow the order of the
first requests.
-/

namespace ClassRegistry

/-! ## Repeated requests -/

/-- To ask a module again for what it was asked for adds nothing. -/
theorem ModuleImports.ofRequests_concat_of_mem {requests : List ImportRequest} {q : ImportRequest}
    (h : q ∈ requests) : ofRequests (requests ++ [q]) = ofRequests requests := by
  refine eq_of_slot?_eq ?_ ?_
  · intro slot hslot
    rw [slot?_ofRequests _ hslot, slot?_ofRequests _ hslot, List.find?_append]
    cases hfound : requests.find? (·.imported = slot) with
    | some first => rfl
    | none =>
        have hq : ¬ q.imported = slot := by simpa using List.find?_eq_none.mp hfound q h
        simp [hq]
  · rw [ofRequests, ofRequests, List.filterMap_append]
    cases hq : q.namedBinding? with
    | none => simp [hq]
    | some binding =>
        have hknown : binding ∈ requests.filterMap (·.namedBinding?) :=
          List.mem_filterMap.mpr ⟨q, h, hq⟩
        have hlast : [q].filterMap (·.namedBinding?) = [binding] := by simp [hq]
        rw [hlast, eraseDups_concat, if_pos hknown]

/-- To ask again for what was asked for changes nothing. -/
theorem ImportTable.ofRequests_concat_of_mem {requests : List ImportRequest} {q : ImportRequest}
    (h : q ∈ requests) : ofRequests (requests ++ [q]) = ofRequests requests := by
  have hmodules : ((requests ++ [q]).map (·.specifier)).eraseDups =
      (requests.map (·.specifier)).eraseDups := by
    rw [List.map_append, List.map_singleton, eraseDups_concat, if_pos (List.mem_map_of_mem h)]
  rw [ofRequests_eq, ofRequests_eq, hmodules]
  refine List.map_congr_left fun specifier _ => congrArg (Prod.mk specifier) ?_
  rw [requestsFor_concat]
  split
  · rename_i hspecifier
    refine ModuleImports.ofRequests_concat_of_mem (List.mem_filter.mpr ⟨h, ?_⟩)
    exact decide_eq_true hspecifier
  · rfl

/-! ## Later requests -/

/-- What is bound stays bound, and no named binding loses its place. -/
structure ModuleImports.IsKeptBy (imports later : ModuleImports) : Prop where
  slot? : ∀ slot name, imports.slot? slot = some name → later.slot? slot = some name
  named : imports.named <+: later.named

/-- All that is imported from a module is kept when more is asked for. -/
theorem ModuleImports.isKeptBy_add (imports : ModuleImports) (localName : String)
    (imported : ImportedName) : imports.IsKeptBy (imports.add localName imported) := by
  constructor
  · intro slot name hname
    cases slot with
    | named binding => cases hname
    | default => rw [slot?_add _ _ _ rfl, hname, Option.some_or]
    | everything => rw [slot?_add _ _ _ rfl, hname, Option.some_or]
  · cases imported with
    | default => exact List.prefix_rfl
    | everything => exact List.prefix_rfl
    | named name =>
        rw [add]
        split
        · exact List.prefix_rfl
        · exact List.prefix_append _ _

theorem ModuleImports.IsKeptBy.refl (imports : ModuleImports) : imports.IsKeptBy imports :=
  ⟨fun _ _ hname => hname, List.prefix_rfl⟩

theorem ModuleImports.IsKeptBy.trans {imports later last : ModuleImports}
    (h : imports.IsKeptBy later) (hlast : later.IsKeptBy last) : imports.IsKeptBy last :=
  ⟨fun slot name hname => hlast.slot? slot name (h.slot? slot name hname),
    h.named.trans hlast.named⟩

namespace ImportTable

/-- Each module stays at its place, and all that is imported from it is kept. -/
def IsKeptBy (table later : ImportTable) : Prop :=
  ∀ (place : Nat) (specifier : String) (imports : ModuleImports),
    table[place]? = some (specifier, imports) →
      ∃ found, later[place]? = some (specifier, found) ∧ imports.IsKeptBy found

theorem IsKeptBy.refl (table : ImportTable) : table.IsKeptBy table :=
  fun _ _ imports hentry => ⟨imports, hentry, .refl imports⟩

/-- A kept table is kept by what keeps that one. -/
theorem IsKeptBy.trans {table later last : ImportTable} (h : table.IsKeptBy later)
    (hlast : later.IsKeptBy last) : table.IsKeptBy last := by
  intro place specifier imports hentry
  obtain ⟨found, hfound, hkept⟩ := h place specifier imports hentry
  obtain ⟨more, hmore, hkeptLast⟩ := hlast place specifier found hfound
  exact ⟨more, hmore, hkept.trans hkeptLast⟩

/-- A request keeps the table. -/
theorem isKeptBy_add (table : ImportTable) (specifier localName : String)
    (imported : ImportedName) : table.IsKeptBy (table.add specifier localName imported) := by
  induction table with
  | nil =>
      intro place other imports hentry
      cases hentry
  | cons entry rest ih =>
      obtain ⟨known, found⟩ := entry
      intro place other imports hentry
      rw [add]
      cases place with
      | zero =>
          obtain ⟨rfl, rfl⟩ := Prod.mk.inj (Option.some.inj hentry)
          split
          · exact ⟨_, rfl, found.isKeptBy_add localName imported⟩
          · exact ⟨_, rfl, .refl found⟩
      | succ place =>
          split
          · exact ⟨imports, hentry, .refl imports⟩
          · exact ih place other imports hentry

/-- Requests keep the table that answers those before them. -/
theorem isKeptBy_ofRequests_append (requests more : List ImportRequest) :
    (ofRequests requests).IsKeptBy (ofRequests (requests ++ more)) := by
  induction more using List.reverseRecOn with
  | nil =>
      rw [List.append_nil]
      exact .refl _
  | append_singleton more q ih =>
      rw [← List.append_assoc, ofRequests_concat]
      exact ih.trans (isKeptBy_add _ q.specifier q.localName q.imported)

/-! ## All that a table says -/

/-- A table lists each module once, where it is first asked for, with what the requests for it ask
for: in a slot the first name, and the named bindings each once, where they are first asked for. To
ask again for what was asked for changes nothing, and later requests keep all that is bound at its
place. The lines are those of the modules in this order, one for each clause. -/
theorem table_of_requests (requests : List ImportRequest) :
    ofRequests requests = (requests.map (·.specifier)).eraseDups.map (fun specifier =>
      (specifier, ModuleImports.ofRequests (requestsFor specifier requests))) ∧
    ((ofRequests requests).map (·.1)).Nodup ∧
    (∀ specifier, ((ofRequests requests).imports specifier).named.Nodup) ∧
    (∀ q ∈ requests, ofRequests (requests ++ [q]) = ofRequests requests) ∧
    (∀ more, (ofRequests requests).IsKeptBy (ofRequests (requests ++ more))) ∧
    (ofRequests requests).lines =
      (requests.map (·.specifier)).eraseDups.flatMap fun specifier =>
        (ModuleImports.ofRequests (requestsFor specifier requests)).clauses.map
          (importLine · specifier) := by
  refine ⟨ofRequests_eq requests, nodup_map_fst_ofRequests requests,
    nodup_named_ofRequests requests, fun q hq => ofRequests_concat_of_mem hq,
    isKeptBy_ofRequests_append requests, ?_⟩
  rw [ofRequests_eq, lines, List.flatMap_map]
  exact congrArg (List.flatMap · _) (funext fun specifier =>
    ModuleImports.lines_eq_map_clauses specifier _)

/-- A class under two names, and two names for one default. -/
def forgeRequests : List ImportRequest :=
  [⟨"../sword", "Sword", .named "Sword"⟩, ⟨"../forge", "Forge", .default⟩,
    ⟨"../sword", "Blade", .named "Sword"⟩, ⟨"../forge", "Smithy", .default⟩]

/-- Both names of the class are bound in one line, and the default has its first name, also when the
other one is asked for again. -/
theorem table_of_forgeRequests :
    (⟨"../forge", "Smithy", .default⟩ : ImportRequest) ∈ forgeRequests ∧
    ofRequests (forgeRequests ++ [⟨"../forge", "Smithy", .default⟩]) = ofRequests forgeRequests ∧
    (ofRequests forgeRequests).lines =
      ["import \x7b Sword, Sword as Blade \x7d from \"../sword\";",
        "import Forge from \"../forge\";"] := by
  have hmem : (⟨"../forge", "Smithy", .default⟩ : ImportRequest) ∈ forgeRequests := by decide
  obtain ⟨-, -, -, hagain, -, hlines⟩ := table_of_requests forgeRequests
  refine ⟨hmem, hagain _ hmem, hlines.trans ?_⟩
  decide

end ImportTable

end ClassRegistry
