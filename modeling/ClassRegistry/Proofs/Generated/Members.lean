import ClassRegistry.Proofs.Generated.Layout

/-!
# Members and their imports

A pass that succeeds has checked what its units rely on: each member carries the facts of a
declaration, under the proper name of its registry, with a base type where one is required, and a
class of a module has an export name. So a unit asks for an import of each member that belongs to a
module, and writes qualified names for members of scripts only. It holds an import of each export
that has a name. A default is imported for the first member that asks for one by its specifier, and
another member behind the same specifier is referred to without an import.
-/

namespace ClassRegistry

/-! ## What a unit relies on -/

/-- What a registry has from the declarations that it is collected of. -/
structure Registry.IsBackedBy (declarations : List ClassDeclaration) (options : CollectOptions)
    (r : Registry) : Prop where
  name_ne_empty : r.name ≠ ""
  isName : Text.isName r.name = true
  /-- Each member carries the facts of a declaration, and its first base type. -/
  exists_declaration : ∀ m ∈ r.members, ∃ d ∈ declarations,
    m = ⟨d.scope, d.name, d.baseTypes.headD "", r.name, d.context, d.origin⟩
  baseType_ne_empty : options.requireBaseType = true → ∀ m ∈ r.members, m.baseType ≠ ""
  /-- The module of a class hands it out. -/
  exists_exportName : ∀ m ∈ r.members, ∀ origin, m.origin = some origin →
    ∃ e, origin.exportName = some e

/-- A collected registry has what its unit relies on. -/
theorem Registries.isBackedBy_of_collect {declarations : List ClassDeclaration}
    {options : CollectOptions} {registries : Registries} {r : Registry}
    (h : Registries.collect declarations options = .ok registries) (hr : r ∈ registries) :
    r.IsBackedBy declarations options := by
  have hmember : ∀ m ∈ r.members, m.registry = r.name ∧
      ∃ d ∈ declarations, d.member? options = .ok (some m) :=
    fun m => (Registries.mem_members_iff h hr).mp
  obtain ⟨first, hf⟩ := ((Registries.grouped_of_collect h).isUniform r hr).exists_canonical
  obtain ⟨hname, d, -, hd⟩ := hmember first (List.mem_of_head? hf)
  have hisName : Text.isName r.name = true := hname ▸ ClassDeclaration.isName_of_member? hd
  refine ⟨Text.ne_empty_of_isName hisName, hisName, ?_, ?_, ?_⟩
  · intro m hm
    obtain ⟨hname, d, hmem, hd⟩ := hmember m hm
    exact ⟨d, hmem, hname ▸ ClassDeclaration.eq_of_member?_eq_some hd⟩
  · intro hrequired m hm
    obtain ⟨-, d, -, hd⟩ := hmember m hm
    obtain ⟨marker, registry, -, -, -, hbase, rfl⟩ := ClassDeclaration.member?_eq_some hd
    simpa [hrequired] using hbase
  · intro m hm origin horigin
    obtain ⟨-, d, -, hd⟩ := hmember m hm
    have hexport : m.exportName? ≠ none :=
      mt (ClassDeclaration.exportName?_eq_none_iff_of_member? hd).mp (by simp [horigin])
    rw [Member.exportName?, horigin, Option.bind_some] at hexport
    exact Option.ne_none_iff_exists'.mp hexport

/-- The specifier of the file of a member. -/
def Member.specifier (workingDirectory outDir : Path) (m : Member) : String :=
  Path.specifier workingDirectory outDir ⟨m.context.location.file⟩

namespace Registry

variable {workingDirectory outDir : Path} {r : Registry} {m : Member} {e : ExportName}

/-- A member of a backed registry has an export name when it belongs to a module. -/
theorem IsBackedBy.exportName?_eq_none_iff {declarations : List ClassDeclaration}
    {options : CollectOptions} (h : r.IsBackedBy declarations options) (hm : m ∈ r.members) :
    m.exportName? = none ↔ m.origin = none := by
  cases ho : m.origin with
  | none => simp [Member.exportName?, ho]
  | some origin =>
      obtain ⟨e, he⟩ := h.exists_exportName m hm origin ho
      simp [Member.exportName?, ho, he]

/-! ## Requests of members -/

/-- The first member that is handed out by default behind a specifier. -/
def firstDefault? (workingDirectory outDir : Path) (r : Registry) (specifier : String) :
    Option Member :=
  r.members.find? fun m => m.exportName? = some .default ∧
    m.specifier workingDirectory outDir = specifier

/-- It is a member that is handed out by default. -/
theorem mem_of_firstDefault? {specifier : String} {first : Member}
    (h : r.firstDefault? workingDirectory outDir specifier = some first) :
    first ∈ r.members ∧ first.exportName? = some .default := by
  have hfirst := List.find?_some h
  exact ⟨List.mem_of_find?_eq_some h, (of_decide_eq_true hfirst).1⟩

/-- The default behind a specifier is bound to the class name of the first member that has it. -/
theorem slot?_importTable_default {specifier : String} {first : Member}
    (h : r.firstDefault? workingDirectory outDir specifier = some first) :
    ((r.importTable workingDirectory outDir).imports specifier).slot? .default =
      some first.typeName := by
  have hrequest : ∀ m : Member,
      (m.exportName?.map (m.importRequest workingDirectory outDir)).any (fun q =>
        decide (q.specifier = specifier ∧ q.imported = .default)) =
      decide (m.exportName? = some .default ∧
        m.specifier workingDirectory outDir = specifier) := by
    intro m
    cases m.exportName? with
    | none => simp
    | some e => cases e <;> simp [Member.importRequest, Member.specifier, ExportName.imported]
  obtain ⟨-, hexport⟩ := mem_of_firstDefault? h
  rw [importTable, ImportTable.slot?_imports_ofRequests _ _ rfl, importRequests,
    List.find?_append, List.find?_filterMap]
  simp only [hrequest]
  rw [← firstDefault?, h, Option.bind_some, hexport]
  rfl

/-- A member that is handed out is imported, unless it is the default behind a specifier from which
the default is imported for another class name. -/
theorem isHeldBy_importTable_iff (hm : m ∈ r.members) (he : m.exportName? = some e) :
    (m.importRequest workingDirectory outDir e).IsHeldBy (r.importTable workingDirectory outDir) ↔
      (e = .default → ∀ first,
        r.firstDefault? workingDirectory outDir (m.specifier workingDirectory outDir) =
          some first → first.typeName = m.typeName) := by
  cases e with
  | named name =>
      refine iff_of_true (ImportTable.isHeldBy_of_not_isSlot
        (importRequest_mem_importRequests hm he) ?_) nofun
      simp [Member.importRequest, ExportName.imported, ImportedName.isSlot]
  | default =>
      obtain ⟨first, hfirst⟩ : ∃ first, r.firstDefault? workingDirectory outDir
          (m.specifier workingDirectory outDir) = some first := by
        rw [← Option.isSome_iff_exists, firstDefault?, List.find?_isSome]
        exact ⟨m, hm, by simp [he]⟩
      have hslot := slot?_importTable_default hfirst
      rw [Member.specifier] at hslot
      rw [ImportRequest.isHeldBy_iff_of_isSlot rfl]
      simp [Member.importRequest, ExportName.imported, hslot, hfirst]

/-- A unit refers to a member that is handed out by its class name, and to another one by its
qualified name. -/
theorem reference_eq (hm : m ∈ r.members) :
    (∀ e, m.exportName? = some e → r.reference m = m.typeName) ∧
      (m.exportName? = none → r.needsModule = true → r.reference m = m.qualifiedName) := by
  constructor
  · intro e he
    obtain ⟨origin, horigin, -⟩ := Option.bind_eq_some_iff.mp he
    have hneeds : r.needsModule = true := List.any_eq_true.mpr ⟨m, hm, by simp [horigin]⟩
    simp [reference, hneeds, Member.moduleReference, he]
  · intro he hneeds
    simp [reference, hneeds, Member.moduleReference, he]

end Registry

/-! ## Members in units -/

/-- A collected registry has what its unit relies on. So among its members those of scripts, and no
others, have no export name, and a unit that is a module refers to them by their qualified names.
For each member of a module the unit asks for an import of its export under the class name, by which
it refers to it. It holds the import, and has a line for it, unless the export is the default behind
a specifier from which the first member that asks for its default has another class name. -/
theorem member_imports_of_collect {declarations : List ClassDeclaration}
    {options : CollectOptions} {registries : Registries} {r : Registry}
    (h : Registries.collect declarations options = .ok registries) (hr : r ∈ registries)
    (workingDirectory : Path) (emit : EmitOptions) :
    r.IsBackedBy declarations options ∧
    ∃ first unit opening closing, r.canonical? = some first ∧
      r.unit? workingDirectory emit = some unit ∧
      let table := r.importTable workingDirectory emit.outDir
      let requests := r.importRequests workingDirectory emit.outDir
      unit.contents = linesText (generatedHeader :: table.lines ++ opening ++
        r.entries.map (entryLine (r.indent first)) ++ closing) ∧
      (∀ line ∈ opening ++ closing, IsFrameLine line) ∧
      ∀ m ∈ r.members,
        (m.exportName? = none ↔ m.origin = none) ∧
        (m.exportName? = none → r.needsModule = true → r.reference m = m.qualifiedName) ∧
        ∀ e, m.exportName? = some e → r.reference m = m.typeName ∧
          let request := m.importRequest workingDirectory emit.outDir e
          request ∈ requests ∧
          (request.IsHeldBy table ↔ (e = .default → ∀ other,
            r.firstDefault? workingDirectory emit.outDir
              (m.specifier workingDirectory emit.outDir) = some other →
                other.typeName = m.typeName)) ∧
          (request.IsHeldBy table → request.IsWrittenIn table.lines) ∧
          ((∀ q ∈ requests, IsPlainName q.localName) →
            request.IsWrittenIn table.lines → request.IsHeldBy table) := by
  have hbacked := Registries.isBackedBy_of_collect h hr
  obtain ⟨first, hf⟩ := ((Registries.grouped_of_collect h).isUniform r hr).exists_canonical
  obtain ⟨-, unit, -, -, -, -, hunit⟩ := exists_generation_of_collect h hr workingDirectory emit
  obtain ⟨-, opening, closing, hcontents, hframe, -⟩ := Registry.exists_lines_of_unit? hf hunit
  refine ⟨hbacked, first, unit, opening, closing, hf, hunit, hcontents, hframe, ?_⟩
  intro m hm
  obtain ⟨hclassName, hqualified⟩ := Registry.reference_eq hm
  refine ⟨hbacked.exportName?_eq_none_iff hm, hqualified, ?_⟩
  intro e he
  have hasked : m.importRequest workingDirectory emit.outDir e ∈
      r.importRequests workingDirectory emit.outDir :=
    Registry.importRequest_mem_importRequests hm he
  refine ⟨hclassName e he, hasked, Registry.isHeldBy_importTable_iff hm he, ?_, ?_⟩
  · exact ImportTable.isWrittenIn_of_isHeldBy hasked
  · exact fun hplain => ImportTable.isHeldBy_of_isWrittenIn hplain hasked

/-- Classes with a base type: two of modules, one handed out by default, and one of a script. -/
def forgeClasses : List ClassDeclaration :=
  [.registered "Items" "src/sword.ts" "" "Sword" ["Item"] (some ⟨some (.named "Sword"), none⟩),
    .registered "Items" "src/shield.ts" "" "Shield" ["Item"] (some ⟨some .default, none⟩),
    .registered "Items" "src/bow.ts" "Game" "Bow" ["Item"] none]

/-- Both classes of modules are imported, the class of the script has its qualified name. -/
theorem member_imports_of_forgeClasses : ∃ registries r,
    Registries.collect forgeClasses ⟨"Register", "registerTypeName", true⟩ = .ok registries ∧
    r ∈ registries ∧ r.IsBackedBy forgeClasses ⟨"Register", "registerTypeName", true⟩ ∧
    r.members.map (fun m => (m.typeName, r.reference m)) =
      [("Sword", "Sword"), ("Shield", "Shield"), ("Bow", "Game.Bow")] ∧
    ∀ m ∈ r.members, ∀ e, m.exportName? = some e →
      (m.importRequest ⟨"/"⟩ ⟨"src/generated"⟩ e).IsWrittenIn
        (r.importTable ⟨"/"⟩ ⟨"src/generated"⟩).lines := by
  obtain ⟨registries, r, hcollect, hr, hreferences, hdefaults⟩ : ∃ registries r,
      Registries.collect forgeClasses ⟨"Register", "registerTypeName", true⟩ = .ok registries ∧
      r ∈ registries ∧ r.members.map (fun m => (m.typeName, r.reference m)) =
        [("Sword", "Sword"), ("Shield", "Shield"), ("Bow", "Game.Bow")] ∧
      ∀ m ∈ r.members, m.exportName? = some .default →
        ∀ other ∈ r.members, other.exportName? = some .default → other.typeName = m.typeName :=
    ⟨_, _, rfl, List.mem_singleton_self _, by decide, by decide⟩
  obtain ⟨hbacked, -, -, -, -, -, -, -, -, hmembers⟩ :=
    member_imports_of_collect hcollect hr ⟨"/"⟩ ⟨"ts", ⟨"src/generated"⟩⟩
  refine ⟨registries, r, hcollect, hr, hbacked, hreferences, fun m hm e he => ?_⟩
  obtain ⟨-, -, hexport⟩ := hmembers m hm
  obtain ⟨-, -, hheld, hwritten, -⟩ := hexport e he
  refine hwritten (hheld.mpr fun hdefault other hother => ?_)
  obtain ⟨hmem, hexported⟩ := Registry.mem_of_firstDefault? hother
  exact hdefaults m hm (hdefault ▸ he) other hmem hexported

/-- Classes of two modules behind one specifier, both handed out by default. -/
def twinClasses : List ClassDeclaration :=
  [.registered "Items" "src/blade.ts" "" "Sword" [] (some ⟨some .default, none⟩),
    .registered "Items" "src/blade.tsx" "" "Dagger" [] (some ⟨some .default, none⟩)]

/-- The second one is used without an import. -/
theorem default_member_is_not_imported : ∃ registries r m,
    Registries.collect twinClasses .standard = .ok registries ∧ r ∈ registries ∧
    m ∈ r.members ∧ m.origin = some ⟨some .default, none⟩ ∧ r.reference m = "Dagger" ∧
    (r.importTable ⟨"/"⟩ ⟨"src/generated"⟩).lines = [importLine "Sword" "../blade"] ∧
    ¬ (m.importRequest ⟨"/"⟩ ⟨"src/generated"⟩ .default).IsWrittenIn
      (r.importTable ⟨"/"⟩ ⟨"src/generated"⟩).lines := by
  obtain ⟨registries, r, m, hcollect, hr, hm, horigin, hreference, hname, hrequests⟩ :
      ∃ registries r m, Registries.collect twinClasses .standard = .ok registries ∧
        r ∈ registries ∧ m ∈ r.members ∧ m.origin = some ⟨some .default, none⟩ ∧
        r.reference m = "Dagger" ∧ m.typeName = "Dagger" ∧
        r.importRequests ⟨"/"⟩ ⟨"src/generated"⟩ =
          [⟨"../blade", "Sword", .default⟩, ⟨"../blade", "Dagger", .default⟩] :=
    ⟨_, _, _, rfl, List.mem_singleton_self _, List.mem_cons_of_mem _ List.mem_cons_self, rfl, rfl,
      rfl, by decide⟩
  have hlines : (r.importTable ⟨"/"⟩ ⟨"src/generated"⟩).lines = [importLine "Sword" "../blade"] := by
    rw [Registry.importTable, hrequests]
    decide
  refine ⟨registries, r, m, hcollect, hr, hm, horigin, hreference, hlines, ?_⟩
  rw [Registry.importRequest_default_isWrittenIn_iff, hlines, List.mem_singleton, hname]
  intro hline
  exact absurd (headD_eq_of_importLine_eq hline) (by decide)

end ClassRegistry
