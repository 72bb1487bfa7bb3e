import ClassRegistry.Generated.Render
import ClassRegistry.Proofs.Declaration.Extraction
import ClassRegistry.Proofs.Generated.Imports
import ClassRegistry.Proofs.Registry.Collection

/-!
# What a generated module imports

The unit of a registry with a member of a module asks for one binding for each member that its
module hands out, and for one more when the base type of the first member comes from a module. Its
lines that import are those of the table that answers these requests, so all of them are met exactly
when no module is asked for its default, or for everything, under two names. Two files whose
specifiers are the same can ask so.
-/

namespace ClassRegistry

variable {workingDirectory outDir : Path}

/-- The binding of a member: what its module hands out, under the class name. -/
def Member.importRequest (workingDirectory outDir : Path) (m : Member) (exported : ExportName) :
    ImportRequest :=
  ⟨Path.specifier workingDirectory outDir ⟨m.context.location.file⟩, m.typeName,
    exported.imported⟩

/-- The binding behind a base type, under the name that the declaring module knows it by. -/
def TypeImport.importRequest (workingDirectory outDir : Path) (base : TypeImport) :
    ImportRequest :=
  ⟨base.source.specifier workingDirectory outDir, base.name, base.imported⟩

namespace Registry

/-- What the unit of a registry asks for: its members in order, then the base type. -/
def importRequests (workingDirectory outDir : Path) (r : Registry) : List ImportRequest :=
  (r.members.filterMap fun m =>
    m.exportName?.map (m.importRequest workingDirectory outDir)) ++
  ((r.canonical?.bind (·.origin)).bind (·.baseImport)).toList.map
    (TypeImport.importRequest workingDirectory outDir)

/-- A member that its module hands out is asked for. -/
theorem importRequest_mem_importRequests {r : Registry} {m : Member} (hm : m ∈ r.members)
    {exported : ExportName} (he : m.exportName? = some exported) :
    m.importRequest workingDirectory outDir exported ∈
      r.importRequests workingDirectory outDir := by
  rw [importRequests, List.mem_append, List.mem_filterMap]
  exact Or.inl ⟨m, hm, by rw [he, Option.map_some]⟩

/-- A block of lines imports each member that its module hands out, and the base type of the first
member when that comes from a module. -/
def IsImportedIn (workingDirectory outDir : Path) (r : Registry) (block : List String) : Prop :=
  (∀ m ∈ r.members, ∀ exported, m.exportName? = some exported →
    (m.importRequest workingDirectory outDir exported).IsWrittenIn block) ∧
  ∀ first base, r.canonical? = some first → first.origin.bind (·.baseImport) = some base →
    (base.importRequest workingDirectory outDir).IsWrittenIn block

/-- What is handed out by default is imported by a line of its own. -/
theorem importRequest_default_isWrittenIn_iff {m : Member} {block : List String} :
    (m.importRequest workingDirectory outDir .default).IsWrittenIn block ↔
      importLine m.typeName
        (Path.specifier workingDirectory outDir ⟨m.context.location.file⟩) ∈ block := by
  simp only [ImportRequest.IsWrittenIn, Member.importRequest, ExportName.imported]

/-- A registry is imported when all that is asked for is written. -/
theorem isImportedIn_iff {r : Registry} {block : List String} :
    r.IsImportedIn workingDirectory outDir block ↔
      ∀ q ∈ r.importRequests workingDirectory outDir, q.IsWrittenIn block := by
  simp only [IsImportedIn, importRequests, List.mem_append, List.mem_filterMap, List.mem_map,
    Option.mem_toList, Option.map_eq_some_iff, Option.bind_eq_some_iff]
  constructor
  · rintro ⟨hmembers, hbase⟩ q hq
    rcases hq with ⟨m, hm, exported, he, rfl⟩ | ⟨base, ⟨origin, ⟨first, hf, ho⟩, hb⟩, rfl⟩
    · exact hmembers m hm exported he
    · exact hbase first base hf ⟨origin, ho, hb⟩
  · intro h
    refine ⟨?_, ?_⟩
    · intro m hm exported he
      exact h _ (Or.inl ⟨m, hm, exported, he, rfl⟩)
    · rintro first base hf ⟨origin, ho, hb⟩
      exact h _ (Or.inr ⟨base, ⟨origin, ⟨first, hf, ho⟩, hb⟩, rfl⟩)

end Registry

/-- Importing members one after the other answers their requests one after the other. -/
theorem foldl_importMember (members : List Member) (table : ImportTable) :
    members.foldl (importMember workingDirectory outDir) table =
      (members.filterMap fun m => m.exportName?.map (m.importRequest workingDirectory outDir)).foldl
        (fun table q => table.add q.specifier q.localName q.imported) table := by
  induction members generalizing table with
  | nil => rfl
  | cons m rest ih =>
      rw [List.foldl_cons, ih]
      cases he : m.exportName? with
      | none => simp [importMember, he]
      | some exported => simp [importMember, he, Member.importRequest]

/-- The imports of a unit are the table that answers the requests of its registry. -/
theorem moduleImports_eq {r : Registry} {first : Member} (hf : r.canonical? = some first) :
    moduleImports workingDirectory outDir first r.members =
      ImportTable.ofRequests (r.importRequests workingDirectory outDir) := by
  rw [moduleImports, foldl_importMember, ImportTable.ofRequests, Registry.importRequests,
    List.foldl_append, hf, Option.bind_some]
  cases hb : first.origin.bind (·.baseImport) with
  | none => simp [importBase, hb]
  | some base => simp [importBase, hb, TypeImport.importRequest]

/-! ## Lines that import -/

/-- Whether a line imports. -/
def ImportsLine (line : String) : Prop :=
  "import ".toList <+: line.toList

/-- The lines of a table import. -/
theorem importsLine_of_mem_lines {table : ImportTable} {line : String} (h : line ∈ table.lines) :
    ImportsLine line := by
  obtain ⟨entry, -, hline⟩ := ImportTable.mem_lines.mp h
  have himport (clause : String) : ImportsLine (importLine clause entry.1) := by
    rw [ImportsLine, toList_importLine]
    exact List.prefix_append _ _
  rcases ModuleImports.mem_lines.mp hline with ⟨name, -, rfl⟩ | ⟨name, -, rfl⟩ | ⟨-, rfl⟩
  · exact himport name
  · exact himport _
  · exact himport _

/-- A line that starts with another character does not import. -/
theorem not_importsLine {line : String} (h : line.toList.head? ≠ some 'i') :
    ¬ ImportsLine line := by
  rintro ⟨rest, hrest⟩
  apply h
  rw [← hrest]
  rfl

/-- The lines of a map do not import. -/
theorem not_importsLine_of_mem_typeMapLines {valueType line : String}
    {entries : List (String × String)} (h : line ∈ typeMapLines "" valueType entries) :
    ¬ ImportsLine line := by
  simp only [typeMapLines, List.mem_append, List.mem_singleton, List.mem_map] at h
  apply not_importsLine
  rcases h with (rfl | ⟨entry, -, rfl⟩) | rfl
  · simp
  · simp
  · simp

/-- The lines of a module are its header, the lines of its imports, a blank line, and lines that do
not import. -/
theorem moduleLines_eq (workingDirectory outDir : Path) (registry : String) (first : Member)
    (members : List Member) :
    ∃ body, moduleLines workingDirectory outDir registry first members =
        generatedHeader :: (moduleImports workingDirectory outDir first members).lines ++
          "" :: body ∧
      ∀ line ∈ body, ¬ ImportsLine line := by
  let entries := members.map fun m => (m.typeName, m.moduleReference)
  refine ⟨("export namespace " ++ helperName registry ++ " \x7b") ::
    (typeMapLines "" first.valueType entries ++ ["\x7d"]), ?_, ?_⟩
  · simp only [moduleLines, List.append_assoc, List.cons_append]
    rfl
  · intro line h
    simp only [List.mem_cons, List.mem_append, List.not_mem_nil, or_false] at h
    rcases h with rfl | h | rfl
    · exact not_importsLine (by simp)
    · exact not_importsLine_of_mem_typeMapLines h
    · exact not_importsLine (by simp)

/-- The unit of a collected registry with a member of a module is a header, the lines of a table of
imports, and lines that import nothing. The table binds all that the unit asks for exactly when no
module is asked for its default, or for everything, under two names. Then all of it is imported by
the lines of the table, and with plain names it is imported only then. -/
theorem module_imports_of_collect {declarations : List ClassDeclaration}
    {options : CollectOptions} {registries : Registries} {r : Registry}
    (h : Registries.collect declarations options = .ok registries) (hr : r ∈ registries)
    (hm : r.needsModule = true) (workingDirectory : Path) (emit : EmitOptions) :
    ∃ first unit body, r.canonical? = some first ∧ r.unit? workingDirectory emit = some unit ∧
      let table := moduleImports workingDirectory emit.outDir first r.members
      let requests := r.importRequests workingDirectory emit.outDir
      unit.contents = linesText (generatedHeader :: table.lines ++ "" :: body) ∧
      (∀ line ∈ table.lines, ImportsLine line) ∧ (∀ line ∈ body, ¬ ImportsLine line) ∧
      ((∀ q ∈ requests, q.IsHeldBy table) ↔ SlotsAgree requests) ∧
      (SlotsAgree requests → r.IsImportedIn workingDirectory emit.outDir table.lines) ∧
      ((∀ q ∈ requests, IsPlainName q.localName) →
        r.IsImportedIn workingDirectory emit.outDir table.lines → SlotsAgree requests) := by
  obtain ⟨first, hf⟩ := ((Registries.grouped_of_collect h).isUniform r hr).exists_canonical
  obtain ⟨body, hlines, hbody⟩ :=
    moduleLines_eq workingDirectory emit.outDir r.name first r.members
  have hunit : r.unit? workingDirectory emit = some ⟨r.name,
      generatedFileName r.name emit.extension,
      linesText (moduleLines workingDirectory emit.outDir r.name first r.members)⟩ := by
    simp only [Registry.unit?, hf, hm, Option.map_some, if_true]
  refine ⟨first, _, body, hf, hunit, congrArg linesText hlines, ?_, hbody, ?_, ?_, ?_⟩
  · intro line hline
    exact importsLine_of_mem_lines hline
  · rw [moduleImports_eq hf]
    exact ImportTable.isHeldBy_ofRequests_iff
  · intro hslots
    rw [moduleImports_eq hf, Registry.isImportedIn_iff]
    intro q hq
    exact ImportTable.isWrittenIn_of_isHeldBy hq
      (ImportTable.isHeldBy_ofRequests_iff.mpr hslots q hq)
  · intro hplain himported
    rw [moduleImports_eq hf, Registry.isImportedIn_iff] at himported
    refine ImportTable.isHeldBy_ofRequests_iff.mp ?_
    intro q hq
    exact ImportTable.isHeldBy_of_isWrittenIn hplain hq (himported q hq)

/-- Two modules with members of one base type. -/
def itemModules : List Source :=
  [⟨"src/sword.ts", ("import \x7bItem\x7d from \"./base\"; " ++
      "@Register(\"Items\") export class Sword extends Item \x7b\x7d").toList⟩,
    ⟨"src/shield.ts", ("import \x7bItem\x7d from \"./base\"; " ++
      "@Register(\"Items\") export default class Shield extends Item \x7b\x7d").toList⟩]

/-- Modules with specifiers of their own are all imported. -/
theorem module_imports_of_itemModules : ∃ declarations registries r first unit body,
    Source.allDeclarations itemModules = .ok declarations ∧
    Registries.collect declarations .standard = .ok registries ∧ r ∈ registries ∧
    r.needsModule = true ∧ r.canonical? = some first ∧
    r.unit? ⟨"/"⟩ ⟨"ts", ⟨"src/generated"⟩⟩ = some unit ∧
    let block := (moduleImports ⟨"/"⟩ ⟨"src/generated"⟩ first r.members).lines
    unit.contents = linesText (generatedHeader :: block ++ "" :: body) ∧
    r.IsImportedIn ⟨"/"⟩ ⟨"src/generated"⟩ block := by
  obtain ⟨declarations, registries, r, hdeclarations, hcollect, hr, h⟩ :=
    Source.exists_collected_of_any itemModules (p := fun r => decide (r.needsModule = true ∧
      SlotsAgree (r.importRequests ⟨"/"⟩ ⟨"src/generated"⟩))) (by decide +kernel)
  obtain ⟨hm, hslots⟩ := of_decide_eq_true h
  obtain ⟨first, unit, body, hf, hunit, hcontents, -, -, -, himported, -⟩ :=
    module_imports_of_collect hcollect hr hm ⟨"/"⟩ ⟨"ts", ⟨"src/generated"⟩⟩
  exact ⟨declarations, registries, r, first, unit, body, hdeclarations, hcollect, hr, hm, hf,
    hunit, hcontents, himported hslots⟩

/-- Two modules that one specifier names. -/
def modulesOfOneSpecifier : List Source :=
  [⟨"src/a.ts", "@Register(\"Inventory\") export default class A \x7b\x7d".toList⟩,
    ⟨"src/a.tsx", "@Register(\"Inventory\") export default class B \x7b\x7d".toList⟩]

/-- What the unit of their registry holds. -/
def contentsOfOneSpecifier : String :=
  linesText
    [generatedHeader,
      importLine "A" "../a",
      "",
      "export namespace InventoryHelper \x7b",
      "    export const Type: Map<string, unknown> = new Map<string, unknown>([",
      "        [\"A\", new A()],",
      "        [\"B\", new B()],",
      "    ]);",
      "\x7d"]

/-- Of two defaults behind one specifier, the second is used without an import. -/
theorem default_import_is_lost : ∃ declarations registries r first m,
    Source.allDeclarations modulesOfOneSpecifier = .ok declarations ∧
    Registries.collect declarations .standard = .ok registries ∧ r ∈ registries ∧
    r.needsModule = true ∧ r.canonical? = some first ∧
    (m ∈ r.members ∧ m.typeName = "B" ∧ m.exportName? = some .default) ∧
    (r.unit? ⟨"/"⟩ ⟨"ts", ⟨"src/generated"⟩⟩).map (·.contents) = some contentsOfOneSpecifier ∧
    let block := (moduleImports ⟨"/"⟩ ⟨"src/generated"⟩ first r.members).lines
    ¬ (m.importRequest ⟨"/"⟩ ⟨"src/generated"⟩ .default).IsWrittenIn block ∧
    ¬ r.IsImportedIn ⟨"/"⟩ ⟨"src/generated"⟩ block := by
  obtain ⟨declarations, registries, r, hdeclarations, hcollect, hr, h⟩ :=
    Source.exists_collected_of_any modulesOfOneSpecifier (p := fun r => r.canonical?.any fun first =>
      r.members.any fun m => decide (r.needsModule = true ∧ m.typeName = "B" ∧
        m.exportName? = some .default ∧
        (r.unit? ⟨"/"⟩ ⟨"ts", ⟨"src/generated"⟩⟩).map (·.contents) = some contentsOfOneSpecifier ∧
        importLine m.typeName
            (Path.specifier ⟨"/"⟩ ⟨"src/generated"⟩ ⟨m.context.location.file⟩) ∉
          (moduleImports ⟨"/"⟩ ⟨"src/generated"⟩ first r.members).lines))
      (by decide +kernel)
  obtain ⟨first, hf, h⟩ := (Option.any_eq_true ..).mp h
  obtain ⟨m, hmember, h⟩ := List.any_eq_true.mp h
  obtain ⟨hm, hname, hexport, hcontents, hlost⟩ := of_decide_eq_true h
  rw [← Registry.importRequest_default_isWrittenIn_iff] at hlost
  refine ⟨declarations, registries, r, first, m, hdeclarations, hcollect, hr, hm, hf,
    ⟨hmember, hname, hexport⟩, hcontents, hlost, ?_⟩
  intro himported
  exact hlost (himported.1 m hmember .default hexport)

end ClassRegistry
