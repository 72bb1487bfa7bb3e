import ClassRegistry.Generation
import ClassRegistry.Proofs.Generated.ModuleUnit
import ClassRegistry.Proofs.Registry.Membership

/-!
# The layout of a unit

A pass that succeeds renders a unit for each registry that it collects. The import lines of the unit
are those of one table, and the lines with a bracket behind their blanks are the entries of one map:
each member in order, its class name beside what the unit refers to it by.
-/

namespace ClassRegistry

/-! ## Units of a pass -/

section Pass

variable {workingDirectory : Path} {options : CollectOptions} {emit : EmitOptions}
  {declarations : List ClassDeclaration} {g : Generation}

/-- A pass succeeds when its registries can be collected. -/
theorem generate_eq_ok_iff : generate workingDirectory options emit declarations = .ok g ↔
    Registries.collect declarations options = .ok g.registries ∧
      g.units = g.registries.units workingDirectory emit := by
  rw [generate]
  cases Registries.collect declarations options with
  | error e => simp
  | ok registries =>
      simp only [Except.ok.injEq]
      constructor
      · rintro rfl
        exact ⟨rfl, rfl⟩
      · rintro ⟨rfl, hunits⟩
        rw [← hunits]

/-- A unit of a pass is that of a registry with a first member. -/
theorem exists_of_mem_units (h : generate workingDirectory options emit declarations = .ok g)
    {unit : GeneratedUnit} (hu : unit ∈ g.units) :
    ∃ r ∈ g.registries, ∃ first, r.canonical? = some first ∧
      r.unit? workingDirectory emit = some unit := by
  rw [(generate_eq_ok_iff.mp h).2, Registries.units, List.mem_filterMap] at hu
  obtain ⟨r, hr, hunit⟩ := hu
  obtain ⟨first, hf, -⟩ := Option.map_eq_some_iff.mp hunit
  exact ⟨r, hr, first, hf, hunit⟩

/-- What is collected is generated. -/
theorem exists_generation_of_collect {registries : Registries}
    (h : Registries.collect declarations options = .ok registries) {r : Registry}
    (hr : r ∈ registries) (workingDirectory : Path) (emit : EmitOptions) :
    ∃ g unit, generate workingDirectory options emit declarations = .ok g ∧
      g.registries = registries ∧ unit ∈ g.units ∧ unit.registry = r.name ∧
      r.unit? workingDirectory emit = some unit := by
  obtain ⟨first, hf⟩ := ((Registries.grouped_of_collect h).isUniform r hr).exists_canonical
  obtain ⟨unit, hname, hunit⟩ :
      ∃ unit, unit.registry = r.name ∧ r.unit? workingDirectory emit = some unit := by
    rw [Registry.unit?, hf, Option.map_some]
    exact ⟨_, rfl, rfl⟩
  refine ⟨⟨registries, registries.units workingDirectory emit⟩, unit, ?_, rfl, ?_, hname, hunit⟩
  · exact generate_eq_ok_iff.mpr ⟨h, rfl⟩
  · exact List.mem_filterMap.mpr ⟨r, hr, hunit⟩

/-- A pass has one registry of a name. -/
theorem eq_of_name_eq (h : generate workingDirectory options emit declarations = .ok g)
    {r s : Registry} (hr : r ∈ g.registries) (hs : s ∈ g.registries) (hname : r.name = s.name) :
    r = s := by
  have hgrouped := Registries.grouped_of_collect (generate_eq_ok_iff.mp h).1
  exact List.inj_on_of_nodup_map hgrouped.names_nodup hr hs hname

end Pass

/-! ## Entries -/

namespace Registry

/-- How the unit of a registry refers to a member. -/
def reference (r : Registry) (m : Member) : String :=
  if r.needsModule then m.moduleReference else m.typeName

/-- The entries of the map of a registry: class names beside references. -/
def entries (r : Registry) : List (String × String) :=
  r.members.map fun m => (m.typeName, r.reference m)

/-- What stands in front of the lines of the helper. -/
def indent (r : Registry) (first : Member) : String :=
  if r.needsModule || first.scope.isEmpty then "" else "    "

/-- The imports of the unit of a registry. -/
def importTable (workingDirectory outDir : Path) (r : Registry) : ImportTable :=
  .ofRequests (r.importRequests workingDirectory outDir)

/-- A registry without a member of a module imports nothing. -/
theorem importTable_eq_nil {workingDirectory outDir : Path} {r : Registry}
    (h : r.needsModule = false) : r.importTable workingDirectory outDir = [] := by
  have horigin : ∀ m ∈ r.members, m.origin = none := by
    simpa [needsModule] using h
  have hmembers : (r.members.filterMap fun m =>
      m.exportName?.map (m.importRequest workingDirectory outDir)) = [] := by
    rw [List.filterMap_eq_nil_iff]
    intro m hm
    simp [Member.exportName?, horigin m hm]
  have hbase : (r.canonical?.bind (·.origin)).bind (·.baseImport) = none := by
    cases hf : r.canonical? with
    | none => rfl
    | some first => simp [horigin first (List.mem_of_head? hf)]
  rw [importTable, importRequests, hmembers, hbase]
  rfl

/-- The unit of a collected registry imports nothing exactly when no member is of a module. -/
theorem lines_importTable_eq_nil_iff {declarations : List ClassDeclaration}
    {options : CollectOptions} {registries : Registries} {r : Registry}
    (h : Registries.collect declarations options = .ok registries) (hr : r ∈ registries)
    {workingDirectory outDir : Path} :
    (r.importTable workingDirectory outDir).lines = [] ↔ r.needsModule = false := by
  constructor
  · intro hlines
    by_contra hm
    obtain ⟨m, hmember, horigin⟩ := List.any_eq_true.mp (Bool.not_eq_false _ ▸ hm)
    obtain ⟨-, d, -, hd⟩ := (Registries.mem_members_iff h hr).mp hmember
    have hexported : m.exportName? ≠ none := by
      rw [ne_eq, ClassDeclaration.exportName?_eq_none_iff_of_member? hd]
      exact Option.isSome_iff_ne_none.mp horigin
    obtain ⟨exported, he⟩ := Option.ne_none_iff_exists'.mp hexported
    exact ImportTable.lines_ofRequests_ne_nil (importRequest_mem_importRequests hmember he) hlines
  · intro hm
    rw [importTable_eq_nil hm]
    rfl

end Registry

/-- The line of an entry. -/
def entryLine (indent : String) (entry : String × String) : String :=
  indent ++ "        [\"" ++ entry.1 ++ "\", new " ++ entry.2 ++ "()],"

/-- Whether a line holds an entry: a bracket stands behind its blanks. -/
def IsEntryLine (line : String) : Prop :=
  (line.toList.dropWhile (· = ' ')).head? = some '['

/-- Whether a line neither imports nor holds an entry. -/
def IsFrameLine (line : String) : Prop :=
  ¬ ImportsLine line ∧ ¬ IsEntryLine line

/-- The line of an entry holds an entry. -/
theorem isEntryLine_entryLine {indent : String} (hblank : ∀ c ∈ indent.toList, c = ' ')
    (entry : String × String) : IsEntryLine (entryLine indent entry) := by
  simp only [IsEntryLine, entryLine, String.toList_append, List.append_assoc]
  rw [List.dropWhile_append_of_pos (by simpa using hblank)]
  simp

/-- A line of which the first sign is neither a bracket nor the start of an import. -/
theorem isFrameLine_of_head? {line : String} {c : Char}
    (h : (line.toList.dropWhile (· = ' ')).head? = some c) (hi : c ≠ 'i') (hb : c ≠ '[') :
    IsFrameLine line := by
  constructor
  · rintro ⟨rest, hrest⟩
    rw [← hrest] at h
    simp at h
    exact hi h.symm
  · rw [IsEntryLine, h]
    simpa using hb

/-- A line of the frame stays one when it is indented. -/
theorem IsFrameLine.indented {indent text : String} (hblank : ∀ c ∈ indent.toList, c = ' ')
    (h : IsFrameLine text) : IsFrameLine (indent ++ text) := by
  constructor
  · intro himport
    cases hi : indent.toList with
    | nil =>
        rw [String.toList_eq_nil_iff.mp hi, String.empty_append] at himport
        exact h.1 himport
    | cons c more =>
        refine not_importsLine ?_ himport
        rw [String.toList_append, hi, hblank c (hi ▸ List.mem_cons_self)]
        simp
  · rw [IsEntryLine, String.toList_append, List.dropWhile_append_of_pos (by simpa using hblank)]
    exact h.2

/-- A map between lines of the frame is its entries between lines of the frame. -/
theorem exists_frame_of_typeMapLines (indent : String) (hblank : ∀ c ∈ indent.toList, c = ' ')
    (valueType : String) (entries : List (String × String)) (before after : List String)
    (hbefore : ∀ line ∈ before, IsFrameLine line) (hafter : ∀ line ∈ after, IsFrameLine line) :
    ∃ opening closing, before ++ typeMapLines indent valueType entries ++ after =
        opening ++ entries.map (entryLine indent) ++ closing ∧
      ∀ line ∈ opening ++ closing, IsFrameLine line := by
  let mapType := "Map<string, " ++ valueType ++ ">"
  let first := indent ++ "    export const Type: " ++ mapType ++ " = new " ++ mapType ++ "(["
  have hfirst : IsFrameLine first := by
    simp only [first, String.append_assoc]
    exact .indented hblank (isFrameLine_of_head? (c := 'e') (by simp) (by decide) (by decide))
  have hlast : IsFrameLine (indent ++ "    ]);") :=
    .indented hblank (isFrameLine_of_head? (c := ']') (by decide) (by decide) (by decide))
  refine ⟨before ++ [first], [indent ++ "    ]);"] ++ after, ?_, ?_⟩
  · simp only [typeMapLines, List.append_assoc]
    rfl
  · simp only [List.mem_append, List.mem_singleton]
    rintro line ((hline | rfl) | (rfl | hline))
    · exact hbefore line hline
    · exact hfirst
    · exact hlast
    · exact hafter line hline

theorem isFrameLine_empty : IsFrameLine "" :=
  ⟨not_importsLine (by decide), by simp [IsEntryLine]⟩

theorem isFrameLine_export (text : String) : IsFrameLine ("export namespace " ++ text) :=
  isFrameLine_of_head? (c := 'e') (by simp) (by decide) (by decide)

theorem isFrameLine_brace : IsFrameLine "\x7d" :=
  isFrameLine_of_head? (c := '\x7d') (by decide) (by decide) (by decide)

theorem isFrameLine_namespace (text : String) : IsFrameLine ("namespace " ++ text) :=
  isFrameLine_of_head? (c := 'n') (by simp) (by decide) (by decide)

/-- A script that nests its helper in a namespace. -/
theorem scriptLines_of_nested {first : Member} (h : first.scope.isEmpty = false)
    (registry : String) (members : List Member) :
    scriptLines registry first members =
      [generatedHeader, "namespace " ++ first.scope ++ " \x7b",
        "    export namespace " ++ helperName registry ++ " \x7b"] ++
      typeMapLines "    " first.valueType (members.map fun m => (m.typeName, m.typeName)) ++
      ["    \x7d", "\x7d"] := by
  simp [scriptLines, h, String.append_assoc]

/-- A script with its helper at the top level. -/
theorem scriptLines_of_flat {first : Member} (h : first.scope.isEmpty = true)
    (registry : String) (members : List Member) :
    scriptLines registry first members =
      [generatedHeader, "namespace " ++ helperName registry ++ " \x7b"] ++
      typeMapLines "" first.valueType (members.map fun m => (m.typeName, m.typeName)) ++
      ["\x7d"] := by
  simp [scriptLines, h, String.append_assoc]

namespace Registry

variable {workingDirectory : Path} {emit : EmitOptions} {r : Registry} {first : Member}

/-- A helper is indented by blanks only. -/
theorem eq_blank_of_mem_indent : ∀ c ∈ (r.indent first).toList, c = ' ' := by
  intro c hc
  rw [indent] at hc
  split at hc
  · simp at hc
  · simpa using hc

/-- In a module the frame of the map stands behind the imports. -/
theorem exists_frame_of_moduleLines (hf : r.canonical? = some first) (hm : r.needsModule = true)
    (workingDirectory outDir : Path) :
    ∃ opening closing, moduleLines workingDirectory outDir r.name first r.members =
        generatedHeader :: (r.importTable workingDirectory outDir).lines ++
          (opening ++ r.entries.map (entryLine (r.indent first)) ++ closing) ∧
      ∀ line ∈ opening ++ closing, IsFrameLine line := by
  have hindent : r.indent first = "" := by simp [indent, hm]
  obtain ⟨opening, closing, hmap, hframe⟩ := exists_frame_of_typeMapLines ""
    (by simp) first.valueType r.entries
    ["", "export namespace " ++ (helperName r.name ++ " \x7b")] ["\x7d"]
    (List.forall_mem_cons.mpr ⟨isFrameLine_empty, List.forall_mem_singleton.mpr
      (isFrameLine_export _)⟩)
    (List.forall_mem_singleton.mpr isFrameLine_brace)
  refine ⟨opening, closing, ?_, hframe⟩
  rw [hindent, ← hmap, moduleLines, moduleImports_eq hf]
  simp [importTable, entries, reference, hm, String.append_assoc]

/-- In a script the frame of the map is all that there is, with the namespace of the first member
around it unless this one has none. -/
theorem exists_frame_of_scriptLines (first : Member) (hm : r.needsModule = false) :
    ∃ opening closing, scriptLines r.name first r.members =
        generatedHeader :: (opening ++ r.entries.map (entryLine (r.indent first)) ++ closing) ∧
      ∀ line ∈ opening ++ closing, IsFrameLine line := by
  cases hs : first.scope.isEmpty with
  | true =>
      have hindent : r.indent first = "" := by simp [indent, hs]
      obtain ⟨opening, closing, hmap, hframe⟩ := exists_frame_of_typeMapLines ""
        (by simp) first.valueType r.entries
        ["namespace " ++ (helperName r.name ++ " \x7b")] ["\x7d"]
        (List.forall_mem_singleton.mpr (isFrameLine_namespace _))
        (List.forall_mem_singleton.mpr isFrameLine_brace)
      refine ⟨opening, closing, ?_, hframe⟩
      rw [hindent, ← hmap, scriptLines_of_flat hs]
      simp [entries, reference, hm, String.append_assoc]
  | false =>
      have hindent : r.indent first = "    " := by simp [indent, hm, hs]
      obtain ⟨opening, closing, hmap, hframe⟩ := exists_frame_of_typeMapLines "    "
        (by simp) first.valueType r.entries
        ["namespace " ++ (first.scope ++ " \x7b"),
          "    " ++ ("export namespace " ++ (helperName r.name ++ " \x7b"))]
        ["    " ++ "\x7d", "\x7d"]
        (List.forall_mem_cons.mpr ⟨isFrameLine_namespace _, List.forall_mem_singleton.mpr
          ((isFrameLine_export _).indented (by simp))⟩)
        (List.forall_mem_cons.mpr ⟨isFrameLine_brace.indented (by simp),
          List.forall_mem_singleton.mpr isFrameLine_brace⟩)
      refine ⟨opening, closing, ?_, hframe⟩
      -- the text of the source is not cut behind the blanks, as the frame is
      have hnested (text : String) :
          "    export namespace " ++ text = "    " ++ ("export namespace " ++ text) := by
        rw [← String.append_assoc]
        rfl
      rw [hindent, ← hmap, scriptLines_of_nested hs]
      simp [entries, reference, hm, String.append_assoc, hnested]

/-- The lines of a unit are its header, the lines of its imports, and the entries of its map inside
of a frame. -/
theorem exists_lines_of_unit? (hf : r.canonical? = some first) {unit : GeneratedUnit}
    (hu : r.unit? workingDirectory emit = some unit) :
    unit.registry = r.name ∧ ∃ opening closing,
      unit.contents = linesText (generatedHeader ::
        (r.importTable workingDirectory emit.outDir).lines ++ opening ++
        r.entries.map (entryLine (r.indent first)) ++ closing) ∧
      (∀ line ∈ opening ++ closing, IsFrameLine line) ∧
      ∀ entry ∈ r.entries, IsEntryLine (entryLine (r.indent first) entry) := by
  rw [unit?, hf, Option.map_some] at hu
  obtain rfl := Option.some.inj hu
  refine ⟨rfl, ?_⟩
  have hentry : ∀ entry ∈ r.entries, IsEntryLine (entryLine (r.indent first) entry) :=
    fun entry _ => isEntryLine_entryLine eq_blank_of_mem_indent entry
  cases hm : r.needsModule with
  | true =>
      obtain ⟨opening, closing, hlines, hframe⟩ :=
        exists_frame_of_moduleLines hf hm workingDirectory emit.outDir
      refine ⟨opening, closing, ?_, hframe, hentry⟩
      simp only [if_true, hlines, List.append_assoc]
  | false =>
      obtain ⟨opening, closing, hlines, hframe⟩ := exists_frame_of_scriptLines first hm
      refine ⟨opening, closing, ?_, hframe, hentry⟩
      simp only [Bool.false_eq_true, if_false, hlines, importTable_eq_nil hm, ImportTable.lines,
        List.append_assoc]
      rfl

end Registry

end ClassRegistry
