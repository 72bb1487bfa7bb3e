import ClassRegistry.Proofs.Generated.Layout
import ClassRegistry.Report

/-!
# The listed path of a helper

The list of a project names a helper by the namespace of the first member of its registry. The unit
of the registry puts the helper there when all members belong to global scripts, but a unit that is
a module exports it at the top level. So the listed path leads to the helper exactly when the
registry has no member of a module or its first member stands outside of any namespace. For the
other registries the list names a namespace that nothing declares.
-/

namespace ClassRegistry

/-! ## Nested namespaces -/

/-- The lines of a namespace around the lines that stand inside of it. -/
def namespaceLines (isExported : Bool) (name : String) (inside : List String) : List String :=
  [(if isExported then "export " else "") ++ "namespace " ++ name ++ " \x7b"] ++
    inside.map ("    " ++ ·) ++ ["\x7d"]

/-- Namespaces one inside of the other, the outermost first. Those inside of another are exported
from it. -/
def nestedLines (isExported : Bool) (inside : List String) : List String → List String
  | [] => inside
  | name :: names => namespaceLines isExported name (nestedLines true inside names)

/-- The declaration of a map, from the first column on. -/
def mapLines (valueType : String) (entries : List (String × String)) : List String :=
  let mapType := "Map<string, " ++ valueType ++ ">"
  ["export const Type: " ++ mapType ++ " = new " ++ mapType ++ "(["] ++
    (entries.map fun (key, reference) => "    [\"" ++ key ++ "\", new " ++ reference ++ "()],") ++
    ["]);"]

/-- A map stands one step inside of what it is indented by. -/
theorem typeMapLines_eq (indent valueType : String) (entries : List (String × String)) :
    typeMapLines indent valueType entries =
      ((mapLines valueType entries).map ("    " ++ ·)).map (indent ++ ·) := by
  have hconst (text : String) :
      "    export const Type: " ++ text = "    " ++ ("export const Type: " ++ text) := by
    rw [← String.append_assoc]
    rfl
  have hentry (text : String) : "        [\"" ++ text = "    " ++ ("    [\"" ++ text) := by
    rw [← String.append_assoc]
    rfl
  have hclose : "    " ++ "]);" = "    ]);" := rfl
  simp [typeMapLines, mapLines, String.append_assoc, hconst, hentry, hclose]

namespace Registry

/-- The namespaces that the unit of a registry declares for its helper, the outermost first: a script
nests the helper in the namespace of the first member, a module has it at the top level. -/
def helperBlocks (r : Registry) (first : Member) : List String :=
  if r.needsModule || first.scope.isEmpty then [helperName r.name]
  else [first.scope, helperName r.name]

variable {workingDirectory : Path} {emit : EmitOptions} {r : Registry} {first : Member}

/-- What the unit of a registry has between its header and its namespaces: the imports of a module
and a blank line. -/
def preamble (workingDirectory outDir : Path) (r : Registry) : List String :=
  if r.needsModule then (r.importTable workingDirectory outDir).lines ++ [""] else []

/-- A unit declares the blocks of its helper, one inside of the other, around its map. -/
theorem contents_eq_nestedLines (hf : r.canonical? = some first) {unit : GeneratedUnit}
    (hu : r.unit? workingDirectory emit = some unit) :
    unit.contents = linesText (generatedHeader :: r.preamble workingDirectory emit.outDir ++
      nestedLines r.needsModule (mapLines first.valueType r.entries) (r.helperBlocks first)) := by
  rw [unit?, hf, Option.map_some] at hu
  obtain rfl := Option.some.inj hu
  refine congrArg linesText ?_
  cases hm : r.needsModule with
  | true =>
      rw [if_pos rfl, moduleLines, moduleImports_eq hf, typeMapLines_eq]
      simp [preamble, helperBlocks, nestedLines, namespaceLines, hm, entries, reference, importTable]
  | false =>
      rw [if_neg Bool.false_ne_true]
      cases hs : first.scope.isEmpty with
      | true =>
          rw [scriptLines_of_flat hs, typeMapLines_eq]
          simp [preamble, helperBlocks, nestedLines, namespaceLines, hm, hs, entries, reference]
      | false =>
          have hopen (text : String) :
              "    export namespace " ++ text = "    " ++ ("export namespace " ++ text) := by
            rw [← String.append_assoc]
            rfl
          rw [scriptLines_of_nested hs, typeMapLines_eq]
          simp [preamble, helperBlocks, nestedLines, namespaceLines, hm, hs, entries, reference,
            String.append_assoc, hopen]

/-- The listed path is that of the declared blocks when all members are of scripts or the first one
stands outside of any namespace, and only then. -/
theorem helperPath_eq_iff : Report.helperPath r.name first = ".".intercalate (r.helperBlocks first) ↔
    (∀ m ∈ r.members, m.origin = none) ∨ first.scope = "" := by
  have hscripts : (∀ m ∈ r.members, m.origin = none) ↔ r.needsModule = false := by
    simp [needsModule]
  rw [hscripts, ← String.isEmpty_iff]
  cases hs : first.scope.isEmpty with
  | true => simp [Report.helperPath, helperBlocks, hs]
  | false =>
      cases hm : r.needsModule with
      | false => simp [Report.helperPath, helperBlocks, hs, hm]
      | true =>
          simp only [Report.helperPath, helperBlocks, hs, hm, Bool.true_or, Bool.false_eq_true,
            if_true, if_false, reduceCtorEq, or_self, iff_false]
          intro heq
          -- a text in front of another one makes it longer
          have hlength := congrArg String.length heq
          simp at hlength

end Registry

/-! ## The list -/

namespace Report

/-- A registry opens its lines with its name, the path of its helper and its base type. -/
theorem registryLines_eq_cons {r : Registry} {first : Member} (hf : r.canonical? = some first)
    (isColored : Bool) :
    ∃ details, registryLines isColored r =
      (Style.paint isColored [.bold] r.name ++ " " ++ Style.paint isColored [.blue] "->" ++ " " ++
        Style.paint isColored [.dimmed]
          (helperPath r.name first ++ " (base: " ++ first.valueType ++ ")")) :: details := by
  rw [registryLines, hf]
  exact ⟨_, rfl⟩

/-- The lines of a registry stand one behind the other in the list. -/
theorem registryLines_isInfix_listedLines {registries : Registries} {r : Registry}
    (hr : r ∈ registries) (isColored : Bool) (scanned : Nat) :
    registryLines isColored r <:+: listedLines isColored scanned registries := by
  rw [listedLines, if_neg (by simpa using List.ne_nil_of_mem hr)]
  obtain ⟨before, after, rfl⟩ := List.append_of_mem hr
  rw [List.flatMap_append, List.flatMap_cons, List.append_assoc, List.append_assoc]
  exact List.infix_append' _ _ _

end Report

/-- The list shows each collected registry by a line with the path of its helper, and the unit of the
registry declares the helper in nested blocks. The path is that of the blocks exactly when all
members are of scripts or the first one stands outside of any namespace. -/
theorem listed_helper_of_collect {declarations : List ClassDeclaration} {options : CollectOptions}
    {registries : Registries} {r : Registry}
    (h : Registries.collect declarations options = .ok registries) (hr : r ∈ registries)
    (workingDirectory : Path) (emit : EmitOptions) (isColored : Bool) (scanned : Nat) :
    ∃ first, ∃ unit ∈ registries.units workingDirectory emit, ∃ details,
      r.canonical? = some first ∧ unit.registry = r.name ∧
      (Style.paint isColored [.bold] r.name ++ " " ++ Style.paint isColored [.blue] "->" ++ " " ++
        Style.paint isColored [.dimmed]
          (Report.helperPath r.name first ++ " (base: " ++ first.valueType ++ ")")) :: details <:+:
        Report.listedLines isColored scanned registries ∧
      unit.contents = linesText (generatedHeader :: r.preamble workingDirectory emit.outDir ++
        nestedLines r.needsModule (mapLines first.valueType r.entries) (r.helperBlocks first)) ∧
      (Report.helperPath r.name first = ".".intercalate (r.helperBlocks first) ↔
        (∀ m ∈ r.members, m.origin = none) ∨ first.scope = "") := by
  obtain ⟨first, hf⟩ := ((Registries.grouped_of_collect h).isUniform r hr).exists_canonical
  obtain ⟨g, unit, hg, rfl, hu, hname, hunit⟩ :=
    exists_generation_of_collect h hr workingDirectory emit
  obtain ⟨details, hlines⟩ := Report.registryLines_eq_cons hf isColored
  refine ⟨first, unit, ?_, details, hf, hname, ?_, Registry.contents_eq_nestedLines hf hunit,
    Registry.helperPath_eq_iff⟩
  · rwa [← (generate_eq_ok_iff.mp hg).2]
  · rw [← hlines]
    exact Report.registryLines_isInfix_listedLines hr isColored scanned

/-- Classes of scripts, the first one in a namespace. -/
def armouryClasses : List ClassDeclaration :=
  [.registered "Items" "src/sword.ts" "Game" "Sword" ["Item"] none,
    .registered "Items" "src/shield.ts" "" "Shield" ["Item"] none]

/-- Their helper is listed where it is declared. -/
theorem listed_helper_of_armouryClasses : ∃ registries unit details,
    Registries.collect armouryClasses .standard = .ok registries ∧
    unit ∈ registries.units ⟨"/"⟩ ⟨"ts", ⟨"src/generated"⟩⟩ ∧
    "Items -> Game.ItemsHelper (base: Item)" :: details <:+:
      Report.listedLines false 2 registries ∧
    unit.contents = linesText (generatedHeader ::
      nestedLines false (mapLines "Item" [("Sword", "Sword"), ("Shield", "Shield")])
        ["Game", "ItemsHelper"]) ∧
    "Game.ItemsHelper" = ".".intercalate ["Game", "ItemsHelper"] := by
  obtain ⟨registries, r, h, hr, hp⟩ :=
    Registries.exists_collected_of_any armouryClasses (p := fun r => decide (
      r.name = "Items" ∧ r.needsModule = false ∧
      r.entries = [("Sword", "Sword"), ("Shield", "Shield")] ∧
      r.canonical?.map Member.scope = some "Game" ∧
      r.canonical?.map Member.valueType = some "Item")) (by decide)
  obtain ⟨hname, hm, hentries, hscope, hvalue⟩ := of_decide_eq_true hp
  obtain ⟨first, unit, hu, details, hf, -, hlisted, hcontents, hpath⟩ :=
    listed_helper_of_collect h hr ⟨"/"⟩ ⟨"ts", ⟨"src/generated"⟩⟩ false 2
  rw [hf, Option.map_some, Option.some.injEq] at hscope hvalue
  have hblocks : r.helperBlocks first = ["Game", "ItemsHelper"] := by
    simp [Registry.helperBlocks, hm, hscope, hname, helperName]
  have hscripts : ∀ m ∈ r.members, m.origin = none := by
    simpa [Registry.needsModule] using hm
  have hjoined := hpath.mpr (Or.inl hscripts)
  have hhelper : Report.helperPath r.name first = "Game.ItemsHelper" := by
    rw [hjoined, hblocks]
    rfl
  refine ⟨registries, unit, details, h, hu, ?_, ?_, hblocks ▸ hhelper ▸ hjoined⟩
  · rw [hhelper, hvalue, hname] at hlisted
    exact hlisted
  · simpa [Registry.preamble, hm, hentries, hblocks, hvalue] using hcontents

/-- A class of a script in a namespace, and one that a module hands out. -/
def partlyModuleClasses : List ClassDeclaration :=
  [.registered "Inventory" "src/a.ts" "Game" "Foo" [] none,
    .registered "Inventory" "src/b.ts" "" "Bar" [] (some ⟨some (.named "Bar"), none⟩)]

/-- What the unit of their registry holds. -/
def partlyModuleContents : String :=
  linesText
    [generatedHeader,
      importLine "\x7b Bar \x7d" "../b",
      "",
      "export namespace InventoryHelper \x7b",
      "    export const Type: Map<string, unknown> = new Map<string, unknown>([",
      "        [\"Foo\", new Game.Foo()],",
      "        [\"Bar\", new Bar()],",
      "    ]);",
      "\x7d"]

/-- Their helper is listed inside of the namespace, and the unit exports it at the top level. -/
theorem listed_helper_is_not_declared : ∃ registries, ∃ r ∈ registries, ∃ first,
    Registries.collect partlyModuleClasses .standard = .ok registries ∧ r.canonical? = some first ∧
    "Inventory -> Game.InventoryHelper (base: unknown)" ∈ Report.listedLines false 2 registries ∧
    (r.unit? ⟨"/"⟩ ⟨"ts", ⟨"src/generated"⟩⟩).map (·.contents) = some partlyModuleContents ∧
    r.helperBlocks first = ["InventoryHelper"] ∧
    Report.helperPath r.name first ≠ ".".intercalate (r.helperBlocks first) := by
  obtain ⟨registries, r, h, hr, hp⟩ :=
    Registries.exists_collected_of_any partlyModuleClasses (p := fun r => r.canonical?.any fun first =>
      decide ("Inventory -> Game.InventoryHelper (base: unknown)" ∈ Report.registryLines false r ∧
        (r.unit? ⟨"/"⟩ ⟨"ts", ⟨"src/generated"⟩⟩).map (·.contents) = some partlyModuleContents ∧
        r.helperBlocks first = ["InventoryHelper"] ∧
        Report.helperPath r.name first ≠ "InventoryHelper")) (by decide +kernel)
  obtain ⟨first, hf, hp⟩ := (Option.any_eq_true ..).mp hp
  obtain ⟨hline, hcontents, hblocks, hpath⟩ := of_decide_eq_true hp
  refine ⟨registries, r, hr, first, h, hf, ?_, hcontents, hblocks, ?_⟩
  · exact (Report.registryLines_isInfix_listedLines hr false 2).subset hline
  · rw [hblocks]
    exact hpath

end ClassRegistry
