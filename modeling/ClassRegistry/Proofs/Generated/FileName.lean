import ClassRegistry.Config
import ClassRegistry.Output
import ClassRegistry.Proofs.FileTree.Plain
import ClassRegistry.Proofs.Generated.Layout

/-!
# The files of units

A unit is written to a file that is named after its registry, with the extension of the settings
behind it. The name of a registry is harmless in a path, so the extension alone decides: without a
slash each unit is a direct child of the output directory and no two are in one place; with a slash
no unit is a child, since what follows the slash is taken as further steps of the path.
-/

namespace ClassRegistry

/-! ## Generated names -/

/-- A name holds no slash. -/
theorem Text.slash_notMem_of_isName {text : String} (h : isName text = true) :
    '/' ∉ text.toList := by
  have hslash : isNamePart '/' = false := by decide
  intro hmem
  unfold isName at h
  split at h
  · cases h
  · rename_i first rest htext
    obtain ⟨hfirst, hrest⟩ := Bool.and_eq_true_iff.mp h
    rw [htext, List.mem_cons] at hmem
    rcases hmem with rfl | hmem
    · rw [isNamePart_of_isNameStart hfirst] at hslash
      cases hslash
    · rw [List.all_eq_true.mp hrest '/' hmem] at hslash
      cases hslash

theorem toList_generatedFileName (registry extension : String) :
    (generatedFileName registry extension).toList =
      registry.toList ++ ".gen.".toList ++ extension.toList := by
  rw [generatedFileName, String.toList_append, String.toList_append]

/-- A generated name is longer than the words that are special in a path. -/
theorem toList_generatedFileName_ne {word : List Char} (h : word.length < 5)
    (registry extension : String) : (generatedFileName registry extension).toList ≠ word := by
  rintro rfl
  have hgen : ".gen.".toList.length = 5 := rfl
  simp only [toList_generatedFileName, List.length_append] at h
  omega

/-- What stands in front of the extension holds no slash when the registry does not. -/
theorem slash_notMem_append_gen {registry : String} (h : '/' ∉ registry.toList) :
    '/' ∉ registry.toList ++ ".gen.".toList := by
  rw [List.mem_append]
  rintro (hmem | hmem)
  · exact h hmem
  · exact absurd hmem (by decide)

/-- The components of a generated name, also when the extension has slashes: the first one is a name
that is generated itself. -/
theorem components_generatedFileName {registry : String} (hregistry : '/' ∉ registry.toList)
    {extension : String} {piece : List Char} {more : List (List Char)}
    (h : Path.pieces extension.toList = piece :: more) :
    ∃ first, Path.pieces (generatedFileName registry extension).toList = first :: more ∧
      first ≠ [] ∧ first ≠ ['.'] ∧
      (Path.mk (generatedFileName registry extension)).components =
        .name (generatedFileName registry (String.ofList piece)) ::
          more.filterMap Path.Component.ofPiece? := by
  let first := (generatedFileName registry (String.ofList piece)).toList
  have hpieces : Path.pieces (generatedFileName registry extension).toList = first :: more := by
    simp only [first, toList_generatedFileName, String.toList_ofList]
    exact Path.pieces_append (slash_notMem_append_gen hregistry) h
  have hne : first ≠ [] := toList_generatedFileName_ne (by decide) _ _
  have hcurrent : first ≠ ['.'] := toList_generatedFileName_ne (by decide) _ _
  have hup : first ≠ ['.', '.'] := toList_generatedFileName_ne (by decide) _ _
  have hname := Path.Component.ofPiece?_eq_name hne hcurrent hup
  have hcomponents := Path.components_eq_filterMap (p := ⟨generatedFileName registry extension⟩)
    hpieces hne hcurrent
  refine ⟨first, hpieces, hne, hcurrent, ?_⟩
  rw [hcomponents, List.filterMap_cons_some hname, String.ofList_toList]

/-- A generated name is a file name when its extension has no slashes either. -/
theorem fileName?_generatedFileName {registry extension : String}
    (hregistry : '/' ∉ registry.toList) (hextension : '/' ∉ extension.toList) :
    (Path.mk (generatedFileName registry extension)).fileName? =
      some (generatedFileName registry extension) := by
  obtain ⟨-, -, -, -, hcomponents⟩ :=
    components_generatedFileName hregistry (Path.pieces_eq_singleton hextension)
  rw [Path.fileName?, hcomponents, String.ofList_toList]
  rfl

/-- A generated name is that of an entry of a directory exactly when its extension has no slash. -/
theorem isEntryName_generatedFileName_iff {registry extension : String}
    (hregistry : '/' ∉ registry.toList) :
    IsEntryName (generatedFileName registry extension) ↔ '/' ∉ extension.toList := by
  constructor
  · intro h hslash
    refine h.slash_notMem ?_
    rw [toList_generatedFileName]
    exact List.mem_append_right _ hslash
  · intro hslash
    have hne : ∀ word : String, word.toList.length < 5 →
        generatedFileName registry extension ≠ word := by
      rintro _ hword rfl
      exact toList_generatedFileName_ne hword _ _ rfl
    refine ⟨hne "" (by decide), hne "." (by decide), hne ".." (by decide), ?_⟩
    rw [toList_generatedFileName, List.mem_append]
    rintro (hmem | hmem)
    · exact slash_notMem_append_gen hregistry hmem
    · exact hslash hmem

/-- Registries of different names have different generated names. -/
theorem generatedFileName_inj {registry other extension : String}
    (h : generatedFileName registry extension = generatedFileName other extension) :
    registry = other := by
  have hlist := congrArg String.toList h
  simp only [toList_generatedFileName, List.append_assoc] at hlist
  exact String.toList_inj.mp (List.append_cancel_right hlist)

/-! ## Units of a pass -/

section Units

variable {workingDirectory : Path} {options : CollectOptions} {emit : EmitOptions}
  {declarations : List ClassDeclaration} {g : Generation} {u : GeneratedUnit}

/-- A unit is named after its registry, and the registry bears a proper name. -/
theorem fileName_of_mem_units
    (h : generate workingDirectory options emit declarations = .ok g) (hu : u ∈ g.units) :
    u.fileName = generatedFileName u.registry emit.extension ∧ Text.isName u.registry = true := by
  obtain ⟨hcollect, hunits⟩ := generate_eq_ok_iff.mp h
  rw [hunits] at hu
  obtain ⟨r, hr, hunit⟩ := List.mem_filterMap.mp hu
  obtain ⟨first, hfirst, rfl⟩ := Option.map_eq_some_iff.mp hunit
  have hmem : first ∈ r.members := List.mem_of_head? hfirst
  obtain ⟨hname, d, -, hd⟩ := (Registries.mem_members_iff hcollect hr).mp hmem
  refine ⟨rfl, ?_⟩
  rw [← hname]
  exact ClassDeclaration.isName_of_member? hd

/-- A pass gives one unit for each of its registries, in their order. -/
theorem map_registry_units
    (h : generate workingDirectory options emit declarations = .ok g) :
    g.units.map (·.registry) = g.registries.map (·.name) := by
  obtain ⟨hcollect, hunits⟩ := generate_eq_ok_iff.mp h
  rw [hunits, Registries.units, List.map_filterMap, ← List.filterMap_eq_map]
  refine List.filterMap_congr fun r hr => ?_
  obtain ⟨first, hf⟩ := ((Registries.grouped_of_collect hcollect).isUniform r hr).exists_canonical
  simp [Registry.unit?, hf]

/-- What tells the registries of units apart tells the units of a pass apart. -/
theorem nodup_map_units {α : Type}
    (h : generate workingDirectory options emit declarations = .ok g) {f : GeneratedUnit → α}
    (hf : ∀ u ∈ g.units, ∀ v ∈ g.units, f u = f v → u.registry = v.registry) :
    (g.units.map f).Nodup := by
  have hnames : (g.units.map (·.registry)).Nodup := by
    rw [map_registry_units h]
    exact (Registries.grouped_of_collect (generate_eq_ok_iff.mp h).1).names_nodup
  rw [List.Nodup, List.pairwise_map] at hnames ⊢
  exact hnames.imp_of_mem fun hu hv hne hsame => hne (hf _ hu _ hv hsame)

/-- The path of a unit leads through the output directory to a name that is generated itself, and
from there on by the steps behind the first slash of the extension. -/
theorem components_path_of_mem_units
    (h : generate workingDirectory options emit declarations = .ok g) (hu : u ∈ g.units)
    {piece : List Char} {more : List (List Char)}
    (hpieces : Path.pieces emit.extension.toList = piece :: more) (outDir : Path) :
    (u.path outDir).components = outDir.components ++
      .name (generatedFileName u.registry (String.ofList piece)) ::
        more.filterMap Path.Component.ofPiece? := by
  obtain ⟨hname, hregistry⟩ := fileName_of_mem_units h hu
  obtain ⟨first, hfirst, hne, hcurrent, hcomponents⟩ :=
    components_generatedFileName (Text.slash_notMem_of_isName hregistry) hpieces
  have hjoin := Path.components_join (p := outDir)
    (q := ⟨generatedFileName u.registry emit.extension⟩) hfirst hne hcurrent
  rw [GeneratedUnit.path, hname, hjoin, hcomponents]

end Units

/-! ## Units in their directory -/

/-- The units of a pass stay inside of a directory. -/
structure Generation.StaysIn (outDir : Path) (g : Generation) : Prop where
  /-- Each unit is named as an entry of a directory can be. -/
  isEntryName : ∀ u ∈ g.units, IsEntryName u.fileName
  /-- Its path is one step longer than that of the directory. -/
  components_path : ∀ u ∈ g.units,
    (u.path outDir).components = outDir.components ++ [.name u.fileName]
  /-- No two paths lead to one place. -/
  nodup_places : (g.units.map fun u => Path.normalizeSteps (u.path outDir).components).Nodup

/-- A name at the end of a path is kept as it is. -/
theorem Path.normalizeSteps_concat_name (steps : List Component) (name : String) :
    normalizeSteps (steps ++ [.name name]) = normalizeSteps steps ++ [.name name] := by
  simp [normalizeSteps, Component.fold]

/-- The units of a pass, one for each registry, have different paths, which lead through the output
directory to a generated name and further by what follows the first slash of the extension. They
stay inside of the directory exactly when there are none or the extension has no slash. -/
theorem staysIn_of_generate {workingDirectory outDir : Path} {c : Config}
    {declarations : List ClassDeclaration} {g : Generation}
    (h : generate workingDirectory c.collectOptions (c.emitOptions outDir) declarations = .ok g) :
    (g.StaysIn outDir ↔ g.units = [] ∨ '/' ∉ c.extension.toList) ∧
    g.units.map (·.registry) = g.registries.map (·.name) ∧
    (g.units.map fun u => (u.path outDir).components).Nodup ∧
    ∀ piece more, Path.pieces c.extension.toList = piece :: more → ∀ u ∈ g.units,
      (u.path outDir).components = outDir.components ++
        .name (generatedFileName u.registry (String.ofList piece)) ::
          more.filterMap Path.Component.ofPiece? := by
  have hnamed : ∀ u ∈ g.units, IsEntryName u.fileName ↔ '/' ∉ c.extension.toList := by
    intro u hu
    obtain ⟨hname, hregistry⟩ := fileName_of_mem_units h hu
    rw [hname]
    exact isEntryName_generatedFileName_iff (Text.slash_notMem_of_isName hregistry)
  refine ⟨⟨?_, ?_⟩, map_registry_units h, ?_, ?_⟩
  · intro hstays
    rw [or_iff_not_imp_left]
    intro hunits
    obtain ⟨u, hu⟩ := List.exists_mem_of_ne_nil g.units hunits
    exact (hnamed u hu).mp (hstays.isEntryName u hu)
  · rintro (hunits | hslash)
    · refine ⟨?_, ?_, ?_⟩ <;> simp [hunits]
    · have hpath : ∀ u ∈ g.units,
          (u.path outDir).components = outDir.components ++ [.name u.fileName] := by
        intro u hu
        rw [components_path_of_mem_units h hu (Path.pieces_eq_singleton hslash) outDir,
          String.ofList_toList, (fileName_of_mem_units h hu).1]
        rfl
      refine ⟨fun u hu => (hnamed u hu).mpr hslash, hpath, nodup_map_units h ?_⟩
      intro u hu v hv hsame
      rw [hpath u hu, hpath v hv, Path.normalizeSteps_concat_name,
        Path.normalizeSteps_concat_name] at hsame
      have hfile : u.fileName = v.fileName := by simpa using List.append_cancel_left hsame
      rw [(fileName_of_mem_units h hu).1, (fileName_of_mem_units h hv).1] at hfile
      exact generatedFileName_inj hfile
  · obtain ⟨piece, more, hpieces⟩ :=
      List.exists_cons_of_ne_nil (Path.pieces_ne_nil c.extension.toList)
    refine nodup_map_units h ?_
    intro u hu v hv hsame
    rw [components_path_of_mem_units h hu hpieces, components_path_of_mem_units h hv hpieces]
      at hsame
    have hfirst := (List.cons.inj (List.append_cancel_left hsame)).1
    exact generatedFileName_inj (Path.Component.name.inj hfirst)
  · intro piece more hpieces u hu
    exact components_path_of_mem_units h hu hpieces outDir

/-- Classes of two registries. -/
def swordAndHammer : List ClassDeclaration :=
  [.registered "Items" "src/sword.ts" "" "Sword" [] none,
    .registered "Tools" "src/hammer.ts" "" "Hammer" [] none]

/-- With the usual settings both units stay inside of the directory. -/
theorem staysIn_of_swordAndHammer : ∃ g,
    generate ⟨"/"⟩ Config.standard.collectOptions (Config.standard.emitOptions ⟨"src/generated"⟩)
      swordAndHammer = .ok g ∧
    g.units.map (·.fileName) = ["Items.gen.ts", "Tools.gen.ts"] ∧
    g.StaysIn ⟨"src/generated"⟩ := by
  obtain ⟨g, hg, hnames⟩ : ∃ g, generate ⟨"/"⟩ Config.standard.collectOptions
      (Config.standard.emitOptions ⟨"src/generated"⟩) swordAndHammer = .ok g ∧
      g.units.map (·.fileName) = ["Items.gen.ts", "Tools.gen.ts"] :=
    ⟨_, rfl, by decide⟩
  obtain ⟨hstays, -⟩ := staysIn_of_generate hg
  exact ⟨g, hg, hnames, hstays.mpr (Or.inr (by decide))⟩

/-- Settings that have no flaw. -/
def climbingConfig : Config := { Config.standard with extension := "x/../../all.ts" }

/-- A tree with the directories that the files of these settings are searched in. -/
def treeOfDirectories : FileTree :=
  [["src"], ["src", "generated"], ["src", "generated", "Items.gen.x"],
      ["src", "generated", "Tools.gen.x"]].foldl
    (fun tree address => tree.insert address .directory) ⟨[], []⟩

/-- With an extension that has slashes the units of two registries leave the output directory for
one place, where the file of both is written. -/
theorem units_leave_directory : climbingConfig.flaw? = none ∧ ∃ g,
    generate ⟨"/"⟩ climbingConfig.collectOptions (climbingConfig.emitOptions ⟨"src/generated"⟩)
      swordAndHammer = .ok g ∧
    ¬ g.StaysIn ⟨"src/generated"⟩ ∧
    (g.units.map fun u => Path.normalizeSteps (u.path ⟨"src/generated"⟩).components) =
      [[.name "src", .name "all.ts"], [.name "src", .name "all.ts"]] ∧
    treeOfDirectories.get? ["src", "all.ts"] = none ∧
    (writeUnits treeOfDirectories ⟨"src/generated"⟩ g.units).tree.get? ["src", "all.ts"] ≠
      none := by
  refine ⟨by decide, _, rfl, ?_, by decide, by decide, by decide +kernel⟩
  intro hstays
  exact absurd hstays.nodup_places (by decide)

end ClassRegistry
