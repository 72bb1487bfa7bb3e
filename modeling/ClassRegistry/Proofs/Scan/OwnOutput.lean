import ClassRegistry.Config
import ClassRegistry.Proofs.Generated.FileName
import ClassRegistry.Proofs.Output.Growth
import ClassRegistry.Proofs.Scan.Growth
import ClassRegistry.Proofs.Scan.Names

/-!
# Scans and generated files

Whether a scan takes a generated file for a source file is told by the extension that the settings
give to generated files: the name of the registry and the directory do not matter. An extension
without a dot never makes a source file. Where it makes none, the files of the units are not found,
and writing them changes nothing of what is found.
-/

namespace ClassRegistry

/-! ## The names of units -/

section Units

variable {workingDirectory : Path} {options : CollectOptions} {emit : EmitOptions}
  {declarations : List ClassDeclaration} {g : Generation} {u : GeneratedUnit}

/-- Whether the file of a unit counts as a source file is told by the extension alone. -/
theorem isSourcePath_of_mem_units
    (h : generate workingDirectory options emit declarations = .ok g) (hu : u ∈ g.units)
    (outDir : Path) :
    isSourcePath (u.path outDir) = isSourcePath ⟨generatedFileName "" emit.extension⟩ := by
  obtain ⟨hname, hregistry⟩ := fileName_of_mem_units h hu
  rw [GeneratedUnit.path, hname]
  exact isSourcePath_join_generatedFileName outDir (Text.slash_notMem_of_isName hregistry) _

end Units

/-! ## Scans after a pass -/

section Scans

variable {outDir : Path} {units : List GeneratedUnit}

/-- No listed file has the file name of a unit whose path is none of a source file. -/
theorem fileName?_ne_of_mem_scan {tree : FileTree} {r : ScanRequest} {file : String}
    (hfile : file ∈ (scan tree r).files) {u : GeneratedUnit}
    (hu : isSourcePath (u.path outDir) = false) :
    (Path.mk file).fileName? ≠ (u.path outDir).fileName? := by
  intro hsame
  rw [← isSourcePath_congr hsame, isSourcePath_of_mem_scan hfile] at hu
  cases hu

/-- A tree grows by names that no source file bears when the paths of the units are none of source
files. -/
theorem grows_writeUnits_of_other {tree : FileTree} (h : tree.IsPlain)
    (hunits : ∀ u ∈ units, isSourcePath (u.path outDir) = false) :
    FileTree.Grows IsOtherName tree (writeUnits tree outDir units).tree := by
  refine grows_writeUnits h fun u hu name hname p hp => ?_
  rw [isSourcePath_congr (hp.trans hname.symm)]
  exact hunits u hu

end Scans

/-- The extension alone tells whether the paths of the units of a pass are those of source files;
for one without slashes `IsScannedExtension` says when. If they are not, no scan lists a file with
the name of a unit, and in a tree of files and directories the same files are listed after the units
were written as before, when their directory was there or no place that is searched has a `..` in
its path. -/
theorem scan_of_generated (workingDirectory outDir : Path) (c : Config)
    (declarations : List ClassDeclaration) (g : Generation)
    (h : generate workingDirectory c.collectOptions (c.emitOptions outDir) declarations = .ok g) :
    (∀ u ∈ g.units,
      isSourcePath (u.path outDir) = isSourcePath ⟨generatedFileName "" c.extension⟩) ∧
    ('/' ∉ c.extension.toList →
      (isSourcePath ⟨generatedFileName "" c.extension⟩ = true ↔ IsScannedExtension c.extension)) ∧
    (isSourcePath ⟨generatedFileName "" c.extension⟩ = false →
      ∀ (tree : FileTree) (r : ScanRequest),
        (∀ file ∈ (scan tree r).files, ∀ u ∈ g.units,
          (Path.mk file).fileName? ≠ (u.path outDir).fileName?) ∧
        (tree.IsPlain →
          (tree.isDirectory outDir = true ∨
            ∀ root ∈ (r.roots (writeUnits tree outDir g.units).tree).1, ".." ∉ root.names) →
          (scan (writeUnits tree outDir g.units).tree r).files = (scan tree r).files)) := by
  have hunits := fun u hu => isSourcePath_of_mem_units h (u := u) hu outDir
  refine ⟨hunits, ?_, ?_⟩
  · intro hslash
    exact isSourcePath_iff_of_generated (fileName?_generatedFileName (by decide) hslash)
  · intro hnone tree r
    have hother : ∀ u ∈ g.units, isSourcePath (u.path outDir) = false :=
      fun u hu => (hunits u hu).trans hnone
    refine ⟨fun file hfile u hu => fileName?_ne_of_mem_scan hfile (hother u hu), ?_⟩
    intro hplain hclimb
    have hgrows := grows_writeUnits_of_other hplain hother
    exact files_scan_of_grows hgrows (hclimb.imp_left (keepsDirectories_writeUnits hplain))

/-- A project with one source file. -/
def swordTree : FileTree :=
  (FileTree.insert ⟨[], []⟩ ["src"] .directory).insert ["src", "sword.ts"] (.file "".toUTF8)

/-- It is a tree of files and directories. -/
theorem isPlain_swordTree : swordTree.IsPlain := by
  have hempty : FileTree.IsPlain ⟨[], []⟩ := FileTree.isPlain_nil []
  have hsrc : (FileTree.insert ⟨[], []⟩ ([] ++ ["src"]) .directory).IsPlain :=
    hempty.insert rfl ⟨by decide, by decide, by decide, by decide⟩ (fun _ => Entry.noConfusion)
      fun _ => rfl
  have hsword : ((FileTree.insert ⟨[], []⟩ ([] ++ ["src"]) .directory).insert
      (["src"] ++ ["sword.ts"]) (.file "".toUTF8)).IsPlain :=
    hsrc.insert rfl ⟨by decide, by decide, by decide, by decide⟩ (fun _ => Entry.noConfusion)
      fun hdirectory => by cases hdirectory
  exact hsword

/-- The usual search for its source files. -/
def swordRequest : ScanRequest := ⟨⟨""⟩, ["src"], ["**/node_modules/**"], true⟩

/-- The search lists that file. -/
theorem files_scan_swordTree : (scan swordTree swordRequest).files = ["src/sword.ts"] := by
  have hwanted : wantedFiles swordTree swordRequest = ["src/sword.ts"] := by decide
  rw [files_scan, hwanted, sortedDistinct_singleton]

/-- The class that it declares. -/
def swordClasses : List ClassDeclaration :=
  [.registered "Items" "src/sword.ts" "" "Sword" [] none]

/-- With the usual settings the same file is found after the unit of its class was written. -/
theorem scan_of_generated_swordTree : ∃ g,
    generate ⟨"/"⟩ Config.standard.collectOptions (Config.standard.emitOptions ⟨"src/generated"⟩)
      swordClasses = .ok g ∧
    g.units.map (·.fileName) = ["Items.gen.ts"] ∧
    isSourcePath ⟨generatedFileName "" Config.standard.extension⟩ = false ∧
    (scan (writeUnits swordTree ⟨"src/generated"⟩ g.units).tree swordRequest).files =
      ["src/sword.ts"] := by
  obtain ⟨g, hg, hnames, hroots⟩ : ∃ g, generate ⟨"/"⟩ Config.standard.collectOptions
      (Config.standard.emitOptions ⟨"src/generated"⟩) swordClasses = .ok g ∧
      g.units.map (·.fileName) = ["Items.gen.ts"] ∧
      (swordRequest.roots (writeUnits swordTree ⟨"src/generated"⟩ g.units).tree).1 = [⟨"src"⟩] :=
    ⟨_, rfl, by decide, by decide⟩
  have hnone : isSourcePath ⟨generatedFileName "" Config.standard.extension⟩ = false := by
    decide
  obtain ⟨-, -, hscans⟩ := scan_of_generated ⟨"/"⟩ ⟨"src/generated"⟩ .standard swordClasses g hg
  obtain ⟨-, hsame⟩ := hscans hnone swordTree swordRequest
  refine ⟨g, hg, hnames, hnone, ?_⟩
  rw [hsame isPlain_swordTree (Or.inr ?_), files_scan_swordTree]
  rw [hroots]
  decide

/-- Settings that have no flaw. -/
def dottedConfig : Config := { Config.standard with extension := "registry.ts" }

/-- With an extension that has a dot a written unit is found as a source file. -/
theorem own_output_is_scanned : dottedConfig.flaw? = none ∧ ∃ g,
    generate ⟨"/"⟩ dottedConfig.collectOptions (dottedConfig.emitOptions ⟨"src/generated"⟩)
      swordClasses = .ok g ∧
    (∃ u ∈ g.units, isSourcePath (u.path ⟨"src/generated"⟩) = true) ∧
    (scan swordTree swordRequest).files = ["src/sword.ts"] ∧
    "src/generated/Items.gen.registry.ts" ∈
      (scan (writeUnits swordTree ⟨"src/generated"⟩ g.units).tree swordRequest).files := by
  refine ⟨by decide, _, rfl, by decide, files_scan_swordTree, ?_⟩
  exact mem_files_scan.mpr (by decide)

end ClassRegistry
