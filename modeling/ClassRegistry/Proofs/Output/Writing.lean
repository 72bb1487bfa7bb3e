import ClassRegistry.Output
import ClassRegistry.Proofs.FileTree.Place

/-!
# Writing units and looking at them again

In a tree of files and directories a unit that was written is up to date, and it stays so while
units of other names are written beside it. Units that are up to date are written without any
change: their directory is there, and so are their files. So writing once is enough, and a
comparison finds nothing to do exactly where writing would do nothing.
-/

namespace ClassRegistry

/-- A text is read where its bytes are. -/
theorem FileTree.readText_eq_ok_iff {tree : FileTree} {p : Path} {text : String} :
    tree.readText p = .ok text ↔ tree.read p = .ok text.toUTF8 := by
  rw [readText]
  cases hread : tree.read p with
  | error e => simp
  | ok contents =>
      simp only [Except.ok.injEq]
      constructor
      · intro h
        split at h
        · rename_i found hfound
          rw [String.fromUTF8?] at hfound
          split at hfound
          · rw [← Except.ok.inj h, ← Option.some.inj hfound]
            rfl
          · cases hfound
        · cases h
      · rintro rfl
        have hfound : String.fromUTF8? text.toUTF8 = some text := by
          simp only [String.fromUTF8?, String.toUTF8_eq_toByteArray, dif_pos text.isValidUTF8]
          rfl
        rw [hfound]

namespace GeneratedUnit

variable {tree : FileTree} {outDir : Path} {u v : GeneratedUnit}

/-- A unit is up to date when its contents are read at its path. -/
theorem isUpToDate_iff_read :
    u.isUpToDate tree outDir = true ↔ tree.read (u.path outDir) = .ok u.contents.toUTF8 := by
  refine Iff.trans ?_ FileTree.readText_eq_ok_iff
  unfold isUpToDate
  split
  · rename_i text htext
    simp [htext]
  · rename_i e he
    simp [he]

/-! ## Units that are up to date -/

/-- The directory of a unit that is up to date is there. -/
theorem makeDirectories_of_isUpToDate (hname : '/' ∉ u.fileName.toList)
    (h : u.isUpToDate tree outDir = true) : tree.makeDirectories outDir = (.ok (), tree) := by
  obtain ⟨address, hreach, -⟩ := FileTree.exists_reach_of_read (isUpToDate_iff_read.mp h)
  obtain ⟨directory, hdirectory⟩ := FileTree.exists_isDirectoryOf_of_reach hname hreach
  apply hdirectory.makeDirectories_eq
  intro hne
  exact FileTree.textFault?_eq_none_of_join hname hne (FileTree.textFault?_eq_none_of_reach hreach)

/-- A unit that is up to date is left alone, and so is everything else. -/
theorem write_of_isUpToDate (hname : '/' ∉ u.fileName.toList)
    (h : u.isUpToDate tree outDir = true) :
    u.write tree outDir = (.ok ⟨u.path outDir, .unchanged⟩, tree) := by
  have houtcome := isUpToDate_iff.mp h
  have hfile : u.writeFile tree outDir = (.ok ⟨u.path outDir, .unchanged⟩, tree) := by
    unfold writeFile
    rewrite [houtcome]
    rfl
  simp only [GeneratedUnit.write, makeDirectories_of_isUpToDate hname h, hfile]

/-- The record of a unit bears its path. -/
theorem path_of_write {record : WriteRecord} {after : FileTree}
    (h : u.write tree outDir = (.ok record, after)) :
    record.path = u.path outDir := by
  unfold GeneratedUnit.write writeFile at h
  split at h
  · cases (Prod.mk.inj h).1
  · simp only at h
    split at h
    · exact congrArg WriteRecord.path (Except.ok.inj (Prod.mk.inj h).1).symm
    · split at h
      · exact congrArg WriteRecord.path (Except.ok.inj (Prod.mk.inj h).1).symm
      · cases (Prod.mk.inj h).1

/-! ## One unit in a plain tree -/

/-- In a plain tree a unit is up to date when its file stands in the directory for units. -/
theorem isUpToDate_iff_of_isPlain (hplain : tree.IsPlain) (hname : '/' ∉ u.fileName.toList) :
    u.isUpToDate tree outDir = true ↔ ∃ directory, tree.IsPlaceOf outDir u.fileName directory ∧
      tree.get? (directory ++ [u.fileName]) = some (.file u.contents.toUTF8) := by
  rw [isUpToDate_iff_read]
  constructor
  · exact hplain.exists_isPlaceOf_of_read hname
  · rintro ⟨directory, hplace, hfile⟩
    exact hplain.read_of_isPlaceOf hplace hfile

/-- All that writing a file does: nothing when the unit is up to date, or its file is put in its
place, where no directory is, or it fails and nothing happens. -/
theorem writeFile_cases (hplain : tree.IsPlain) (hname : '/' ∉ u.fileName.toList)
    {result : Except OutputError WriteRecord} {written : FileTree}
    (h : u.writeFile tree outDir = (result, written)) :
    (u.isUpToDate tree outDir = true ∧ written = tree) ∨
    (∃ record directory, result = .ok record ∧ tree.IsPlaceOf outDir u.fileName directory ∧
      tree.get? (directory ++ [u.fileName]) ≠ some .directory ∧
      written = tree.insert (directory ++ [u.fileName]) (.file u.contents.toUTF8)) ∨
    ((∃ error, result = .error error) ∧ written = tree) := by
  unfold writeFile at h
  simp only at h
  split at h
  · rename_i houtcome
    exact Or.inl ⟨isUpToDate_iff.mpr houtcome, (Prod.mk.inj h).2.symm⟩
  · split at h
    · rename_i after hwrite
      obtain ⟨hresult, rfl⟩ := Prod.mk.inj h
      obtain ⟨directory, hplace⟩ := hplain.exists_isPlaceOf_of_write hname hwrite
      exact Or.inr (Or.inl ⟨_, directory, hresult.symm, hplace⟩)
    · obtain ⟨hresult, htree⟩ := Prod.mk.inj h
      exact Or.inr (Or.inr ⟨⟨_, hresult.symm⟩, htree.symm⟩)

/-- All that writing a unit does: the directories above it are made in a tree that stays plain, and
then the unit is up to date, or its file is put in its place, or it fails and nothing else
happens. -/
theorem write_cases (hplain : tree.IsPlain) (hname : '/' ∉ u.fileName.toList)
    {result : Except OutputError WriteRecord} {written : FileTree}
    (h : u.write tree outDir = (result, written)) :
    ∃ made, (tree.makeDirectories outDir).2 = made ∧ made.IsPlain ∧
      ((u.isUpToDate made outDir = true ∧ written = made) ∨
      (∃ record directory, result = .ok record ∧ made.IsPlaceOf outDir u.fileName directory ∧
        made.get? (directory ++ [u.fileName]) ≠ some .directory ∧
        written = made.insert (directory ++ [u.fileName]) (.file u.contents.toUTF8)) ∨
      ((∃ error, result = .error error) ∧ written = made)) := by
  have hmadePlain := hplain.makeDirectories outDir
  refine ⟨_, rfl, hmadePlain, ?_⟩
  unfold GeneratedUnit.write at h
  split at h
  · rename_i error made hmade
    obtain ⟨hresult, rfl⟩ := Prod.mk.inj h
    rw [hmade]
    exact Or.inr (Or.inr ⟨⟨_, hresult.symm⟩, rfl⟩)
  · rename_i made hmade
    rw [hmade] at hmadePlain ⊢
    exact writeFile_cases hmadePlain hname h

/-- A tree grows by the file of a unit in its place. -/
theorem grows_insert (hplain : tree.IsPlain) {directory : Address}
    (hplace : tree.IsPlaceOf outDir u.fileName directory)
    (hfree : tree.get? (directory ++ [u.fileName]) ≠ some .directory) :
    FileTree.Grows (Eq u.fileName) tree
      (tree.insert (directory ++ [u.fileName]) (.file u.contents.toUTF8)) :=
  hplain.grows_insert_file hplace.isDirectoryOf.get?_eq hplace.isEntryName rfl hfree _

/-- A unit is up to date when its file was put in its place. -/
theorem isUpToDate_of_insert (hplain : tree.IsPlain) {directory : Address}
    (hplace : tree.IsPlaceOf outDir u.fileName directory)
    (hfree : tree.get? (directory ++ [u.fileName]) ≠ some .directory) :
    u.isUpToDate (tree.insert (directory ++ [u.fileName]) (.file u.contents.toUTF8)) outDir =
      true := by
  have hgrows := grows_insert hplain hplace hfree
  rw [isUpToDate_iff_of_isPlain hgrows.isPlain_grown hplace.isEntryName.slash_notMem]
  exact ⟨directory, hplace.grows hgrows, tree.get?_insert_self (by simp) _⟩

/-- A file leaves units of other names in the same directory up to date. -/
theorem isUpToDate_of_insert_of_ne (hplain : tree.IsPlain) {directory : Address}
    (hplace : tree.IsPlaceOf outDir u.fileName directory)
    (hfree : tree.get? (directory ++ [u.fileName]) ≠ some .directory)
    (hname : '/' ∉ v.fileName.toList) (hne : v.fileName ≠ u.fileName)
    (hv : v.isUpToDate tree outDir = true) :
    v.isUpToDate (tree.insert (directory ++ [u.fileName]) (.file u.contents.toUTF8)) outDir =
      true := by
  have hgrows := grows_insert hplain hplace hfree
  obtain ⟨other, hother, hfile⟩ := (isUpToDate_iff_of_isPlain hplain hname).mp hv
  obtain rfl : other = directory := hother.isDirectoryOf.eq hplace.isDirectoryOf
  rw [isUpToDate_iff_of_isPlain hgrows.isPlain_grown hname]
  refine ⟨other, hother.grows hgrows, ?_⟩
  have haddress : other ++ [v.fileName] ≠ other ++ [u.fileName] := by
    intro heq
    exact hne (List.singleton_inj.mp (List.append_cancel_left heq))
  rw [tree.get?_insert_of_ne haddress]
  exact hfile

/-- Writing a unit keeps a tree plain, also when it fails, and else brings the unit up to date. -/
theorem isUpToDate_of_write (hplain : tree.IsPlain) (hname : '/' ∉ u.fileName.toList)
    {result : Except OutputError WriteRecord} {written : FileTree}
    (h : u.write tree outDir = (result, written)) :
    written.IsPlain ∧ ∀ record, result = .ok record → u.isUpToDate written outDir = true := by
  obtain ⟨made, -, hmade, ⟨hup, rfl⟩ | ⟨_, directory, -, hplace, hfree, rfl⟩ | ⟨herror, rfl⟩⟩ :=
    write_cases hplain hname h
  · exact ⟨hmade, fun _ _ => hup⟩
  · have hgrows := grows_insert hmade hplace hfree
    exact ⟨hgrows.isPlain_grown, fun _ _ => isUpToDate_of_insert hmade hplace hfree⟩
  · refine ⟨hmade, fun record hrecord => ?_⟩
    obtain ⟨error, rfl⟩ := herror
    cases hrecord

/-- Writing a unit leaves those of other names up to date, also when it fails. -/
theorem isUpToDate_of_write_of_ne (hplain : tree.IsPlain) (hname : '/' ∉ u.fileName.toList)
    (hother : '/' ∉ v.fileName.toList) (hne : v.fileName ≠ u.fileName)
    (hv : v.isUpToDate tree outDir = true)
    {result : Except OutputError WriteRecord} {written : FileTree}
    (h : u.write tree outDir = (result, written)) : v.isUpToDate written outDir = true := by
  simp only [GeneratedUnit.write, makeDirectories_of_isUpToDate hother hv] at h
  rcases writeFile_cases hplain hname h with
    ⟨-, rfl⟩ | ⟨_, directory, -, hplace, hfree, rfl⟩ | ⟨-, rfl⟩
  · exact hv
  · exact isUpToDate_of_insert_of_ne hplain hplace hfree hother hne hv
  · exact hv

end GeneratedUnit

/-! ## Several units -/

variable {tree : FileTree} {outDir : Path} {units : List GeneratedUnit}

/-- Units that are up to date are all left alone. -/
theorem writeUnits_of_isUpToDate (hnames : ∀ u ∈ units, '/' ∉ u.fileName.toList)
    (h : ∀ u ∈ units, u.isUpToDate tree outDir = true) :
    writeUnits tree outDir units =
      ⟨units.map fun u => ⟨u.path outDir, .unchanged⟩, none, tree⟩ := by
  induction units with
  | nil => rfl
  | cons u rest ih =>
      have hwrite := GeneratedUnit.write_of_isUpToDate (hnames u (by simp)) (h u (by simp))
      have hrest := ih (fun v hv => hnames v (by simp [hv])) fun v hv => h v (by simp [hv])
      simp only [writeUnits, hwrite, hrest, List.map_cons]

/-- Nothing is stale when all units are up to date. -/
theorem checkUnits_stale_eq_nil_iff :
    (checkUnits tree outDir units).stale = [] ↔
      ∀ u ∈ units, u.isUpToDate tree outDir = true := by
  simp only [checkUnits, List.map_eq_nil_iff, List.filter_eq_nil_iff, Bool.not_eq_true',
    Bool.not_eq_false]

/-- Writing units leaves those of other names up to date. -/
theorem isUpToDate_of_writeUnits_of_ne {v : GeneratedUnit} (hplain : tree.IsPlain)
    (hnames : ∀ u ∈ units, '/' ∉ u.fileName.toList) (hother : '/' ∉ v.fileName.toList)
    (hne : ∀ u ∈ units, v.fileName ≠ u.fileName) (hv : v.isUpToDate tree outDir = true) :
    v.isUpToDate (writeUnits tree outDir units).tree outDir = true := by
  induction units generalizing tree with
  | nil => exact hv
  | cons u rest ih =>
      have hname := hnames u (by simp)
      cases hwrite : u.write tree outDir with
      | mk result written =>
          obtain ⟨hwritten, -⟩ := GeneratedUnit.isUpToDate_of_write hplain hname hwrite
          have hstill := GeneratedUnit.isUpToDate_of_write_of_ne hplain hname hother
            (hne u (by simp)) hv hwrite
          rw [writeUnits, hwrite]
          cases result with
          | error e => exact hstill
          | ok record =>
              exact ih hwritten (fun w hw => hnames w (by simp [hw]))
                (fun w hw => hne w (by simp [hw])) hstill

/-- After a pass that did not fail each unit is up to date: it was when it was written, and those
behind it have other names. -/
theorem isUpToDate_of_writeUnits (hplain : tree.IsPlain)
    (hnames : ∀ u ∈ units, '/' ∉ u.fileName.toList) (hdistinct : (units.map (·.fileName)).Nodup)
    (h : (writeUnits tree outDir units).failure? = none) :
    ∀ u ∈ units, u.isUpToDate (writeUnits tree outDir units).tree outDir = true := by
  induction units generalizing tree with
  | nil => simp
  | cons u rest ih =>
      have hname := hnames u (by simp)
      have hrestNames : ∀ v ∈ rest, '/' ∉ v.fileName.toList := fun v hv => hnames v (by simp [hv])
      obtain ⟨hfresh, hrestDistinct⟩ := List.nodup_cons.mp hdistinct
      cases hwrite : u.write tree outDir with
      | mk result written =>
          obtain ⟨hwritten, hup⟩ := GeneratedUnit.isUpToDate_of_write hplain hname hwrite
          rw [writeUnits, hwrite] at h ⊢
          cases result with
          | error e => cases h
          | ok record =>
              have hne : ∀ v ∈ rest, u.fileName ≠ v.fileName := by
                intro v hv heq
                exact hfresh (List.mem_map.mpr ⟨v, hv, heq.symm⟩)
              intro v hv
              rcases List.mem_cons.mp hv with rfl | hv
              · exact isUpToDate_of_writeUnits_of_ne hwritten hrestNames hname hne (hup record rfl)
              · exact ih hwritten hrestNames hrestDistinct h v hv

/-- Writing is done once: in a plain tree, after units of distinct names were written, a comparison
finds none of them stale, and writing them again leaves each one and the whole tree as they are.
Wherever a comparison finds nothing stale, links or not, writing succeeds and changes nothing. -/
theorem writeUnits_again (tree : FileTree) (outDir : Path) (units : List GeneratedUnit)
    (hnames : ∀ u ∈ units, '/' ∉ u.fileName.toList) :
    (tree.IsPlain → (units.map (·.fileName)).Nodup →
      (writeUnits tree outDir units).failure? = none →
        checkUnits (writeUnits tree outDir units).tree outDir units = ⟨units.length, []⟩ ∧
        writeUnits (writeUnits tree outDir units).tree outDir units =
          ⟨units.map fun u => ⟨u.path outDir, .unchanged⟩, none,
            (writeUnits tree outDir units).tree⟩) ∧
    ((checkUnits tree outDir units).stale = [] →
      writeUnits tree outDir units =
        ⟨units.map fun u => ⟨u.path outDir, .unchanged⟩, none, tree⟩) := by
  constructor
  · intro hplain hdistinct hwritten
    have hup := isUpToDate_of_writeUnits hplain hnames hdistinct hwritten
    have hstale := checkUnits_stale_eq_nil_iff.mpr hup
    constructor
    · exact congrArg (CheckPass.mk units.length) hstale
    · exact writeUnits_of_isUpToDate hnames hup
  · intro hstale
    exact writeUnits_of_isUpToDate hnames (checkUnits_stale_eq_nil_iff.mp hstale)

/-- Two units. -/
def registryUnits : List GeneratedUnit :=
  [⟨"Inventory", "Inventory.gen.ts", "export type Registry = Foo;\n"⟩,
    ⟨"Quest", "Quest.gen.ts", "export type Registry = Bar;\n"⟩]

/-- A tree that holds both units in a directory which a link leads to. -/
def linkedUnitsTree : FileTree :=
  ⟨[(["built"], .directory),
    (["built", "Inventory.gen.ts"], .file "export type Registry = Foo;\n".toUTF8),
    (["built", "Quest.gen.ts"], .file "export type Registry = Bar;\n".toUTF8),
    (["out"], .link ⟨"built"⟩)], []⟩

/-- Two units that are written into a new directory, and two that are found through a link. -/
theorem writeUnits_again_registryUnits :
    (writeUnits ⟨[], []⟩ ⟨"src/generated"⟩ registryUnits).failure? = none ∧
    checkUnits (writeUnits ⟨[], []⟩ ⟨"src/generated"⟩ registryUnits).tree ⟨"src/generated"⟩
      registryUnits = ⟨2, []⟩ ∧
    (checkUnits linkedUnitsTree ⟨"out"⟩ registryUnits).stale = [] ∧
    (writeUnits linkedUnitsTree ⟨"out"⟩ registryUnits).records =
      [⟨⟨"out/Inventory.gen.ts"⟩, .unchanged⟩, ⟨⟨"out/Quest.gen.ts"⟩, .unchanged⟩] := by
  have hnames : ∀ u ∈ registryUnits, '/' ∉ u.fileName.toList := by decide
  have hwritten : (writeUnits ⟨[], []⟩ ⟨"src/generated"⟩ registryUnits).failure? = none := by
    decide
  have hstale : (checkUnits linkedUnitsTree ⟨"out"⟩ registryUnits).stale = [] := by
    decide
  have hnew := writeUnits_again ⟨[], []⟩ ⟨"src/generated"⟩ registryUnits hnames
  have hlinked := writeUnits_again linkedUnitsTree ⟨"out"⟩ registryUnits hnames
  have hdistinct : (registryUnits.map (·.fileName)).Nodup := by decide
  refine ⟨hwritten, (hnew.1 (FileTree.isPlain_nil []) hdistinct hwritten).1, hstale, ?_⟩
  rw [hlinked.2 hstale]
  rfl

end ClassRegistry
