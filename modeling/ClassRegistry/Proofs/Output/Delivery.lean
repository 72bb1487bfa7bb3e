import ClassRegistry.Proofs.Output.Growth
import ClassRegistry.Proofs.Output.Writing

/-!
# What a pass leaves behind

Units are written one after the other, each into a directory that is made when it is missing, and
the pass ends with the first one that cannot be written. In a tree of files and directories, what
has changed then is the file of a unit with a record, or a new directory that the path of the
directory for units leads through. Everything else is as it was, whether the pass failed or not.
-/

namespace ClassRegistry

open FileTree (Grows)

variable {tree made written after : FileTree} {outDir : Path} {units done : List GeneratedUnit}

namespace FileTree

/-! ## Directories that are made -/

/-- A directory that was made is what its path names. -/
theorem IsPlain.resolve_makeDirectory (h : tree.IsPlain) {p : Path} {directory : Address}
    {name : String} (hparent : tree.resolveParent p = .ok (directory, name))
    (hname : IsEntryName name) (hsize : name.utf8ByteSize ≤ maximalNameSize)
    (hgrows : Grows (fun _ => True) tree (tree.insert (directory ++ [name]) .directory)) :
    (tree.insert (directory ++ [name]) .directory).resolve p = .ok (directory ++ [name]) := by
  obtain ⟨htext, hdirectory, hlast, hleads⟩ := exists_of_resolveParent hparent
  rcases splitLast_cases p.names with ⟨-, hempty⟩ | ⟨more, hblank, hnames⟩
  · exact absurd (hlast.trans hempty) hname.ne_empty
  · rw [h.followLinks_eq] at hleads
    have hself : (tree.insert (directory ++ [name]) .directory).get? (directory ++ [name]) =
        some .directory := tree.get?_insert_self (by simp) _
    rw [hgrows.isPlain_grown.resolve_eq_ok_iff]
    refine ⟨htext, ?_⟩
    rw [hnames, ← hlast, hgrows.workingDirectory_eq, follow_append, hgrows.follow_eq hleads]
    simp only
    rw [follow_name (hgrows.directory _ hdirectory) hname.not_special hsize, hself]
    exact follow_blanks hself fun other hother => Or.inl (hblank other hother)

/-- What is new when directories are made: directories that the path leads through. -/
def IsMadeAlong (tree made : FileTree) (p : Path) (address : Address) : Prop :=
  tree.get? address = none ∧ made.get? address = some .directory ∧
    ∃ q ∈ p.ancestors, made.resolve q = .ok address

/-- A new directory is one of those that the path leads through, also when making them fails. -/
theorem IsPlain.isMadeAlong (h : tree.IsPlain) (p : Path) {address : Address}
    (hchanged : (tree.makeDirectories p).2.get? address ≠ tree.get? address) :
    tree.IsMadeAlong (tree.makeDirectories p).2 p address := by
  suffices hboth : Grows (fun _ => True) tree (tree.makeDirectories p).2 ∧
      ∀ address, (tree.makeDirectories p).2.get? address ≠ tree.get? address →
        tree.IsMadeAlong (tree.makeDirectories p).2 p address from hboth.2 address hchanged
  refine makeDirectoriesAlong_preserves (I := fun now => Grows (fun _ => True) tree now ∧
    ∀ address, now.get? address ≠ tree.get? address → tree.IsMadeAlong now p address) ?_
    ⟨.refl h, fun address hne => absurd rfl hne⟩
  rintro q hq before made ⟨hbefore, hearlier⟩ hmade
  obtain ⟨directory, name, hparent, hdirectory, hname, hsize, hfree, rfl⟩ :=
    exists_of_makeDirectory hmade
  have hplain := hbefore.isPlain_grown
  have hgrows : Grows (fun _ => True) before (before.insert (directory ++ [name]) .directory) :=
    hplain.grows_insert_directory hdirectory hname hfree
  refine ⟨hbefore.trans hgrows, fun address hne => ?_⟩
  by_cases haddress : address = directory ++ [name]
  · rw [haddress]
    refine ⟨?_, before.get?_insert_self (by simp) _, q, (List.mem_filter.mp hq).1,
      hplain.resolve_makeDirectory hparent hname hsize hgrows⟩
    by_contra hthere
    exact hbefore.get?_ne_none hthere hfree
  · rw [before.get?_insert_of_ne haddress] at hne
    obtain ⟨hnone, hnow, r, hr, hresolve⟩ := hearlier address hne
    exact ⟨hnone, hgrows.directory address hnow, r, hr, hgrows.resolve_eq hresolve⟩

/-- A path that is made a directory leads through the same directories when the tree has grown. -/
theorem IsMadeAlong.grows {kind : String → Prop} {p : Path} {address : Address}
    (h : tree.IsMadeAlong made p address) (hgrows : Grows kind made after) :
    tree.IsMadeAlong after p address := by
  obtain ⟨hnone, hmade, q, hq, hresolve⟩ := h
  exact ⟨hnone, hgrows.directory address hmade, q, hq, hgrows.resolve_eq hresolve⟩

end FileTree

namespace GeneratedUnit

variable {u v : GeneratedUnit}

/-- A unit is up to date in the file at an address. -/
def StandsAt (u : GeneratedUnit) (outDir : Path) (after : FileTree) (address : Address) : Prop :=
  after.resolve (u.path outDir) = .ok address ∧
    after.get? address = some (.file u.contents.toUTF8)

/-- A unit that is up to date stands at the address that its path names. -/
theorem standsAt_of_isUpToDate (hup : u.isUpToDate after outDir = true) {address : Address}
    (hresolve : after.resolve (u.path outDir) = .ok address) : u.StandsAt outDir after address := by
  obtain ⟨other, hreach, hfile⟩ := FileTree.exists_reach_of_read (isUpToDate_iff_read.mp hup)
  rw [FileTree.resolve_eq_ok_iff.mpr hreach] at hresolve
  obtain rfl := Except.ok.inj hresolve
  exact ⟨FileTree.resolve_eq_ok_iff.mpr hreach, hfile⟩

/-- Units of different names do not stand at one address. -/
theorem StandsAt.fileName_eq (hplain : after.IsPlain) (hu : '/' ∉ u.fileName.toList)
    (hv : '/' ∉ v.fileName.toList) {address : Address} (h : u.StandsAt outDir after address)
    (hother : after.resolve (v.path outDir) = .ok address) : v.fileName = u.fileName := by
  obtain ⟨hresolve, hfile⟩ := h
  obtain ⟨above, habove⟩ := hplain.exists_of_resolve_join hu hresolve hfile
  obtain ⟨other, rfl⟩ := hplain.exists_of_resolve_join hv hother hfile
  exact List.singleton_inj.mp (List.append_inj_right' habove rfl)

/-- What has changed when a unit was written is its file, or a directory on the way to it; when
writing it failed, no file has changed. -/
theorem standsAt_or_isMadeAlong (hplain : tree.IsPlain) (hname : '/' ∉ u.fileName.toList)
    {result : Except OutputError WriteRecord} (h : u.write tree outDir = (result, written))
    {address : Address} (hchanged : written.get? address ≠ tree.get? address) :
    ((∃ record, result = .ok record) ∧ u.StandsAt outDir written address) ∨
      tree.IsMadeAlong written outDir address := by
  obtain ⟨made, rfl, hmade, hcases⟩ := write_cases hplain hname h
  rcases hcases with ⟨-, rfl⟩ | ⟨record, directory, hresult, hplace, hfree, rfl⟩ | ⟨-, rfl⟩
  · exact Or.inr (hplain.isMadeAlong outDir hchanged)
  · have hgrows := grows_insert hmade hplace hfree
    by_cases haddress : address = directory ++ [u.fileName]
    · subst haddress
      have hself : ((tree.makeDirectories outDir).2.insert (directory ++ [u.fileName])
          (.file u.contents.toUTF8)).get? (directory ++ [u.fileName]) =
            some (.file u.contents.toUTF8) := FileTree.get?_insert_self _ (by simp) _
      have hresolve := hgrows.isPlain_grown.resolve_of_isPlaceOf (hplace.grows hgrows)
        (by rw [hself]; exact Option.some_ne_none _)
      exact Or.inl ⟨⟨record, hresult⟩, hresolve, hself⟩
    · rw [FileTree.get?_insert_of_ne _ haddress] at hchanged
      exact Or.inr ((hplain.isMadeAlong outDir hchanged).grows hgrows)
  · exact Or.inr (hplain.isMadeAlong outDir hchanged)

end GeneratedUnit

/-! ## Several units -/

/-- What has changed in a tree where units were written: each is up to date, and whatever is not as
it was is the file of one of them, or a new directory that the path of their directory leads
through. -/
structure AreDelivered (done : List GeneratedUnit) (outDir : Path) (tree after : FileTree) :
    Prop where
  read_eq : ∀ u ∈ done, after.read (u.path outDir) = .ok u.contents.toUTF8
  standsAt_or_isMadeAlong : ∀ address, after.get? address ≠ tree.get? address →
    (∃ u ∈ done, u.StandsAt outDir after address) ∨ tree.IsMadeAlong after outDir address

/-- Without a unit all that may have changed are directories on the way. -/
theorem AreDelivered.of_isMadeAlong (h : ∀ address, after.get? address ≠ tree.get? address →
    tree.IsMadeAlong after outDir address) : AreDelivered [] outDir tree after where
  read_eq _ hu := absurd hu List.not_mem_nil
  standsAt_or_isMadeAlong address hchanged := Or.inr (h address hchanged)

/-- A unit is delivered with those that are written behind it, if it stays up to date. -/
theorem AreDelivered.cons {u : GeneratedUnit} (hplain : tree.IsPlain)
    (hname : '/' ∉ u.fileName.toList) {record : WriteRecord}
    (hwrite : u.write tree outDir = (.ok record, written))
    (hgrows : Grows (fun _ => True) written after) (hup : u.isUpToDate after outDir = true)
    (h : AreDelivered done outDir written after) : AreDelivered (u :: done) outDir tree after where
  read_eq v hv := by
    rcases List.mem_cons.mp hv with rfl | hv
    · exact GeneratedUnit.isUpToDate_iff_read.mp hup
    · exact h.read_eq v hv
  standsAt_or_isMadeAlong address hchanged := by
    by_cases hlater : after.get? address = written.get? address
    · rw [hlater] at hchanged
      rcases GeneratedUnit.standsAt_or_isMadeAlong hplain hname hwrite hchanged with
        ⟨-, hresolve, -⟩ | halong
      · exact Or.inl ⟨u, List.mem_cons_self,
          GeneratedUnit.standsAt_of_isUpToDate hup (hgrows.resolve_eq hresolve)⟩
      · exact Or.inr (halong.grows hgrows)
    · have hwritten : Grows (fun _ => True) tree written := by
        have hunit : Grows (fun _ => True) tree (u.write tree outDir).2 :=
          GeneratedUnit.grows_write hplain fun _ _ => trivial
        rw [hwrite] at hunit
        exact hunit
      rcases h.standsAt_or_isMadeAlong address hlater with ⟨v, hv, hstands⟩ | ⟨hnone, halong⟩
      · exact Or.inl ⟨v, List.mem_cons_of_mem u hv, hstands⟩
      · refine Or.inr ⟨?_, halong⟩
        by_contra hthere
        exact hwritten.get?_ne_none hthere hnone

/-- After a pass the units with a record are delivered, also when it failed at the next one. -/
theorem exists_areDelivered_of_writeUnits (hplain : tree.IsPlain) (outDir : Path)
    (hnames : ∀ u ∈ units, '/' ∉ u.fileName.toList) (hdistinct : (units.map (·.fileName)).Nodup) :
    ∃ done left, units = done ++ left ∧
      (writeUnits tree outDir units).records.map (·.path) = done.map (·.path outDir) ∧
      (writeUnits tree outDir done).records = (writeUnits tree outDir units).records ∧
      ((writeUnits tree outDir units).failure? = none → left = []) ∧
      (∀ error, (writeUnits tree outDir units).failure? = some error → ∃ u rest, left = u :: rest ∧
        u.write (writeUnits tree outDir done).tree outDir =
          (.error error, (writeUnits tree outDir units).tree)) ∧
      AreDelivered done outDir tree (writeUnits tree outDir units).tree := by
  induction units generalizing tree with
  | nil =>
      refine ⟨[], [], rfl, rfl, rfl, fun _ => rfl, ?_, .of_isMadeAlong ?_⟩
      · intro error herror
        cases herror
      · intro address hne
        exact absurd rfl hne
  | cons u rest ih =>
      have hname := hnames u List.mem_cons_self
      have hrest : ∀ v ∈ rest, '/' ∉ v.fileName.toList :=
        fun v hv => hnames v (List.mem_cons_of_mem u hv)
      obtain ⟨hfresh, hdistinct⟩ := List.nodup_cons.mp hdistinct
      cases hwrite : u.write tree outDir with
      | mk result written =>
          obtain ⟨hwritten, hup⟩ := GeneratedUnit.isUpToDate_of_write hplain hname hwrite
          rw [writeUnits, hwrite]
          -- the pass ends with a failure, which leaves this unit and those behind it
          cases result with
          | error e =>
              refine ⟨[], u :: rest, rfl, rfl, rfl, ?_, ?_, .of_isMadeAlong ?_⟩
              · intro hnone
                cases hnone
              · intro error herror
                obtain rfl := Option.some.inj herror
                exact ⟨u, rest, rfl, hwrite⟩
              · intro address hchanged
                rcases GeneratedUnit.standsAt_or_isMadeAlong hplain hname hwrite hchanged with
                  ⟨⟨_, hok⟩, -⟩ | halong
                · cases hok
                · exact halong
          | ok record =>
              obtain ⟨done, left, rfl, hpaths, hrecords, hnone, herror, hdelivered⟩ :=
                ih hwritten hrest hdistinct
              -- what is written later has other names, so this unit stays up to date
              have hne : ∀ v ∈ done ++ left, u.fileName ≠ v.fileName := by
                intro v hv heq
                exact hfresh (List.mem_map.mpr ⟨v, hv, heq.symm⟩)
              have hlater := isUpToDate_of_writeUnits_of_ne hwritten hrest hname hne
                (hup record rfl)
              have hgrows : Grows (fun _ => True) written
                  (writeUnits written outDir (done ++ left)).tree :=
                grows_writeUnits hwritten fun _ _ _ _ => trivial
              refine ⟨u :: done, left, rfl, ?_, ?_, hnone, ?_,
                hdelivered.cons hplain hname hwrite hgrows hlater⟩
              · rw [List.map_cons, List.map_cons, hpaths, GeneratedUnit.path_of_write hwrite]
              · rw [writeUnits, hwrite]
                exact congrArg (record :: ·) hrecords
              · intro error hfails
                rw [writeUnits, hwrite]
                exact herror error hfails

/-- A file is as it was unless a unit was delivered to it. -/
theorem AreDelivered.get?_eq_file_iff (h : AreDelivered done outDir tree after) {address : Address}
    (hother : ∀ u ∈ done, after.resolve (u.path outDir) ≠ .ok address) (contents : ByteArray) :
    after.get? address = some (.file contents) ↔ tree.get? address = some (.file contents) := by
  by_cases hsame : after.get? address = tree.get? address
  · rw [hsame]
  · rcases h.standsAt_or_isMadeAlong address hsame with
      ⟨u, hu, hresolve, -⟩ | ⟨hnone, hdirectory, -⟩
    · exact absurd hresolve (hother u hu)
    · rw [hnone, hdirectory]
      simp

/-- Of units of distinct names that are written into a plain tree, the first ones get a record each,
up to the one that fails, and are delivered: each file holds the contents of its unit, and all else
is as it was, but for new directories that the path of their directory leads through. No file of a
unit without a record is touched, nor any other one. -/
theorem delivered_of_writeUnits (hplain : tree.IsPlain) (outDir : Path)
    (hnames : ∀ u ∈ units, '/' ∉ u.fileName.toList) (hdistinct : (units.map (·.fileName)).Nodup) :
    let pass := writeUnits tree outDir units
    ∃ done left, units = done ++ left ∧
      pass.records.map (·.path) = done.map (·.path outDir) ∧
      (writeUnits tree outDir done).records = pass.records ∧
      (pass.failure? = none ↔ left = []) ∧
      (∀ error, pass.failure? = some error → ∃ u rest, left = u :: rest ∧
        u.write (writeUnits tree outDir done).tree outDir = (.error error, pass.tree)) ∧
      AreDelivered done outDir tree pass.tree ∧
      (∀ address contents, (∀ u ∈ done, pass.tree.resolve (u.path outDir) ≠ .ok address) →
        (pass.tree.get? address = some (.file contents) ↔
          tree.get? address = some (.file contents))) ∧
      ∀ u ∈ left, ∀ address contents, pass.tree.resolve (u.path outDir) = .ok address →
        (pass.tree.get? address = some (.file contents) ↔
          tree.get? address = some (.file contents)) := by
  intro pass
  obtain ⟨done, left, rfl, hpaths, hrecords, hnone, herror, hdelivered⟩ :=
    exists_areDelivered_of_writeUnits hplain outDir hnames hdistinct
  have hfile : ∀ address contents,
      (∀ u ∈ done, pass.tree.resolve (u.path outDir) ≠ .ok address) →
        (pass.tree.get? address = some (.file contents) ↔
          tree.get? address = some (.file contents)) :=
    fun address contents hother => hdelivered.get?_eq_file_iff hother contents
  refine ⟨done, left, rfl, hpaths, hrecords, ⟨hnone, ?_⟩, herror, hdelivered, hfile, ?_⟩
  · rintro rfl
    cases hfails : pass.failure? with
    | none => rfl
    | some error =>
        obtain ⟨u, rest, hleft, -⟩ := herror error hfails
        cases hleft
  · intro u hu address contents hresolve
    apply hfile
    intro v hv hother
    have hstands := GeneratedUnit.standsAt_of_isUpToDate
      (GeneratedUnit.isUpToDate_iff_read.mpr (hdelivered.read_eq v hv)) hother
    have hgrows : Grows (fun _ => True) tree pass.tree :=
      grows_writeUnits hplain fun _ _ _ _ => trivial
    have heq := hstands.fileName_eq hgrows.isPlain_grown (hnames v (List.mem_append_left left hv))
      (hnames u (List.mem_append_right done hu)) hresolve
    rw [List.map_append, List.nodup_append] at hdistinct
    exact hdistinct.2.2 v.fileName (List.mem_map_of_mem hv) u.fileName (List.mem_map_of_mem hu)
      heq.symm

/-- A tree with a directory in the place of a unit's file. -/
def blockedTree : FileTree :=
  (FileTree.insert ⟨[], []⟩ ["gen"] .directory).insert ["gen", "Quest.gen.ts"] .directory

/-- It is a tree of files and directories. -/
theorem isPlain_blockedTree : blockedTree.IsPlain := by
  have hempty : FileTree.IsPlain ⟨[], []⟩ := FileTree.isPlain_nil []
  have hgen : (FileTree.insert ⟨[], []⟩ ([] ++ ["gen"]) .directory).IsPlain :=
    hempty.insert rfl ⟨by decide, by decide, by decide, by decide⟩ (fun _ => Entry.noConfusion)
      fun _ => rfl
  have hquest : ((FileTree.insert ⟨[], []⟩ ([] ++ ["gen"]) .directory).insert
      (["gen"] ++ ["Quest.gen.ts"]) .directory).IsPlain :=
    hgen.insert rfl ⟨by decide, by decide, by decide, by decide⟩ (fun _ => Entry.noConfusion)
      fun _ => rfl
  exact hquest

/-- The second of two units cannot be written there, and the first one is delivered. -/
theorem delivered_of_blockedTree :
    (writeUnits blockedTree ⟨"gen"⟩ registryUnits).failure? =
      some (.file ⟨"gen/Quest.gen.ts"⟩ .isDirectory) ∧
    ∃ u rest, registryUnits = u :: rest ∧
      AreDelivered [u] ⟨"gen"⟩ blockedTree (writeUnits blockedTree ⟨"gen"⟩ registryUnits).tree := by
  have hfails : (writeUnits blockedTree ⟨"gen"⟩ registryUnits).failure? =
      some (.file ⟨"gen/Quest.gen.ts"⟩ .isDirectory) := by decide
  have hlength : (writeUnits blockedTree ⟨"gen"⟩ registryUnits).records.length = 1 := by decide
  have hnames : ∀ u ∈ registryUnits, '/' ∉ u.fileName.toList := by decide
  obtain ⟨done, left, hunits, hpaths, -, -, -, hdelivered, -⟩ :=
    delivered_of_writeUnits isPlain_blockedTree ⟨"gen"⟩ hnames (by decide)
  obtain ⟨u, rfl⟩ : ∃ u, done = [u] := by
    have hmapped := congrArg List.length hpaths
    rw [List.length_map, List.length_map, hlength] at hmapped
    exact List.length_eq_one_iff.mp hmapped.symm
  exact ⟨hfails, u, left, hunits, hdelivered⟩

end ClassRegistry
