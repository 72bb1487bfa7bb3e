import ClassRegistry.Proofs.FileTree.Growth
import ClassRegistry.Proofs.FileTree.Kept
import ClassRegistry.Proofs.Output.Writing

/-!
# What the outcome of a write says

An outcome says what was there before a unit was written: no file, one with the same bytes, or one
with others. It is found by reading the file as a text once the directory for units is there, so it
is true of what was there unless the file is no text, or was only found through directories that had
to be made. Whatever it says, the tree is left as it is exactly when the outcome is that nothing
changed.
-/

namespace ClassRegistry

open FileTree (Grows KeepsDirectories)

variable {tree made written : FileTree} {p outDir : Path} {contents : ByteArray}

/-- Bytes that are those of a text. -/
def IsText (contents : ByteArray) : Prop :=
  ∃ text : String, contents = text.toUTF8

/-- What an outcome says of a tree: no file is at the path, one with these contents, or one with
others. -/
def WriteOutcome.IsTrueOf (tree : FileTree) (p : Path) (contents : ByteArray) :
    WriteOutcome → Prop
  | .created => tree.isFile p = false
  | .unchanged => tree.read p = .ok contents
  | .updated => ∃ earlier, tree.read p = .ok earlier ∧ earlier ≠ contents

namespace FileTree

/-- A path is that of a file when something is read there. -/
theorem isFile_iff_read : tree.isFile p = true ↔ ∃ found, tree.read p = .ok found := by
  rw [isFile_iff]
  constructor
  · rintro ⟨address, found, hresolve, hfile⟩
    exact ⟨found, read_of_reach (resolve_eq_ok_iff.mp hresolve) hfile⟩
  · rintro ⟨found, hread⟩
    obtain ⟨address, hreach, hfile⟩ := exists_reach_of_read hread
    exact ⟨address, found, resolve_eq_ok_iff.mpr hreach, hfile⟩

/-- A file that is no text is not read as one. -/
theorem exists_readText_eq_error (hread : tree.read p = .ok contents) (h : ¬ IsText contents) :
    ∃ error, tree.readText p = .error error := by
  cases htext : tree.readText p with
  | error error => exact ⟨error, rfl⟩
  | ok text =>
      rw [readText_eq_ok_iff, hread] at htext
      exact absurd ⟨text, Except.ok.inj htext⟩ h

end FileTree

open FileTree (isFile_iff_read exists_readText_eq_error)

/-- Of a tree one outcome is true and no other one. -/
theorem WriteOutcome.isTrueOf_iff_eq {outcome other : WriteOutcome}
    (h : outcome.IsTrueOf tree p contents) : other.IsTrueOf tree p contents ↔ outcome = other := by
  have hnone : tree.isFile p = false → ∀ found, tree.read p ≠ .ok found := by
    intro hfile found hread
    rw [isFile_iff_read.mpr ⟨found, hread⟩] at hfile
    cases hfile
  refine ⟨fun hother => ?_, fun heq => heq ▸ h⟩
  cases outcome <;> cases other <;> simp only [IsTrueOf] at h hother
  case created.created | unchanged.unchanged | updated.updated => rfl
  case created.unchanged => exact absurd hother (hnone h _)
  case unchanged.created => exact absurd h (hnone hother _)
  case created.updated =>
      obtain ⟨found, hread, -⟩ := hother
      exact absurd hread (hnone h found)
  case updated.created =>
      obtain ⟨found, hread, -⟩ := h
      exact absurd hread (hnone hother found)
  case unchanged.updated =>
      obtain ⟨found, hread, hne⟩ := hother
      rw [h] at hread
      exact absurd (Except.ok.inj hread).symm hne
  case updated.unchanged =>
      obtain ⟨found, hread, hne⟩ := h
      rw [hother] at hread
      exact absurd (Except.ok.inj hread).symm hne

namespace GeneratedUnit

variable {u : GeneratedUnit} {record : WriteRecord}

/-- The outcome where no file is, where a file is no text, and where it is one. -/
theorem outcome_cases (u : GeneratedUnit) (tree : FileTree) (outDir : Path) :
    ((∀ found, tree.read (u.path outDir) ≠ .ok found) ∧ u.outcome tree outDir = .created) ∨
    (∃ found, tree.read (u.path outDir) = .ok found ∧ ¬ IsText found ∧
      u.outcome tree outDir = .created) ∨
    ∃ found, tree.read (u.path outDir) = .ok found ∧ IsText found ∧
      ((found = u.contents.toUTF8 ∧ u.outcome tree outDir = .unchanged) ∨
        (found ≠ u.contents.toUTF8 ∧ u.outcome tree outDir = .updated)) := by
  cases hread : tree.read (u.path outDir) with
  | error error =>
      refine Or.inl ⟨fun found => by simp, ?_⟩
      have herror : tree.readText (u.path outDir) = .error error := by
        rw [FileTree.readText, hread]
      unfold outcome
      rewrite [herror]
      rfl
  | ok found =>
      refine Or.inr ?_
      by_cases htext : IsText found
      · refine Or.inr ⟨found, rfl, htext, ?_⟩
        obtain ⟨text, rfl⟩ := htext
        have hsame : text.toUTF8 = u.contents.toUTF8 ↔ text = u.contents :=
          ⟨fun h => String.toByteArray_inj.mp h, fun h => h ▸ rfl⟩
        unfold outcome
        rewrite [FileTree.readText_eq_ok_iff.mpr hread]
        by_cases heq : text = u.contents
        · exact Or.inl ⟨hsame.mpr heq, if_pos heq⟩
        · exact Or.inr ⟨fun h => heq (hsame.mp h), if_neg heq⟩
      · obtain ⟨error, herror⟩ := exists_readText_eq_error hread htext
        refine Or.inl ⟨found, rfl, htext, ?_⟩
        unfold outcome
        rewrite [herror]
        rfl

/-- The outcome that is found in a tree is true of an earlier one, of which the files are still
found, exactly when a file that is found is a text if it was there and no text if it was not. -/
theorem isTrueOf_outcome_iff
    (hkept : ∀ found, tree.read (u.path outDir) = .ok found →
      made.read (u.path outDir) = .ok found) :
    (u.outcome made outDir).IsTrueOf tree (u.path outDir) u.contents.toUTF8 ↔
      ∀ found, made.read (u.path outDir) = .ok found →
        (IsText found ↔ tree.read (u.path outDir) = .ok found) := by
  have hfile : tree.isFile (u.path outDir) = false ↔
      ∀ found, tree.read (u.path outDir) ≠ .ok found := by
    rw [← Bool.not_eq_true, isFile_iff_read, not_exists]
  rcases u.outcome_cases made outDir with
    ⟨hnone, houtcome⟩ | ⟨found, hread, htext, houtcome⟩ | ⟨found, hread, htext, houtcome⟩
  -- no file is found, so there was none before
  · rw [houtcome, WriteOutcome.IsTrueOf, hfile]
    constructor
    · intro _ found hread
      exact absurd hread (hnone found)
    · intro _ found hread
      exact hnone found (hkept found hread)
  -- a file that is no text counts as missing, so it must not have been there
  · rw [houtcome, WriteOutcome.IsTrueOf, hfile]
    constructor
    · intro h other hother
      rw [hread] at hother
      obtain rfl := Except.ok.inj hother
      exact iff_of_false htext (h found)
    · intro h other hother
      obtain rfl : found = other := by
        have hkeeps := hkept other hother
        rw [hread] at hkeeps
        exact Except.ok.inj hkeeps
      exact htext ((h found hread).mpr hother)
  -- a text is compared, so it must have been there
  · have hiff : (∀ other, made.read (u.path outDir) = .ok other →
        (IsText other ↔ tree.read (u.path outDir) = .ok other)) ↔
          tree.read (u.path outDir) = .ok found := by
      constructor
      · intro h
        exact (h found hread).mp htext
      · intro h other hother
        rw [hread] at hother
        obtain rfl := Except.ok.inj hother
        exact iff_of_true htext h
    rw [hiff]
    rcases houtcome with ⟨hsame, houtcome⟩ | ⟨hsame, houtcome⟩
    · rw [houtcome, WriteOutcome.IsTrueOf, hsame]
    · rw [houtcome, WriteOutcome.IsTrueOf]
      constructor
      · rintro ⟨earlier, hearlier, -⟩
        have hkeeps := hkept earlier hearlier
        rw [hread] at hkeeps
        rw [Except.ok.inj hkeeps]
        exact hearlier
      · intro h
        exact ⟨found, h, hsame⟩

/-! ## Units that are written -/

/-- All that writing a unit does when it succeeds: the directory is there or made, and unless the
outcome is that nothing changed the file is written. -/
theorem exists_of_write (h : u.write tree outDir = (.ok record, written)) :
    ∃ made, tree.makeDirectories outDir = (.ok (), made) ∧
      record = ⟨u.path outDir, u.outcome made outDir⟩ ∧
      ((record.outcome = .unchanged ∧ written = made) ∨
        (record.outcome ≠ .unchanged ∧
          made.write (u.path outDir) u.contents.toUTF8 = .ok written)) := by
  rw [GeneratedUnit.write] at h
  split at h
  · cases (Prod.mk.inj h).1
  · rename_i made hmade
    refine ⟨made, hmade, ?_⟩
    unfold writeFile at h
    simp only at h
    split at h
    · rename_i houtcome
      obtain ⟨hrecord, rfl⟩ := Prod.mk.inj h
      obtain rfl := Except.ok.inj hrecord
      exact ⟨by rw [houtcome], Or.inl ⟨rfl, rfl⟩⟩
    · rename_i houtcome
      split at h
      · rename_i after hwrite
        obtain ⟨hrecord, rfl⟩ := Prod.mk.inj h
        obtain rfl := Except.ok.inj hrecord
        exact ⟨rfl, Or.inr ⟨houtcome, hwrite⟩⟩
      · cases (Prod.mk.inj h).1

/-- A plain tree has a file under a path without a `..` when it has it once directories are made:
none of them holds a file. -/
theorem read_of_makeDirectories (hplain : tree.IsPlain) (hclimb : ".." ∉ p.names) {q : Path}
    (hread : (tree.makeDirectories q).2.read p = .ok contents) : tree.read p = .ok contents := by
  have hgrows : Grows (fun _ => False) tree (tree.makeDirectories q).2 :=
    hplain.grows_makeDirectories q
  obtain ⟨address, hreach, hfile⟩ := FileTree.exists_reach_of_read hread
  have hthere : tree.get? address ≠ none := by
    intro hnone
    obtain hroot | ⟨above, name, rfl⟩ := List.eq_nil_or_concat' address
    · rw [hroot] at hnone
      cases hnone
    · exact hgrows.new_file above name contents hfile hnone
  have hresolve := hgrows.resolve_of_grown (Or.inr hclimb)
    (FileTree.resolve_eq_ok_iff.mpr hreach) hthere
  obtain ⟨before, hbefore⟩ := hgrows.exists_get?_eq_file hfile hthere
  have hearlier := FileTree.read_of_reach (FileTree.resolve_eq_ok_iff.mp hresolve) hbefore
  have hkept := FileTree.read_makeDirectories hearlier q
  rw [hread] at hkept
  rw [Except.ok.inj hkept]
  exact hearlier

/-- The outcome of a unit that was written is the one that is true of the tree before, exactly when
a file that is found at its path, once the directory is there, is a text if it was there before and
no text if it was not. Where the directory was there, and in a plain tree where the path has no
`..`, this says that the file that was there, if any, is a text. The tree is left as it is, but for
the directory, exactly when the outcome is that nothing changed; otherwise the file is written. -/
theorem outcome_of_write (h : u.write tree outDir = (.ok record, written)) :
    ((∀ outcome : WriteOutcome, record.outcome = outcome ↔
        outcome.IsTrueOf tree (u.path outDir) u.contents.toUTF8) ↔
      ∀ found, (tree.makeDirectories outDir).2.read (u.path outDir) = .ok found →
        (IsText found ↔ tree.read (u.path outDir) = .ok found)) ∧
    (tree.isDirectory outDir = true ∨ tree.IsPlain ∧ ".." ∉ (u.path outDir).names →
      ((∀ outcome : WriteOutcome, record.outcome = outcome ↔
          outcome.IsTrueOf tree (u.path outDir) u.contents.toUTF8) ↔
        ∀ found, tree.read (u.path outDir) = .ok found → IsText found)) ∧
    (written = (tree.makeDirectories outDir).2 ↔ record.outcome = .unchanged) ∧
    (record.outcome ≠ .unchanged →
      (tree.makeDirectories outDir).2.write (u.path outDir) u.contents.toUTF8 = .ok written) := by
  obtain ⟨made, hmade, rfl, hwritten⟩ := exists_of_write h
  have htrue : (∀ outcome : WriteOutcome, u.outcome made outDir = outcome ↔
      outcome.IsTrueOf tree (u.path outDir) u.contents.toUTF8) ↔
        ∀ found, made.read (u.path outDir) = .ok found →
          (IsText found ↔ tree.read (u.path outDir) = .ok found) := by
    have hkept : ∀ found, tree.read (u.path outDir) = .ok found →
        made.read (u.path outDir) = .ok found := by
      intro found hread
      have hkeeps := FileTree.read_makeDirectories hread outDir
      rw [hmade] at hkeeps
      exact hkeeps
    rw [← isTrueOf_outcome_iff hkept]
    exact ⟨fun hall => (hall _).mp rfl, fun hown _ => (WriteOutcome.isTrueOf_iff_eq hown).symm⟩
  rw [hmade]
  refine ⟨htrue, ?_, ?_, ?_⟩
  · intro hdirectory
    have hfound : ∀ found, made.read (u.path outDir) = .ok found →
        tree.read (u.path outDir) = .ok found := by
      intro found hread
      rcases hdirectory with hdirectory | ⟨hplain, hclimb⟩
      · rw [FileTree.makeDirectories_of_isDirectory hdirectory] at hmade
        rw [(Prod.mk.inj hmade).2]
        exact hread
      · refine read_of_makeDirectories (q := outDir) hplain hclimb ?_
        rw [hmade]
        exact hread
    refine htrue.trans ⟨fun hall found hread => ?_, fun hall found hread => ?_⟩
    · have hkeeps := FileTree.read_makeDirectories hread outDir
      rw [hmade] at hkeeps
      exact (hall found hkeeps).mpr hread
    · exact iff_of_true (hall found (hfound found hread)) (hfound found hread)
  · rcases hwritten with ⟨houtcome, rfl⟩ | ⟨houtcome, hwrite⟩
    · exact iff_of_true rfl houtcome
    · refine iff_of_false ?_ houtcome
      apply FileTree.ne_of_write hwrite
      intro hread
      exact houtcome (isUpToDate_iff.mp (isUpToDate_iff_read.mpr hread))
  · intro houtcome
    rcases hwritten with ⟨hunchanged, -⟩ | ⟨-, hwrite⟩
    · exact absurd hunchanged houtcome
    · exact hwrite

end GeneratedUnit

/-- What a run finds of the outcome of a write holds of it. -/
theorem exists_of_outcome {u : GeneratedUnit} {t : FileTree} {p : Path} {o : WriteOutcome}
    (h : (u.write t p).1.toOption.map (·.outcome) = some o) :
    ∃ record written, u.write t p = (.ok record, written) ∧ record.outcome = o := by
  cases hwrite : u.write t p with
  | mk result written =>
      rw [hwrite] at h
      cases result with
      | error error => cases h
      | ok record => exact ⟨record, written, rfl, Option.some.inj h⟩

/-- A tree with one file in the directory for units. -/
def treeWithUnitFile (contents : ByteArray) : FileTree :=
  ⟨[(["gen"], .directory), (["gen", "Inventory.gen.ts"], .file contents)], []⟩

/-- A unit of this file. -/
def inventoryUnit : GeneratedUnit :=
  ⟨"Inventory", "Inventory.gen.ts", "export type Registry = Foo;\n"⟩

/-- Another text is updated, and this is what the outcome says. -/
theorem outcome_of_write_updated :
    ∃ record written, inventoryUnit.write (treeWithUnitFile "".toUTF8) ⟨"gen"⟩ =
        (.ok record, written) ∧
      record.outcome = .updated ∧
      WriteOutcome.IsTrueOf (treeWithUnitFile "".toUTF8) ⟨"gen/Inventory.gen.ts"⟩
        inventoryUnit.contents.toUTF8 .updated := by
  obtain ⟨record, written, hwrite, houtcome⟩ := exists_of_outcome (u := inventoryUnit)
    (t := treeWithUnitFile "".toUTF8) (p := ⟨"gen"⟩) (o := .updated) (by decide)
  obtain ⟨-, htrue, -⟩ := GeneratedUnit.outcome_of_write hwrite
  have hdirectory : (treeWithUnitFile "".toUTF8).isDirectory ⟨"gen"⟩ = true := by decide
  have hread : (treeWithUnitFile "".toUTF8).read ⟨"gen/Inventory.gen.ts"⟩ = .ok "".toUTF8 := rfl
  refine ⟨record, written, hwrite, houtcome, ((htrue (Or.inl hdirectory)).mpr ?_ _).mp houtcome⟩
  intro found hfound
  rw [show inventoryUnit.path ⟨"gen"⟩ = ⟨"gen/Inventory.gen.ts"⟩ from rfl, hread] at hfound
  exact ⟨"", (Except.ok.inj hfound).symm⟩

/-- A file that is no text is replaced, and the outcome says that there was none. -/
theorem created_over_file :
    ∃ record written, inventoryUnit.write (treeWithUnitFile ⟨#[0xff]⟩) ⟨"gen"⟩ =
        (.ok record, written) ∧
      record.outcome = .created ∧
      ¬ WriteOutcome.IsTrueOf (treeWithUnitFile ⟨#[0xff]⟩) ⟨"gen/Inventory.gen.ts"⟩
        inventoryUnit.contents.toUTF8 .created ∧
      WriteOutcome.IsTrueOf (treeWithUnitFile ⟨#[0xff]⟩) ⟨"gen/Inventory.gen.ts"⟩
        inventoryUnit.contents.toUTF8 .updated := by
  obtain ⟨record, written, hwrite, houtcome⟩ := exists_of_outcome (u := inventoryUnit)
    (t := treeWithUnitFile ⟨#[0xff]⟩) (p := ⟨"gen"⟩) (o := .created) (by decide)
  have hread : (treeWithUnitFile ⟨#[0xff]⟩).read ⟨"gen/Inventory.gen.ts"⟩ = .ok ⟨#[0xff]⟩ := rfl
  have hne : (⟨#[0xff]⟩ : ByteArray) ≠ inventoryUnit.contents.toUTF8 := by
    intro h
    exact absurd (congrArg ByteArray.size h) (by decide)
  refine ⟨record, written, hwrite, houtcome, ?_, ⟨#[0xff]⟩, hread, hne⟩
  rw [WriteOutcome.IsTrueOf, isFile_iff_read.mpr ⟨_, hread⟩]
  exact Bool.noConfusion

end ClassRegistry
