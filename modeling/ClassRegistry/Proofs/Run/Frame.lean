import ClassRegistry.Proofs.Generated.Separation
import ClassRegistry.Run

/-!
# What a run leaves as it was

A command that reads a project first loads its settings, then reads its sources, then collects and
renders its registries, and each of these steps only looks at the file tree. Units are handed over
for output when all of them are there. So a run that ends earlier leaves the tree as it was, and so
does one that has nothing to write or only compares.
-/

namespace ClassRegistry

/-! ## Passes that find nothing -/

/-- A class without a register marker becomes no member. -/
theorem ClassDeclaration.member?_eq_none {d : ClassDeclaration} {options : CollectOptions}
    (h : d.registerMarker? options.marker = none) : d.member? options = .ok none := by
  rw [member?, h]

/-- Declarations without a register marker give no registry and no unit. -/
theorem generate_of_forall_unmarked {workingDirectory : Path} {options : CollectOptions}
    {emit : EmitOptions} {declarations : List ClassDeclaration}
    (h : ∀ d ∈ declarations, d.registerMarker? options.marker = none) :
    generate workingDirectory options emit declarations = .ok ⟨[], []⟩ := by
  have hmember : ∀ d ∈ declarations, d.member? options = .ok none :=
    fun d hd => ClassDeclaration.member?_eq_none (h d hd)
  have hmembers : Registries.membersOf options declarations = [] := by
    rw [Registries.membersOf, List.filterMap_eq_nil_iff]
    intro d hd
    rw [hmember d hd]
    rfl
  have hcollect : Registries.collect declarations options = .ok [] := by
    have hnone : ∀ i, ¬ Registries.OffendsAt options declarations i := by
      rw [Registries.forall_not_offendsAt_iff, hmembers]
      refine ⟨?_, fun o ho => absurd ho List.not_mem_nil⟩
      intro d hd e he
      rw [hmember d hd] at he
      cases he
    rw [Registries.collect_of_not_offendsAt hnone, hmembers]
    rfl
  exact generate_eq_ok_iff.mpr ⟨hcollect, rfl⟩

/-! ## All that a run can come to -/

/-- A run that ended before the output: there are no settings to go on with, a source cannot be
read, or a registration is wrong. -/
def Run.IsAborted (r : Run) : Prop :=
  (∃ error, r.result = .error (.config error)) ∨ (∃ failure, r.result = .error (.source failure)) ∨
    ∃ result error, r.result = .ok result ∧ result.outcome = .error error

/-- The last line that is printed about a wrong registration. -/
def abortedLine (isColored : Bool) : String :=
  Style.paint isColored [.red] "✘" ++ " " ++
    Style.paint isColored [.red] "Generation aborted - no files were written"

section Cases

variable {tree : FileTree} {o : ProjectOptions} {outDir : Option String}

/-- A command on a project goes on only with its settings and all of its declarations. -/
theorem withDeclarations_cases (tree : FileTree) (o : ProjectOptions) (outDir : Option String)
    (next : Project → List ClassDeclaration → Run) :
    (∃ error, Project.load tree o.root outDir = .error error ∧
      withDeclarations tree o outDir next = ⟨.error (.config error), [], tree⟩) ∨
    (∃ p failure, Project.load tree o.root outDir = .ok p ∧
      p.declarations tree = .error failure ∧ withDeclarations tree o outDir next =
        ⟨.error (.source failure), p.notices o.isVerbose, tree⟩) ∨
    ∃ p declarations, Project.load tree o.root outDir = .ok p ∧
      p.declarations tree = .ok declarations ∧
      withDeclarations tree o outDir next = next p declarations := by
  rw [withDeclarations]
  cases hload : Project.load tree o.root outDir with
  | error error => exact Or.inl ⟨error, rfl, rfl⟩
  | ok p =>
      cases hread : p.declarations tree with
      | error failure =>
          exact Or.inr (Or.inl ⟨p, failure, rfl, hread, by simp only [hread]⟩)
      | ok declarations =>
          exact Or.inr (Or.inr ⟨p, declarations, rfl, hread, by simp only [hread]⟩)

/-- A generating run is aborted and leaves the tree as it was, or it compares or writes the units of
a generation. -/
theorem runGenerate_cases (isCheck : Bool) :
    ((runGenerate tree o outDir isCheck).IsAborted ∧
      (runGenerate tree o outDir isCheck).tree = tree) ∨
    ∃ p declarations g, Project.load tree o.root outDir = .ok p ∧
      p.declarations tree = .ok declarations ∧ p.generation tree declarations = .ok g ∧
      runGenerate tree o outDir isCheck =
        if isCheck then checkGeneration tree p o.isVerbose g
        else writeGeneration tree p o.isVerbose g := by
  rw [runGenerate]
  rcases withDeclarations_cases tree o outDir _ with
    ⟨error, -, hr⟩ | ⟨p, failure, -, -, hr⟩ | ⟨p, declarations, hload, hread, hr⟩
  · rw [hr]
    exact Or.inl ⟨Or.inl ⟨error, rfl⟩, rfl⟩
  · rw [hr]
    exact Or.inl ⟨Or.inr (Or.inl ⟨failure, rfl⟩), rfl⟩
  · rw [hr]
    cases hg : p.generation tree declarations with
    | error error => exact Or.inl ⟨Or.inr (Or.inr ⟨_, error, rfl, rfl⟩), rfl⟩
    | ok g => exact Or.inr ⟨p, declarations, g, hload, hread, hg, rfl⟩

/-- A run that hands its units over is not aborted, whatever becomes of them. -/
theorem not_isAborted_of_generation (p : Project) (isCheck isVerbose : Bool) (g : Generation) :
    ¬ (if isCheck then checkGeneration tree p isVerbose g
      else writeGeneration tree p isVerbose g).IsAborted := by
  cases isCheck with
  | true => simp [checkGeneration, Run.IsAborted]
  | false =>
      rw [if_neg Bool.false_ne_true, writeGeneration]
      split
      · simp [Run.IsAborted]
      · simp [Run.IsAborted]

/-- A report on a wrong registration ends with the line that says so. -/
theorem exists_output_eq_abortedLine {r : Run} {result : CommandResult} {error : RegisterError}
    (hr : r.result = .ok result) (he : result.outcome = .error error)
    (isColored isVerbose : Bool) :
    ∃ lines, r.output isColored isVerbose = linesText (lines ++ [abortedLine isColored]) := by
  obtain ⟨lines, hlines⟩ : ∃ lines, error.lines isColored = lines ++ [abortedLine isColored] :=
    ⟨_, List.append_cons _ "" [abortedLine isColored]⟩
  refine ⟨lines, ?_⟩
  rw [Run.output, hr, ← hlines]
  simp only [CommandResult.text, he]

end Cases

/-- A generating run that is aborted leaves the tree as it was, as the line says that it prints
about a wrong registration. So do all runs that only compare or list, whatever they come to, and a
run on a project without a registered class, which succeeds. -/
theorem tree_of_run (tree : FileTree) (o : ProjectOptions) (outDir : Option String) :
    (∀ isCheck, let r := (Command.generate o outDir isCheck).run tree
      (r.IsAborted → r.tree = tree) ∧
      ∀ result error, r.result = .ok result → result.outcome = .error error →
        r.tree = tree ∧ ∀ isColored isVerbose, ∃ lines,
          r.output isColored isVerbose = linesText (lines ++ [abortedLine isColored])) ∧
    ((Command.generate o outDir true).run tree).tree = tree ∧
    ((Command.list o).run tree).tree = tree ∧
    ∀ isCheck p declarations, Project.load tree o.root outDir = .ok p →
      p.declarations tree = .ok declarations →
      (∀ d ∈ declarations, d.registerMarker? p.config.marker = none) →
      let r := (Command.generate o outDir isCheck).run tree
      r.tree = tree ∧ r.exitStatus = .success ∧ r.result = .ok
        ⟨.ok (.generated 0 0 (if isCheck then .checked ⟨0, []⟩ else .written [])),
          p.scan.files.length⟩ := by
  have haborted : ∀ isCheck, (runGenerate tree o outDir isCheck).IsAborted →
      (runGenerate tree o outDir isCheck).tree = tree := by
    intro isCheck h
    rcases runGenerate_cases isCheck with ⟨-, hr⟩ | ⟨p, declarations, g, -, -, -, hr⟩
    · exact hr
    · rw [hr] at h
      exact absurd h (not_isAborted_of_generation p isCheck o.isVerbose g)
  refine ⟨?_, ?_, ?_, ?_⟩
  · intro isCheck r
    refine ⟨haborted isCheck, ?_⟩
    intro result error hr he
    exact ⟨haborted isCheck (Or.inr (Or.inr ⟨result, error, hr, he⟩)),
      exists_output_eq_abortedLine hr he⟩
  · change (runGenerate tree o outDir true).tree = tree
    rcases runGenerate_cases true with ⟨-, hr⟩ | ⟨p, declarations, g, -, -, -, hr⟩
    · exact hr
    · rw [hr]
      rfl
  · change (runList tree o).tree = tree
    rw [runList]
    rcases withDeclarations_cases tree o none _ with
      ⟨error, -, hr⟩ | ⟨p, failure, -, -, hr⟩ | ⟨p, declarations, -, -, hr⟩
    · rw [hr]
    · rw [hr]
    · rw [hr]
  · intro isCheck p declarations hload hread hunmarked
    have hg : p.generation tree declarations = .ok ⟨[], []⟩ := generate_of_forall_unmarked hunmarked
    have hr : (Command.generate o outDir isCheck).run tree =
        if isCheck then checkGeneration tree p o.isVerbose ⟨[], []⟩
        else writeGeneration tree p o.isVerbose ⟨[], []⟩ := by
      simp only [Command.run, runGenerate, withDeclarations, hload, hread, hg]
    rw [hr]
    cases isCheck with
    | true => exact ⟨rfl, rfl, rfl⟩
    | false => exact ⟨rfl, rfl, rfl⟩

/-- A project with one source file. -/
def itemsProject (text : String) : FileTree :=
  ⟨[(["src"], .directory), (["src", "items.ts"], .file text.toUTF8)], []⟩

/-- A marker without a registry name ends a run on such a project, and a class without a marker
gives it nothing to do. -/
theorem tree_of_itemsProjects :
    (∃ result error, ((Command.generate ⟨none, false⟩ none false).run
        (itemsProject "@Register() class Foo \x7b\x7d")).result = .ok result ∧
      result.outcome = .error error ∧
      ((Command.generate ⟨none, false⟩ none false).run
        (itemsProject "@Register() class Foo \x7b\x7d")).tree =
          itemsProject "@Register() class Foo \x7b\x7d") ∧
    ((Command.generate ⟨none, false⟩ none false).run (itemsProject "class Foo \x7b\x7d")).tree =
      itemsProject "class Foo \x7b\x7d" ∧
    ((Command.generate ⟨none, false⟩ none false).run
      (itemsProject "class Foo \x7b\x7d")).exitStatus = .success := by
  constructor
  · have hfails : ((Command.generate ⟨none, false⟩ none false).run
        (itemsProject "@Register() class Foo \x7b\x7d")).result.toOption.any
          (fun result => !result.outcome.isOk) = true := by decide +kernel
    obtain ⟨result, hr, houtcome⟩ := exists_ok_of_any hfails
    cases he : result.outcome with
    | ok summary => simp [he, Except.isOk, Except.toBool] at houtcome
    | error error =>
        obtain ⟨hwrong, -⟩ := tree_of_run
          (itemsProject "@Register() class Foo \x7b\x7d") ⟨none, false⟩ none
        exact ⟨result, error, hr, he, ((hwrong false).2 result error hr he).1⟩
  · have hplain : (Project.load (itemsProject "class Foo \x7b\x7d") ⟨"."⟩ none).toOption.any
        (fun p => (p.declarations (itemsProject "class Foo \x7b\x7d")).toOption.any
          fun declarations => decide (∀ d ∈ declarations,
            d.registerMarker? p.config.marker = none)) = true := by decide +kernel
    obtain ⟨p, hload, hdeclarations⟩ := exists_ok_of_any hplain
    obtain ⟨declarations, hread, hunmarked⟩ := exists_ok_of_any hdeclarations
    obtain ⟨-, -, -, hnothing⟩ :=
      tree_of_run (itemsProject "class Foo \x7b\x7d") ⟨none, false⟩ none
    obtain ⟨htree, hstatus, -⟩ :=
      hnothing false p declarations hload hread (of_decide_eq_true hunmarked)
    exact ⟨htree, hstatus⟩

end ClassRegistry
