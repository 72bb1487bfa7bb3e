import ClassRegistry.Proofs.Order.Classes
import ClassRegistry.TypeScript.Grammar.Literal

/-!
# Literals and operators in the order of the text

Literals, the arguments of calls and operators with their operands are walked as they are written.
An expression that turns out to be a target keeps the order of its parts, of which some are left
out.
-/

namespace ClassRegistry.TypeScript

variable {code : Code}

/-! ## Targets -/

/-- A value that is found after another one. -/
theorem exists_of_bind_eq_ok {ε α β : Type} {x : Except ε α} {f : α → Except ε β} {b : β}
    (h : x >>= f = .ok b) : ∃ a, x = .ok a ∧ f a = .ok b := by
  cases x with
  | error e => cases h
  | ok a => exact ⟨a, rfl, h⟩

namespace Follows

/-- A node in place of one that can be no part of a pattern holds nothing. -/
theorem missing {before : List (Node code)} (span : Span) : Follows before [Node.missing span] :=
  .leaf rfl rfl

mutual

/-- A target keeps the order of the expression that it was read as. -/
theorem asTarget {kind : TargetKind} {node target : Node code}
    (h : node.asTarget kind = .ok target) : Follows [node] [target] := by
  unfold Node.asTarget at h
  split at h
  · cases h
    exact .refl _
  · obtain ⟨targets, htargets, h⟩ := exists_of_bind_eq_ok h
    cases h
    refine .trans (.children rfl) (.trans (propertiesAsTargets htargets) ?_)
    exact .single rfl (.refl _)
  · obtain ⟨targets, htargets, h⟩ := exists_of_bind_eq_ok h
    cases h
    refine .trans (.children rfl) (.trans (elementsAsTargets htargets) ?_)
    exact .single rfl (.refl _)
  · cases h
    exact .refl _
  · obtain ⟨inner, hinner, h⟩ := exists_of_bind_eq_ok h
    cases h
    refine .trans (.children rfl) (.trans (.append (asTarget hinner) (.refl _)) ?_)
    exact .single rfl (.refl _)
  · cases h
    split
    · exact .refl _
    · exact .missing _

/-- The elements of a list keep their order as targets. -/
theorem elementsAsTargets {kind : TargetKind} {nodes targets : List (Node code)}
    (h : Node.elementsAsTargets kind nodes = .ok targets) : Follows nodes targets := by
  unfold Node.elementsAsTargets at h
  split at h
  · cases h
    exact .refl _
  · split at h
    · obtain ⟨inner, hinner, h⟩ := exists_of_bind_eq_ok h
      cases h
      refine .trans (.of_sublist (List.singleton_sublist.mpr List.mem_cons_self)) ?_
      refine .trans (.children rfl) (.trans (asTarget hinner) ?_)
      exact .single rfl (.refl _)
    · exact .trans (.of_sublist (List.sublist_cons_self _ _)) (elementsAsTargets h)
  · obtain ⟨first, hfirst, h⟩ := exists_of_bind_eq_ok h
    obtain ⟨rest, hrest, h⟩ := exists_of_bind_eq_ok h
    cases h
    exact .append (asTarget hfirst) (elementsAsTargets hrest)

/-- The properties of an object keep their order as targets. -/
theorem propertiesAsTargets {kind : TargetKind} {nodes targets : List (Node code)}
    (h : Node.propertiesAsTargets kind nodes = .ok targets) : Follows nodes targets := by
  unfold Node.propertiesAsTargets at h
  split at h
  · cases h
    exact .refl _
  · obtain ⟨first, hfirst, h⟩ := exists_of_bind_eq_ok h
    obtain ⟨rest, hrest, h⟩ := exists_of_bind_eq_ok h
    cases h
    exact .append (propertyAsTarget hfirst) (propertiesAsTargets hrest)

/-- A property of an object keeps its order as a target. -/
theorem propertyAsTarget {kind : TargetKind} {node target : Node code}
    (h : node.propertyAsTarget kind = .ok target) : Follows [node] [target] := by
  unfold Node.propertyAsTarget at h
  split at h
  · obtain ⟨inner, hinner, h⟩ := exists_of_bind_eq_ok h
    cases h
    refine .trans (.children rfl) (.trans (.append (.refl [_]) (asTarget hinner)) ?_)
    exact .single rfl (.refl _)
  · cases h
    exact .refl _
  · split at h
    · cases h
      exact .missing _
    · obtain ⟨inner, hinner, h⟩ := exists_of_bind_eq_ok h
      cases h
      refine .trans (.children rfl) (.trans (asTarget hinner) ?_)
      exact .single rfl (.refl _)
  · cases h
  · cases h
    exact .refl _

end

end Follows

namespace Gathers

/-- A parser behind a value that was found. -/
theorem readFound {before : List (Node code)} {α β : Type} {found : Except Fault α}
    {rest : α → Parser code β} {last : β → List (Node code)}
    (h : ∀ a, found = .ok a → Gathers before (rest a) last) :
    Gathers before (Grammar.orFail found >>= rest) last := by
  cases found with
  | ok a => exact h a rfl
  | error fault => exact .of_stops fun _ hs => ⟨_, _, rfl, hs.goesTo_skipBroken⟩

/-- What an expression turns out to be stands for it. -/
theorem orFail {before : List (Node code)} {α : Type} {found : Except Fault α}
    {after : α → List (Node code)} (h : ∀ a, found = .ok a → Follows before (after a)) :
    Gathers before (Grammar.orFail found) after := by
  cases found with
  | ok a => exact .give (h a rfl)
  | error fault => exact .failWith fault

/-- What is assigned to stands for the expression that it was read as. -/
theorem assignmentTarget (isPlain : Bool) (node : Node code) :
    Gathers [node] (Grammar.assignmentTarget isPlain node) fun target => [target] := by
  unfold Grammar.assignmentTarget
  split
  · exact .orFail fun target => .asTarget
  · exact .orFail fun target => .asTarget
  · exact .ite (fun _ => .give (.refl _)) fun _ => .failAt _ _

/-! ## Operators -/

/-- What is gathered, or what stands in place of a missing operand. -/
theorem orMissing {p : Rule code} (h : Gathers [] p fun node => [node]) :
    Gathers [] (Grammar.orMissing p) fun node => [node] := by
  intro s start earlier hs hle hfits
  have hp := h s start earlier hs hle hfits
  unfold Grammar.orMissing
  cases hrun : p s with
  | done node next =>
      rw [hrun] at hp
      exact hp
  | failed fault next =>
      rw [hrun] at hp
      dsimp only
      split
      · exact State.GoesTo.trans hp hp.isSound.goesTo_skipBroken
      · split
        · exact ⟨hp, (hfits.mono hp.offset_le).follow ((Follows.refl earlier).append (.missing _))⟩
        · exact hp

variable {rules : Rules code} (h : rules.Gather)
include h

/-- A cast stands around the operand before it. -/
theorem castOf (left : Node code) :
    Gathers [left] (Grammar.castOf rules left) fun cast => [cast.getD left] := by
  unfold Grammar.castOf
  refine .skip .startsLine fun isLine => ?_
  refine .ite (fun _ => .give (.refl _)) fun _ => ?_
  refine .skip (.eatWord _) fun isCast => ?_
  refine .ite (fun _ => ?_) fun _ => ?_
  · refine .skip (.eatWord _) fun isConst => ?_
    refine .ite (fun _ => ?_) fun _ => ?_
    · refine .skip (.spanFrom _) fun span => ?_
      exact .give (.single rfl (.refl _))
    · refine .read (.inType (h _)) fun type => ?_
      refine .skip (.spanFrom _) fun span => ?_
      exact .give (.single rfl (.refl _))
  · refine .skip (.eatWord _) fun isSatisfied => ?_
    refine .ite (fun _ => ?_) fun _ => .give (.refl _)
    refine .read (.inType (h _)) fun type => ?_
    refine .skip (.spanFrom _) fun span => ?_
    exact .give (.single rfl (.refl _))

/-- Operators stand behind their first operand. -/
theorem operators (level : Nat) (left : Node code) :
    Gathers [left] (Grammar.operators rules level left) fun node => [node] := by
  unfold Grammar.operators
  refine .iterate (fun node => [node]) (fun left => ?_) left
  refine .bindEither (fun _ => .castOf h left) (fun _ => .give (.refl _)) fun cast => ?_
  refine .skip .kind fun kind => ?_
  refine .skip .flags fun flags => ?_
  split
  · exact .give (.refl _)
  · exact .give (.refl _)
  · refine .ite (fun _ => .give (.refl _)) fun _ => ?_
    refine .skip (.isAt _) fun isPower => ?_
    refine .skip .advance fun _ => ?_
    refine .when (fun _ => .fail _) ?_
    refine .read (h _) fun right => ?_
    refine .skip (.spanFrom _) fun span => ?_
    exact .give (.single rfl (.refl _))

/-- An operand stands before the operators behind it. -/
theorem operand (level : Nat) : Gathers [] (Grammar.operand rules level) fun node => [node] := by
  unfold Grammar.operand
  refine .read (h _) fun left => ?_
  exact .operators h level left

/-- The first operand of an expression may be missing. -/
theorem binary : Gathers [] (Grammar.binary rules) fun node => [node] := by
  unfold Grammar.binary
  refine .read (.orMissing (h _)) fun left => ?_
  exact .ite (fun _ => .give (.refl _)) fun _ => .operators h 0 left

/-- The values of a conditional expression stand behind its test. -/
theorem conditionalRest (test : Node code) :
    Gathers [test] (Grammar.conditionalRest rules test) fun node => [node] := by
  unfold Grammar.conditionalRest
  refine .read (.withFlags _ (h _)) fun yes => ?_
  refine .skip (.expect _) fun _ => ?_
  refine .read (.withFlags _ (h _)) fun no => ?_
  exact .node (fun _ => rfl) fun _ => .refl _

/-- A value stands behind what it is assigned to. -/
theorem assignmentRest (left : Node code) :
    Gathers [left] (Grammar.assignmentRest rules left) fun node => [node] := by
  unfold Grammar.assignmentRest
  refine .skip .kind fun kind => ?_
  split
  · refine .ite (fun _ => ?_) fun _ => .give (.refl _)
    refine .bind (.assignmentTarget _ left) fun target => ?_
    refine .skip .advance fun _ => ?_
    refine .read (h _) fun value => ?_
    exact .node (fun _ => rfl) fun _ => .refl _
  · exact .give (.refl _)

/-! ## Literals -/

theorem spreadable : Gathers [] (Grammar.spreadable rules) fun node => [node] := by
  unfold Grammar.spreadable
  refine .skip .here fun start => ?_
  refine .skip (.eat _) fun isSpread => ?_
  refine .ite (fun _ => ?_) fun _ => h _
  refine .read (h _) fun value => ?_
  exact .node (fun _ => rfl) fun _ => .refl _

/-- Arguments stand one behind the other. -/
theorem callArguments : Gathers [] (Grammar.callArguments rules) fun nodes => nodes := by
  unfold Grammar.callArguments
  refine .read (.enclosed (?_ : Gathers [] _ fun nodes => nodes)) fun arguments => ?_
  · refine .skip (.expect _) fun _ => ?_
    exact (commaSeparated (.isAt _) (.spreadable h)).follow_after fun nodes =>
      .of_sublist (by simp)
  · refine .skip (.expect _) fun _ => ?_
    exact .give (.refl _)

/-- The elements of a list stand one behind the other. -/
theorem listLiteral : Gathers [] (Grammar.listLiteral rules) fun node => [node] := by
  unfold Grammar.listLiteral
  refine .skip .here fun start => ?_
  refine .skip (.expect _) fun _ => ?_
  have helement : Gathers [] (do
      if ← Parser.isAt .comma then return .compound ⟨← Parser.here, ← Parser.here⟩ .other []
      else Grammar.spreadable rules) fun node => [node] := by
    refine .skip (.isAt _) fun isHole => ?_
    refine .ite (fun _ => ?_) fun _ => .spreadable h
    refine .skip .here fun first => ?_
    refine .skip .here fun last => ?_
    exact .give (.single rfl (.refl _))
  refine .read (.enclosed (.commaSeparated (.isAt _) helement)) fun elements => ?_
  refine .skip (.expect _) fun _ => ?_
  exact .node (fun _ => rfl) fun _ => by simp [Node.children]

/-! ## Objects -/

/-- A method stands behind its key. -/
theorem objectMethod (kind : Grammar.FunctionKind) (key : Node code) :
    Gathers [key] (Grammar.objectMethod rules kind key) fun node => [node] := by
  unfold Grammar.objectMethod
  refine .skip .here fun start => ?_
  refine .read (.functionRest h start kind none []) fun method => ?_
  have hmethod : Follows [loose [method]] [method] := .part (List.mem_singleton_self method)
  refine .follow (.node (fun _ => rfl) fun _ => .refl _) ((Follows.refl [key]).append hmethod)

/-- What an accessor gets stands behind its key. -/
theorem getter (start : Nat) : Gathers [] (Grammar.getter rules start) fun node => [node] := by
  unfold Grammar.getter
  refine .read (.key h) fun key => ?_
  refine .read (.functionParts h _) fun parts => ?_
  exact .node (fun _ => rfl) fun _ => by simp [Node.children, Grammar.FunctionParts.nodes]

/-- What an accessor sets stands behind its key. -/
theorem setter (start : Nat) : Gathers [] (Grammar.setter rules start) fun node => [node] := by
  unfold Grammar.setter
  refine .read (.key h) fun key => ?_
  refine .read (.functionParts h _) fun parts => ?_
  refine .node (fun _ => rfl) fun _ => ?_
  have hparameters : ((parts.parameters.take 2).flatMap (·.2.parts)).Sublist
      (Grammar.parameterNodes parts.parameters) :=
    ((List.take_sublist 2 _).flatMap _).trans (sublist_parameterNodes _)
  have hparts : ((parts.parameters.take 2).flatMap (·.2.parts) ++ parts.body).Sublist
      parts.nodes := by
    refine List.Sublist.append ?_ (.refl _)
    refine .trans ?_ (List.sublist_append_left _ _)
    exact hparameters.trans (List.sublist_append_right _ _)
  exact hparts.cons_cons key

/-- A method stands behind the word that it starts with, which is no part of it. -/
theorem markedMethod (start : Nat) (word : Node code) :
    Gathers [] (Grammar.markedMethod rules start word) fun node => [node] := by
  unfold Grammar.markedMethod
  refine .ite (fun _ => .getter h start) fun _ => .ite (fun _ => .setter h start) fun _ => ?_
  refine .ite (fun _ => ?_) fun _ => .unexpected _
  refine .skip (.eat _) fun isGenerator => ?_
  refine .read (.key h) fun key => ?_
  exact .objectMethod h _ key

omit h in
theorem continuesProperty (key : Node code) : IsQuiet (Grammar.continuesProperty key) := by
  unfold Grammar.continuesProperty
  refine .skip .kind fun kind => ?_
  split <;> exact .done _

/-- What follows a key stands behind it. -/
theorem propertyRest (start : Nat) (key : Node code) :
    Gathers [key] (Grammar.propertyRest rules start key) fun node => [node] := by
  unfold Grammar.propertyRest
  refine .skip (continuesProperty key) fun isThere => ?_
  refine .ite (fun _ => ?_) fun _ => ?_
  · refine .skip (.eat _) fun isColon => ?_
    refine .ite (fun _ => ?_) fun _ => ?_
    · refine .read (h _) fun value => ?_
      exact .node (fun _ => rfl) fun _ => .refl _
    refine .skip .startsMethod fun isMethod => ?_
    refine .ite (fun _ => .objectMethod h _ key) fun _ => ?_
    split
    · refine .skip (.eat _) fun isOptional => ?_
      refine .skip (.eat _) fun isPreset => ?_
      refine .ite (fun _ => ?_) fun _ => ?_
      · refine .read (h _) fun value => ?_
        exact .node (fun _ => rfl) fun _ => .refl _
      refine .skip (.isAt _) fun isComma => ?_
      refine .skip (.isAt _) fun isBrace => ?_
      refine .ite (fun _ => .give (.leaf rfl rfl)) fun _ => ?_
      exact .follow (.markedMethod h start _) .nil
    · exact .unexpected _
  · refine .skip .skipBroken fun _ => ?_
    refine .skip (.spanFrom _) fun span => ?_
    refine .give ?_
    have hmissing : Follows [key] ([key] ++ [Node.missing span]) :=
      (Follows.refl [key]).append (.missing span)
    exact hmissing.trans (.single rfl (.refl _))

theorem objectProperty : Gathers [] (Grammar.objectProperty rules) fun node => [node] := by
  unfold Grammar.objectProperty
  refine .skip .here fun start => ?_
  refine .skip (.isAt _) fun isSpread => ?_
  refine .ite (fun _ => .spreadable h) fun _ => ?_
  refine .skip (.eat _) fun isGenerator => ?_
  refine .ite (fun _ => ?_) fun _ => ?_
  · refine .read (.key h) fun key => ?_
    exact .objectMethod h _ key
  · refine .skip .visibility fun _ => ?_
    refine .read (.key h) fun key => ?_
    exact .propertyRest h start key

/-- The properties of an object stand one behind the other. -/
theorem objectLiteral : Gathers [] (Grammar.objectLiteral rules) fun node => [node] := by
  unfold Grammar.objectLiteral
  refine .skip .here fun start => ?_
  refine .skip (.expect _) fun _ => ?_
  refine .read (.enclosed (.commaSeparated (.isAt _) (.objectProperty h))) fun properties => ?_
  refine .skip (.expect _) fun _ => ?_
  exact .node (fun _ => rfl) fun _ => by simp [Node.children]

/-! ## Templates and regular expressions -/

/-- The parts of a template stand one behind the other. -/
theorem templateParts (isTagged : Bool) :
    Gathers [] (Grammar.templateParts rules isTagged) fun nodes => nodes := by
  unfold Grammar.templateParts
  refine .iterate (fun parts => parts.reverse) (fun parts => ?_) []
  refine .skip (.templatePiece _) fun isLast => ?_
  refine .ite (fun _ => .give (.refl _)) fun _ => ?_
  refine .read (.enclosed (h _)) fun part => ?_
  refine .skip .continueTemplate fun _ => ?_
  exact .give (.of_sublist (by simp))

/-- A template stands behind its tag. -/
theorem taggedTemplate (tag : Node code) (types : List (Node code)) :
    Gathers (tag :: types) (Grammar.taggedTemplate rules tag types) fun node => [node] := by
  unfold Grammar.taggedTemplate
  refine .read (.templateParts h true) fun parts => ?_
  exact .node (fun _ => rfl) fun _ => .refl _

omit h in
theorem regex : Gathers [] (Grammar.regex : Rule code) fun node => [node] := by
  unfold Grammar.regex
  refine .skip .here fun start => ?_
  refine .reread Lexeme.regex (fun _ _ => Lexeme.isAt_regex) ?_
  refine .skip .kind fun kind => ?_
  refine .ite (fun _ => ?_) fun _ => .fail _
  refine .skip .advance fun _ => ?_
  exact .node (fun _ => rfl) fun _ => .refl _

end Gathers

end ClassRegistry.TypeScript
