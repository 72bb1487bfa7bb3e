import ClassRegistry.Proofs.Order.Chains
import ClassRegistry.TypeScript.Grammar.Expression
import ClassRegistry.TypeScript.Grammar.Markup

/-!
# Markup and expressions in the order of the text

Elements are walked with their type arguments behind their attributes, and the type that a value is
asserted to have behind the value. All other expressions are walked as they are written.
-/

namespace ClassRegistry.TypeScript

variable {code : Code}

/-! ## Markup -/

namespace IsQuiet

theorem markupWord : IsQuiet (Grammar.markupWord : Parser code String) := by
  unfold Grammar.markupWord
  refine .skip .kind fun kind => ?_
  split
  · refine of_goes fun s hs => ⟨_, _, rfl, ?_⟩
    have hafter : s.token.span.stop ≤ (s.after.advance (s.after.rest.takeWhile fun c =>
        Text.isIdentifierPart c || c = '-').length).offset :=
      Nat.le_trans (Nat.le_of_eq hs.after_eq.symm) (Nat.le_add_right _ _)
    obtain ⟨hnext, hle⟩ := State.isSound_next (s := { s with
      after := s.after.advance (s.after.rest.takeWhile fun c =>
        Text.isIdentifierPart c || c = '-').length }) hafter
    exact ⟨hnext, Nat.le_trans (Nat.le_trans hs.offset_le (Nat.le_add_right _ _)) hle,
      hs.previousStop_le_stop⟩
  · exact .unexpected _

theorem attributeName : IsQuiet (Grammar.attributeName : Parser code String) := by
  unfold Grammar.attributeName
  refine .skip .markupWord fun first => ?_
  refine .skip (.eat _) fun isColon => ?_
  refine .ite (fun _ => ?_) fun _ => .done _
  refine .skip .markupWord fun last => ?_
  exact .done _

theorem elementName : IsQuiet (Grammar.elementName : Parser code String) := by
  unfold Grammar.elementName
  refine .skip .markupWord fun first => ?_
  refine .skip (.eat _) fun isColon => ?_
  refine .ite (fun _ => ?_) fun _ => ?_
  · refine .skip .markupWord fun last => ?_
    exact .done _
  have hmember : IsQuiet (do
      if ← Parser.eat .dot then return some (← Grammar.markupWord) else return none :
        Parser code (Option String)) := by
    refine .skip (.eat _) fun isDot => ?_
    refine .ite (fun _ => ?_) fun _ => .done _
    refine .skip .markupWord fun word => ?_
    exact .done _
  refine .skip (.many hmember) fun members => ?_
  exact .done _

/-- The value of an attribute is gone on to. -/
theorem advanceToValue : IsQuiet (Grammar.advanceToValue : Parser code Unit) := by
  unfold Grammar.advanceToValue
  refine of_state fun s hs => ?_
  have hnext : ∃ a next, (Parser.advance : Parser code Unit) s = .done a next ∧ s.GoesTo next :=
    ⟨_, _, rfl, hs.goesTo_next⟩
  rcases hplace : s.after.skipTrivia with ⟨place, startsLine⟩
  have hskip := s.after.offset_le_skipTrivia
  rw [hplace] at hskip
  rcases hrest : place.rest with _ | ⟨quote, rest⟩
  · simpa only [hrest] using hnext
  · by_cases hquote : (quote = '"' || quote = '\x27') = true
    · simp only [hrest, if_pos hquote]
      have hstop : s.token.span.stop ≤ place.offset := hs.after_eq ▸ hskip
      exact ⟨_, _, rfl, State.isSound_of_isAt rfl rfl (Lexeme.isAt_plain _ _ _ rfl) hstop,
        Nat.le_trans hs.offset_le hskip, hs.previousStop_le_stop⟩
    · simpa only [hrest, if_neg hquote] using hnext

theorem closeTag (beforeRaw : Bool) : IsQuiet (Grammar.closeTag beforeRaw : Parser code Unit) := by
  unfold Grammar.closeTag
  refine .skip (.isAt _) fun isThere => ?_
  refine .whenNot (fun _ => .failExpected _) ?_
  exact .ite (fun _ => .quiet .advanceToRaw) fun _ => .quiet .advance

theorem openClosingTag : IsQuiet (Grammar.openClosingTag : Parser code Unit) := by
  unfold Grammar.openClosingTag
  refine .skip .kind fun kind => ?_
  refine .whenNot (fun _ => .failExpected _) ?_
  exact .quiet .advance

end IsQuiet

namespace Gathers

variable {rules : Rules code} (h : rules.Gather)
include h

theorem attributeValue : Gathers [] (Grammar.attributeValue rules) fun nodes => nodes := by
  unfold Grammar.attributeValue
  refine .skip .here fun start => ?_
  refine .skip .kind fun kind => ?_
  split
  · refine .skip .advance fun _ => ?_
    exact .give (.refl _)
  · refine .skip .advance fun _ => ?_
    refine .skip (.eat _) fun isEmpty => ?_
    refine .when (fun _ => .failAt _ _) ?_
    refine .read (.enclosed (h _)) fun value => ?_
    refine .skip (.expect _) fun _ => ?_
    exact .give (.refl _)
  · refine .read (h _) fun value => ?_
    exact .give (.refl _)
  · exact .fail _

/-- An attribute holds its value. -/
theorem elementAttribute : Gathers [] (Grammar.elementAttribute rules) fun nodes => nodes := by
  unfold Grammar.elementAttribute
  refine .skip (.eat _) fun isSpread => ?_
  refine .ite (fun _ => ?_) fun _ => ?_
  · refine .skip (.expect _) fun _ => ?_
    refine .read (.enclosed (h _)) fun value => ?_
    refine .skip (.expect _) fun _ => ?_
    exact .give (.refl _)
  · refine .skip .attributeName fun name => ?_
    refine .skip (.isAt _) fun isThere => ?_
    refine .ite (fun _ => ?_) fun _ => .give (.refl _)
    refine .skip .advanceToValue fun _ => ?_
    exact .attributeValue h

theorem childExpression : Gathers [] (Grammar.childExpression rules) fun nodes => nodes := by
  unfold Grammar.childExpression
  refine .skip (.expect _) fun _ => ?_
  refine .skip (.isAt _) fun isEmpty => ?_
  extract_lets -underBinder last
  have hlast : ∀ value, Gathers value (last value) fun nodes => nodes := by
    intro value
    refine .skip (.isAt _) fun isThere => ?_
    refine .whenNot (fun _ => .failExpected _) ?_
    refine .skip .advanceToRaw fun _ => ?_
    exact .give (.refl _)
  refine .ite (fun _ => hlast []) fun _ => ?_
  refine .skip (.eat _) fun isSpread => ?_
  refine .read (.enclosed (h _)) fun value => ?_
  exact hlast [value]

/-- What stands between tags is gathered part by part. -/
theorem children : Gathers [] (Grammar.children rules) fun nodes => nodes := by
  unfold Grammar.children
  refine .iterate (fun nodes => nodes) (fun nodes => ?_) []
  refine .read (.orNone (?_ : Gathers [] _ fun nodes => nodes)) fun child => ?_
  · refine .skip .kind fun kind => ?_
    split
    · refine .skip .advanceToRaw fun _ => ?_
      exact .give (.refl _)
    · exact .childExpression h
    · refine .read (h _) fun child => ?_
      exact .give (.refl _)
    · exact .failExpected _
  cases child with
  | some child => exact .give (.refl _)
  | none => exact .give (.of_sublist (by simp))

/-- An element holds its type arguments, its attributes and what stands between its tags. -/
theorem element (isInner : Bool) :
    Gathers [] (Grammar.element rules isInner) fun node => [node] := by
  unfold Grammar.element
  refine .inType ?_
  refine .skip .here fun start => ?_
  refine .skip (.expect _) fun _ => ?_
  refine .skip (.isAt _) fun isFragment => ?_
  refine .ite (fun _ => ?_) fun _ => ?_
  -- a fragment has no name
  · refine .skip (.closeTag _) fun _ => ?_
    refine .read (.children h) fun parts => ?_
    refine .skip .openClosingTag fun _ => ?_
    refine .skip (.closeTag _) fun _ => ?_
    exact .node (fun _ => rfl) fun _ => .refl _
  refine .skip .elementName fun name => ?_
  refine .skip (.isAt _) fun isGeneric => ?_
  refine .readWhen (fun _ => .typeArguments h) fun types => ?_
  have hattribute : Gathers [] (do
      if (← Parser.isAt .greater) || (← Parser.isAt .slash) then return none
      else return some (← Grammar.elementAttribute rules))
      fun found => found.elim [] fun nodes => nodes := by
    refine .skip (.isAt _) fun isOver => ?_
    refine .skip (.isAt _) fun isClosed => ?_
    refine .ite (fun _ => .give (.refl _)) fun _ => ?_
    refine .read (.elementAttribute h) fun values => ?_
    exact .give (.refl _)
  refine .read (.many hattribute) fun attributes => ?_
  refine .skip (.eat _) fun isClosed => ?_
  refine .ite (fun _ => ?_) fun _ => ?_
  -- an element that is closed at once
  · refine .skip (.closeTag _) fun _ => ?_
    refine .mixed (fun _ => rfl) fun _ => .of_subset fun x => ?_
    simp only [Node.children, List.flatMap_id', List.mem_append]
    tauto
  refine .skip (.closeTag _) fun _ => ?_
  refine .read (.children h) fun inner => ?_
  refine .skip .openClosingTag fun _ => ?_
  refine .skip .here fun nameStart => ?_
  refine .skip .elementName fun closed => ?_
  refine .skip (.closeTag _) fun _ => ?_
  refine .whenNot (fun _ => .failAt _ _) ?_
  refine .mixed (fun _ => rfl) fun _ => .of_subset fun x => ?_
  simp only [Node.children, List.flatMap_id', List.mem_append]
  tauto

/-! ## One operand -/

/-- A value stands behind the type that it is asserted to have. -/
theorem typeAssertion : Gathers [] (Grammar.typeAssertion rules) fun node => [node] := by
  unfold Grammar.typeAssertion
  refine .skip .here fun start => ?_
  refine .read (.inType (?_ : Gathers [] _ fun nodes => nodes)) fun type => ?_
  · refine .skip (.expect _) fun _ => ?_
    refine .skip (.eatWord _) fun isConst => ?_
    extract_lets -underBinder last
    have hlast : ∀ type, Gathers type (last type) fun nodes => nodes := by
      intro type
      refine .skip (.expect _) fun _ => ?_
      exact .give (.refl _)
    refine .ite (fun _ => hlast []) fun _ => ?_
    refine .read (h _) fun type => ?_
    exact hlast [type]
  refine .read (h _) fun value => ?_
  cases type with
  | nil => exact .node (fun _ => rfl) fun _ => .refl _
  | cons type rest => exact .mixed (fun _ => rfl) fun _ => .of_subset (by simp [Node.children])

/-- `await` holds its value. -/
theorem awaitExpression : Gathers [] (Grammar.awaitExpression rules) fun node => [node] := by
  unfold Grammar.awaitExpression
  refine .skip .here fun start => ?_
  refine .skip .anyName fun word => ?_
  refine .skip (.isAt _) fun isStar => ?_
  refine .when (fun _ => .fail _) ?_
  refine .skip .isAtStatementEnd fun isEnd => ?_
  refine .skip (.isAt _) fun isClosed => ?_
  refine .skip (.isAt _) fun isBracket => ?_
  refine .skip (.isAt _) fun isComma => ?_
  refine .skip .flags fun flags => ?_
  refine .ite (fun _ => .give (.identifier word)) fun _ => ?_
  refine .read (h _) fun value => ?_
  exact .node (fun _ => rfl) fun _ => .refl _

omit h in
theorem startsMarkup : IsQuiet (Grammar.startsMarkup : Parser code Bool) := by
  unfold Grammar.startsMarkup
  refine .skip .flags fun flags => ?_
  refine .skip (.isAt _) fun isThere => ?_
  refine .ite (fun _ => ?_) fun _ => .done _
  refine .skip .following fun next => ?_
  exact .done _

/-- An operand stands before the sign that counts it up or down. -/
theorem postfixExpression : Gathers [] (Grammar.postfixExpression rules) fun node => [node] := by
  unfold Grammar.postfixExpression
  refine .skip .here fun start => ?_
  refine .read (h _) fun operand => ?_
  refine .skip .startsLine fun isLine => ?_
  refine .ite (fun _ => .give (.refl _)) fun _ => ?_
  refine .skip (.eat _) fun isUp => ?_
  refine .skip (.eat _) fun isDown => ?_
  refine .ite (fun _ => ?_) fun _ => .give (.refl _)
  exact .node (fun _ => rfl) fun _ => .refl _

/-- An operand with operators in front of it or behind it is gathered. -/
theorem unary : Gathers [] (Grammar.unary rules) fun node => [node] := by
  unfold Grammar.unary
  refine .skip .here fun start => ?_
  refine .skip (.isAt _) fun isAngle => ?_
  refine .skip .flags fun flags => ?_
  refine .ite (fun _ => .typeAssertion h) fun _ => ?_
  refine .skip startsMarkup fun isMarkup => ?_
  refine .ite (fun _ => h _) fun _ => ?_
  refine .skip (.eat _) fun isUp => ?_
  refine .skip (.eat _) fun isDown => ?_
  refine .ite (fun _ => ?_) fun _ => ?_
  · refine .read (h _) fun operand => ?_
    exact .node (fun _ => rfl) fun _ => .refl _
  refine .skip .kind fun kind => ?_
  refine .ite (fun _ => ?_) fun _ => ?_
  · refine .skip .advance fun _ => ?_
    refine .read (.orGive (h _) (.missing _)) fun operand => ?_
    exact .node (fun _ => rfl) fun _ => .refl _
  refine .skip (.isAtWord _) fun isAwait => ?_
  exact .ite (fun _ => .awaitExpression h) fun _ => .postfixExpression h

/-! ## Assignments -/

theorem conditional : Gathers [] (Grammar.conditional rules) fun node => [node] := by
  unfold Grammar.conditional
  refine .read (h _) fun test => ?_
  refine .ite (fun _ => .give (.refl _)) fun _ => ?_
  refine .skip (.eat _) fun isConditional => ?_
  exact .ite (fun _ => .conditionalRest h test) fun _ => .give (.refl _)

/-- `yield` holds its value. -/
theorem yieldExpression : Gathers [] (Grammar.yieldExpression rules) fun node => [node] := by
  unfold Grammar.yieldExpression
  refine .skip .here fun start => ?_
  refine .skip .advance fun _ => ?_
  refine .skip .flags fun flags => ?_
  refine .when (fun _ => .failAt _ _) ?_
  refine .skip .isAtStatementEnd fun isEnd => ?_
  refine .skip .kind fun kind => ?_
  refine .ite (fun _ => ?_) fun _ => ?_
  · exact .node (fun _ => rfl) fun _ => .refl _
  refine .skip (.eat _) fun isStar => ?_
  refine .read (h _) fun value => ?_
  exact .node (fun _ => rfl) fun _ => .refl _

theorem plainAssignment : Gathers [] (Grammar.plainAssignment rules) fun node => [node] := by
  unfold Grammar.plainAssignment
  refine .skip .flags fun flags => ?_
  refine .skip (.isAtWord _) fun isYield => ?_
  refine .ite (fun _ => .yieldExpression h) fun _ => ?_
  refine .skip .kind fun kind => ?_
  split
  · exact .failWith _
  refine .skip .here fun start => ?_
  refine .withArrowStart _ ?_
  refine .read (.conditional h) fun node => ?_
  split <;> first | exact .give (.refl _) | exact .assignmentRest h node

omit h in
/-- An arrow function stands for its type parameters and for what it was without them. -/
theorem follows_withTypeParameters {start : Nat} {types : List (Node code)}
    {node function : Node code} (h : node.withTypeParameters start types = some function) :
    Follows (types ++ [node]) [function] := by
  unfold Node.withTypeParameters at h
  split at h
  · rename_i span parameters body result
    obtain rfl := Option.some.inj h
    have hparts : Covers (types ++ [Node.compound span .arrow [parameters, body, result]])
        (types ++ [parameters, body, result]) :=
      (Covers.of_subset (.refl types)).append (.children _)
    have hresult : Covers (types ++ [Node.compound span .arrow [parameters, body, result]])
        result.parts := by
      have hchildren : Covers _ result.children := (hparts.subset (by simp)).inside
      refine hchildren.subset ?_
      cases result <;> simp [Node.parts, Node.children]
    have hgroup : Covers (types ++ [Node.compound span .arrow [parameters, body, result]])
        [Node.group (types ++ result.parts)] :=
      (Follows.loosely ((hparts.subset (List.subset_append_left _ _)).both hresult)).covers
    have hrest : Covers (types ++ [Node.compound span .arrow [parameters, body, result]])
        [parameters, body] := hparts.subset (by simp)
    exact .mixed rfl (hrest.both hgroup)
  · cases h

/-- An arrow function with type parameters in front of it. -/
theorem genericArrow : Gathers [] (Grammar.genericArrow rules) fun node => [node] := by
  unfold Grammar.genericArrow
  refine .skip .here fun start => ?_
  refine .read (.typeParameters h) fun types => ?_
  refine .read (.plainAssignment h) fun node => ?_
  split
  · rename_i function hfunction
    exact .give (follows_withTypeParameters hfunction)
  · exact .unexpected _

theorem assignment : Gathers [] (Grammar.assignment rules) fun node => [node] := by
  unfold Grammar.assignment
  refine .skip (.isAt _) fun isAngle => ?_
  refine .ite (fun _ => ?_) fun _ => .plainAssignment h
  refine .skip .flags fun flags => ?_
  refine .ite (fun _ => ?_) fun _ => ?_
  · refine .skip (.lookahead _) fun isGeneric => ?_
    exact .ite (fun _ => .genericArrow h) fun _ => .plainAssignment h
  refine .skip .following fun next => ?_
  have hgeneric : Gathers [] (some <$> Grammar.genericArrow rules)
      fun found => found.elim [] fun node => [node] := .map (.genericArrow h)
  refine .readEither (fun _ => .attempt hgeneric) (fun _ => .give (.refl _)) fun generic => ?_
  cases generic with
  | some function => exact .give (.refl _)
  | none => exact .plainAssignment h

/-- Expressions between commas stand one behind the other. -/
theorem expression : Gathers [] (Grammar.expression rules) fun node => [node] := by
  unfold Grammar.expression
  refine .read (h _) fun first => ?_
  refine .iterate (fun node => [node]) (fun node => ?_) first
  refine .skip (.eat _) fun isComma => ?_
  refine .ite (fun _ => ?_) fun _ => .give (.refl _)
  refine .read (h _) fun next => ?_
  refine .skip (.spanFrom _) fun span => ?_
  exact .give (.single rfl (.refl _))

end Gathers

end ClassRegistry.TypeScript
