import ClassRegistry.Proofs.Order.Arrows
import ClassRegistry.TypeScript.Grammar.Member

/-!
# Members and calls in the order of the text

A chain is gathered step by step, each around what stands before it. Calls, `new` and optional steps
are walked with their type arguments behind the others.
-/

namespace ClassRegistry.TypeScript

open Grammar (Reach Step)

variable {code : Code}

/-- The node that a step of a chain comes to. -/
def Grammar.Step.node : Step code → Node code
  | .further node | .last node => node

namespace Follows

/-- A step behind an optional one stands for its parts. -/
theorem extended {before parts : List (Node code)} {object node : Node code}
    (hnode : Follows before [node]) (hparts : Covers before (object :: parts)) :
    Follows before [Grammar.extended object node parts] := by
  unfold Grammar.extended
  split
  · exact .mixed rfl hparts
  · exact hnode

end Follows

namespace Gathers

variable {rules : Rules code} (h : rules.Gather)
include h

/-! ## Operands -/

/-- A class has its decorators in front; in front of a name they are left out. -/
theorem decoratedOperand {name : Rule code} (hname : Gathers [] name fun node => [node]) :
    Gathers [] (Grammar.decoratedOperand rules name) fun node => [node] := by
  unfold Grammar.decoratedOperand
  refine .skip .here fun start => ?_
  refine .read (.decorators h) fun decorators => ?_
  refine .skip (.isAtWord _) fun isClass => ?_
  refine .ite (fun _ => .classDefinition h start false false decorators) fun _ => ?_
  exact .follow hname .nil

theorem nameOperand (mayStart : Bool) :
    Gathers [] (Grammar.nameOperand rules mayStart) fun node => [node] := by
  unfold Grammar.nameOperand
  refine .skip .here fun start => ?_
  refine .skip (.isAtWord _) fun isLet => ?_
  refine .readEither (fun _ => .anyName) (fun _ => .name _) fun ident => ?_
  refine .follow ?_ .nil
  refine .skip (.isAt _) fun isArrow => ?_
  refine .skip .startsLine fun isLine => ?_
  exact .ite (fun _ => .nameArrow h start false ident) fun _ => .give (.identifier ident)

/-- A cast or an arrow function behind `async` is gathered. -/
theorem asyncName : Gathers [] (Grammar.asyncName rules) fun node => [node] := by
  unfold Grammar.asyncName
  refine .skip .here fun start => ?_
  refine .skip .anyName fun ident => ?_
  refine .skip .following fun next => ?_
  refine .skip .flags fun flags => ?_
  refine .skip (.isAtWord _) fun isOf => ?_
  refine .ite (fun _ => .give (.identifier ident)) fun _ => ?_
  refine .skip (.isAtWord _) fun isCast => ?_
  refine .skip (.name _) fun parameter => ?_
  refine .ite (fun _ => ?_) fun _ => .nameArrow h start true parameter
  refine .read (.inType (h _)) fun type => ?_
  refine .follow (.node (fun _ => rfl) fun _ => .refl _) ?_
  have hname : Follows [] [Node.identifier ident] := .identifier ident
  exact hname.append (.refl [type])

/-- An operand that starts with `async` is gathered. -/
theorem asyncOperand (mayStart : Bool) :
    Gathers [] (Grammar.asyncOperand rules mayStart) fun node => [node] := by
  unfold Grammar.asyncOperand
  refine .skip .here fun start => ?_
  refine .skip .following fun next => ?_
  refine .skip startsAsyncFunction fun isFunction => ?_
  refine .ite (fun _ => ?_) fun _ => ?_
  · refine .skip .advance fun _ => ?_
    exact .functionDefinition h start true _
  refine .readEither (fun _ => .genericAsyncArrow h) (fun _ => .give (.refl _)) fun generic => ?_
  cases generic with
  | some function => exact .give (.refl _)
  | none =>
      refine .ite (fun _ => ?_) fun _ =>
        .ite (fun _ => .asyncName h) fun _ => .nameOperand h mayStart
      refine .skip .anyName fun ident => ?_
      exact .parenthesized h (some ident)

theorem primary : Gathers [] (Grammar.primary rules) fun node => [node] := by
  unfold Grammar.primary
  refine .skip .here fun start => ?_
  refine .skip (.mayStartArrow start) fun mayStart => ?_
  refine .skip .kind fun kind => ?_
  have hliteral : Gathers [] (do
      Parser.advance
      return .literal (← Parser.spanFrom start)) fun node : Node code => [node] := by
    refine .skip .advance fun _ => ?_
    exact .node (fun _ => rfl) fun _ => .refl _
  split
  · refine .skip .advance fun _ => ?_
    exact .node (fun _ => rfl) fun _ => .refl _
  · exact hliteral
  · exact hliteral
  · exact hliteral
  · exact hliteral
  · exact hliteral
  · refine .read (.templateParts h false) fun parts => ?_
    exact .node (fun _ => rfl) fun _ => .refl _
  · refine .skip .advance fun _ => ?_
    exact .node (fun _ => rfl) fun _ => .refl _
  · exact .functionDefinition h start false _
  · exact .classDefinition h start false false []
  · exact .asyncOperand h mayStart
  · exact .listLiteral h
  · exact .objectLiteral h
  · exact .parenthesized h none
  · exact .regex
  · exact .regex
  · refine .decoratedOperand h ?_
    refine .skip .kind fun kind => ?_
    split
    · exact .nameOperand h mayStart
    · exact .nameOperand h mayStart
    · refine .skip .isAtReference fun isReference => ?_
      exact .ite (fun _ => .nameOperand h mayStart) fun _ => .fail _
    · refine .skip .advance fun _ => ?_
      refine .skip .anyName fun name => ?_
      exact .node (fun _ => rfl) fun _ => .refl _
    · exact .failWith _
    · exact .fail _

/-! ## Chains -/

theorem appliedTypes (separates : Bool) : Gathers [] (Grammar.appliedTypes rules separates)
    fun found => found.elim [] fun node => [node] := by
  unfold Grammar.appliedTypes
  refine .attempt ?_
  refine .skip (.isAt _) fun isThere => ?_
  refine .ite (fun _ => ?_) fun _ => .give .nil
  refine .readEither (fun _ => .separateTypeArguments h) (fun _ => .typeArguments h)
    fun arguments => ?_
  refine .skip .kind fun kind => ?_
  have hend : Gathers [arguments] (do
      if (← Parser.startsLine) || kind.isBinarySign ||
        !Grammar.startsOperand (← Parser.token) (← Parser.following) then return some arguments
      else return none) fun found : Option (Node code) => found.elim [] fun node => [node] := by
    refine .skip .startsLine fun isLine => ?_
    refine .skip .token fun token => ?_
    refine .skip .following fun next => ?_
    exact .ite (fun _ => .give (.refl _)) fun _ => .give .nil
  split <;> first | exact .give .nil | exact hend

/-- An expression stands before its type arguments. -/
theorem instantiated (separates : Bool) (node : Node code) :
    Gathers [node] (Grammar.instantiated rules separates node) fun node => [node] := by
  unfold Grammar.instantiated
  refine .read (.appliedTypes h separates) fun types => ?_
  cases types with
  | some types => exact .node (fun _ => rfl) fun _ => .refl _
  | none => exact .give (.refl _)

/-- A call stands for its callee, its type arguments and its arguments. -/
theorem callRest (callee : Node code) (types : List (Node code)) :
    Gathers (callee :: types) (Grammar.callRest rules callee types) fun node => [node] := by
  unfold Grammar.callRest
  refine .read (.callArguments h) fun arguments => ?_
  refine .skip (.spanFrom _) fun span => ?_
  have hparts : Covers (callee :: types ++ arguments) (callee :: (arguments ++ types)) := by
    refine .of_subset fun x => ?_
    simp only [List.mem_append, List.mem_cons]
    tauto
  exact .give (.extended (.call (.refl _)) hparts)

/-- A call with type arguments stands around its callee. -/
theorem typedCall (callee : Node code) : Gathers [callee] (Grammar.typedCall rules callee)
    fun found => found.elim [callee] fun node => [node] := by
  unfold Grammar.typedCall
  refine .attempt ?_
  refine .skip (.isAt _) fun isThere => ?_
  refine .skip (.isAt _) fun isShift => ?_
  refine .ite (fun _ => ?_) fun _ => .give .nil
  refine .read (.typeArguments h) fun types => ?_
  refine .skip (.isAt _) fun isCall => ?_
  refine .ite (fun _ => ?_) fun _ => .give .nil
  refine .bind (.callRest h callee [types]) fun node => ?_
  exact .give (.refl _)

/-- A step that starts with type arguments stands around what is before it. -/
theorem typedStep (reach : Reach) (object : Node code) :
    Gathers [object] (Grammar.typedStep rules reach object)
      fun found => found.elim [object] fun step => [step.node] := by
  unfold Grammar.typedStep
  refine .attempt ?_
  refine .skip (.isAt _) fun isThere => ?_
  refine .ite (fun _ => ?_) fun _ => .give .nil
  refine .read (.typeArguments h) fun types => ?_
  refine .skip .kind fun kind => ?_
  have hlast : Gathers [object, types] (do
      return some (.last (.instantiation (← Parser.spanFrom object.span.start) object types)))
      fun found : Option (Step code) => found.elim [] fun step => [step.node] := by
    refine .skip (.spanFrom _) fun span => ?_
    exact .give (.single rfl (.refl _))
  split
  · refine .ite (fun _ => ?_) fun _ => .give .nil
    refine .bind (.callRest h object [types]) fun node => ?_
    exact .give (.refl _)
  · refine .bind (.taggedTemplate h object [types]) fun node => ?_
    exact .give (.refl _)
  · exact hlast
  · exact hlast
  · exact hlast
  · exact .give .nil

/-- A key stands behind its object. -/
theorem computedStep (reach : Reach) (object : Node code) (isOptional : Bool) :
    Gathers [object] (Grammar.computedStep rules reach object isOptional)
      fun node => [node] := by
  unfold Grammar.computedStep
  refine .skip .advance fun _ => ?_
  refine .read (.enclosed (h _)) fun key => ?_
  refine .skip (.expect _) fun _ => ?_
  refine .skip (.spanFrom _) fun span => ?_
  refine .follow (.instantiated h reach.separates _) ?_
  split
  · exact .mixed rfl (.of_subset (.refl _))
  · exact .extended (.single rfl (.refl _)) (.of_subset (.refl _))

/-- A member stands behind its object. -/
theorem namedStep (reach : Reach) (object : Node code) (isOptional : Bool) :
    Gathers [object] (Grammar.namedStep rules reach object isOptional) fun node => [node] := by
  unfold Grammar.namedStep
  refine .skip .memberName fun name => ?_
  refine .skip (.spanFrom _) fun span => ?_
  refine .follow (.instantiated h reach.separates _) ?_
  split
  · exact .mixed rfl (.of_subset (.refl _))
  · refine .extended ?_ (.of_subset (.refl _))
    cases name <;> exact .single rfl (.refl _)

/-- An optional step stands behind its object. -/
theorem optionalStep (reach : Reach) (object : Node code) :
    Gathers [object] (Grammar.optionalStep rules reach object) fun node => [node] := by
  unfold Grammar.optionalStep
  refine .skip (.isAt _) fun isKey => ?_
  refine .ite (fun _ => .computedStep h reach object true) fun _ => ?_
  refine .skip (.isAt _) fun isCall => ?_
  refine .skip (.isAt _) fun isGeneric => ?_
  refine .ite (fun _ => ?_) fun _ => .namedStep h reach object true
  refine .skip (.isAt _) fun isGeneric => ?_
  refine .readWhen (fun _ => .typeArguments h) fun types => ?_
  refine .read (.callArguments h) fun arguments => ?_
  refine .mixed (fun _ => rfl) fun _ => .of_subset fun x => ?_
  simp only [Node.children, List.mem_append, List.mem_cons]
  tauto

/-- A step stands around what is before it; what else was read before it is left out then. -/
theorem plainStep {kept : List (Node code)} (reach : Reach) (object : Node code) :
    Gathers (object :: kept) (Grammar.plainStep rules reach object)
      fun found => found.elim (object :: kept) fun node => [node] := by
  unfold Grammar.plainStep
  have hobject : Follows (object :: kept) [object] :=
    .of_sublist (List.singleton_sublist.mpr List.mem_cons_self)
  refine .skip (.eat _) fun isOptional => ?_
  refine .ite (fun _ => .follow ?_ hobject) fun _ => ?_
  · refine .bind (.optionalStep h reach object) fun node => ?_
    exact .give (.refl _)
  refine .skip (.isAt _) fun isKey => ?_
  refine .ite (fun _ => .follow ?_ hobject) fun _ => ?_
  · refine .bind (.computedStep h reach object false) fun node => ?_
    exact .give (.refl _)
  refine .skip (.isAt _) fun isCall => ?_
  refine .ite (fun _ => .follow ?_ hobject) fun _ => ?_
  · refine .bind (.callRest h object []) fun node => ?_
    exact .give (.refl _)
  refine .skip (.eat _) fun isNamed => ?_
  refine .ite (fun _ => .follow ?_ hobject) fun _ => .give (.refl _)
  refine .bind (.namedStep h reach object false) fun node => ?_
  exact .give (.refl _)

/-- A step of a chain stands around what is before it. -/
theorem chainStep (reach : Reach) (object : Node code) :
    Gathers [object] (Grammar.chainStep rules reach object) fun step => [step.node] := by
  unfold Grammar.chainStep
  refine .skip (.isAt _) fun isBang => ?_
  refine .skip .startsLine fun isLine => ?_
  refine .ite (fun _ => ?_) fun _ => ?_
  · refine .skip .advance fun _ => ?_
    refine .skip (.spanFrom _) fun span => ?_
    exact .give (.single rfl (.refl _))
  refine .bind (.typedStep h reach object) fun step => ?_
  cases step with
  | some step => exact .give (.refl _)
  | none =>
      refine .read (.appliedTypes h reach.separates) fun types => ?_
      refine .skip (.spanFrom _) fun span => ?_
      refine .bind (.plainStep h reach object) fun node => ?_
      cases node with
      | some node => exact .give (.refl _)
      | none =>
          cases types with
          | some types => exact .give (.single rfl (.refl _))
          | none =>
              refine .skip .kind fun kind => ?_
              split
              · refine .bind (.taggedTemplate h object []) fun node => ?_
                exact .give (.refl _)
              · exact .give (.refl _)

/-- The steps of a chain stand around its start. -/
theorem subscripts (reach : Reach) (object : Node code) :
    Gathers [object] (Grammar.subscripts rules reach object) fun node => [node] := by
  unfold Grammar.subscripts
  refine .iterate (fun node => [node]) (fun object => ?_) object
  refine .bind (.chainStep h reach object) fun step => ?_
  cases step <;> exact .give (.refl _)

/-! ## Expressions that need a step -/

omit h in
/-- A misplaced exclamation mark stops a parser, and nothing is read. -/
theorem failAtNonNull (word : String) :
    IsQuiet (Grammar.failAtNonNull word : Parser code Unit) := by
  unfold Grammar.failAtNonNull
  refine .skip (.isAt _) fun isBang => ?_
  refine .skip .startsLine fun isLine => ?_
  refine .ite (fun _ => ?_) fun _ => .done _
  refine .skip .advance fun _ => ?_
  exact .fail _

/-- `super` with its chain is gathered. -/
theorem superExpression (reach : Reach) :
    Gathers [] (Grammar.superExpression rules reach) fun node => [node] := by
  unfold Grammar.superExpression
  refine .skip .here fun start => ?_
  refine .skip .advance fun _ => ?_
  refine .skip (.spanFrom _) fun span => ?_
  refine .skip (failAtNonNull _) fun _ => ?_
  have hself : Follows [] [(.compound span .other [] : Node code)] := .leaf rfl rfl
  have hlast : ∀ node, Gathers [node] (Grammar.subscripts rules reach node) fun node => [node] :=
    fun node => .subscripts h reach node
  refine .follow ?_ hself
  refine .bindEither (fun _ => .typedCall h _) (fun _ => .give (.refl _)) fun typed => ?_
  cases typed with
  | some node => exact hlast node
  | none =>
      refine .skip (.eat _) fun isKey => ?_
      refine .ite (fun _ => .follow ?_ .nil) fun _ => ?_
      · refine .read (.enclosed (h _)) fun key => ?_
        refine .skip (.expect _) fun _ => ?_
        refine .skip (.spanFrom _) fun span => ?_
        exact .follow (hlast _) (.single rfl (.refl _))
      refine .skip (.isAt _) fun isCall => ?_
      refine .ite (fun _ => .bind (.callRest h _ []) hlast) fun _ => ?_
      refine .skip (.eat _) fun isDot => ?_
      refine .ite (fun _ => .follow ?_ .nil) fun _ => .bind (.fail _) hlast
      refine .skip .memberName fun name => ?_
      refine .when (fun _ => .fail _) ?_
      refine .skip (.spanFrom _) fun span => ?_
      refine .skip (IsQuiet.of_gathers (.appliedTypes h _)) fun types => ?_
      exact .follow (hlast _) (.single rfl (.refl _))

/-- A call of `import` is gathered. -/
theorem importCall (start : Nat) (reach : Reach) :
    Gathers [] (Grammar.importCall rules start reach) fun node => [node] := by
  unfold Grammar.importCall
  refine .skip (.isAt _) fun isCall => ?_
  refine .whenNot (fun _ => .fail _) ?_
  refine .skip (.spanFrom _) fun span => ?_
  refine .read (.callArguments h) fun arguments => ?_
  refine .when (fun _ => .failAt _ _) ?_
  refine .skip (.spanFrom _) fun whole => ?_
  have hcallee : Follows [] [(.compound span .other [] : Node code)] := .leaf rfl rfl
  exact .give (.call (hcallee.append (.refl arguments)))

/-- `import` with its chain is gathered. -/
theorem importExpression (reach : Reach) :
    Gathers [] (Grammar.importExpression rules reach) fun node => [node] := by
  unfold Grammar.importExpression
  refine .skip .here fun start => ?_
  refine .skip .advance fun _ => ?_
  refine .skip (failAtNonNull _) fun _ => ?_
  refine .skip (.eat _) fun isDot => ?_
  have hlast : ∀ node, Gathers [node] (Grammar.subscripts rules reach node) fun node => [node] :=
    fun node => .subscripts h reach node
  refine .ite (fun _ => ?_) fun _ => .read (.importCall h start reach) hlast
  refine .skip .memberName fun name => ?_
  cases name with
  | none => exact .bind (.unexpected _) hlast
  | some ident =>
      refine .ite (fun _ => ?_) fun _ => .ite (fun _ => ?_) fun _ => .bind (.unexpected _) hlast
      · refine .skip (.spanFrom _) fun span => ?_
        exact .follow (hlast _) (.single rfl (.refl _))
      · exact .bind (.importCall h start reach) hlast

/-- `new` stands for its callee and its arguments. -/
theorem newExpression (reach : Reach) :
    Gathers [] (Grammar.newExpression rules reach) fun node => [node] := by
  unfold Grammar.newExpression
  refine .skip .here fun start => ?_
  refine .skip .advance fun _ => ?_
  refine .skip (.eat _) fun isDot => ?_
  refine .ite (fun _ => ?_) fun _ => ?_
  · refine .skip (.eatWord _) fun isTarget => ?_
    refine .whenNot (fun _ => .unexpected _) ?_
    refine .skip (.spanFrom _) fun span => ?_
    exact .follow (.subscripts h reach _) (.single rfl (.refl _))
  refine .read (h _) fun callee => ?_
  refine .ite (fun _ => .give (.refl _)) fun _ => ?_
  refine .when (fun _ => .failAt _ _) ?_
  refine .read (.attempt (?_ : Gathers [] _
    fun types : Option (Node code) => types.elim [] fun node => [node])) fun types => ?_
  · refine .skip (.isAt _) fun isThere => ?_
    refine .skip (.isAt _) fun isShift => ?_
    refine .ite (fun _ => ?_) fun _ => .give .nil
    refine .read (.typeArguments h) fun types => ?_
    refine .skip (.isAt _) fun isCall => ?_
    exact .ite (fun _ => .give (.refl _)) fun _ => .give .nil
  refine .skip (.isAt _) fun isCall => ?_
  refine .ite (fun _ => ?_) fun _ => ?_
  · refine .read (.callArguments h) fun arguments => ?_
    refine .skip (.spanFrom _) fun span => ?_
    refine .follow (.subscripts h reach _) (.mixed rfl (.of_subset fun x => ?_))
    cases types <;> simp only [Node.children, Option.elim, Option.toList, List.mem_append,
      List.mem_cons] <;> tauto
  · exact .mixed (fun _ => rfl) fun _ => .of_subset (by simp [Node.children])

/-- An expression that `new` may stand in front of is gathered. -/
theorem constructed : Gathers [] (Grammar.constructed rules) fun node => [node] := by
  unfold Grammar.constructed
  refine .skip .keyword? fun keyword => ?_
  split
  · exact .newExpression h _
  · exact .superExpression h _
  · exact .importExpression h _
  · refine .read (.primary h) fun operand => ?_
    refine .ite (fun _ => .give (.refl _)) fun _ => ?_
    refine .bind (.instantiated h _ operand) fun object => ?_
    exact .subscripts h _ object

theorem leftHandSide : Gathers [] (Grammar.leftHandSide rules) fun node => [node] := by
  unfold Grammar.leftHandSide
  refine .skip .keyword? fun keyword => ?_
  split
  · exact .superExpression h _
  · exact .importExpression h _
  · refine .read (.constructed h) fun callee => ?_
    refine .ite (fun _ => .give (.refl _)) fun _ => ?_
    refine .bind (.typedCall h callee) fun typed => ?_
    cases typed with
    | some node => exact .subscripts h _ node
    | none =>
        refine .skip (.isAt _) fun isCall => ?_
        refine .ite (fun _ => ?_) fun _ => .give (.refl _)
        refine .bind (.callRest h callee []) fun node => ?_
        exact .subscripts h _ node

end Gathers

/-! ## Decorators and interfaces -/

namespace State.IsSound

variable {s : State code} (h : s.IsSound)
include h

/-- An opening parenthesis and a word stand in the text with their first character. -/
theorem exists_first
    (hopens : s.token.kind = .sign .parenOpen ∨ s.token.kind.isWord = true) :
    ∃ first rest, s.place.rest = first :: rest ∧ (first = '(' ∨ isWordChar first = true) ∧
      s.offset < s.token.span.stop := by
  rcases hopens with hparen | hword
  · obtain ⟨⟨rest, hrest⟩, hafter⟩ := h.sign _ hparen
    refine ⟨'(', rest, hrest.symm, Or.inl rfl, ?_⟩
    rw [← h.after_eq, hafter]
    exact Nat.lt_succ_self _
  · obtain ⟨hlt, hle, hall⟩ := s.token.isWordAt hword
    have hplace : s.place.rest = code.drop s.token.span.start := by
      rw [← s.place.drop_offset, ← h.offset_eq, offset]
    cases hrest : s.place.rest with
    | nil =>
        rw [hrest] at hplace
        have hend := List.drop_eq_nil_iff.mp hplace.symm
        omega
    | cons first rest =>
        refine ⟨first, rest, rfl, Or.inr ?_, hlt⟩
        obtain ⟨length, hlength⟩ : ∃ length, s.token.span.stop - s.token.span.start = length + 1 :=
          ⟨s.token.span.stop - s.token.span.start - 1, by omega⟩
        rw [Span.text, ← hplace, hrest, hlength, List.take_succ_cons, List.all_cons,
          Bool.and_eq_true] at hall
        exact hall.1

/-- A sign stands in the text, and behind it what is still unread. -/
theorem drop_start_of_sign {p : Punctuator} (hp : s.token.kind = .sign p) :
    code.drop s.token.span.start = p.spelling ++ s.after.rest := by
  obtain ⟨⟨behind, hbehind⟩, hafter⟩ := h.sign p hp
  have hplace : code.drop s.offset = p.spelling ++ behind := by
    rw [h.offset_eq, s.place.drop_offset, hbehind]
  have hrest : s.after.rest = behind := by
    rw [← s.after.drop_offset, hafter, ← List.drop_drop, hplace, List.drop_left]
  rw [hrest]
  exact hplace

/-- Behind the current token stand a gap and the first character of the next one, if that is an
opening parenthesis or a word. -/
theorem exists_gap_next (hoffset : 0 < s.after.offset)
    (hopens : s.next.token.kind = .sign .parenOpen ∨ s.next.token.kind.isWord = true) :
    ∃ gap first rest, s.after.rest = gap ++ first :: rest ∧ IsGap gap ∧
      Text.isBlank first = false ∧ (first = '(' ∨ isWordChar first = true) ∧
      s.after.offset + gap.length < s.next.token.span.stop := by
  have hnext := h.next.1
  obtain ⟨gap, hgap, hlength, hisGap, hblank⟩ := Cursor.exists_gap hoffset
  obtain ⟨first, rest, hfirst, hopens, hlt⟩ := hnext.exists_first hopens
  have hplace : s.after.skipTrivia.1.rest = first :: rest := hfirst
  rw [hplace] at hgap hisGap hblank
  obtain ⟨hline, hseparates⟩ := hblank first rfl
  have hplain : Text.isBlank first = false := by
    simp only [isBlank, hline, Bool.or_eq_false_iff] at hseparates
    simpa using hseparates.1.1
  have hstart : s.next.offset = s.after.offset + gap.length := hnext.offset_eq.trans hlength
  exact ⟨gap, first, rest, hgap, hisGap (List.cons_ne_nil _ _), hplain, hopens, hstart ▸ hlt⟩

/-- A decorator that is read from its `@` up to a place behind the first token of its expression is
written there. -/
theorem isDecoratorAt {stop : Nat} (hat : s.token.kind = .sign .at)
    (hopens : s.next.token.kind = .sign .parenOpen ∨ s.next.token.kind.isWord = true)
    (hstop : s.next.token.span.stop ≤ stop) :
    Node.IsDecoratorAt code ⟨s.token.span.start, stop⟩ := by
  have hafter : s.after.offset = s.token.span.start + 1 := (h.sign _ hat).2
  obtain ⟨gap, first, rest, hrest, hgap, hblank, hfirst, hlt⟩ :=
    h.exists_gap_next (hafter ▸ Nat.succ_pos _) hopens
  refine ⟨gap, first, rest, ?_, hgap, hblank, hfirst, ?_⟩
  · rw [h.drop_start_of_sign hat, hrest]
    rfl
  · exact Nat.lt_of_lt_of_le (hafter ▸ hlt) hstop

end State.IsSound

namespace Gathers

variable {rules : Rules code} (h : rules.Gather)
include h

/-- The arguments of a decorator stand behind it. -/
theorem decoratorCall (callee : Node code) :
    Gathers [callee] (Grammar.decoratorCall rules callee) fun node => [node] := by
  unfold Grammar.decoratorCall
  refine .skip (.isAt _) fun isGeneric => ?_
  refine .readWhen (fun _ => .typeArguments h) fun types => ?_
  refine .skip (.isAt _) fun isCall => ?_
  refine .ite (fun _ => .give (.of_sublist (List.sublist_append_left _ _))) fun _ => ?_
  refine .read (.callArguments h) fun arguments => ?_
  refine .skip (.spanFrom _) fun span => ?_
  exact .give (.call (.refl _))

/-- An expression in parentheses is gathered with the arguments behind it. -/
theorem enclosedDecoration :
    Gathers [] (Grammar.enclosedDecoration rules) fun node => [node] := by
  unfold Grammar.enclosedDecoration
  refine .read (.enclosed (h _)) fun inner => ?_
  refine .skip (.expect _) fun _ => ?_
  exact .decoratorCall h inner

theorem namedDecoration (ident : Ident code) :
    Gathers [] (Grammar.namedDecoration rules ident) fun node => [node] := by
  unfold Grammar.namedDecoration
  refine .follow ?_ (Follows.identifier ident)
  exact .bind (.subscripts h _ _) (.decoratorCall h)

/-- What a decorator gives is a decorator where it was read. -/
theorem exists_of_decorator {s next : State code} {node : Node code} (hs : s.IsSound)
    (hrun : Grammar.decorator rules s = .done node next) :
    ∃ span expression, node = .decorator span expression ∧ Node.IsDecoratorAt code span := by
  obtain ⟨start, s₀, hhere, hbehind⟩ := Parser.exists_of_bind hrun
  obtain ⟨rfl, rfl⟩ := Outcome.done.inj hhere
  obtain ⟨_, s₁, hat, hexpression⟩ := Parser.exists_of_bind hbehind
  obtain ⟨hkind, rfl⟩ := Parser.eq_of_expect hat
  obtain ⟨isBracket, s₂, heat, hdecoration⟩ := Parser.exists_of_bind hexpression
  have hnext := hs.next.1
  -- what is read behind the first token of the expression ends no further back than that
  have hlast : ∀ {p : Rule code} {behind : State code},
      (s.next.token.kind = .sign .parenOpen ∨ s.next.token.kind.isWord = true) →
      behind = s.next.next → Gathers [] p (fun node => [node]) →
      (p >>= fun node => do return .decorator (← Parser.spanFrom s.token.span.start) node)
        behind = .done node next →
      ∃ span expression, node = .decorator span expression ∧ Node.IsDecoratorAt code span := by
    rintro p behind hopens rfl hp hlast
    obtain ⟨expression, stop, hread, hspan⟩ := Parser.exists_of_bind hlast
    obtain ⟨rfl, rfl⟩ := Outcome.done.inj hspan
    have hgoes : s.next.next.GoesTo stop := hp.goesTo hnext.next.1 hread
    exact ⟨_, expression, rfl, hs.isDecoratorAt hkind hopens hgoes.previousStop_le⟩
  rcases Parser.eat_cases heat with ⟨rfl, hparen, rfl⟩ | ⟨rfl, rfl⟩
  · exact hlast (Or.inl hparen) rfl (.enclosedDecoration h) hdecoration
  · obtain ⟨ident, s₃, hname, hnamed⟩ := Parser.exists_of_bind (p := Grammar.name false) hdecoration
    obtain ⟨hword, rfl⟩ := ReadsWord.name false hname
    exact hlast (Or.inr hword) rfl (.namedDecoration h ident) hnamed

/-- A decorator holds its expression. -/
theorem decorator : Gathers [] (Grammar.decorator rules) fun node => [node] := by
  have hparts : Gathers [] (Grammar.decorator rules) fun node => node.children := by
    unfold Grammar.decorator
    refine .skip .here fun start => ?_
    refine .skip (.expect _) fun _ => ?_
    refine .skip (.eat _) fun isBracket => ?_
    extract_lets -underBinder last
    have hlast : ∀ node, Gathers [node] (last node) Node.children := by
      intro node
      refine .skip (.spanFrom _) fun span => ?_
      exact .give (.refl _)
    refine .ite (fun _ => .read (.enclosedDecoration h) hlast) fun _ => ?_
    refine .skip (.name _) fun name => ?_
    exact .read (.namedDecoration h name) hlast
  refine hparts.follow_run fun s node next hs hrun => ?_
  obtain ⟨span, expression, rfl, hplaced⟩ := exists_of_decorator h hs hrun
  exact .placed rfl hplaced (.refl _)

/-- An interface holds its type arguments, and its expression if that is no name. -/
theorem heritage : Gathers [] (Grammar.heritage rules) fun node => [node] := by
  unfold Grammar.heritage
  refine .skip .here fun start => ?_
  refine .skip .anyName fun root => ?_
  refine .follow ?_ (Follows.identifier root)
  refine .bind (.subscripts h _ _) fun node => ?_
  extract_lets -underBinder last
  have hlast : ∀ found, Gathers (found.1 :: found.2) (last found) fun node => [node] := by
    rintro ⟨object, types⟩
    refine .node (fun _ => rfl) fun _ => ?_
    dsimp only [Node.children]
    split
    · exact List.sublist_cons_self _ _
    · exact .refl _
  split
  · exact .follow (hlast (_, [_])) (.children rfl)
  · refine .skip (.isAt _) fun isGeneric => ?_
    refine .ite (fun _ => ?_) fun _ => hlast (_, [])
    refine .read (.typeArguments h) fun types => ?_
    exact hlast (_, [types])

end Gathers

end ClassRegistry.TypeScript
