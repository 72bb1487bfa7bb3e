import ClassRegistry.Proofs.Order.Declarations
import ClassRegistry.Proofs.Order.Operands
import ClassRegistry.TypeScript.Grammar.Statement

/-!
# Statements in the order of the text

Statements are walked as they are written, but for the condition of a loop behind its body.
-/

namespace ClassRegistry.TypeScript

open Grammar (LoopHead VariableKind)

variable {code : Code}

namespace Gathers

/-- The word for a loop over keys or values is looked for. -/
theorem isAtTraversal : IsQuiet (Grammar.isAtTraversal : Parser code Bool) := by
  unfold Grammar.isAtTraversal
  refine .skip (.isAtWord _) fun isOf => ?_
  refine .skip (.isAtWord _) fun isIn => ?_
  exact .done _

/-- `break` and `continue` hold nothing. -/
theorem jump : Gathers [] (Grammar.jump : Rule code) fun node => [node] := by
  unfold Grammar.jump
  refine .skip .here fun start => ?_
  refine .skip .advance fun _ => ?_
  refine .skip .eatStatementEnd fun isOver => ?_
  extract_lets -underBinder last
  have hlast : Gathers [] (last ()) fun node => [node] :=
    .node (fun _ => rfl) fun _ => .refl _
  refine .ite (fun _ => hlast) fun _ => ?_
  refine .skip (.name _) fun label => ?_
  exact .skip .expectStatementEnd fun _ => hlast

variable {rules : Rules code} (h : rules.Gather)
include h

theorem condition : Gathers [] (Grammar.condition rules) fun node => [node] := by
  unfold Grammar.condition
  refine .skip (.expect _) fun _ => ?_
  refine .read (.enclosed (h _)) fun test => ?_
  refine .skip (.expect _) fun _ => ?_
  exact .give (.refl _)

/-! ## Loops -/

/-- The head of a counting loop holds what is evaluated in it. -/
theorem countingHead (init : List (Node code)) :
    Gathers init (Grammar.countingHead rules init) LoopHead.parts := by
  unfold Grammar.countingHead
  refine .skip (.eat _) fun isOver => ?_
  extract_lets -underBinder last
  have hlast : ∀ test, Gathers (init ++ test) (last test) LoopHead.parts := by
    intro test
    refine .skip (.isAt _) fun isClosed => ?_
    exact .readUnless (fun _ => h _) fun update => .give (.refl _)
  have hnone : Gathers init (last []) LoopHead.parts := by
    simpa only [List.append_nil] using hlast []
  refine .ite (fun _ => hnone) fun _ => ?_
  refine .read (h _) fun test => ?_
  refine .skip (.eat _) fun isOver => ?_
  exact hlast [test]

/-- The head of a loop over keys or values holds its target and what it goes over. -/
theorem traversalHead (target : Node code) :
    Gathers [target] (Grammar.traversalHead rules target) LoopHead.parts := by
  unfold Grammar.traversalHead
  refine .skip (.eatWord _) fun isOf => ?_
  refine .ite (fun _ => ?_) fun _ => ?_
  · refine .read (h _) fun values => ?_
    exact .give (.refl _)
  · refine .skip .advance fun _ => ?_
    refine .read (h _) fun values => ?_
    exact .give (.refl _)

/-- The head of a loop that declares its variables. -/
theorem declaringHead (kind : VariableKind) :
    Gathers [] (Grammar.declaringHead rules kind) LoopHead.parts := by
  unfold Grammar.declaringHead
  refine .skip .here fun start => ?_
  refine .skip .advance fun _ => ?_
  refine .skip (.lookahead _) fun isNone => ?_
  refine .readEither (fun _ => .give (.refl [])) (fun _ => .withFlags _ (.declarators h kind true))
    fun declared => ?_
  refine .skip (.spanFrom _) fun span => ?_
  have hdeclared : Follows ([] ++ declared) [.compound span .other declared] :=
    .single rfl (.refl _)
  refine .follow ?_ hdeclared
  refine .skip .isAtTraversal fun isTraversal => ?_
  refine .ite (fun _ => .traversalHead h _) fun _ => ?_
  refine .skip (.expect _) fun _ => ?_
  exact .countingHead h _

omit h in
/-- What a loop assigns to stands for what was read. -/
theorem traversalTarget (node : Node code) :
    Gathers [node] (Grammar.traversalTarget node) fun target => [target] := by
  unfold Grammar.traversalTarget
  split
  · exact .orFail fun target => .asTarget
  · exact .orFail fun target => .asTarget
  · exact .give (.refl _)

/-- The head of a loop that starts with an expression. -/
theorem evaluatingHead : Gathers [] (Grammar.evaluatingHead rules) LoopHead.parts := by
  unfold Grammar.evaluatingHead
  refine .read (.withFlags _ (h _)) fun first => ?_
  refine .skip .following fun next => ?_
  refine .skip (.isAtWord _) fun isOf => ?_
  refine .ite (fun _ => ?_) fun _ => ?_
  · refine .skip (.name _) fun ident => ?_
    exact .follow (.traversalHead h _) (.leaf rfl rfl)
  · refine .skip .isAtTraversal fun isTraversal => ?_
    refine .ite (fun _ => ?_) fun _ => ?_
    · refine .bind (.traversalTarget first) fun target => ?_
      exact .traversalHead h target
    · refine .skip (.expect _) fun _ => ?_
      exact .countingHead h _

/-- The head of a loop holds what is evaluated in it. -/
theorem loopHead : Gathers [] (Grammar.loopHead rules) LoopHead.parts := by
  unfold Grammar.loopHead
  refine .skip .variableKind? fun kind => ?_
  split
  · exact .declaringHead h _
  · exact .declaringHead h _
  · exact .declaringHead h _
  · refine .skip (.eat _) fun isOver => ?_
    exact .ite (fun _ => .countingHead h []) fun _ => .evaluatingHead h

/-- A `for` loop holds its head and its body. -/
theorem forLoop : Gathers [] (Grammar.forLoop rules) fun node => [node] := by
  unfold Grammar.forLoop
  refine .skip .here fun start => ?_
  refine .skip .advance fun _ => ?_
  refine .skip .here fun mark => ?_
  refine .skip (.eatWord _) fun waits => ?_
  refine .skip (.expect _) fun _ => ?_
  refine .read (.enclosed (.loopHead h)) fun head => ?_
  refine .skip (.expect _) fun _ => ?_
  refine .read (h _) fun body => ?_
  extract_lets -underBinder last
  have hlast : Gathers ([] ++ head.parts ++ [body]) (last ()) fun node => [node] :=
    .node (fun _ => rfl) fun _ => .refl _
  split
  · exact hlast
  · exact .ite (fun _ => .bind (.failAt _ _) fun _ => hlast) fun _ => hlast

/-! ## Branches -/

/-- The tests and the statements of a `switch` stand one behind the other. -/
theorem switchCases : Gathers [] (Grammar.switchCases rules) fun nodes => nodes := by
  unfold Grammar.switchCases
  refine .skip (.expect _) fun _ => ?_
  have hstatement : Gathers [] (do
      if (← Parser.isAtWord .case_) || (← Parser.isAtWord .default_) || (← Parser.isAt .braceClose)
        then return none
      else return some (← rules .statement)) fun found => found.elim [] fun node => [node] := by
    refine .skip (.isAtWord _) fun isCase => ?_
    refine .skip (.isAtWord _) fun isDefault => ?_
    refine .skip (.isAt _) fun isOver => ?_
    refine .ite (fun _ => .give (.refl _)) fun _ => ?_
    refine .map ?_
    exact h _
  refine .read (.iterate (fun held => held.1) (fun (parts, hasDefault) => ?_) ([], false))
    fun (cases : List (Node code)) => (?_ : Gathers ([] ++ cases) _ fun nodes => nodes)
  · refine .skip (.expect _) fun _ => ?_
    exact .give (.refl _)
  · refine .skip (.isAtWord _) fun isDefault => ?_
    refine .skip (.isAtWord _) fun isCase => ?_
    refine .ite (fun _ => ?_) fun _ => .give (.refl _)
    refine .skip .advance fun _ => ?_
    refine .when (fun _ => .fail _) ?_
    refine .readUnless (fun _ => .enclosed (h _)) fun test => ?_
    refine .skip (.expect _) fun _ => ?_
    refine .read (.many hstatement) fun body => ?_
    exact .give (.of_sublist (by simp))

/-- A handler holds what it catches and its block. -/
theorem handler : Gathers [] (Grammar.handler rules) fun nodes => nodes := by
  unfold Grammar.handler
  refine .skip (.eat _) fun isThere => ?_
  extract_lets -underBinder last
  have hlast : ∀ caught, Gathers caught (last caught) fun nodes => nodes := by
    intro caught
    refine .read (.block h) fun body => ?_
    exact .give (.refl _)
  refine .ite (fun _ => ?_) fun _ => hlast []
  refine .read (h _) fun pattern => ?_
  refine .read (.typeBehind h) fun annotation => ?_
  refine .skip (.expect _) fun _ => ?_
  exact hlast (pattern :: annotation)

theorem finalizer : Gathers [] (Grammar.finalizer rules) fun nodes => nodes := by
  unfold Grammar.finalizer
  refine .skip (.eatWord _) fun isThere => ?_
  refine .ite (fun _ => ?_) fun _ => .give (.refl _)
  refine .read (.block h) fun body => ?_
  exact .give (.refl _)

/-- A `try` statement holds its block, its handler and what is done in any case. -/
theorem tryStatement : Gathers [] (Grammar.tryStatement rules) fun node => [node] := by
  unfold Grammar.tryStatement
  refine .skip .here fun start => ?_
  refine .skip .advance fun _ => ?_
  refine .read (.block h) fun body => ?_
  refine .skip (.eatWord _) fun isThere => ?_
  refine .readEither (fun _ => .handler h) (fun _ => .give (.refl _)) fun handler => ?_
  refine .read (.finalizer h) fun finalizer => ?_
  refine .when (fun _ => .skipBroken) ?_
  exact .node (fun _ => rfl) fun _ => .refl _

/-- A handler by itself holds nothing. -/
theorem strayHandler : Gathers [] (Grammar.strayHandler rules) fun node => [node] := by
  unfold Grammar.strayHandler
  refine .skip .here fun start => ?_
  have hhandler : IsQuiet (do
      if ← Parser.eatWord .catch_ then
        let _ ← Grammar.handler rules) := by
    refine .skip (.eatWord _) fun isThere => ?_
    refine .ite (fun _ => ?_) fun _ => .done _
    refine .skip (IsQuiet.of_gathers (.handler h)) fun nodes => ?_
    exact .done _
  refine .skip (IsQuiet.of_gathers (.orNone hhandler)) fun _ => ?_
  refine .skip (IsQuiet.of_gathers (.orNone (.finalizer h))) fun _ => ?_
  exact .node (fun _ => rfl) fun _ => .refl _

/-! ## Jumps -/

/-- `return` holds its value. -/
theorem returnStatement : Gathers [] (Grammar.returnStatement rules) fun node => [node] := by
  unfold Grammar.returnStatement
  refine .skip .here fun start => ?_
  refine .skip .advance fun _ => ?_
  refine .skip .isAtStatementEnd fun isOver => ?_
  refine .readUnless (fun _ => h _) fun value => ?_
  refine .skip .expectStatementEnd fun _ => ?_
  exact .node (fun _ => rfl) fun _ => .refl _

/-- `throw` holds its value. -/
theorem throwStatement : Gathers [] (Grammar.throwStatement rules) fun node => [node] := by
  unfold Grammar.throwStatement
  refine .skip .here fun start => ?_
  refine .skip .advance fun _ => ?_
  refine .skip .startsLine fun isLine => ?_
  refine .when (fun _ => .fail _) ?_
  refine .read (h _) fun value => ?_
  refine .skip .expectStatementEnd fun _ => ?_
  exact .node (fun _ => rfl) fun _ => .refl _

/-! ## Expressions as statements -/

theorem labelled : Gathers [] (Grammar.labelled rules) fun node => [node] := by
  unfold Grammar.labelled
  refine .skip (.isAtWord _) fun isFunction => ?_
  refine .ite (fun _ => ?_) fun _ => h _
  refine .skip .here fun start => ?_
  exact .functionDefinition h start false _

/-- An expression that ends, or goes on with an operator, is gathered. -/
theorem expressionEnd (node : Node code) :
    Gathers [node] (Grammar.expressionEnd rules node) fun node => [node] := by
  unfold Grammar.expressionEnd
  refine .skip .eatStatementEnd fun isOver => ?_
  refine .ite (fun _ => .give (.refl _)) fun _ => ?_
  refine .skip .kind fun kind => ?_
  exact .ite (fun _ => .operators h 0 node) fun _ => .fail _

/-- A statement that is an expression, or has a label, is gathered. -/
theorem expressionStatement :
    Gathers [] (Grammar.expressionStatement rules) fun node => [node] := by
  unfold Grammar.expressionStatement
  refine .read (h _) fun node => ?_
  split
  · refine .skip (.eat _) fun isLabel => ?_
    exact .ite (fun _ => .follow (.labelled h) .nil) fun _ => .expressionEnd h _
  · exact .expressionEnd h _

/-- A statement behind `await` that may declare variables is gathered. -/
theorem awaitUsing : Gathers [] (Grammar.awaitUsing rules) fun node => [node] := by
  unfold Grammar.awaitUsing
  refine .skip .here fun start => ?_
  refine .skip .advance fun _ => ?_
  refine .skip .variableKind? fun kind => ?_
  split
  · exact .variableDeclaration h _
  · refine .read (h _) fun value => ?_
    refine .skip (.spanFrom _) fun span => ?_
    have hvalue : Follows ([] ++ [value]) [.compound span .await [value]] :=
      .single rfl (.refl _)
    refine .bind (.follow (.operators h 0 _) hvalue) fun node => ?_
    refine .skip .eatStatementEnd fun isOver => ?_
    exact .give (.refl _)

/-! ## Statements -/

/-- A statement that a reserved word starts is gathered, or none with the decorators. -/
theorem reservedStatement (decorators : List (Node code)) :
    Gathers decorators (Grammar.reservedStatement rules decorators)
      fun found => found.elim decorators fun node => [node] := by
  unfold Grammar.reservedStatement
  refine .skip .here fun start => ?_
  refine .skip .keyword? fun keyword => ?_
  -- what is no class loses its decorators
  have hnone : Follows decorators [] := .nil
  have hguarded : Gathers decorators (do
      Parser.advance
      let test ← Grammar.condition rules
      let body ← rules .substatement
      return some (.compound (← Parser.spanFrom start) .other [test, body]))
      fun found : Option (Node code) => found.elim decorators fun node => [node] := by
    refine .follow (.skip .advance fun _ => ?_) hnone
    refine .read (.condition h) fun test => ?_
    refine .read (h _) fun body => ?_
    refine .skip (.spanFrom _) fun span => ?_
    exact .give (.single rfl (.refl _))
  split
  · exact .undecorated .jump decorators
  · exact .undecorated .jump decorators
  -- `debugger`
  · refine .follow (.skip .advance fun _ => ?_) hnone
    refine .skip .expectStatementEnd fun _ => ?_
    refine .skip (.spanFrom _) fun span => ?_
    exact .give (.leaf rfl rfl)
  -- `do`, of which the condition is walked first
  · refine .follow (.skip .advance fun _ => ?_) hnone
    refine .read (h _) fun body => ?_
    refine .skip (.expectWord _) fun _ => ?_
    refine .read (.condition h) fun test => ?_
    refine .skip .eatStatementEnd fun isOver => ?_
    refine .skip (.spanFrom _) fun span => ?_
    have hcovers : Covers [body, test] [test, body] := .of_subset (by simp)
    exact .give (.around hcovers (List.nil_subset _) (.refl _) trivial)
  · exact .undecorated (.forLoop h) decorators
  · exact .undecorated (.functionDefinition h start false _) decorators
  · exact .map (.classDefinition h start true true decorators)
  -- `if`
  · refine .follow (.skip .advance fun _ => ?_) hnone
    refine .read (.condition h) fun test => ?_
    refine .read (h _) fun yes => ?_
    refine .skip (.eatWord _) fun isThere => ?_
    refine .readWhen (fun _ => h _) fun no => ?_
    refine .skip (.spanFrom _) fun span => ?_
    exact .give (.single rfl (.refl _))
  · exact .undecorated (.returnStatement h) decorators
  -- `switch`
  · refine .follow (.skip .advance fun _ => ?_) hnone
    refine .read (.condition h) fun test => ?_
    refine .read (.switchCases h) fun cases => ?_
    refine .skip (.spanFrom _) fun span => ?_
    exact .give (.single rfl (.refl _))
  · exact .undecorated (.throwStatement h) decorators
  · exact .undecorated (.tryStatement h) decorators
  · exact .undecorated (.strayHandler h) decorators
  · exact .undecorated (.strayHandler h) decorators
  -- `while` and `with`
  · exact hguarded
  · exact hguarded
  · exact .give (.refl _)

/-- A declaration of variables is gathered, or none. -/
theorem variableStatement (inList : Bool) (decorators : List (Node code)) :
    Gathers decorators (Grammar.variableStatement rules inList)
      fun found => found.elim decorators fun node => [node] := by
  unfold Grammar.variableStatement
  refine .skip .variableKind? fun kind => ?_
  split
  · refine .ite (fun _ => ?_) fun _ => .give (.refl _)
    exact .undecorated (.variableDeclaration h _) decorators
  · exact .give (.refl _)

theorem plainStatement (inList : Bool) (decorators : List (Node code)) :
    Gathers decorators (Grammar.plainStatement rules inList decorators) fun node => [node] := by
  unfold Grammar.plainStatement
  -- what is no class loses its decorators
  have hnone : Follows decorators [] := .nil
  refine .skip .here fun start => ?_
  refine .skip (.isAt _) fun isBlock => ?_
  refine .ite (fun _ => .follow (.block h) hnone) fun _ => ?_
  refine .skip (.eat _) fun isEmpty => ?_
  refine .ite (fun _ => .node (fun _ => rfl) fun _ => List.nil_sublist _) fun _ => ?_
  refine .skip .startsConstEnumeration fun isConst => ?_
  refine .ite (fun _ => .follow (.constEnumeration h start) hnone) fun _ => ?_
  refine .skip .startsAsyncFunction fun isAsync => ?_
  refine .ite (fun _ => ?_) fun _ => ?_
  · refine .skip .advance fun _ => ?_
    exact .follow (.functionDefinition h start true _) hnone
  refine .skip .following fun next => ?_
  refine .skip (.isAtWord _) fun isAwait => ?_
  refine .ite (fun _ => .follow (.awaitUsing h) hnone) fun _ => ?_
  refine .bind (.variableStatement h inList decorators) fun found => ?_
  split
  · exact .give (.refl _)
  refine .bind (.reservedStatement h decorators) fun found => ?_
  split
  · exact .give (.refl _)
  refine .bind (.wordDeclaration h decorators) fun found => ?_
  split
  · exact .give (.refl _)
  · exact .follow (.expressionStatement h) hnone

end Gathers

end ClassRegistry.TypeScript
