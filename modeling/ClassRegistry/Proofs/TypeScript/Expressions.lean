import ClassRegistry.Declaration.Marker
import ClassRegistry.Proofs.TypeScript.Types

/-!
# Expressions

Strings, lists, dotted names and `new` as they are written, and that a parser reads them as what they
are. Behind a value stands a comma, a semicolon or a closing bracket, so no operator and no step of a
chain goes on with it.
-/

namespace ClassRegistry.TypeScript

open TypeScript.Parser TypeScript.Grammar

variable {code : Code} {markup : Bool} {gap : List Char} {rest ps tail : List Piece} {p : Piece}

/-- Where a value ends: at a comma, at a closing bracket or at a semicolon. -/
def EndsValue (ps : List Piece) : Prop :=
  ∃ gap p rest, ps = .sign gap p :: rest ∧
    (p = .comma ∨ p = .bracketClose ∨ p = .parenClose ∨ p = .semicolon)

/-- Where a value starts: at a string, at an opening bracket or at `new`. -/
def StartsValue (p : Piece) : Prop :=
  (∃ text, p.kind = .string text) ∨ p.kind = .sign .bracketOpen ∨
    ∃ text, p.kind = .word (some .new_) text

/-- Behind a value a parser goes on. -/
theorem EndsValue.continues {flags : Flags} (h : EndsValue ps) : Continues flags ps := by
  obtain ⟨gap, p, rest, rfl, rfl | rfl | rfl | rfl⟩ := h <;> simp

/-- The token behind a value. -/
theorem EndsValue.kind_eq {flags : Flags} {s : State code} (h : EndsValue ps)
    (hs : Shows flags s ps) :
    s.token.kind = .sign .comma ∨ s.token.kind = .sign .bracketClose ∨
      s.token.kind = .sign .parenClose ∨ s.token.kind = .sign .semicolon := by
  obtain ⟨gap, p, rest, rfl, hp⟩ := h
  simpa [IsAtPiece.kind_eq hs] using hp

/-- The first token of a value. -/
theorem StartsValue.kind_eq {flags : Flags} {s : State code} (h : StartsValue p)
    (hs : Shows flags s (p :: ps)) :
    (∃ text, s.token.kind = .string text) ∨ s.token.kind = .sign .bracketOpen ∨
      ∃ text, s.token.kind = .word (some .new_) text :=
  (IsAtPiece.kind_eq hs).symm ▸ h

namespace Grammar

variable {rules : Rules code} {P : Node code → Prop}

/-! ## Operators -/

/-- No operator stands in front of a value or counts it up or down. -/
theorem reads_unary (h : Reads (rules .leftHandSide) (.outermost markup) (p :: ps) tail P)
    (hp : StartsValue p) (htail : EndsValue tail) :
    Reads (unary rules) (.outermost markup) (p :: ps) tail P := by
  have hpostfix : Reads (postfixExpression rules) (.outermost markup) (p :: ps) tail P := by
    refine Reads.here fun start => h.bind fun node hnode s hs => ?_
    rcases htail.kind_eq hs with hend | hend | hend | hend <;>
      (simp [hend]; exact .done hs hnode)
  refine Reads.here fun start s hs => ?_
  rcases hp.kind_eq hs with ⟨text, hkind⟩ | hkind | ⟨text, hkind⟩ <;>
    (simp [startsMarkup, hkind, TokenKind.isUnaryOperator]; exact hpostfix s hs)

/-- No operator stands behind a value. -/
theorem reads_operators {node : Node code} (hnode : P node) (htail : EndsValue tail) :
    Reads (operators rules 0 node) (.outermost markup) tail tail P := by
  refine Reads.iterate_once fun s hs => ?_
  rcases htail.kind_eq hs with hend | hend | hend | hend <;>
    (simp [hend, castOf, comparisonLevel, TokenKind.binaryLevel?, Punctuator.binaryLevel?]
     exact .done hs ⟨_, rfl, hnode⟩)

/-- A value is no operand. -/
theorem reads_binary (h : Reads (rules .unary) (.outermost markup) ps tail P)
    (htail : EndsValue tail) : Reads (binary rules) (.outermost markup) ps tail P := by
  have hmissing : Reads (orMissing (rules .unary)) (.outermost markup) ps tail P := by
    intro s hs
    obtain ⟨node, after, hrun, hafter, hnode⟩ := h.run hs
    rw [orMissing, hrun]
    exact .done hafter hnode
  refine hmissing.bind fun node hnode s hs => ?_
  simp
  split
  · exact .done hs hnode
  · exact reads_operators hnode htail s hs

/-- A value is no condition. -/
theorem reads_conditional (h : Reads (rules .binary) (.outermost markup) ps tail P)
    (htail : EndsValue tail) : Reads (conditional rules) (.outermost markup) ps tail P := by
  refine h.bind fun node hnode s hs => ?_
  rcases htail.kind_eq hs with hend | hend | hend | hend <;>
    (simp [hend]; exact .done hs hnode)

/-- Nothing is assigned to a value. -/
theorem reads_assignmentRest {node : Node code} (hnode : P node) (htail : EndsValue tail) :
    Reads (assignmentRest rules node) (.outermost markup) tail tail P := by
  intro s hs
  rcases htail.kind_eq hs with hend | hend | hend | hend <;>
    (simp [assignmentRest, hend, Punctuator.assigns]; exact .done hs hnode)

/-- A value is an expression without commas. -/
theorem reads_assignment (h : Reads (rules .binary) (.outermost markup) (p :: ps) tail P)
    (hp : StartsValue p) (htail : EndsValue tail) :
    Reads (assignment rules) (.outermost markup) (p :: ps) tail P := by
  have hwhole {more : Node code → Parser code (Node code)}
      (hmore : ∀ node, more node = pure node ∨ more node = assignmentRest rules node)
      (start : Option Nat) : Reads (Parser.withArrowStart start (conditional rules >>= more))
        (.outermost markup) (p :: ps) tail P := by
    refine ((reads_conditional h htail).bind fun node hnode s hs => ?_).withArrowStart start
    rcases hmore node with heq | heq <;> rw [heq]
    · exact .done hs hnode
    · exact reads_assignmentRest hnode htail s hs
  intro s hs
  have hflags : s.flags = .outermost markup := hs.flags_eq
  rcases hp.kind_eq hs with ⟨text, hkind⟩ | hkind | ⟨text, hkind⟩ <;>
    (simp [assignment, plainAssignment, hkind, hflags, Flags.outermost]
     refine hwhole (fun node => ?_) _ s hs
     -- some forms end the expression, and nothing is assigned to the others
     rcases node.form? with _ | form
     · exact .inr rfl
     · cases form <;> first
         | exact .inl rfl
         | exact .inr rfl)

/-- What is read as an expression without operators is one with operators around it. -/
theorem reads_grammar_assignment {depth : Nat}
    (h : Reads (leftHandSide (grammar depth) : Rule code) (.outermost markup) (p :: ps) tail P)
    (hp : StartsValue p) (htail : EndsValue tail) :
    Reads (grammar (depth + 4) .assignment : Rule code) (.outermost markup) (p :: ps) tail P := by
  have hside : Reads (grammar (depth + 1) .leftHandSide) (.outermost markup) (p :: ps) tail P := h
  have hunary : Reads (grammar (depth + 2) .unary) (.outermost markup) (p :: ps) tail P :=
    reads_unary hside hp htail
  have hbinary : Reads (grammar (depth + 3) .binary) (.outermost markup) (p :: ps) tail P :=
    reads_binary hunary htail
  exact reads_assignment hbinary hp htail

/-! ## Chains -/

/-- No type arguments stand where no angle is opened. -/
theorem reads_appliedTypes_of_ne {flags : Flags} {separates : Bool} (hp : p.kind ≠ .sign .less) :
    Reads (appliedTypes rules separates) flags (p :: ps) (p :: ps) (· = none) := by
  intro s hs
  have hkind : s.token.kind ≠ .sign .less := IsAtPiece.kind_eq hs ▸ hp
  simp [appliedTypes, hkind]
  exact .done hs rfl

/-- A chain ends with a value. -/
theorem reads_subscripts_of_endsValue {reach : Reach} {object : Node code} (htail : EndsValue tail) :
    Reads (subscripts rules reach object) (.outermost markup) tail tail (· = object) := by
  refine Reads.iterate_once fun s hs => ?_
  rcases htail.kind_eq hs with hend | hend | hend | hend <;>
    (simp [chainStep, typedStep, appliedTypes, plainStep, hend]
     exact .done hs rfl)

/-- Type arguments in front of a parenthesis are closed by a bracket that is no part of a longer
sign. -/
theorem reads_separateTypeArguments {blanks : List Char} {first : TypeText} {more : List TypeText}
    (h : TypeText.AllPlain (first :: more))
    (hrules : ∀ type ∈ first :: more, ∀ gap tail, EndsType tail →
      Reads (rules .type) (.typing markup) (type.pieces gap ++ tail) tail fun _ => True) :
    Reads (separateTypeArguments rules) (.outermost markup)
      (TypeText.argumentPieces blanks (first :: more) ++ .sign [] .parenOpen :: rest)
      (.sign [] .parenOpen :: rest) fun _ => True := by
  refine Reads.here fun start => Reads.bind (P := fun _ => True) ?_ fun _ _ =>
    Reads.spanFrom fun _ => trivial
  refine reads_inType ?_ (List.cons_ne_nil _ _) (.inl rfl) (by simp)
  intro s hs
  obtain ⟨hless, types, after, hrun, hafter⟩ := exists_run_typeList h hrules hs
  have hgreater : after.token.kind = .sign .greater := hafter.kind_eq
  have hplace : after.place.rest = '>' :: '(' :: Piece.textOf rest := hafter.place_rest
  have hseparate :
      (after.reread (Lexeme.sign .expression)).token.kind = .sign .greater := by
    have hleading : Punctuator.leading? ('>' :: '(' :: Piece.textOf rest) = some .greater := rfl
    simp [State.reread, Lexeme.sign, Lexeme.plain, hplace, hleading]
  simp [hless, hrun, hgreater, hseparate]
  exact .done (hafter.next (by simp)) trivial

/-- What stands behind the class of a `new`: type arguments, if there are any, and a parenthesis. -/
def callPieces (types : List TypeText) (rest : List Piece) : List Piece :=
  TypeText.argumentPieces [' '] types ++ .sign [] .parenOpen :: rest

/-- How an expression goes on that `new` stands in front of: it has no calls. -/
def Reach.ofConstructed : Reach :=
  ⟨false, true, true⟩

/-- Behind a name of a class a dot, an angle or a parenthesis stands. -/
theorem exists_morePieces_callPieces (more : List String) (types : List TypeText)
    (rest : List Piece) : ∃ q ps, DottedName.morePieces more ++ callPieces types rest =
      .sign [] q :: ps ∧ (q = .dot ∨ q = .less ∨ q = .parenOpen) := by
  cases more with
  | cons name more => exact ⟨_, _, rfl, .inl rfl⟩
  | nil =>
      cases types with
      | cons first types => exact ⟨_, _, rfl, .inr (.inl rfl)⟩
      | nil => exact ⟨_, _, rfl, .inr (.inr rfl)⟩

/-- No decorators stand in front of anything but their sign. -/
theorem reads_decorators_of_ne {flags : Flags} (rules : Rules code) (hp : p.kind ≠ .sign .at) :
    Reads (decorators rules) flags (p :: ps) (p :: ps) (· = []) := by
  refine Reads.many_nil fun s hs => ?_
  have hkind : s.token.kind ≠ .sign .at := IsAtPiece.kind_eq hs ▸ hp
  simp [hkind]
  exact .done hs rfl

/-- The first name of a class. -/
theorem reads_primary_name (rules : Rules code) {name : String} {more : List String}
    {types : List TypeText} :
    Reads (primary rules) (.outermost markup)
      (.name gap name :: (DottedName.morePieces more ++ callPieces types rest))
      (DottedName.morePieces more ++ callPieces types rest)
      fun node => ∃ ident, node = .identifier ident ∧ ident.name = name := by
  obtain ⟨q, ps, hps, hq⟩ := exists_morePieces_callPieces more types rest
  rw [hps]
  intro s hs
  have hcontinues : Continues (.outermost markup) (.sign [] q :: ps) := by
    rcases hq with rfl | rfl | rfl <;> simp
  obtain ⟨_, s₁, hdecorators, hs₁, rfl⟩ := (reads_decorators_of_ne rules (by simp)).run hs
  obtain ⟨ident, s₂, hname, hs₂, hident⟩ := (reads_name true hcontinues).run hs₁
  have hkind : s.token.kind = .word none name := IsAtPiece.kind_eq hs
  have hkind₁ : s₁.token.kind = .word none name := IsAtPiece.kind_eq hs₁
  have hkind₂ : s₂.token.kind = .sign q := IsAtPiece.kind_eq hs₂
  have harrow : q ≠ .arrow := by rcases hq with rfl | rfl | rfl <;> decide
  simp [primary, decoratedOperand, nameOperand, isReference, mayStartArrow, hkind, hdecorators, hkind₁,
    hname, hkind₂, harrow]
  exact .done hs₂ ⟨ident, rfl, hident⟩

section Callee

variable {types : List TypeText} (h : TypeText.AllPlain types)
  (hrules : ∀ type ∈ types, ∀ gap tail, EndsType tail →
    Reads (rules .type) (.typing markup) (type.pieces gap ++ tail) tail fun _ => True)

include h hrules

/-- Type arguments in front of a parenthesis belong to a call. -/
theorem reads_appliedTypes_callPieces :
    Reads (appliedTypes rules true) (.outermost markup) (callPieces types rest)
      (callPieces types rest) (· = none) := by
  cases types with
  | nil => exact reads_appliedTypes_of_ne (by simp)
  | cons first more =>
      intro s hs
      obtain ⟨node, after, hrun, hafter, -⟩ := (reads_separateTypeArguments h hrules).run hs
      have hless : s.token.kind = .sign .less := IsAtPiece.kind_eq hs
      have hopen : after.token.kind = .sign .parenOpen := IsAtPiece.kind_eq hafter
      simp [appliedTypes, hless, hrun, hopen]
      exact .done hs rfl

/-- The class of a `new` ends in front of the call. -/
theorem reads_chainStep_callPieces {object : Node code} :
    Reads (chainStep rules .ofConstructed object) (.outermost markup) (callPieces types rest)
      (callPieces types rest) (· = .last object) := by
  intro s hs
  obtain ⟨_, s', happlied, hs', rfl⟩ := (reads_appliedTypes_callPieces h hrules).run hs
  cases types with
  | nil =>
      have hopen : s'.token.kind = .sign .parenOpen := IsAtPiece.kind_eq hs'
      have hopen' : s.token.kind = .sign .parenOpen := IsAtPiece.kind_eq hs
      simp [chainStep, typedStep, plainStep, Reach.ofConstructed, hopen, hopen', happlied]
      exact .done hs' rfl
  | cons first more =>
      obtain ⟨node, after, hrun, hafter, -⟩ :=
        (reads_typeArguments h hrules (.inl rfl) (by simp)).run hs
      have hless : s.token.kind = .sign .less := IsAtPiece.kind_eq hs
      have hless' : s'.token.kind = .sign .less := IsAtPiece.kind_eq hs'
      have hopen : after.token.kind = .sign .parenOpen := IsAtPiece.kind_eq hafter
      simp [chainStep, typedStep, plainStep, Reach.ofConstructed, hrun, hless, hless', hopen,
        happlied]
      exact .done hs' rfl

/-- Type arguments behind a name of a class belong to a call. -/
theorem reads_instantiated_morePieces {more : List String} (node : Node code) :
    Reads (instantiated rules true node) (.outermost markup)
      (DottedName.morePieces more ++ callPieces types rest)
      (DottedName.morePieces more ++ callPieces types rest) (· = node) := by
  have happlied : Reads (appliedTypes rules true) (.outermost markup)
      (DottedName.morePieces more ++ callPieces types rest)
      (DottedName.morePieces more ++ callPieces types rest) (· = none) := by
    cases more with
    | nil => exact reads_appliedTypes_callPieces h hrules
    | cons name more => exact reads_appliedTypes_of_ne (by simp)
  refine happlied.bind ?_
  rintro _ rfl s hs
  exact .done hs rfl

/-- A further name of a class. -/
theorem reads_chainStep_name {object : Node code} {text name : String} {more : List String}
    (hobject : dottedName? object = some text) :
    Reads (chainStep rules .ofConstructed object) (.outermost markup)
      (DottedName.morePieces (name :: more) ++ callPieces types rest)
      (DottedName.morePieces more ++ callPieces types rest)
      fun step => ∃ node, step = .further node ∧ dottedName? node = some (text ++ "." ++ name) := by
  have hcontinues : Continues (.outermost markup)
      (DottedName.morePieces more ++ callPieces types rest) := by
    obtain ⟨q, ps, hps, hq⟩ := exists_morePieces_callPieces more types rest
    rw [hps]
    rcases hq with rfl | rfl | rfl <;> simp
  have hchain : isOptionalChain object = false := by
    cases object <;> first
      | rfl
      | cases hobject
  intro s hs
  have hname := IsAtPiece.next hs (by simp)
  have hdot : s.token.kind = .sign .dot := IsAtPiece.kind_eq hs
  have hword : s.next.token.kind = .word none name := IsAtPiece.kind_eq hname
  obtain ⟨ident, after, hrun, hafter, hident⟩ := (reads_anyName rfl hcontinues).run hname
  obtain ⟨_, last, hinstantiated, hlast, rfl⟩ := (reads_instantiated_morePieces h hrules
    (.member ⟨object.span.start, after.previousStop⟩ object ident.name)).run hafter
  simp [chainStep, typedStep, appliedTypes, plainStep, namedStep, memberName, Reach.ofConstructed,
    hdot, hword, hrun, extended, hchain, hinstantiated]
  exact .done hlast ⟨_, rfl, by simp [dottedName?, hobject, hident]⟩

/-- The further names of a class and the call behind them. -/
theorem reads_subscripts_morePieces {object : Node code} {first : String} {more : List String}
    (hobject : dottedName? object = some first) :
    Reads (subscripts rules .ofConstructed object) (.outermost markup)
      (DottedName.morePieces more ++ callPieces types rest) (callPieces types rest)
      fun node => dottedName? node = some (".".intercalate (first :: more)) := by
  refine Reads.iterate (I := fun object ps => ∃ text back,
    dottedName? object = some text ∧ ".".intercalate (first :: more) = ".".intercalate (text :: back) ∧
    ps = DottedName.morePieces back ++ callPieces types rest) ?_ ⟨first, more, hobject, rfl, rfl⟩
  rintro object _ ⟨text, back, hobject, hmore, rfl⟩
  cases back with
  | nil =>
      refine .inr ((reads_chainStep_callPieces h hrules).bind ?_)
      rintro _ rfl s hs
      exact .done hs ⟨_, rfl, by rw [hmore, hobject]; rfl⟩
  | cons name back =>
      refine .inl ⟨DottedName.morePieces back ++ callPieces types rest, ?_, ?_⟩
      · simp only [DottedName.morePieces, List.flatMap_cons, List.length_append, List.length_cons]
        omega
      · refine (reads_chainStep_name h hrules hobject).bind ?_
        rintro _ ⟨node, rfl, hnode⟩ s hs
        exact .done hs ⟨_, rfl, _, back, hnode,
          hmore.trans (DottedName.intercalate_cons_cons text name back), rfl⟩

/-- A dotted name as the class of a `new`. -/
theorem reads_constructed {name : DottedName} :
    Reads (constructed rules) (.outermost markup) (name.pieces gap ++ callPieces types rest)
      (callPieces types rest) fun node => dottedName? node = some name.text := by
  rw [DottedName.pieces, List.cons_append]
  intro s hs
  have hkind : s.token.kind = .word none name.first := IsAtPiece.kind_eq hs
  obtain ⟨_, s₁, hprimary, hs₁, ident, rfl, hident⟩ := (reads_primary_name rules).run hs
  obtain ⟨_, s₂, hinstantiated, hs₂, rfl⟩ :=
    (reads_instantiated_morePieces h hrules (.identifier ident)).run hs₁
  simp [constructed, hkind, hprimary, Node.form?, hinstantiated]
  exact reads_subscripts_morePieces h hrules (by simp [dottedName?, hident]) s₂ hs₂

end Callee

/-! ## Brackets -/

/-- An expression in brackets is read as one outside of them. -/
theorem reads_enclosed {α : Type} {q : Parser code α} {Q : α → Prop}
    (hq : Reads q (.outermost markup) ps tail Q) (hps : Continues (.outermost markup) ps)
    (htail : Continues (.outermost markup) tail) :
    Reads (enclosed q) (.outermost markup) ps tail Q :=
  Reads.withAngles hq hps htail

/-- A value that is not spread. -/
theorem reads_spreadable (h : Reads (rules .assignment) (.outermost markup) (p :: ps) tail P)
    (hp : StartsValue p) : Reads (spreadable rules) (.outermost markup) (p :: ps) tail P := by
  refine Reads.here fun start s hs => ?_
  rcases hp.kind_eq hs with ⟨text, hkind⟩ | hkind | ⟨text, hkind⟩ <;>
    (simp [hkind]; exact h s hs)

section Elements

variable {ι : Type} {text : ι → List Piece} {R : ι → Node code → Prop} {items : List ι}
  (htext : ∀ i ∈ items, ∃ p more, text i = p :: more ∧ StartsValue p)

include htext

/-- A bracket that opens a list goes on with its elements or with the bracket that closes it. -/
theorem continues_separated {isTrailing : Bool} {closing : Punctuator}
    (hclosing : closing = .parenClose ∨ closing = .bracketClose) :
    Continues (.outermost markup)
      (Piece.separated isTrailing (items.map text) ++ .sign gap closing :: tail) := by
  refine .separated isTrailing (List.forall_mem_map.mpr fun i hi => ?_) ?_ gap tail
  · obtain ⟨p, more, hp, hstart⟩ := htext i hi
    refine ⟨p, more, hp, ?_⟩
    rcases hstart with ⟨text, hp⟩ | hp | ⟨text, hp⟩ <;> simp [hp]
  · rcases hclosing with rfl | rfl <;> simp

variable (hitem : ∀ i ∈ items, ∀ after, EndsValue after →
  Reads (rules .assignment) (.outermost markup) (text i ++ after) after (R i))

include hitem

/-- Values between commas, up to a closing bracket. -/
theorem reads_elements {element : Rule code} {closing : Punctuator} (isTrailing : Bool)
    (hclosing : closing = .parenClose ∨ closing = .bracketClose)
    (helement : ∀ p ps tail P, StartsValue p →
      Reads (rules .assignment) (.outermost markup) (p :: ps) tail P →
      Reads element (.outermost markup) (p :: ps) tail P) :
    Reads (Parser.commaSeparated (isAt closing) element) (.outermost markup)
      (Piece.separated isTrailing (items.map text) ++ .sign gap closing :: tail)
      (.sign gap closing :: tail) (List.Forall₂ R items) := by
  refine Reads.commaSeparated isTrailing ?_ ?_ ?_ ?_
  · intro i hi gap q after hq
    obtain ⟨p, more, hp, hstart⟩ := htext i hi
    have hends : EndsValue (.sign gap q :: after) := by
      refine ⟨gap, q, after, rfl, ?_⟩
      rcases hq with rfl | rfl
      · exact .inl rfl
      · rcases hclosing with rfl | rfl <;> simp
    have hread := hitem i hi _ hends
    rw [hp, List.cons_append] at hread ⊢
    exact helement p _ _ _ hstart hread
  · intro i hi
    obtain ⟨p, more, hp, hstart⟩ := htext i hi
    refine ⟨p, more, hp, ?_⟩
    rcases hclosing with rfl | rfl <;>
      rcases hstart with ⟨text, hp⟩ | hp | ⟨text, hp⟩ <;> simp [hp]
  · rintro rfl
    simp at hclosing
  · rintro rfl
    simp at hclosing

/-- The arguments of a call. -/
theorem reads_callArguments (htail : Continues (.outermost markup) tail) :
    Reads (callArguments rules) (.outermost markup) (.sign [] .parenOpen ::
      (Piece.separated false (items.map text) ++ .sign gap .parenClose :: tail)) tail
      (List.Forall₂ R items) := by
  have hinner : Reads (do
      expect .parenOpen
      Parser.commaSeparated (isAt .parenClose) (spreadable rules)) (.outermost markup)
      (.sign [] .parenOpen ::
        (Piece.separated false (items.map text) ++ .sign gap .parenClose :: tail))
      (.sign gap .parenClose :: tail) (List.Forall₂ R items) := by
    intro s hs
    have hkind : s.token.kind = .sign .parenOpen := IsAtPiece.kind_eq hs
    have hnext := IsAtPiece.next hs (continues_separated htext (.inl rfl))
    simp [hkind]
    exact reads_elements htext hitem false (.inl rfl) (fun _ _ _ _ hp h => reads_spreadable h hp) _
      hnext
  refine (reads_enclosed hinner (by simp) (by simp)).bind fun arguments harguments s hs => ?_
  have hkind : s.token.kind = .sign .parenClose := IsAtPiece.kind_eq hs
  simp [hkind]
  exact .done (IsAtPiece.next hs htail) harguments

/-- A list of values. -/
theorem reads_listLiteral {front : List Char} (isTrailing : Bool)
    (htail : Continues (.outermost markup) tail) :
    Reads (listLiteral rules) (.outermost markup) (.sign front .bracketOpen ::
      (Piece.separated isTrailing (items.map text) ++ .sign gap .bracketClose :: tail)) tail
      fun node => ∃ span elements, node = .compound span .list elements ∧
        List.Forall₂ R items elements := by
  have hinner : Reads (Parser.commaSeparated (isAt .bracketClose) (do
      if ← isAt .comma then return .compound ⟨← here, ← here⟩ .other [] else spreadable rules))
      (.outermost markup)
      (Piece.separated isTrailing (items.map text) ++ .sign gap .bracketClose :: tail)
      (.sign gap .bracketClose :: tail) (List.Forall₂ R items) := by
    refine reads_elements htext hitem isTrailing (.inr rfl) fun p ps tail P hp h s hs => ?_
    have hread := reads_spreadable h hp s hs
    rcases hp.kind_eq hs with ⟨text, hkind⟩ | hkind | ⟨text, hkind⟩ <;>
      (simp [hkind]; exact hread)
  have hcontinues : Continues (.outermost markup)
      (Piece.separated isTrailing (items.map text) ++ .sign gap .bracketClose :: tail) :=
    continues_separated htext (.inr rfl)
  refine Reads.here fun start s hs => ?_
  have hkind : s.token.kind = .sign .bracketOpen := IsAtPiece.kind_eq hs
  have hread := reads_enclosed hinner hcontinues (by simp)
  obtain ⟨elements, after, hrun, hafter, helements⟩ := hread.run (IsAtPiece.next hs hcontinues)
  have hclose : after.token.kind = .sign .bracketClose := IsAtPiece.kind_eq hafter
  simp [hkind, hrun, hclose]
  exact .done (IsAtPiece.next hafter htail) ⟨_, _, rfl, helements⟩

end Elements

/-! ## Values -/

/-- No step of a chain goes on with an operand that is a value. -/
theorem reads_leftHandSide_of_primary (h : Reads (primary rules) (.outermost markup) (p :: ps) tail P)
    (hp : p.kind.keyword? = none) (hform : ∀ node, P node → node.form? ≠ some .arrow)
    (htail : EndsValue tail) :
    Reads (leftHandSide rules) (.outermost markup) (p :: ps) tail P := by
  have hconstructed : Reads (constructed rules) (.outermost markup) (p :: ps) tail P := by
    intro s hs
    have hkind : s.token.kind = p.kind := IsAtPiece.kind_eq hs
    obtain ⟨node, s₁, hprimary, hs₁, hnode⟩ := h.run hs
    have happlied : Reads (appliedTypes rules true) (.outermost markup) tail tail (· = none) := by
      obtain ⟨gap, q, rest, rfl, rfl | rfl | rfl | rfl⟩ := htail <;>
        exact reads_appliedTypes_of_ne (by simp)
    obtain ⟨_, s₂, hrun, hs₂, rfl⟩ := happlied.run hs₁
    simp [constructed, hkind, hp, hprimary, hform node hnode, instantiated, hrun]
    exact ((reads_subscripts_of_endsValue htail).mono fun _ heq => heq ▸ hnode) s₂ hs₂
  intro s hs
  have hkind : s.token.kind = p.kind := IsAtPiece.kind_eq hs
  obtain ⟨node, after, hrun, hafter, hnode⟩ := hconstructed.run hs
  rcases htail.kind_eq hafter with hend | hend | hend | hend <;>
    (simp [leftHandSide, hkind, hp, hrun, hform node hnode, typedCall, hend]
     exact .done hafter hnode)

/-- A string is a value. -/
theorem reads_string {depth : Nat} {text : String} (htail : EndsValue tail) :
    Reads (grammar (depth + 4) .assignment : Rule code) (.outermost markup)
      (.string gap text :: tail) tail fun node => ∃ span, node = .string span text := by
  refine reads_grammar_assignment ?_ (.inl ⟨text, rfl⟩) htail
  refine reads_leftHandSide_of_primary (fun s hs => ?_) rfl ?_ htail
  · have hkind : s.token.kind = .string text := IsAtPiece.kind_eq hs
    simp [primary, hkind, mayStartArrow]
    exact .done (IsAtPiece.next hs htail.continues) ⟨_, rfl⟩
  · rintro _ ⟨span, rfl⟩
    simp [Node.form?]

/-- A list of values is a value. -/
theorem reads_list {depth : Nat} {ι : Type} {text : ι → List Piece} {R : ι → Node code → Prop}
    {items : List ι} {front : List Char} (isTrailing : Bool)
    (htext : ∀ i ∈ items, ∃ p more, text i = p :: more ∧ StartsValue p)
    (hitem : ∀ i ∈ items, ∀ after, EndsValue after →
      Reads (grammar depth .assignment) (.outermost markup) (text i ++ after) after (R i))
    (htail : EndsValue tail) :
    Reads (grammar (depth + 4) .assignment) (.outermost markup) (.sign front .bracketOpen ::
      (Piece.separated isTrailing (items.map text) ++ .sign gap .bracketClose :: tail)) tail
      fun node => ∃ span elements, node = .compound span .list elements ∧
        List.Forall₂ R items elements := by
  refine reads_grammar_assignment ?_ (.inr (.inl rfl)) htail
  refine reads_leftHandSide_of_primary (fun s hs => ?_) rfl ?_ htail
  · have hkind : s.token.kind = .sign .bracketOpen := IsAtPiece.kind_eq hs
    simp [primary, hkind, mayStartArrow]
    exact reads_listLiteral htext hitem isTrailing htail.continues s hs
  · rintro _ ⟨span, elements, rfl, -⟩
    simp [Node.form?]

/-- Types are read by a grammar that is as deep as each of them has pieces. -/
theorem reads_types {depth : Nat} {types : List TypeText} (h : TypeText.AllPlain types)
    (hdepth : ∀ type ∈ types, (type.pieces []).length ≤ depth) :
    ∀ type ∈ types, ∀ gap tail, EndsType tail →
      Reads (grammar depth .type : Rule code) (.typing markup) (type.pieces gap ++ tail) tail
        fun _ => True :=
  fun type htype _ _ htail => reads_grammar_type (TypeText.isPlain_of_allPlain h type htype)
    (hdepth type htype) htail (.inr rfl) (htail.continues rfl)

/-- The types behind the class of a `new`. -/
theorem reads_newTypes {types : List TypeText} (h : TypeText.AllPlain types)
    (hrules : ∀ type ∈ types, ∀ gap tail, EndsType tail →
      Reads (rules .type) (.typing markup) (type.pieces gap ++ tail) tail fun _ => True) :
    Reads (attempt do
        unless (← isAt .less) || (← isAt .shiftLeft) do return none
        let types ← typeArguments rules
        if ← isAt .parenOpen then return some types else return none)
      (.outermost markup) (callPieces types rest) (.sign [] .parenOpen :: rest)
      fun node => node.isSome = !types.isEmpty := by
  intro s hs
  cases types with
  | nil =>
      have hopen : s.token.kind = .sign .parenOpen := IsAtPiece.kind_eq hs
      simp [hopen]
      exact .done hs rfl
  | cons first more =>
      obtain ⟨node, after, hrun, hafter, -⟩ :=
        (reads_typeArguments h hrules (.inl rfl) (by simp)).run hs
      have hless : s.token.kind = .sign .less := IsAtPiece.kind_eq hs
      have hopen : after.token.kind = .sign .parenOpen := IsAtPiece.kind_eq hafter
      simp [hless, hrun, hopen]
      exact .done hafter rfl

/-- A dotted name has no form. -/
theorem form?_of_dottedName? {node : Node code} {text : String} (h : dottedName? node = some text) :
    node.form? = none := by
  cases node <;> first
    | rfl
    | cases h

section New

variable {name : DottedName} {types : List TypeText} {ι : Type} {text : ι → List Piece}
  {R : ι → Node code → Prop} {items : List ι}

/-- An instance of a class: its name, the arguments of the call and whether there are types. -/
def IsInstance (name : DottedName) (R : ι → Node code → Prop) (items : List ι)
    (types : List TypeText) (node : Node code) : Prop :=
  ∃ span callee arguments typeArguments,
    node = .compound span .new (callee :: arguments ++ Option.toList typeArguments) ∧
    dottedName? callee = some name.text ∧ List.Forall₂ R items arguments ∧
    typeArguments.isSome = !types.isEmpty

/-- A `new` of a class with a dotted name. -/
theorem reads_newExpression {front : List Char} (h : TypeText.AllPlain types)
    (hcallee : ∀ rest, Reads (rules .constructed) (.outermost markup)
      (name.pieces [' '] ++ callPieces types rest) (callPieces types rest)
      fun node => dottedName? node = some name.text)
    (hrules : ∀ type ∈ types, ∀ gap tail, EndsType tail →
      Reads (rules .type) (.typing markup) (type.pieces gap ++ tail) tail fun _ => True)
    (htext : ∀ i ∈ items, ∃ p more, text i = p :: more ∧ StartsValue p)
    (hitem : ∀ i ∈ items, ∀ after, EndsValue after →
      Reads (rules .assignment) (.outermost markup) (text i ++ after) after (R i))
    (htail : EndsValue tail) :
    Reads (newExpression rules .ofConstructed) (.outermost markup) (.keyword front .new_ ::
      (name.pieces [' '] ++ callPieces types
        (Piece.separated false (items.map text) ++ .sign gap .parenClose :: tail))) tail
      (IsInstance name R items types) := by
  refine Reads.here fun start s hs => ?_
  have hfirst := IsAtPiece.next hs (by simp [DottedName.pieces])
  have hword : s.next.token.kind = .word none name.first := IsAtPiece.kind_eq hfirst
  obtain ⟨callee, s₁, hrun₁, hs₁, hdotted⟩ := (hcallee _).run hfirst
  obtain ⟨typeArguments, s₂, hrun₂, hs₂, htypes⟩ := (reads_newTypes h hrules).run hs₁
  obtain ⟨arguments, s₃, hrun₃, hs₃, harguments⟩ :=
    (reads_callArguments htext hitem htail.continues).run hs₂
  have hopen : s₂.token.kind = .sign .parenOpen := IsAtPiece.kind_eq hs₂
  have hform := form?_of_dottedName? hdotted
  simp only [bind_apply, advance_apply, eat_apply, hword, reduceCtorEq, if_false, Bool.false_eq_true,
    hrun₁, hform, hrun₂, isAt_apply, hopen, decide_true, if_true, hrun₃, spanFrom_apply]
  refine (reads_subscripts_of_endsValue htail).mono ?_ s₃ hs₃
  rintro _ rfl
  exact ⟨_, callee, arguments, typeArguments, rfl, hdotted, harguments, htypes⟩

/-- A `new` of a class with a dotted name is a value. -/
theorem reads_new {depth : Nat} {front : List Char} (h : TypeText.AllPlain types)
    (hdepth : ∀ type ∈ types, (type.pieces []).length ≤ depth)
    (htext : ∀ i ∈ items, ∃ p more, text i = p :: more ∧ StartsValue p)
    (hitem : ∀ i ∈ items, ∀ after, EndsValue after →
      Reads (grammar (depth + 1) .assignment) (.outermost markup) (text i ++ after) after (R i))
    (htail : EndsValue tail) :
    Reads (grammar (depth + 5) .assignment) (.outermost markup) (.keyword front .new_ ::
      (name.pieces [' '] ++ callPieces types
        (Piece.separated false (items.map text) ++ .sign gap .parenClose :: tail))) tail
      (IsInstance name R items types) := by
  refine reads_grammar_assignment ?_ (.inr (.inr ⟨_, rfl⟩)) htail
  have hcallee (rest : List Piece) : Reads (grammar (depth + 1) .constructed : Rule code)
      (.outermost markup) (name.pieces [' '] ++ callPieces types rest) (callPieces types rest)
      fun node => dottedName? node = some name.text :=
    reads_constructed h (reads_types h hdepth)
  have hdepth' : ∀ type ∈ types, (type.pieces []).length ≤ depth + 1 :=
    fun type htype => Nat.le_succ_of_le (hdepth type htype)
  intro s hs
  have hkind : s.token.kind = .word (some .new_) (String.ofList Keyword.new_.spelling) :=
    IsAtPiece.kind_eq hs
  obtain ⟨node, after, hrun, hafter, hnode⟩ :=
    (reads_newExpression h hcallee (reads_types h hdepth') htext hitem htail).run hs
  have hform : node.form? = some .new := by
    obtain ⟨span, callee, arguments, typeArguments, rfl, -⟩ := hnode
    rfl
  rw [Reach.ofConstructed] at hrun
  rcases htail.kind_eq hafter with hend | hend | hend | hend <;>
    (simp [leftHandSide, constructed, hkind, hrun, hform, typedCall, hend]
     exact .done hafter hnode)

end New

end Grammar

end ClassRegistry.TypeScript
