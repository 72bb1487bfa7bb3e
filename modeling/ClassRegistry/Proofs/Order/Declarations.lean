import ClassRegistry.Proofs.Order.Classes
import ClassRegistry.TypeScript.Grammar.Declaration

/-!
# Declarations in the order of the text

Variables, enumerations, interfaces, type aliases and namespaces are walked as they are written.
Decorators are kept for a class; any other declaration behind them leaves them out.
-/

namespace ClassRegistry.TypeScript

open Grammar (VariableKind)

variable {code : Code}

namespace Gathers

theorem variableKind? : IsQuiet (Grammar.variableKind? : Parser code (Option VariableKind)) := by
  unfold Grammar.variableKind?
  refine .skip .following fun next => ?_
  refine .skip .keyword? fun keyword => ?_
  split <;> exact .done _

/-- The members of an interface are gone on to. -/
theorem skipToMembers : IsQuiet (Grammar.skipToMembers : Parser code Unit) := by
  unfold Grammar.skipToMembers
  refine .iterate (fun _ => []) (fun _ => ?_) ()
  refine .skip (.isAt _) fun isThere => ?_
  refine .skip .isAtEnd fun isEnd => ?_
  refine .ite (fun _ => .give .nil) fun _ => ?_
  refine .skip .advance fun _ => ?_
  exact .give .nil

/-- An enumeration behind `const` is looked for. -/
theorem startsConstEnumeration : IsQuiet (Grammar.startsConstEnumeration : Parser code Bool) := by
  unfold Grammar.startsConstEnumeration
  refine .skip (.isAtWord _) fun isConst => ?_
  refine .skip .following fun next => ?_
  exact .done _

/-- A declaration that is no class has no decorators. -/
theorem undecorated {p : Rule code} (hp : Gathers [] p fun node => [node])
    (decorators : List (Node code)) :
    Gathers decorators (some <$> p) fun found => found.elim decorators fun node => [node] :=
  .map (.follow hp .nil)

/-- Where there is no declaration, its decorators can be left out. -/
theorem forgetting {p : Parser code (Option (Node code))} {before decorators : List (Node code)}
    (hp : Gathers before p fun found => found.elim decorators fun node => [node]) :
    Gathers before p fun found => found.elim [] fun node => [node] := by
  refine hp.follow_after fun found => ?_
  cases found with
  | none => exact .nil
  | some node => exact .refl _

variable {rules : Rules code} (h : rules.Gather)
include h

/-! ## Variables -/

/-- A variable holds its pattern, its type and its value. -/
theorem declarator (kind : VariableKind) (inLoop : Bool) :
    Gathers [] (Grammar.declarator rules kind inLoop) fun node => [node] := by
  unfold Grammar.declarator
  refine .skip .here fun start => ?_
  refine .when (fun _ => .failAtLet) ?_
  beta_reduce
  refine .read (h _) fun pattern => ?_
  extract_lets -underBinder next
  have hnext : Gathers [pattern] (next ()) fun node => [node] := by
    refine .read (.typeBehind h) fun annotation => ?_
    refine .skip (.isAtWord _) fun isIn => ?_
    refine .skip (.isAtWord _) fun isOf => ?_
    refine .readEither (fun _ => .give (.refl _)) (fun _ => .initializer h) fun value => ?_
    beta_reduce
    refine .skip .flags fun flags => ?_
    extract_lets -underBinder last
    have hlast : Gathers ([pattern] ++ annotation ++ value) (last ()) fun node => [node] :=
      .node (fun _ => rfl) fun _ => .refl _
    refine .ite (fun _ => .ite (fun _ => ?_) fun _ => .ite (fun _ => ?_) fun _ => hlast)
      fun _ => hlast
    · exact .skip .skipBroken fun _ => hlast
    · exact .bind (.failAt _ _) fun _ => hlast
  exact .ite (fun _ => .skip (.eat _) fun _ => hnext) fun _ => hnext

/-- Variables stand one behind the other. -/
theorem declarators (kind : VariableKind) (inLoop : Bool) :
    Gathers [] (Grammar.declarators rules kind inLoop) fun nodes => nodes := by
  unfold Grammar.declarators
  refine .map ?_
  refine .iterate (fun nodes => nodes.reverse) (fun nodes => ?_) []
  refine .skip (.isAt _) fun isOver => ?_
  refine .ite (fun _ => ?_) fun _ => ?_
  · refine .skip .skipBroken fun _ => ?_
    exact .give (.refl _)
  · refine .read (.declarator h kind inLoop) fun node => ?_
    refine .skip (.eat _) fun isComma => ?_
    exact .ite (fun _ => .give (.of_sublist (by simp))) fun _ => .give (.of_sublist (by simp))

/-- The end of a declaration is gone on to; what is read up to there is left out. -/
theorem skipToStatementEnd : IsQuiet (Grammar.skipToStatementEnd rules) := by
  unfold Grammar.skipToStatementEnd
  refine .skip .skipBroken fun _ => ?_
  refine .skip (IsQuiet.of_gathers (.orNone (h _))) fun skipped => ?_
  refine .iterate (fun _ => []) (fun _ => ?_) ()
  refine .skip .eatStatementEnd fun isOver => ?_
  refine .ite (fun _ => .give .nil) fun _ => ?_
  refine .skip .advance fun _ => ?_
  refine .skip .kind fun kind => ?_
  split <;> exact .give .nil

/-- A declaration holds its variables. -/
theorem variableDeclaration (kind : VariableKind) :
    Gathers [] (Grammar.variableDeclaration rules kind) fun node => [node] := by
  unfold Grammar.variableDeclaration
  refine .skip .here fun start => ?_
  refine .skip .advance fun _ => ?_
  refine .read (.withFlags _ (.declarators h kind false)) fun declared => ?_
  extract_lets -underBinder last
  have hlast : Gathers declared (last ()) fun node => [node] :=
    .node (fun _ => rfl) fun _ => .refl _
  refine .ite (fun _ => .skip .expectStatementEnd fun _ => hlast) fun _ => ?_
  refine .skip .eatStatementEnd fun isOver => ?_
  exact .ite (fun _ => hlast) fun _ => .skip (skipToStatementEnd h) fun _ => hlast

/-! ## Enumerations, interfaces and type aliases -/

/-- The name of a member of an enumeration is read. -/
theorem enumKey : IsQuiet (Grammar.enumKey rules) := by
  unfold Grammar.enumKey
  refine .skip .kind fun kind => ?_
  split
  · exact .quiet .advance
  · exact .quiet .advance
  · refine .skip .advance fun _ => ?_
    refine .skip (IsQuiet.of_gathers (.enclosed (h _))) fun value => ?_
    exact .quiet (.expect _)
  · exact .failWith _
  · refine .skip .anyName fun name => ?_
    exact .done _

/-- The values of an enumeration stand one behind the other. -/
theorem enumMembers : Gathers [] (Grammar.enumMembers rules) fun nodes => nodes := by
  unfold Grammar.enumMembers
  refine .map ?_
  refine .iterate (fun nodes => nodes.reverse) (fun nodes => ?_) []
  refine .skip (.isAt _) fun isOver => ?_
  refine .ite (fun _ => .give (.refl _)) fun _ => ?_
  refine .skip (enumKey h) fun _ => ?_
  refine .skip (.eat _) fun isValued => ?_
  refine .ite (fun _ => ?_) fun _ => ?_
  · refine .read (h _) fun value => ?_
    refine .skip (.eat _) fun isComma => ?_
    refine .skip (.isAt _) fun isOver => ?_
    refine .whenNot (fun _ => .skipBroken) ?_
    exact .give (.of_sublist (by simp))
  · refine .skip (.isAt _) fun isOver => ?_
    refine .ite (fun _ => .give (.refl _)) fun _ => ?_
    refine .skip (.isAt _) fun isComma => ?_
    refine .whenNot (fun _ => .advance) ?_
    refine .skip .advance fun _ => ?_
    exact .give (.refl _)

/-- An enumeration holds its values. -/
theorem enumeration (start : Nat) :
    Gathers [] (Grammar.enumeration rules start) fun node => [node] := by
  unfold Grammar.enumeration
  refine .skip .anyName fun ident => ?_
  refine .skip (.expect _) fun _ => ?_
  refine .read (.enclosed (.enumMembers h)) fun values => ?_
  refine .skip (.expect _) fun _ => ?_
  exact .node (fun _ => rfl) fun _ => .refl _

/-- An interface holds its type parameters, what it extends and its members. -/
theorem interface (start : Nat) :
    Gathers [] (Grammar.interface rules start) fun node => [node] := by
  unfold Grammar.interface
  refine .skip .anyName fun ident => ?_
  refine .read (.typeParameters h) fun types => ?_
  refine .read (.heritageList h _) fun extended => ?_
  refine .skip (.isAtWord _) fun isAgain => ?_
  extract_lets -underBinder last
  have hlast : Gathers (types ++ extended) (last ()) fun node => [node] := by
    refine .read (.typeMembers h) fun members => ?_
    exact .node (fun _ => rfl) fun _ => .refl _
  refine .ite (fun _ => ?_) fun _ => hlast
  refine .skip .skipBroken fun _ => ?_
  exact .skip skipToMembers fun _ => hlast

/-- A type alias holds its type parameters and its type. -/
theorem typeAlias (start : Nat) :
    Gathers [] (Grammar.typeAlias rules start) fun node => [node] := by
  unfold Grammar.typeAlias
  refine .skip .anyName fun ident => ?_
  refine .read (.typeParameters h) fun types => ?_
  refine .skip (.eat _) fun isThere => ?_
  refine .whenNot (fun _ => .unexpected _) ?_
  refine .read (.inType (h _)) fun type => ?_
  refine .skip .expectStatementEnd fun _ => ?_
  exact .node (fun _ => rfl) fun _ => .refl _

/-! ## Namespaces -/

/-- The items of a namespace stand one behind the other. -/
theorem namespaceBody : Gathers [] (Grammar.namespaceBody rules) fun nodes => nodes := by
  unfold Grammar.namespaceBody
  refine .enclosed ?_
  refine .skip (.expect _) fun _ => ?_
  exact .blockItems (h _)

/-- A namespace holds its items. -/
theorem namespaceBlock (start : Nat) :
    Gathers [] (Grammar.namespaceBlock rules start) fun node => [node] := by
  unfold Grammar.namespaceBlock
  refine .skip .anyName fun first => ?_
  have hname : IsQuiet (do
      if ← Parser.eat .dot then return some (← Grammar.anyName).name else return none :
        Parser code (Option String)) := by
    refine .skip (.eat _) fun isDot => ?_
    refine .ite (fun _ => ?_) fun _ => .done _
    refine .skip .anyName fun name => ?_
    exact .done _
  refine .skip (.many hname) fun rest => ?_
  refine .read (.namespaceBody h) fun body => ?_
  exact .node (fun _ => rfl) fun _ => .refl _

/-- A block without a scope of its own holds its items. -/
theorem unscopedBlock (start : Nat) (name : NamespaceName) :
    Gathers [] (Grammar.unscopedBlock rules start name) fun node => [node] := by
  unfold Grammar.unscopedBlock
  refine .skip .advance fun _ => ?_
  refine .skip (.isAt _) fun isThere => ?_
  extract_lets -underBinder last
  have hlast : ∀ body, Gathers body (last body) fun node => [node] :=
    fun body => .node (fun _ => rfl) fun _ => .refl _
  refine .ite (fun _ => .bind (.namespaceBody h) hlast) fun _ => ?_
  refine .skip .expectStatementEnd fun _ => ?_
  exact hlast []

/-- A namespace behind `module` is gathered, or none with the decorators. -/
theorem moduleBlock (start : Nat) (certain : Bool) (decorators : List (Node code)) :
    Gathers decorators (Grammar.moduleBlock rules start certain)
      fun found => found.elim decorators fun node => [node] := by
  unfold Grammar.moduleBlock
  refine .skip .kind fun kind => ?_
  split
  · exact .undecorated (.unscopedBlock h start _) decorators
  · exact .failWith _
  · exact .failAtEnd
  · refine .skip .isAtReference fun isThere => ?_
    refine .ite (fun _ => ?_) fun _ => .give (.refl _)
    exact .undecorated (.namespaceBlock h start) decorators

/-! ## Words that start a declaration -/

/-- A declaration that a word certainly starts is gathered, or none with the decorators. -/
theorem certainDeclaration (start : Nat) (decorators : List (Node code)) :
    Gathers decorators (Grammar.certainDeclaration rules start decorators)
      fun found => found.elim decorators fun node => [node] := by
  unfold Grammar.certainDeclaration
  refine .skip .keyword? fun keyword => ?_
  split
  · refine .skip .advance fun _ => ?_
    exact .map (.classDefinition h start true true decorators)
  · refine .skip .advance fun _ => ?_
    exact .undecorated (.enumeration h start) decorators
  · refine .skip .advance fun _ => ?_
    exact .undecorated (.interface h start) decorators
  · refine .skip .startsLine fun isLine => ?_
    refine .ite (fun _ => .give (.refl _)) fun _ => ?_
    refine .skip .advance fun _ => ?_
    exact .moduleBlock h start true decorators
  · refine .skip .advance fun _ => ?_
    exact .undecorated (.namespaceBlock h start) decorators
  · refine .skip .advance fun _ => ?_
    exact .undecorated (.typeAlias h start) decorators
  · exact .give (.refl _)

/-- An enumeration behind `const` holds its values. -/
theorem constEnumeration (start : Nat) :
    Gathers [] (Grammar.constEnumeration rules start) fun node => [node] := by
  unfold Grammar.constEnumeration
  refine .skip .advance fun _ => ?_
  refine .skip .advance fun _ => ?_
  exact .enumeration h start

/-- A declaration behind `declare` is gathered, or none with the decorators. -/
theorem ambientDeclaration (start : Nat) (decorators : List (Node code)) :
    Gathers decorators (Grammar.ambientDeclaration rules start decorators)
      fun found => found.elim decorators fun node => [node] := by
  unfold Grammar.ambientDeclaration
  refine .withFlags _ ?_
  refine .skip .startsConstEnumeration fun isConst => ?_
  refine .ite (fun _ => .undecorated (.constEnumeration h start) decorators) fun _ => ?_
  refine .skip .keyword? fun keyword => ?_
  split
  · exact .undecorated (.functionDefinition h start false _) decorators
  · exact .map (.classDefinition h start true true decorators)
  · exact .undecorated (.variableDeclaration h _) decorators
  · exact .undecorated (.variableDeclaration h _) decorators
  · exact .undecorated (.variableDeclaration h _) decorators
  · exact .undecorated (.unscopedBlock h start _) decorators
  · exact .certainDeclaration h start decorators

/-- A declaration that a word starts is gathered, or none with the decorators. -/
theorem wordDeclaration (decorators : List (Node code)) :
    Gathers decorators (Grammar.wordDeclaration rules decorators)
      fun found => found.elim decorators fun node => [node] := by
  unfold Grammar.wordDeclaration
  refine .skip .here fun start => ?_
  refine .skip .following fun next => ?_
  refine .skip .keyword? fun keyword => ?_
  have hcertain := certainDeclaration h start decorators
  split
  -- `declare`
  · refine .orGoBack ?_
    refine .skip .advance fun _ => ?_
    exact .forgetting (.ambientDeclaration h start decorators)
  -- `global`
  · refine .ite (fun _ => ?_) fun _ => .give (.refl _)
    exact .undecorated (.unscopedBlock h start _) decorators
  -- `abstract`, in front of a class or an interface only
  · split
    · exact .ite (fun _ => .give (.refl _)) fun _ => hcertain
    · exact .skip .advance fun _ => hcertain
    · exact .give (.refl _)
  -- `module`
  · refine .ite (fun _ => .give (.refl _)) fun _ => ?_
    refine .orGoBack ?_
    refine .skip .advance fun _ => ?_
    exact .forgetting (.moduleBlock h start false decorators)
  -- words that start a declaration only in front of a name on their line
  · exact .ite (fun _ => hcertain) fun _ => .give (.refl _)
  · exact .ite (fun _ => hcertain) fun _ => .give (.refl _)
  · exact .ite (fun _ => hcertain) fun _ => .give (.refl _)
  · exact .ite (fun _ => hcertain) fun _ => .give (.refl _)
  · exact .give (.refl _)

end Gathers

end ClassRegistry.TypeScript
