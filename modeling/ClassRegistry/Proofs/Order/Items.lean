import ClassRegistry.Proofs.Order.Statements
import ClassRegistry.Proofs.Order.Expressions
import ClassRegistry.TypeScript.Parse

/-!
# Items in the order of the text

Imports hold no classes. An export holds what it declares or gives out, whose decorators may stand
behind its words. All rules of the grammar together read the items of a text one behind the other.
-/

namespace ClassRegistry.TypeScript

open Grammar (ModuleName DefaultBinding ImportPhase)

variable {code : Code}

namespace IsQuiet

/-! ## Names and sources -/

theorem moduleName : IsQuiet (Grammar.moduleName : Parser code (ModuleName code)) := by
  unfold Grammar.moduleName
  refine .skip .here fun start => ?_
  refine .skip .kind fun kind => ?_
  split
  · refine .skip .advance fun _ => ?_
    refine .skip (.spanFrom _) fun span => ?_
    exact .done _
  · refine .skip .anyName fun name => ?_
    exact .done _
  · exact .unexpected _

theorem sourceName : IsQuiet (Grammar.sourceName : Parser code String) := by
  unfold Grammar.sourceName
  refine .skip .kind fun kind => ?_
  split
  · refine .skip .advance fun _ => ?_
    exact .done _
  · exact .unexpected _

theorem nameList {α : Type} {item : Parser code α} (hitem : IsQuiet item) :
    IsQuiet (Grammar.nameList item) := by
  unfold Grammar.nameList
  refine .skip (.expect _) fun _ => ?_
  have hguarded : IsQuiet (do
      if ← Parser.isAtEnd then Parser.failExpected "\x7d"
      item) := by
    refine .skip .isAtEnd fun isEnd => ?_
    refine .when (fun _ => .failExpected _) ?_
    exact hitem
  refine .skip (IsQuiet.of_gathers (.commaSeparated (.isAt _) hguarded)) fun items => ?_
  refine .skip (.expect _) fun _ => ?_
  exact .done _

/-- A name and the one behind `as` are read. -/
theorem renamedName {second : Parser code (ModuleName code)} (hsecond : IsQuiet second)
    (original : ModuleName code) (isType : Bool) :
    IsQuiet (Grammar.renamedName second original isType) := by
  unfold Grammar.renamedName
  refine .skip (.eatWord _) fun isThere => ?_
  refine .ite (fun _ => ?_) fun _ => .done _
  refine .skip hsecond fun name => ?_
  exact .done _

/-- A name behind the word `type` is read. -/
theorem markedName {second : Parser code (ModuleName code)} (hsecond : IsQuiet second)
    (mark : ModuleName code) : IsQuiet (Grammar.markedName second mark) := by
  unfold Grammar.markedName
  refine .skip (.isAtWord _) fun isThere => ?_
  refine .ite (fun _ => ?_) fun _ => ?_
  · refine .skip .moduleName fun other => ?_
    refine .skip .isAtAnyWord fun isWord => ?_
    refine .ite (fun _ => ?_) fun _ => .done _
    refine .skip (.isAtWord _) fun isAs => ?_
    refine .skip hsecond fun third => ?_
    refine .skip .isAtAnyWord fun isFurther => ?_
    refine .ite (fun _ => ?_) fun _ => .done _
    refine .skip hsecond fun name => ?_
    exact .done _
  · refine .skip .moduleName fun name => ?_
    exact renamedName hsecond name true

theorem listedName {second : Parser code (ModuleName code)} (hsecond : IsQuiet second) :
    IsQuiet (Grammar.listedName second) := by
  unfold Grammar.listedName
  refine .skip (.isAtWord _) fun isMark => ?_
  refine .skip .moduleName fun first => ?_
  refine .skip .isAtAnyWord fun isThere => ?_
  exact .ite (fun _ => markedName hsecond first) fun _ => renamedName hsecond first false

/-! ## Imports -/

theorem importItem : IsQuiet (Grammar.importItem : Parser code ImportBinding) := by
  unfold Grammar.importItem
  refine .skip (.isAtWord _) fun isMark => ?_
  refine .skip .following fun next => ?_
  split
  · refine .skip .advance fun _ => ?_
    refine .skip .advance fun _ => ?_
    refine .skip (.expectWord _) fun _ => ?_
    refine .skip (.name _) fun name => ?_
    exact .done _
  · have hname : IsQuiet (ModuleName.word <$> Grammar.name true : Parser code (ModuleName code)) :=
      .map (.quiet (.name _))
    refine .skip (.listedName hname) fun item => ?_
    split
    · exact .done _
    · refine .when (fun _ => .failAt _ _) ?_
      exact .done _
    · exact .failAt _ _

/-- What an import binds in front of its source is read. -/
theorem importList (phase : ImportPhase) :
    IsQuiet (Grammar.importList phase : Parser code (List ImportBinding)) := by
  unfold Grammar.importList
  refine .skip (.eat _) fun isWhole => ?_
  refine .ite (fun _ => ?_) fun _ => ?_
  · refine .skip (.expectWord _) fun _ => ?_
    refine .skip (.name _) fun name => ?_
    exact .done _
  · refine .skip (.isAt _) fun isList => ?_
    exact .ite (fun _ => nameList importItem) fun _ => .done _

theorem startsDefaultBinding : IsQuiet (Grammar.startsDefaultBinding : Parser code Bool) := by
  unfold Grammar.startsDefaultBinding
  refine .skip .isAtReference fun isThere => ?_
  refine .skip (.isAtWord _) fun isFrom => ?_
  refine .skip .following fun next => ?_
  exact .done _

/-- The start of a list of imported names is looked for. -/
theorem startsImportList : IsQuiet (Grammar.startsImportList : Parser code Bool) := by
  unfold Grammar.startsImportList
  refine .skip (.isAt _) fun isStar => ?_
  refine .skip (.isAt _) fun isBrace => ?_
  exact .done _

/-- The default binding behind the word `type` is read. -/
theorem typeBinding (mark : Ident code) : IsQuiet (Grammar.typeBinding mark) := by
  unfold Grammar.typeBinding
  refine .skip .startsImportList fun isList => ?_
  refine .ite (fun _ => .done _) fun _ => ?_
  refine .skip .startsDefaultBinding fun isBinding => ?_
  refine .ite (fun _ => ?_) fun _ => ?_
  · refine .skip (.name _) fun name => ?_
    exact .done _
  refine .skip .isAtReference fun isThere => ?_
  refine .skip .following fun next => ?_
  refine .ite (fun _ => ?_) fun _ => .done _
  refine .skip .anyName fun name => ?_
  exact .done _

theorem phasedBinding (ident : Ident code) : IsQuiet (Grammar.phasedBinding ident) := by
  unfold Grammar.phasedBinding
  split
  · refine .skip .startsImportList fun isList => ?_
    refine .ite (fun _ => .done _) fun _ => ?_
    refine .skip .startsDefaultBinding fun isBinding => ?_
    refine .ite (fun _ => ?_) fun _ => .done _
    refine .skip (.name _) fun name => ?_
    exact .done _
  · exact .done _

theorem defaultBinding : IsQuiet (Grammar.defaultBinding : Parser code (DefaultBinding code)) := by
  unfold Grammar.defaultBinding
  refine .skip .isAtReference fun isThere => ?_
  refine .ite (fun _ => ?_) fun _ => .done _
  refine .skip (.isAtWord _) fun isMark => ?_
  refine .skip (.name _) fun first => ?_
  refine .readEither (fun _ => typeBinding first) (fun _ => .done _) fun found => ?_
  beta_reduce
  split
  · exact .done _
  · refine .skip (.isAt _) fun isAlias => ?_
    exact .ite (fun _ => .done _) fun _ => phasedBinding _

theorem importedNames : IsQuiet
    (Grammar.importedNames : Parser code (DefaultBinding code × List ImportBinding)) := by
  unfold Grammar.importedNames
  refine .skip .defaultBinding fun first => ?_
  split
  · exact .done _
  · refine .skip (.isAtWord _) fun isFrom => ?_
    refine .whenNot (fun _ => .expect _) ?_
    refine .skip (.importList _) fun names => ?_
    exact .done _
  · refine .skip (.importList _) fun names => ?_
    exact .done _

theorem exportItem (allTypes : Bool) :
    IsQuiet (Grammar.exportItem allTypes : Parser code ExportBinding) := by
  unfold Grammar.exportItem
  refine .skip (.listedName .moduleName) fun item => ?_
  exact .done _

/-- An expression behind `import` is looked for. -/
theorem startsImportExpression : IsQuiet (Grammar.startsImportExpression : Parser code Bool) := by
  unfold Grammar.startsImportExpression
  refine .skip .following fun next => ?_
  exact .done _

end IsQuiet

namespace Gathers

/-- An import by another name holds nothing but its name. -/
theorem importAlias (start : Nat) (ident : Ident code) :
    Gathers [] (Grammar.importAlias start ident) fun node => [node] := by
  unfold Grammar.importAlias
  refine .skip (.expect _) fun _ => ?_
  refine .skip (.isAtWord _) fun isRequire => ?_
  refine .skip .following fun next => ?_
  extract_lets -underBinder last
  have hlast : Gathers [] (last ()) fun node => [node] := by
    refine .skip .expectStatementEnd fun _ => ?_
    refine .skip (.spanFrom _) fun span => ?_
    have hname : Follows [] [Node.compound span .element [.identifier ident]] :=
      .trans (.leaf rfl rfl) (.single rfl (.refl _))
    exact .give (hname.trans (.single rfl (.refl _)))
  refine .ite (fun _ => ?_) fun _ => ?_
  · refine .skip .advance fun _ => ?_
    refine .skip .advance fun _ => ?_
    refine .skip .sourceName fun source => ?_
    exact .skip (.expect _) fun _ => hlast
  · exact .skip (.entityName _) fun _ => hlast

variable {rules : Rules code} (h : rules.Gather)
include h

/-- What is said of an imported module is left out. -/
theorem importOptions : IsQuiet (Grammar.importOptions rules) := by
  unfold Grammar.importOptions
  refine .skip .startsLine fun isLine => ?_
  refine .ite (fun _ => .done _) fun _ => ?_
  refine .skip (.eatWord _) fun isAssert => ?_
  refine .skip (.eatWord _) fun isWith => ?_
  refine .ite (fun _ => ?_) fun _ => .done _
  refine .skip (IsQuiet.of_gathers (h _)) fun options => ?_
  exact .done _

theorem fromClause : IsQuiet (Grammar.fromClause rules) := by
  unfold Grammar.fromClause
  refine .skip (.expectWord _) fun _ => ?_
  refine .skip .sourceName fun source => ?_
  refine .skip (.importOptions h) fun _ => ?_
  exact .done _

/-- An import holds no classes. -/
theorem importDeclaration : Gathers [] (Grammar.importDeclaration rules) fun node => [node] := by
  unfold Grammar.importDeclaration
  refine .skip .here fun start => ?_
  refine .skip .advance fun _ => ?_
  refine .skip .kind fun kind => ?_
  split
  · refine .skip .advance fun _ => ?_
    refine .skip (.importOptions h) fun _ => ?_
    refine .skip .eatStatementEnd fun isOver => ?_
    exact .node (fun _ => rfl) fun _ => .refl _
  · refine .skip .importedNames fun names => ?_
    split
    · exact .importAlias start _
    · refine .skip (.fromClause h) fun source => ?_
      refine .skip .expectStatementEnd fun _ => ?_
      exact .node (fun _ => rfl) fun _ => .refl _

/-- An expression that starts with `import` is gathered. -/
theorem importStatement : Gathers [] (Grammar.importStatement rules) fun node => [node] := by
  unfold Grammar.importStatement
  refine .read (h _) fun node => ?_
  refine .skip .eatStatementEnd fun isOver => ?_
  exact .give (.refl _)

/-! ## Exports -/

/-- The source of an export holds no classes. -/
theorem exportSource (start : Nat) :
    Gathers [] (Grammar.exportSource rules start) fun node => [node] := by
  unfold Grammar.exportSource
  refine .skip (.fromClause h) fun source => ?_
  refine .skip .expectStatementEnd fun _ => ?_
  exact .node (fun _ => rfl) fun _ => .refl _

/-- An export of names holds no classes. -/
theorem exportList (start : Nat) (allTypes : Bool) :
    Gathers [] (Grammar.exportList rules start allTypes) fun node => [node] := by
  unfold Grammar.exportList
  refine .skip (.eat _) fun isWhole => ?_
  refine .ite (fun _ => ?_) fun _ => ?_
  · refine .skip (.eatWord _) fun isNamed => ?_
    refine .ite (fun _ => ?_) fun _ => .exportSource h start
    exact .skip .moduleName fun name => .exportSource h start
  · refine .skip (.nameList (.exportItem _)) fun names => ?_
    refine .skip (.isAtWord _) fun isFrom => ?_
    refine .ite (fun _ => .exportSource h start) fun _ => ?_
    refine .skip .eatStatementEnd fun isOver => ?_
    exact .node (fun _ => rfl) fun _ => .refl _

/-- Decorators are kept from in front of the words of an export or from behind them. -/
theorem laterDecorators (earlier : List (Node code)) :
    Gathers earlier (Grammar.laterDecorators rules earlier) fun nodes => nodes := by
  unfold Grammar.laterDecorators
  refine .skip .here fun start => ?_
  refine .read (.decorators h) fun later => ?_
  refine .ite (fun _ => .give (.of_sublist (List.sublist_append_left _ _))) fun _ => ?_
  refine .whenNot (fun _ => .failAt _ _) ?_
  exact .give (.of_sublist (List.sublist_append_right _ _))

theorem defaultValue (earlier : List (Node code)) :
    Gathers earlier (Grammar.defaultValue rules earlier) fun node => [node] := by
  unfold Grammar.defaultValue
  refine .bind (.laterDecorators h earlier) fun decorators => ?_
  refine .skip .here fun start => ?_
  refine .skip .following fun next => ?_
  refine .skip (.isAtWord _) fun isAbstract => ?_
  -- what is no class loses its decorators
  have hnone : Follows decorators [] := .nil
  refine .ite (fun _ => .skip .advance fun _ => .classDefinition h start true false _) fun _ => ?_
  refine .when (fun _ => .advance) ?_
  refine .skip (.eatWord _) fun isInterface => ?_
  refine .ite (fun _ => .follow (.interface h start) hnone) fun _ => ?_
  refine .skip (.isAtWord _) fun isClass => ?_
  refine .ite (fun _ => .classDefinition h start true false _) fun _ => ?_
  refine .follow ?_ hnone
  refine .skip .startsAsyncFunction fun isAsync => ?_
  refine .ite (fun _ => .skip .advance fun _ => .functionDefinition h start true _) fun _ => ?_
  refine .skip (.isAtWord _) fun isFunction => ?_
  refine .ite (fun _ => .functionDefinition h start false _) fun _ => ?_
  refine .read (.enclosed (h _)) fun value => ?_
  refine .skip .expectStatementEnd fun _ => ?_
  exact .give (.refl _)

/-- A declaration that is exported is gathered, or none with the decorators. -/
theorem exportedDeclaration (decorators : List (Node code)) :
    Gathers decorators (Grammar.exportedDeclaration rules decorators)
      fun found => found.elim decorators fun node => [node] := by
  unfold Grammar.exportedDeclaration
  refine .skip .here fun start => ?_
  refine .skip (.isAtWord _) fun isClass => ?_
  refine .ite (fun _ => .map (.classDefinition h start true true decorators)) fun _ => ?_
  refine .skip .startsAsyncFunction fun isAsync => ?_
  refine .ite (fun _ => ?_) fun _ => ?_
  · refine .skip .advance fun _ => ?_
    exact .undecorated (.functionDefinition h start true _) decorators
  refine .skip (.isAtWord _) fun isFunction => ?_
  refine .ite (fun _ => .undecorated (.functionDefinition h start false _) decorators) fun _ => ?_
  refine .skip .startsConstEnumeration fun isConst => ?_
  refine .ite (fun _ => .undecorated (.constEnumeration h start) decorators) fun _ => ?_
  refine .skip .variableKind? fun kind => ?_
  split
  · exact .give (.refl _)
  · exact .give (.refl _)
  · exact .undecorated (.variableDeclaration h _) decorators

/-- An export that stands for a whole module is gathered, or none with the decorators. -/
theorem wholeExport (start : Nat) (decorators : List (Node code)) :
    Gathers decorators (Grammar.wholeExport rules start)
      fun found => found.elim decorators fun node => [node] := by
  unfold Grammar.wholeExport
  refine .skip (.eatWord _) fun isImport => ?_
  refine .ite (fun _ => ?_) fun _ => ?_
  · refine .follow ?_ .nil
    refine .skip (.isAtWord _) fun isType => ?_
    refine .skip .following fun next => ?_
    extract_lets -underBinder isMarked
    refine .when (fun _ => .advance) ?_
    refine .skip .anyName fun ident => ?_
    exact .map (.importAlias start ident)
  refine .skip (.eat _) fun isAssigned => ?_
  refine .ite (fun _ => ?_) fun _ => ?_
  · refine .follow (.read (h _) fun value => ?_) .nil
    refine .skip .expectStatementEnd fun _ => ?_
    refine .skip (.spanFrom _) fun span => ?_
    exact .give (.single rfl (.refl _))
  refine .skip (.eatWord _) fun isNamespace => ?_
  refine .ite (fun _ => ?_) fun _ => .give (.refl _)
  refine .skip (.expectWord _) fun _ => ?_
  refine .skip (.name _) fun name => ?_
  refine .skip .expectStatementEnd fun _ => ?_
  refine .skip (.spanFrom _) fun span => ?_
  exact .give (.leaf rfl rfl)

/-- An export holds what it declares. -/
theorem exportDeclaration (decorators : List (Node code)) :
    Gathers decorators (Grammar.exportDeclaration rules decorators) fun node => [node] := by
  unfold Grammar.exportDeclaration
  refine .skip .here fun start => ?_
  refine .skip .advance fun _ => ?_
  refine .skip .isAtEnd fun isEnd => ?_
  refine .when (fun _ => .failAtEnd) ?_
  refine .skip .here fun declaredStart => ?_
  refine .skip (.eatWord _) fun isAmbient => ?_
  extract_lets -underBinder last
  -- all that can follow where nothing is declared to be ambient
  have hlast : Gathers decorators (last ()) fun node => [node] := by
    refine .skip .here fun wordStart => ?_
    have hcertain := Gathers.forgetting (certainDeclaration h wordStart decorators)
    refine .bind (.attempt hcertain) fun found => ?_
    split
    · exact .node (fun _ => rfl) fun _ => .refl _
    refine .bind (.wholeExport h start decorators) fun found => ?_
    split
    · exact .give (.refl _)
    refine .skip (.eatWord _) fun isType => ?_
    refine .ite (fun _ => .follow (.exportList h start true) .nil) fun _ => ?_
    refine .skip (.eatWord _) fun isDefault => ?_
    refine .ite (fun _ => ?_) fun _ => ?_
    · refine .bind (.defaultValue h decorators) fun value => ?_
      exact .node (fun _ => rfl) fun _ => .refl _
    refine .bind (.laterDecorators h decorators) fun later => ?_
    refine .bind (.exportedDeclaration h later) fun found => ?_
    split
    · exact .node (fun _ => rfl) fun _ => .refl _
    · exact .follow (.exportList h start false) .nil
  refine .ite (fun _ => ?_) fun _ => hlast
  refine .bind (.ambientDeclaration h declaredStart decorators) fun found => ?_
  split
  · exact .node (fun _ => rfl) fun _ => .refl _
  · exact hlast

/-! ## Items -/

theorem statement (inList : Bool) :
    Gathers [] (Grammar.statement rules inList) fun node => [node] := by
  unfold Grammar.statement
  refine .read (.decorators h) fun decorators => ?_
  refine .skip (.isAtWord _) fun isImport => ?_
  extract_lets -underBinder last
  have hlast : Gathers ([] ++ decorators) (last ()) fun node => [node] := by
    refine .skip (.isAtWord _) fun isExport => ?_
    refine .when (fun _ => .fail _) ?_
    exact .plainStatement h inList decorators
  refine .ite (fun _ => ?_) fun _ => hlast
  refine .skip .startsImportExpression fun isExpression => ?_
  refine .ite (fun _ => .follow (.importStatement h) .nil) fun _ => ?_
  exact .bind (.fail _) fun _ => hlast

theorem moduleItem : Gathers [] (Grammar.moduleItem rules) fun node => [node] := by
  unfold Grammar.moduleItem
  refine .read (.decorators h) fun decorators => ?_
  refine .skip (.isAtWord _) fun isImport => ?_
  refine .ite (fun _ => ?_) fun _ => ?_
  · refine .follow (.skip .startsImportExpression fun isExpression => ?_) .nil
    exact .ite (fun _ => .importStatement h) fun _ => .importDeclaration h
  refine .skip (.isAtWord _) fun isExport => ?_
  refine .ite (fun _ => .exportDeclaration h decorators) fun _ => ?_
  exact .plainStatement h true decorators

/-! ## The grammar -/

/-- A layer of the grammar gathers what it reads. -/
theorem layer : (Grammar.layer rules).Gather
  | .expression => .expression h
  | .assignment => .assignment h
  | .binary => .binary h
  | .operand level => .operand h level
  | .unary => .unary h
  | .leftHandSide => .leftHandSide h
  | .constructed => .constructed h
  | .binding => .binding h
  | .decorator => .decorator h
  | .heritage => .heritage h
  | .object => .objectLiteral h
  | .type => .type h
  | .boundType => .boundType h
  | .statement => .statement h true
  | .substatement => .statement h false
  | .item => .moduleItem h
  | .markup => .element h false
  | .innerMarkup => .element h true

/-- The items of a text stand one behind the other. -/
theorem items : Gathers [] (TypeScript.items rules) fun nodes => nodes := by
  unfold TypeScript.items
  have hitem : Gathers [] (do
      if ← Parser.isAtEnd then return none else return some (← rules .item))
      fun found => found.elim [] fun node => [node] := by
    refine .skip .isAtEnd fun isEnd => ?_
    refine .ite (fun _ => .give (.refl _)) fun _ => ?_
    refine .map ?_
    exact h _
  exact (Gathers.many hitem).follow_after fun nodes => .of_sublist (by simp)

end Gathers

/-- The grammar of any depth gathers what it reads. -/
theorem gather_grammar (depth : Nat) : (grammar depth : Rules code).Gather := by
  induction depth with
  | zero => exact fun _ => .fail _
  | succ depth ih => exact .layer ih

/-- The items of a text form a row. -/
theorem isRow_of_parse {markup : Bool} {nodes : List (Node code)}
    (h : parse code markup = .ok nodes) : IsRow nodes := by
  have hitems := Gathers.items (gather_grammar (8 * (code.length + 8))) (.start code markup) 0 []
    (State.isSound_start code markup) (Nat.zero_le _) .nil
  unfold parse at h
  cases hrun : TypeScript.items (grammar (8 * (code.length + 8))) (.start code markup) with
  | failed fault next =>
      rw [hrun] at h
      cases h
  | done found next =>
      rw [hrun] at h hitems
      cases h
      exact hitems.2.isRow

end ClassRegistry.TypeScript
