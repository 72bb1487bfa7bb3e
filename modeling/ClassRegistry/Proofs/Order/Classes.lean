import ClassRegistry.Proofs.Order.Types
import ClassRegistry.TypeScript.Grammar.Class

/-!
# Functions and classes in the order of the text

A function is walked from its parameters on and a class from its members on, whatever stands before
these. So their parts are gathered in the order of the text, and then put together in another one.
-/

namespace ClassRegistry.TypeScript

variable {code : Code}

/-! ## Functions -/

/-- The parts of a function in the order that they are written in. -/
def Grammar.FunctionParts.nodes (parts : Grammar.FunctionParts code) : List (Node code) :=
  parts.typeParameters ++ Grammar.parameterNodes parts.parameters ++ parts.result ++ parts.body

namespace Gathers

variable {α : Type} {before : List (Node code)} {p : Parser code α} {after : α → List (Node code)}

theorem inParameters (kind : Grammar.FunctionKind) (h : Gathers before p after) :
    Gathers before (Grammar.inParameters kind p) after :=
  h.withFlags _

theorem inBody (kind : Grammar.FunctionKind) (h : Gathers before p after) :
    Gathers before (Grammar.inBody kind p) after :=
  (h.withFlags _).withArrowStart _

/-- The items of a block stand one behind the other. -/
theorem blockItems {item : Rule code} (h : Gathers [] item fun node => [node]) :
    Gathers [] (Grammar.blockItems item) fun nodes => nodes := by
  unfold Grammar.blockItems
  have hitem : Gathers [] (do
      if (← Parser.isAt .braceClose) || (← Parser.isAtEnd) then return none
      else return some (← item)) fun found => found.elim [] fun node => [node] := by
    refine .skip (.isAt _) fun isClosed => ?_
    refine .skip .isAtEnd fun isEnd => ?_
    refine .ite (fun _ => .give (.refl _)) fun _ => ?_
    refine .read h fun node => ?_
    exact .give (.refl _)
  refine .read (.many hitem) fun items => ?_
  refine .skip (.eat _) fun isClosed => ?_
  exact .give (.of_sublist (by simp))

variable {rules : Rules code} (h : rules.Gather)
include h

/-- The statements of a block stand one behind the other. -/
theorem block : Gathers [] (Grammar.block rules) fun node => [node] := by
  unfold Grammar.block
  refine .skip .here fun start => ?_
  refine .read (.enclosed (?_ : Gathers [] _ fun nodes => nodes)) fun items => ?_
  · refine .skip (.expect _) fun _ => ?_
    exact .blockItems (h _)
  · exact .node (fun _ => rfl) fun _ => .refl _

theorem functionBody : Gathers [] (Grammar.functionBody rules) fun nodes => nodes := by
  unfold Grammar.functionBody
  refine .skip (.isAt _) fun isThere => ?_
  refine .ite (fun _ => ?_) fun _ => ?_
  · refine .read (.block h) fun body => ?_
    exact .give (.refl _)
  · refine .skip .eatStatementEnd fun isOver => ?_
    refine .whenNot (fun _ => .failExpected _) ?_
    exact .give (.refl _)

/-- The parts of a function stand one behind the other. -/
theorem functionParts (kind : Grammar.FunctionKind) :
    Gathers [] (Grammar.functionParts rules kind) fun parts => parts.nodes := by
  unfold Grammar.functionParts
  refine .read (.typeParameters h) fun typeParameters => ?_
  refine .read (.inParameters kind (?_ : Gathers [] _ Grammar.parameterNodes)) fun parameters => ?_
  · refine .skip (.expect _) fun _ => ?_
    exact .parameters h
  refine .skip (.expect _) fun _ => ?_
  refine .read (.resultBehind h) fun result => ?_
  refine .read (.inBody kind (.functionBody h)) fun body => ?_
  exact .give (.refl _)

/-- A function holds its decorators and its parts; what else stands before them stays by its side.
-/
theorem functionRest {kept : List (Node code)} (start : Nat) (kind : Grammar.FunctionKind)
    (name : Option (Ident code)) (decorators : List (Node code)) :
    Gathers (decorators ++ kept) (Grammar.functionRest rules start kind name decorators)
      fun node => [loose (node :: kept)] := by
  unfold Grammar.functionRest
  refine .read (.functionParts h kind) fun parts => ?_
  refine .skip (.spanFrom _) fun span => ?_
  have hnode : Follows (decorators ++ kept ++ parts.nodes) [.function span name decorators
      (Grammar.parameterNodes parts.parameters) (parts.typeParameters ++ parts.result)
      parts.body] := by
    refine .around (.of_subset fun x => ?_) (List.nil_subset _) ?_ trivial
    · simp only [Node.children, Grammar.FunctionParts.nodes, List.mem_append]
      tauto
    · have hread : (decorators ++ (parts.typeParameters ++
          Grammar.parameterNodes parts.parameters ++ parts.result) ++ parts.body).Sublist
          (decorators ++ kept ++ parts.nodes) := by
        rw [Grammar.FunctionParts.nodes, ← List.append_assoc (decorators ++ kept)]
        exact ((List.sublist_append_left _ _).append_right _).append_right _
      refine .trans (.of_sublist hread) (.append (.append (.refl _) (.loosely ?_)) (.refl _))
      refine .of_subset fun x => ?_
      simp only [List.mem_append]
      tauto
  refine .give (.loosely (hnode.covers.both (.of_subset ?_)))
  simp

/-- A function that starts with `function` is gathered. -/
theorem functionDefinition (start : Nat) (isAsync : Bool) (role : Grammar.FunctionRole) :
    Gathers [] (Grammar.functionDefinition rules start isAsync role) fun node => [node] := by
  unfold Grammar.functionDefinition
  refine .skip (.expectWord _) fun _ => ?_
  refine .skip (.eat _) fun isGenerator => ?_
  have hname : IsQuiet (some <$> Grammar.name true : Parser code (Option (Ident code))) :=
    .map (.quiet (.name _))
  refine .readEither (fun _ => hname) (fun _ => IsQuiet.of_gathers .optionalName) fun name => ?_
  refine .bind (.withFlags _ (.functionRest h start _ name [])) fun node => ?_
  have hnode : Follows [loose [node]] [node] := .part (List.mem_singleton_self node)
  split
  · exact .unexpected _
  · exact .give hnode

omit h in
/-- A function behind `async` is looked for. -/
theorem startsAsyncFunction : IsQuiet (Grammar.startsAsyncFunction : Parser code Bool) := by
  unfold Grammar.startsAsyncFunction
  refine .skip .following fun next => ?_
  refine .skip (.isAtWord _) fun isAsync => ?_
  exact .done _

theorem arrowBody (isAsync : Bool) :
    Gathers [] (Grammar.arrowBody rules isAsync) fun node => [node] := by
  unfold Grammar.arrowBody
  refine .inBody _ ?_
  refine .skip (.isAt _) fun isBlock => ?_
  exact .ite (fun _ => .block h) fun _ => h _

end Gathers

/-! ## Heritage -/

/-- The nodes of a superclass that may be missing. -/
def superclassNodes (found : Option (Node code × Option (Node code))) : List (Node code) :=
  found.elim [] fun found => found.1 :: found.2.toList

/-- A class has its name, its heritage and its members, and the decorators before them. -/
theorem follows_classDefinition {span : Span} {isDeclaration : Bool}
    {name : Option (Ident code)} {decorators typeParameters implemented members : List (Node code)}
    {superclass : Option (Node code × Option (Node code))} :
    Follows (decorators ++ name.toList.map className ++ typeParameters ++
        [loose (superclassNodes superclass ++ implemented)] ++ members)
      [.classDefinition span isDeclaration name decorators typeParameters
        (superclass.map fun found => found.1) (superclass.bind fun found => found.2)
        implemented members] := by
  refine .around ?_ ?_ ?_ trivial
  · have hparts : Covers [loose (superclassNodes superclass ++ implemented)]
        (superclassNodes superclass ++ implemented) := .children (loose _)
    refine (((Covers.of_subset (.refl _)).append hparts).append (.of_subset (.refl _))).subset ?_
    intro x
    cases superclass <;> simp [Node.children, superclassNodes] <;> tauto
  -- only a declaration with a name has its own place
  · intro x hx
    cases name with
    | none => cases isDeclaration <;> cases hx
    | some name =>
        refine List.mem_flatMap.mpr ⟨className name, by simp, ?_⟩
        rw [classStarts_className]
        cases isDeclaration with
        | true => exact hx
        | false => cases hx
  · have hheritage : superclassNodes superclass = (superclass.map fun found => found.1).toList ++
        (superclass.bind fun found => found.2).toList := by
      cases superclass <;> rfl
    rw [hheritage]
    exact .refl _

namespace Gathers

variable {rules : Rules code} (h : rules.Gather)
include h

/-- A superclass with its type arguments. -/
theorem superclass :
    Gathers [] (Grammar.superclass rules) fun found => found.1 :: found.2.toList := by
  unfold Grammar.superclass
  refine .read (h _) fun node => ?_
  split
  · exact .give (.children rfl)
  · refine .skip (.isAt _) fun isGeneric => ?_
    refine .ite (fun _ => ?_) fun _ => .give (.refl _)
    refine .read (.typeArguments h) fun arguments => ?_
    exact .give (.refl _)

omit h in
/-- The end of a list of interfaces is looked for. -/
theorem isAtHeritageEnd : IsQuiet (Grammar.isAtHeritageEnd : Parser code Bool) := by
  unfold Grammar.isAtHeritageEnd
  refine .skip (.isAt _) fun isBrace => ?_
  refine .skip (.isAtWord _) fun isImplements => ?_
  refine .skip (.isAtWord _) fun isExtends => ?_
  exact .done _

/-- Interfaces stand one behind the other. -/
theorem interfaces : Gathers [] (Grammar.interfaces rules) fun nodes => nodes :=
  (commaSeparated isAtHeritageEnd (h .heritage)).follow_after fun nodes => .of_sublist (by simp)

/-- Interfaces behind a word stand one behind the other. -/
theorem heritageList (word : Keyword) :
    Gathers [] (Grammar.heritageList rules word) fun nodes => nodes := by
  unfold Grammar.heritageList
  refine .skip (.eatWord _) fun isThere => ?_
  exact .ite (fun _ => .interfaces h) fun _ => .give (.refl _)

/-- A superclass that may be missing. -/
theorem optionalSuperclass : Gathers [] (Grammar.optionalSuperclass rules) superclassNodes := by
  unfold Grammar.optionalSuperclass
  refine .skip (.eatWord _) fun isThere => ?_
  refine .ite (fun _ => ?_) fun _ => .give (.refl _)
  refine .read (.superclass h) fun found => ?_
  exact .give (.refl _)

/-- What a class extends and implements. -/
theorem classHeritage : Gathers [] (Grammar.classHeritage rules)
    fun found => [loose (superclassNodes found.1 ++ found.2)] := by
  unfold Grammar.classHeritage
  refine .read (.optionalSuperclass h) fun first => ?_
  extract_lets -underBinder last
  have hlast : Gathers (superclassNodes first) (last ()) fun found =>
      [loose (superclassNodes found.1 ++ found.2)] := by
    refine .skip (IsQuiet.of_gathers (.optionalSuperclass h)) fun _ => ?_
    refine .read (.heritageList h _) fun implemented => ?_
    refine .skip (IsQuiet.of_gathers (.heritageList h _)) fun _ => ?_
    refine .read (.optionalSuperclass h) fun last => ?_
    refine .give (.loosely (.of_subset fun x => ?_))
    cases first <;> simp only [Option.orElse_eq_orElse, Option.orElse, superclassNodes,
      List.mem_append] <;> tauto
  refine .ite (fun _ => ?_) fun _ => hlast
  refine .skip (.eat _) fun isComma => ?_
  exact .ite (fun _ => .skip (IsQuiet.of_gathers (.interfaces h)) fun _ => hlast) fun _ => hlast

end Gathers

/-! ## Members -/

namespace IsQuiet

theorem startsMethod : IsQuiet (Grammar.startsMethod : Parser code Bool) := by
  unfold Grammar.startsMethod
  refine .skip (.isAt _) fun isBracket => ?_
  refine .skip (.isAt _) fun isGeneric => ?_
  exact .done _

theorem startsField (mayEndLine : Bool) :
    IsQuiet (Grammar.startsField mayEndLine : Parser code Bool) := by
  unfold Grammar.startsField
  refine .skip .kind fun kind => ?_
  split
  · exact .done _
  · exact .done _
  · exact .done _
  · exact .done _
  · exact .done _
  · exact .ite (fun _ => .quiet .isAtStatementEnd) fun _ => .done _

theorem eatMark (word : Keyword) (mayEndLine : Bool) :
    IsQuiet (Grammar.eatMark word mayEndLine : Parser code Bool) := by
  unfold Grammar.eatMark
  refine .skip (.isAtWord _) fun isWord => ?_
  refine .skip (.lookahead _) fun isKey => ?_
  refine .ite (fun _ => ?_) fun _ => .done _
  refine .skip .advance fun _ => ?_
  exact .done _

/-- A modifier of a member is read if it is there. -/
theorem memberModifier? : IsQuiet (Grammar.memberModifier? : Parser code (Option Keyword)) := by
  unfold Grammar.memberModifier?
  refine .skip (.isAtWord _) fun isStatic => ?_
  refine .skip .following fun next => ?_
  exact .ite (fun _ => .done _) fun _ => .quiet (.modifier? _)

theorem memberMarks : IsQuiet (Grammar.memberMarks : Parser code Grammar.MemberMarks) := by
  unfold Grammar.memberMarks
  refine .skip (.eatMark _ _) fun isDeclared => ?_
  refine .skip .access fun hasAccess => ?_
  extract_lets -underBinder further
  have hfurther : IsQuiet (further ()) := by
    refine .skip (.eatMark _ _) fun isStatic => ?_
    refine .skip (.many .memberModifier?) fun modifiers => ?_
    refine .ite (fun _ => ?_) fun _ => ?_
    · refine .skip (.eatMark _ _) fun isAccessor => ?_
      exact .done _
    · refine .skip .following fun next => ?_
      refine .ite (fun _ => ?_) fun _ => .done _
      refine .skip (.eatWord _) fun isAccessor => ?_
      exact .done _
  exact .ite (fun _ => hfurther) fun _ => .skip (.eatMark _ _) fun _ => hfurther

end IsQuiet

namespace Gathers

variable {rules : Rules code} (h : rules.Gather)
include h

/-- A property holds its key, its type and its value, and the decorators before them. -/
theorem fieldRest (start : Nat) (decorators : List (Node code)) (key : Node code)
    (isOptional : Bool) : Gathers (decorators ++ [key])
      (Grammar.fieldRest rules start decorators key isOptional) fun node => [node] := by
  unfold Grammar.fieldRest
  refine .when (fun _ => .failAt _ _) ?_
  beta_reduce
  extract_lets -underBinder last
  have hlast : Gathers (decorators ++ [key]) (last ()) fun node => [node] := by
    refine .read (.typeBehind h) fun annotation => ?_
    refine .read (.initializer h) fun value => ?_
    refine .skip .eatStatementEnd fun isOver => ?_
    refine .whenNot (fun _ => .skipBroken) ?_
    refine .skip (.spanFrom _) fun span => ?_
    refine .give (.around (.of_subset fun x => ?_) (List.nil_subset _) (.refl _) trivial)
    simp only [Node.children, List.mem_append, List.mem_cons]
    tauto
  exact .ite (fun _ => hlast) fun _ => .skip (.eat _) fun _ => hlast

/-- A method holds its key and what follows, and the decorators before them. -/
theorem methodRest (start : Nat) (kind : Grammar.FunctionKind) (decorators : List (Node code))
    (key : Node code) : Gathers (decorators ++ [key])
      (Grammar.methodRest rules start kind decorators key) fun node => [node] := by
  unfold Grammar.methodRest
  refine .bind (.functionRest h start kind none decorators) fun method => ?_
  refine .mixed (fun _ => rfl) fun _ => (Covers.children (loose [method, key])).subset ?_
  simp [Node.children, loose]

/-- A constructor holds its key, its parameters and its body. -/
theorem constructorRest (start : Nat) (key : Node code) :
    Gathers [key] (Grammar.constructorRest rules start key) fun node => [node] := by
  unfold Grammar.constructorRest
  refine .skip (IsQuiet.of_gathers (.typeParameters h)) fun _ => ?_
  refine .skip (.expect _) fun _ => ?_
  refine .read (.enclosed (.commaSeparated (.isAt _) (.constructorParameter h)))
    fun parameters => ?_
  refine .skip (.expect _) fun _ => ?_
  refine .skip (IsQuiet.of_gathers (.typeBehind h)) fun _ => ?_
  refine .read (.inBody _ (.functionBody h)) fun body => ?_
  exact .node (fun _ => rfl) fun _ => by simp [Node.children, List.flatMap_id']

theorem staticBlock : Gathers [] (Grammar.staticBlock rules) fun node => [node] :=
  .withFlags _ (.block h)

theorem keyedMember (start : Nat) (decorators : List (Node code)) (isReadonly : Bool)
    (key : Node code) : Gathers (decorators ++ [key])
      (Grammar.keyedMember rules start decorators isReadonly key) fun node => [node] := by
  unfold Grammar.keyedMember
  refine .skip (.eat _) fun isOptional => ?_
  refine .skip .startsMethod fun isMethod => ?_
  refine .ite (fun _ => ?_) fun _ => ?_
  · refine .when (fun _ => .failAt _ _) ?_
    refine .ite (fun _ => ?_) fun _ => ?_
    · refine .follow (.constructorRest h start key) (.of_sublist ?_)
      exact List.sublist_append_right _ _
    · exact .methodRest h start _ decorators key
  refine .skip .startsLine fun isLine => ?_
  refine .skip (.isAt _) fun isStar => ?_
  refine .skip (.startsField _) fun isPlain => ?_
  refine .skip (.startsField _) fun isField => ?_
  refine .ite (fun _ => .fieldRest h start decorators key isOptional) fun _ => ?_
  -- the key was a word in front of the key, and is no part of the member
  have hdecorators : Follows (decorators ++ [key]) decorators :=
    .of_sublist (List.sublist_append_left _ _)
  refine .follow ?_ hdecorators
  refine .skip .startsLine fun isLine => ?_
  refine .ite (fun _ => ?_) fun _ => .ite (fun _ => ?_) fun _ => .unexpected _
  · refine .skip (.modifier? _) fun override => ?_
    refine .skip (.eat _) fun isGenerator => ?_
    refine .read (.memberKey h) fun key => ?_
    refine .when (fun _ => .failAt _ _) ?_
    refine .when (fun _ => .failAt _ _) ?_
    refine .skip (.eat _) fun isOptional => ?_
    exact .methodRest h start _ decorators key
  · refine .read (.memberKey h) fun key => ?_
    exact .methodRest h start _ decorators key

theorem classMember : Gathers [] (Grammar.classMember rules) fun node => [node] := by
  unfold Grammar.classMember
  refine .skip .here fun start => ?_
  refine .read (.decorators h) fun decorators => ?_
  refine .skip .memberMarks fun marks => ?_
  -- what is no property and no method loses its decorators
  have hnone : Follows ([] ++ decorators) [] := .of_sublist (List.nil_sublist _)
  refine .skip (.isAt _) fun isBlock => ?_
  refine .ite (fun _ => .follow (.staticBlock h) hnone) fun _ => ?_
  refine .skip (.isAtWord _) fun isStatic => ?_
  refine .skip .following fun next => ?_
  refine .ite (fun _ => .skip .advance fun _ => .follow (.staticBlock h) hnone) fun _ => ?_
  refine .skip (.lookahead _) fun isIndex => ?_
  refine .ite (fun _ => .follow (.indexSignature h) hnone) fun _ => ?_
  refine .skip (.eat _) fun isGenerator => ?_
  refine .ite (fun _ => ?_) fun _ => ?_
  · refine .read (.memberKey h) fun key => ?_
    exact .methodRest h start _ decorators key
  · refine .read (.memberKey h) fun key => ?_
    exact .keyedMember h start decorators _ key

/-- The members of a class stand one behind the other. -/
theorem classMembers : Gathers [] (Grammar.classMembers rules) fun nodes => nodes := by
  unfold Grammar.classMembers
  refine .skip (.expect _) fun _ => ?_
  have hmember : Gathers [] (do
      if ← Parser.isAt .braceClose then return none
      else if ← Parser.eat .semicolon then return some []
      else return some [← Grammar.classMember rules])
      fun found => found.elim [] fun nodes => nodes := by
    refine .skip (.isAt _) fun isOver => ?_
    refine .ite (fun _ => .give (.refl _)) fun _ => ?_
    refine .skip (.eat _) fun isEmpty => ?_
    refine .ite (fun _ => .give (.refl _)) fun _ => ?_
    refine .read (.classMember h) fun member => ?_
    exact .give (.refl _)
  refine .read (.many hmember) fun members => ?_
  refine .skip (.expect _) fun _ => ?_
  exact .give (.of_sublist (by simp))

/-- A class holds its name, its heritage and its members, and the decorators before them. -/
theorem classDefinition (start : Nat) (isDeclaration needsName : Bool)
    (decorators : List (Node code)) : Gathers decorators
      (Grammar.classDefinition rules start isDeclaration needsName decorators)
      fun node => [node] := by
  unfold Grammar.classDefinition
  refine .skip (.expectWord _) fun _ => ?_
  extract_lets -underBinder last
  have hlast : ∀ name, Gathers (decorators ++ name.toList.map className) (last name)
      fun node => [node] := by
    intro name
    refine .read (.typeParameters h) fun typeParameters => ?_
    refine .read (.classHeritage h) fun heritage => ?_
    obtain ⟨superclass, implemented⟩ := heritage
    refine .read (.enclosed (.classMembers h)) fun members => ?_
    refine .skip (.spanFrom _) fun span => ?_
    exact .give follows_classDefinition
  refine .ite (fun _ => ?_) fun _ => .read .optionalName hlast
  refine .skip .failAtLet fun _ => ?_
  have hname : Gathers [] (some <$> Grammar.name true : Parser code (Option (Ident code)))
      fun name => name.toList.map className := .map (.name true)
  exact .read hname hlast

end Gathers

end ClassRegistry.TypeScript
