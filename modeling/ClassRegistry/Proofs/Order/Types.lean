import ClassRegistry.Proofs.Order.Names
import ClassRegistry.TypeScript.Grammar.Type

/-!
# Types in the order of the text

A class stands in a type only within a computed key or within what stands for one. Signatures are
walked with their parameters before their type parameters; all other types are walked as they are
written.
-/

namespace ClassRegistry.TypeScript

variable {code : Code}

/-! ## Arguments and parameters -/

namespace IsQuiet

/-- What a function says of an argument is looked for. -/
theorem startsPredicate : IsQuiet (Grammar.startsPredicate : Parser code Bool) := by
  unfold Grammar.startsPredicate
  refine .skip .following fun next => ?_
  refine .skip .isAtReference fun isThere => ?_
  exact .done _

/-- The end of a member of an interface is read. -/
theorem typeMemberEnd : IsQuiet (Grammar.typeMemberEnd : Parser code Unit) := by
  unfold Grammar.typeMemberEnd
  refine .skip (.eat _) fun isComma => ?_
  exact .ite (fun _ => .done _) fun _ => .quiet .expectStatementEnd

/-- A sign before a modifier of a mapped type is read if it is there. -/
theorem mappedSign : IsQuiet (Grammar.mappedSign : Parser code Bool) := by
  unfold Grammar.mappedSign
  refine .skip (.eat _) fun isPlus => ?_
  refine .skip (.eat _) fun isMinus => ?_
  exact .done _

/-- The names behind the first one of a dotted name are read. -/
theorem furtherNames (mayReserved : Bool) :
    IsQuiet (Grammar.furtherNames mayReserved : Parser code (List (Ident code))) := by
  unfold Grammar.furtherNames
  refine .many ?_
  refine .skip (.eat _) fun isDot => ?_
  refine .ite (fun _ => ?_) fun _ => .done _
  refine .skip .isAtAnyWord fun isWord => ?_
  refine .skip (.isAt _) fun isPrivate => ?_
  refine .ite (fun _ => ?_) fun _ => .done _
  refine .ite (fun _ => ?_) fun _ => ?_
  · refine .skip .anyName fun name => ?_
    exact .done _
  · refine .skip (.name _) fun name => ?_
    exact .done _

theorem entityName (mayReserved : Bool) :
    IsQuiet (Grammar.entityName mayReserved : Parser code (Ident code)) := by
  unfold Grammar.entityName
  refine .skip .anyName fun root => ?_
  refine .skip (.furtherNames _) fun names => ?_
  exact .done _

end IsQuiet

namespace Gathers

theorem angled {α : Type} {p : Parser code α} {found : α → List (Node code)}
    (h : Gathers [] p found) :
    Gathers [] (Grammar.angled p) fun values => values.flatMap found := by
  unfold Grammar.angled
  refine .inType ?_
  refine .skip (.expect _) fun _ => ?_
  refine .read (.commaSeparated (.isAt _) h) fun values => ?_
  refine .skip (.expect _) fun _ => ?_
  exact .give (.refl _)

variable {rules : Rules code} (h : rules.Gather)
include h

/-- Type arguments stand one behind the other. -/
theorem typeArguments : Gathers [] (Grammar.typeArguments rules) fun node => [node] := by
  unfold Grammar.typeArguments
  refine .skip .here fun start => ?_
  refine .read (.angled (h _)) fun arguments => ?_
  exact .node (fun _ => rfl) fun _ => by simp [Node.children]

/-- Type arguments stand one behind the other. -/
theorem separateTypeArguments :
    Gathers [] (Grammar.separateTypeArguments rules) fun node => [node] := by
  unfold Grammar.separateTypeArguments
  refine .skip .here fun start => ?_
  refine .read (.inType (?_ : Gathers [] _ fun nodes => nodes)) fun arguments => ?_
  · refine .skip (.expect _) fun _ => ?_
    refine .read (.commaSeparated (.isAt _) (h _)) fun arguments => ?_
    refine .skip .state fun s => ?_
    refine .whenNot (fun _ => .failExpected _) ?_
    refine .skip (.expect _) fun _ => ?_
    exact .give (.of_sublist (by simp))
  · exact .node (fun _ => rfl) fun _ => .refl _

/-- A type parameter holds its bound and its default. -/
theorem typeParameter : Gathers [] (Grammar.typeParameter rules) fun node => [node] := by
  unfold Grammar.typeParameter
  refine .skip .here fun start => ?_
  refine .skip (.many (.modifier? _)) fun _ => ?_
  refine .skip .anyName fun name => ?_
  refine .skip (.eatWord _) fun isBound => ?_
  refine .readWhen (fun _ => h _) fun bound => ?_
  refine .skip (.eat _) fun isPreset => ?_
  refine .readWhen (fun _ => h _) fun preset => ?_
  exact .node (fun _ => rfl) fun _ => .refl _

/-- Type parameters stand one behind the other. -/
theorem typeParameters : Gathers [] (Grammar.typeParameters rules) fun nodes => nodes := by
  unfold Grammar.typeParameters
  refine .skip (.isAt _) fun isThere => ?_
  refine .ite (fun _ => ?_) fun _ => .give (.refl _)
  exact (angled (.typeParameter h)).follow_after fun nodes => .of_sublist (by simp)

/-! ## Return types -/

theorem returnType (sign : Punctuator) :
    Gathers [] (Grammar.returnType rules sign) fun node => [node] := by
  unfold Grammar.returnType
  refine .inType ?_
  refine .skip (.expect _) fun _ => ?_
  refine .skip .here fun start => ?_
  refine .skip (.isAtWord _) fun isAsserts => ?_
  extract_lets -underBinder further
  have hfurther : ∀ asserts, Gathers [] (further asserts) fun node => [node] := by
    intro asserts
    unfold further
    refine .when (fun _ => .advance) ?_
    refine .skip .startsPredicate fun hasType => ?_
    refine .ite (fun _ => ?_) fun _ => h _
    refine .skip .anyName fun name => ?_
    extract_lets -underBinder last
    have hlast : ∀ claimed, Gathers claimed (last claimed) fun node => [node] := by
      intro claimed
      exact .node (fun _ => rfl) fun _ => .refl _
    refine .ite (fun _ => ?_) fun _ => hlast []
    refine .skip .advance fun _ => ?_
    refine .read (h _) fun type => ?_
    exact hlast [type]
  refine .ite (fun _ => ?_) fun _ => hfurther false
  refine .skip .following fun next => ?_
  split
  · exact hfurther _
  · exact hfurther false

/-- What a function returns is gathered, if it is said. -/
theorem resultBehind :
    Gathers [] ( Grammar.returnAnnotation rules) fun nodes => nodes := by
  unfold Grammar.returnAnnotation
  refine .skip (.isAt _) fun isThere => ?_
  refine .ite (fun _ => ?_) fun _ => .give (.refl _)
  refine .read (.returnType h _) fun type => ?_
  exact .give (.refl _)

/-! ## Signatures -/

/-- The parameters of a signature stand one behind the other. -/
theorem signatureParameters :
    Gathers [] (Grammar.signatureParameters rules) fun parameters => parameters.flatten := by
  unfold Grammar.signatureParameters
  refine .skip (.expect _) fun _ => ?_
  refine .read (.parameters h) fun parameters => ?_
  refine .when (fun _ => .unexpected _) ?_
  refine .skip (.expect _) fun _ => ?_
  exact .give (.of_sublist (sublist_parameterNodes parameters))

/-- A function type holds its parameters, its type parameters and its result. -/
theorem functionType : Gathers [] (Grammar.functionType rules) fun node => [node] := by
  unfold Grammar.functionType
  refine .skip .here fun start => ?_
  refine .read (.typeParameters h) fun types => ?_
  refine .read (.signatureParameters h) fun parameters => ?_
  refine .read (.returnType h _) fun result => ?_
  exact .mixed (fun _ => rfl) fun _ => .of_subset (by simp [Node.children])

/-- An index signature holds the types of its key and of its value. -/
theorem indexSignature : Gathers [] (Grammar.indexSignature rules) fun node => [node] := by
  unfold Grammar.indexSignature
  refine .skip .here fun start => ?_
  refine .skip (.expect _) fun _ => ?_
  refine .skip .anyName fun name => ?_
  refine .skip (.eat _) fun isComma => ?_
  refine .whenNot (fun _ => .expect _) ?_
  refine .read (.inType (h _)) fun keyType => ?_
  refine .skip (.expect _) fun _ => ?_
  refine .read (.typeBehind h) fun valueType => ?_
  refine .skip .typeMemberEnd fun _ => ?_
  exact .node (fun _ => rfl) fun _ => .refl _

/-- A key of an interface holds what is evaluated for it. -/
theorem typeMemberKey : Gathers [] (Grammar.typeMemberKey rules) fun node => [node] := by
  unfold Grammar.typeMemberKey
  refine .skip .here fun start => ?_
  refine .skip .kind fun kind => ?_
  split
  · refine .skip .advance fun _ => ?_
    refine .read (.enclosed (h _)) fun value => ?_
    refine .skip (.expect _) fun _ => ?_
    exact .node (fun _ => rfl) fun _ => .refl _
  · exact h _
  · exact h _
  · refine .skip .memberName fun name => ?_
    exact .node (fun _ => rfl) fun _ => .refl _

/-- A signature holds its parameters, its result and its type parameters. -/
theorem signature : Gathers [] (Grammar.signature rules) fun nodes => [loose nodes] := by
  unfold Grammar.signature
  refine .read (.typeParameters h) fun types => ?_
  refine .read (.signatureParameters h) fun parameters => ?_
  refine .read (.resultBehind h) fun result => ?_
  refine .skip .typeMemberEnd fun _ => ?_
  exact .give (.loosely (.of_subset (by simp)))

/-- The signature of an accessor holds its key and its types. -/
theorem accessorSignature : Gathers [] (Grammar.accessorSignature rules)
    fun found => found.elim [] fun nodes => [loose nodes] := by
  unfold Grammar.accessorSignature
  refine .attempt ?_
  refine .skip (.eatWord _) fun isReader => ?_
  refine .ite (fun _ => ?_) fun _ => ?_
  · refine .read (.typeMemberKey h) fun key => ?_
    refine .skip (.expect _) fun _ => ?_
    refine .skip (.expect _) fun _ => ?_
    refine .read (.typeBehind h) fun result => ?_
    refine .skip .typeMemberEnd fun _ => ?_
    exact .give (.loosely (.of_subset (.refl _)))
  · refine .skip (.expectWord _) fun _ => ?_
    refine .read (.typeMemberKey h) fun key => ?_
    refine .read (.signatureParameters h) fun parameters => ?_
    split
    · exact .give .nil
    · refine .skip .typeMemberEnd fun _ => ?_
      exact .give (.loosely (.of_subset (by simp)))

/-- A property of an interface holds its key and its types. -/
theorem propertySignature (isReadonly : Bool) :
    Gathers [] (Grammar.propertySignature rules isReadonly) fun nodes => [loose nodes] := by
  unfold Grammar.propertySignature
  refine .read (.typeMemberKey h) fun key => ?_
  refine .skip (.eat _) fun isOptional => ?_
  refine .skip (.isAt _) fun isMethod => ?_
  refine .skip (.isAt _) fun isGeneric => ?_
  refine .ite (fun _ => ?_) fun _ => ?_
  · refine .when (fun _ => .fail _) ?_
    refine .read (.signature h) fun parts => ?_
    exact .give (.loosely ((Covers.of_subset (.refl [key])).append (.children (loose parts))))
  · refine .read (.typeBehind h) fun annotation => ?_
    refine .skip .typeMemberEnd fun _ => ?_
    exact .give (.loosely (.of_subset (.refl _)))

/-- A member of an interface holds its key and its types. -/
theorem typeMember : Gathers [] (Grammar.typeMember rules) fun node => [node] := by
  unfold Grammar.typeMember
  refine .skip .here fun start => ?_
  refine .skip (.isAt _) fun isMethod => ?_
  refine .skip (.isAt _) fun isGeneric => ?_
  refine .ite (fun _ => ?_) fun _ => ?_
  · refine .read (.signature h) fun parts => ?_
    exact .mixed (fun _ => rfl) fun _ => .children (loose parts)
  refine .skip .following fun next => ?_
  refine .skip (.isAtWord _) fun isNew => ?_
  refine .ite (fun _ => ?_) fun _ => ?_
  · refine .skip .advance fun _ => ?_
    refine .read (.signature h) fun parts => ?_
    exact .mixed (fun _ => rfl) fun _ => .children (loose parts)
  refine .skip (.modifier? _) fun readonly => ?_
  refine .skip (.lookahead _) fun isIndex => ?_
  refine .ite (fun _ => .indexSignature h) fun _ => ?_
  refine .readEither (fun _ => .give (.refl _)) (fun _ => .accessorSignature h) fun accessor => ?_
  have hlast : ∀ parts : List (Node code), Gathers [loose parts]
      (do return .compound (← Parser.spanFrom start) .rearranged parts) fun node => [node] :=
    fun parts => .mixed (fun _ => rfl) fun _ => .children (loose parts)
  cases accessor with
  | none => exact .read (.propertySignature h _) hlast
  | some parts => exact hlast parts

/-- Members stand one behind the other. -/
theorem typeMembers : Gathers [] (Grammar.typeMembers rules) fun node => [node] := by
  unfold Grammar.typeMembers
  refine .skip .here fun start => ?_
  refine .inType ?_
  refine .skip (.expect _) fun _ => ?_
  have hmember : Gathers [] (do
      if ← Parser.isAt .braceClose then return none else return some (← Grammar.typeMember rules))
      fun found => found.elim [] fun node => [node] := by
    refine .skip (.isAt _) fun isOver => ?_
    refine .ite (fun _ => .give (.refl _)) fun _ => ?_
    refine .read (.typeMember h) fun member => ?_
    exact .give (.refl _)
  refine .read (.many hmember) fun members => ?_
  refine .skip (.expect _) fun _ => ?_
  exact .node (fun _ => rfl) fun _ => by simp [Node.children]

/-! ## Mapped types and tuples -/

/-- A mapped type holds its domain, its renaming and its value. -/
theorem mappedType : Gathers [] (Grammar.mappedType rules) fun node => [node] := by
  unfold Grammar.mappedType
  refine .skip .here fun start => ?_
  refine .skip (.expect _) fun _ => ?_
  refine .skip .mappedSign fun isSigned => ?_
  refine .skipEither (fun _ => .expectWord _) (fun _ => .eatWord _) ?_
  refine .skip (.expect _) fun _ => ?_
  refine .skip .anyName fun name => ?_
  refine .skip (.eatWord _) fun isIn => ?_
  refine .whenNot (fun _ => .unexpected _) ?_
  refine .read (h _) fun domain => ?_
  refine .skip (.eatWord _) fun isRenamed => ?_
  refine .readWhen (fun _ => h _) fun renamed => ?_
  refine .skip (.expect _) fun _ => ?_
  refine .skip .mappedSign fun isOptional => ?_
  refine .skipEither (fun _ => .expect _) (fun _ => .eat _) ?_
  refine .read (.typeBehind h) fun value => ?_
  refine .skip .expectStatementEnd fun _ => ?_
  refine .skip (.expect _) fun _ => ?_
  exact .node (fun _ => rfl) fun _ => .refl _

/-- An element of a tuple is its type. -/
theorem tupleElement : Gathers [] (Grammar.tupleElement rules) fun node => [node] := by
  unfold Grammar.tupleElement
  have hlabel : IsQuiet (Parser.attempt do
      let _ ← Parser.eat .ellipsis
      let _ ← Grammar.anyName
      let _ ← Parser.eat .question
      Parser.expect .colon
      return some () : Parser code (Option Unit)) := by
    refine .attempt ?_
    refine .skip (.eat _) fun _ => ?_
    refine .skip .anyName fun _ => ?_
    refine .skip (.eat _) fun _ => ?_
    refine .skip (.expect _) fun _ => ?_
    exact .done _
  refine .skip hlabel fun label => ?_
  refine .skip (.eat _) fun isRest => ?_
  refine .ite (fun _ => h _) fun _ => ?_
  refine .read (h _) fun element => ?_
  refine .skip (.eat _) fun isOptional => ?_
  exact .give (.refl _)

/-- The elements of a tuple stand one behind the other. -/
theorem tupleType : Gathers [] (Grammar.tupleType rules) fun node => [node] := by
  unfold Grammar.tupleType
  refine .skip .here fun start => ?_
  refine .skip (.expect _) fun _ => ?_
  refine .read (.commaSeparated (.isAt _) (.tupleElement h)) fun elements => ?_
  refine .skip (.expect _) fun _ => ?_
  exact .node (fun _ => rfl) fun _ => by simp [Node.children]

/-! ## Operands -/

/-- The parts of a template stand one behind the other. -/
theorem templateType : Gathers [] (Grammar.templateType rules) fun node => [node] := by
  unfold Grammar.templateType
  refine .skip .here fun start => ?_
  refine .iterate (fun parts => parts.reverse) (fun parts => ?_) []
  refine .skip (.templatePiece _) fun isLast => ?_
  refine .ite (fun _ => ?_) fun _ => ?_
  · refine .skip (.spanFrom _) fun span => ?_
    exact .give (.single rfl (.refl _))
  · refine .read (h _) fun part => ?_
    refine .skip .continueTemplate fun _ => ?_
    exact .give (.of_sublist (by simp))

theorem optionalTypeArguments :
    Gathers [] (Grammar.optionalTypeArguments rules) fun nodes => nodes := by
  unfold Grammar.optionalTypeArguments
  refine .skip (.isAt _) fun isThere => ?_
  refine .skip .startsLine fun isLine => ?_
  refine .ite (fun _ => ?_) fun _ => .give (.refl _)
  refine .read (.typeArguments h) fun arguments => ?_
  exact .give (.refl _)

/-- A reference holds its arguments. -/
theorem typeReference : Gathers [] (Grammar.typeReference rules) fun node => [node] := by
  unfold Grammar.typeReference
  refine .skip .here fun start => ?_
  refine .skip .visibility fun _ => ?_
  refine .skip (.entityName _) fun root => ?_
  refine .read (.optionalTypeArguments h) fun arguments => ?_
  exact .node (fun _ => rfl) fun _ => .refl _

theorem importTypeOptions : Gathers [] (Grammar.importTypeOptions rules) fun node => [node] := by
  unfold Grammar.importTypeOptions
  refine .skip (.expect _) fun _ => ?_
  refine .skip (.expectWord _) fun _ => ?_
  refine .skip (.expect _) fun _ => ?_
  refine .read (h _) fun attributes => ?_
  refine .skip (.eat _) fun _ => ?_
  refine .skip (.expect _) fun _ => ?_
  exact .give (.refl _)

/-- An imported type holds its arguments and what is said of its module. -/
theorem importType : Gathers [] (Grammar.importType rules) fun node => [node] := by
  unfold Grammar.importType
  refine .skip .here fun start => ?_
  refine .skip .advance fun _ => ?_
  refine .skip (.expect _) fun _ => ?_
  refine .skip .advance fun _ => ?_
  refine .skip (.eat _) fun isComma => ?_
  refine .skip (.isAt _) fun isBrace => ?_
  refine .readWhen (fun _ => .importTypeOptions h) fun attributes => ?_
  refine .skip (.expect _) fun _ => ?_
  refine .skip (.eat _) fun isDotted => ?_
  extract_lets -underBinder last
  have hlast : Gathers attributes (last ()) fun node => [node] := by
    refine .skip (.isAt _) fun isGeneric => ?_
    refine .readWhen (fun _ => .typeArguments h) fun arguments => ?_
    exact .mixed (fun _ => rfl) fun _ => .of_subset (by simp [Node.children])
  exact .ite (fun _ => .skip (.entityName _) fun _ => hlast) fun _ => hlast

/-- A query holds what it is about and its arguments. -/
theorem typeQuery : Gathers [] (Grammar.typeQuery rules) fun node => [node] := by
  unfold Grammar.typeQuery
  refine .skip .here fun start => ?_
  refine .skip .advance fun _ => ?_
  refine .skip (.isAtWord _) fun isImport => ?_
  extract_lets -underBinder last
  have hlast : ∀ named, Gathers named (last named) fun node => [node] := by
    intro named
    refine .read (.optionalTypeArguments h) fun arguments => ?_
    exact .node (fun _ => rfl) fun _ => .refl _
  refine .ite (fun _ => ?_) fun _ => ?_
  · refine .read (.importType h) fun imported => ?_
    exact hlast [imported]
  · refine .skip .here fun nameStart => ?_
    refine .skip (.entityName _) fun root => ?_
    refine .skip (.spanFrom _) fun span => ?_
    refine .bind (.give ?_) hlast
    exact .single rfl (.refl _)

/-- What a function says of `this` holds a type. -/
theorem thisType (start : Nat) (asserts : Bool) :
    Gathers [] (Grammar.thisType rules start asserts) fun node => [node] := by
  unfold Grammar.thisType
  refine .skip .advance fun _ => ?_
  refine .skip (.isAtWord _) fun isThere => ?_
  refine .skip .startsLine fun isLine => ?_
  refine .ite (fun _ => ?_) fun _ => ?_
  · refine .skip .advance fun _ => ?_
    refine .read (.inType (h _)) fun type => ?_
    exact .node (fun _ => rfl) fun _ => .refl _
  · exact .node (fun _ => rfl) fun _ => .refl _

theorem wordType (keyword : Option Keyword) :
    Gathers [] (Grammar.wordType rules keyword) fun node => [node] := by
  unfold Grammar.wordType
  refine .skip .here fun start => ?_
  refine .skip .following fun next => ?_
  refine .ite (fun _ => ?_) fun _ => .ite (fun _ => ?_) fun _ => .ite (fun _ => ?_) fun _ => ?_
  · refine .skip .advance fun _ => ?_
    exact .thisType h _ _
  · refine .skip .advance fun _ => ?_
    exact .node (fun _ => rfl) fun _ => .refl _
  · exact .typeReference h
  · exact .unexpected _

theorem typeOperand : Gathers [] (Grammar.typeOperand rules) fun node => [node] := by
  unfold Grammar.typeOperand
  refine .skip .here fun start => ?_
  refine .skip .kind fun kind => ?_
  have hliteral : Gathers [] (do
      Parser.advance
      return .compound (← Parser.spanFrom start) .other []) fun node : Node code => [node] := by
    refine .skip .advance fun _ => ?_
    exact .node (fun _ => rfl) fun _ => .refl _
  split
  · exact .failAtEnd
  · exact .failWith _
  · exact hliteral
  · exact hliteral
  · exact hliteral
  · exact hliteral
  · exact hliteral
  · exact .templateType h
  -- a number behind a minus sign
  · refine .skip .advance fun _ => ?_
    refine .skip .kind fun kind => ?_
    split
    · exact hliteral
    · exact hliteral
    · exact .skip (.unexpected _) fun _ => .node (fun _ => rfl) fun _ => .refl _
  · exact .importType h
  · exact .thisType h _ _
  · exact .typeQuery h
  · exact .wordType h _
  -- braces hold a mapped type or members
  · refine .skip (.lookahead _) fun isMapped => ?_
    exact .ite (fun _ => .mappedType h) fun _ => .typeMembers h
  · exact .tupleType h
  -- parentheses
  · refine .skip .advance fun _ => ?_
    refine .read (h _) fun inner => ?_
    refine .skip (.expect _) fun _ => ?_
    exact .node (fun _ => rfl) fun _ => .refl _
  · exact .unexpected _

/-! ## Operators -/

/-- A type stands before the keys behind it. -/
theorem postfixType : Gathers [] (Grammar.postfixType rules) fun node => [node] := by
  unfold Grammar.postfixType
  refine .skip .here fun start => ?_
  refine .read (.typeOperand h) fun operand => ?_
  refine .iterate (fun node => [node]) (fun type => ?_) operand
  refine .skip (.isAt _) fun isThere => ?_
  refine .skip .startsLine fun isLine => ?_
  refine .ite (fun _ => ?_) fun _ => .give (.refl _)
  refine .skip .advance fun _ => ?_
  refine .skip (.eat _) fun isClosed => ?_
  refine .ite (fun _ => ?_) fun _ => ?_
  · refine .skip (.spanFrom _) fun span => ?_
    exact .give (.single rfl (.refl _))
  · refine .read (h _) fun index => ?_
    refine .skip (.expect _) fun _ => ?_
    refine .skip (.spanFrom _) fun span => ?_
    exact .give (.single rfl (.refl _))

omit h in
/-- Joined types stand one behind the other. -/
theorem joinedTypes (sign : Punctuator) {element : Rule code}
    (helement : Gathers [] element fun node => [node]) :
    Gathers [] (Grammar.joinedTypes sign element) fun node => [node] := by
  unfold Grammar.joinedTypes
  refine .skip .here fun start => ?_
  refine .skip (.eat _) fun isThere => ?_
  refine .read helement fun first => ?_
  refine .iterate (fun node => [node]) (fun type => ?_) first
  refine .skip (.eat _) fun isThere => ?_
  refine .ite (fun _ => ?_) fun _ => .give (.refl _)
  refine .read helement fun next => ?_
  refine .skip (.spanFrom _) fun span => ?_
  exact .give (.single rfl (.refl _))

/-- A type that is found by comparing holds its bound. -/
theorem inferredType (start : Nat) :
    Gathers [] (Grammar.inferredType rules start) fun node => [node] := by
  unfold Grammar.inferredType
  refine .skip .anyName fun name => ?_
  refine .read (.attempt (?_ : Gathers [] _
    fun bound : Option (Node code) => bound.elim [] fun node => [node])) fun bound => ?_
  · refine .skip (.eatWord _) fun isBound => ?_
    refine .ite (fun _ => ?_) fun _ => .give (.refl _)
    refine .read (h _) fun bound => ?_
    refine .skip .flags fun flags => ?_
    refine .skip (.isAt _) fun isConditional => ?_
    exact .ite (fun _ => .give (.refl _)) fun _ => .give .nil
  · exact .node (fun _ => rfl) fun _ => by cases bound <;> simp [Node.children]

theorem prefixedType : Gathers [] (Grammar.prefixedType rules) fun node => [node] := by
  unfold Grammar.prefixedType
  refine .skip .here fun start => ?_
  have hword : IsQuiet (do
      if (← Parser.eatWord .keyof_) || (← Parser.eatWord .unique_) ||
        (← Parser.eatWord .readonly_) then return some ()
      else return none : Parser code (Option Unit)) := by
    refine .skip (.eatWord _) fun isKeyof => ?_
    refine .skip (.eatWord _) fun isUnique => ?_
    refine .skip (.eatWord _) fun isReadonly => ?_
    exact .ite (fun _ => .done _) fun _ => .done _
  refine .skip (.many hword) fun words => ?_
  refine .skip (.eatWord _) fun isInferred => ?_
  exact .ite (fun _ => .inferredType h _) fun _ => .postfixType h

theorem plainType : Gathers [] (Grammar.plainType rules) fun node => [node] := by
  unfold Grammar.plainType
  refine .skip (.isAt _) fun isGeneric => ?_
  refine .skip (.isAt _) fun isBracket => ?_
  refine .skip (.lookahead _) fun isFunction => ?_
  refine .ite (fun _ => .functionType h) fun _ => ?_
  refine .skip .following fun next => ?_
  refine .skip (.isAtWord _) fun isAbstract => ?_
  refine .skip (.isAtWord _) fun isNew => ?_
  refine .ite (fun _ => ?_) fun _ => .joinedTypes _ (.joinedTypes _ (.prefixedType h))
  refine .when (fun _ => .advance) ?_
  refine .skip .advance fun _ => ?_
  exact .functionType h

/-- The type that another one is compared with is gathered. -/
theorem boundType : Gathers [] (Grammar.boundType rules) fun node => [node] :=
  .withFlags _ (.inType (.plainType h))

theorem type : Gathers [] (Grammar.type rules) fun node => [node] := by
  unfold Grammar.type
  refine .withFlags _ (.inType ?_)
  refine .skip .here fun start => ?_
  refine .read (.plainType h) fun checked => ?_
  refine .skip .startsLine fun isLine => ?_
  refine .skip (.eatWord _) fun isConditional => ?_
  refine .ite (fun _ => .give (.refl _)) fun _ => ?_
  refine .read (h _) fun bound => ?_
  refine .skip (.expect _) fun _ => ?_
  refine .read (h _) fun yes => ?_
  refine .skip (.expect _) fun _ => ?_
  refine .read (h _) fun no => ?_
  exact .node (fun _ => rfl) fun _ => .refl _

end Gathers

end ClassRegistry.TypeScript
