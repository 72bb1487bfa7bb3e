import ClassRegistry.Proofs.Order.Steps
import ClassRegistry.TypeScript.Grammar.Pattern
import Mathlib.Data.List.Flatten

/-!
# Names, patterns and parameters in the order of the text

A rule of the grammar gathers what it reads in the order of the text when the rules that it asks for
do. Names and modifiers are no nodes that could hold a class.
-/

namespace ClassRegistry.TypeScript

variable {code : Code}

/-- Rules that gather what they read, each one a node. -/
def Rules.Gather (rules : Rules code) : Prop :=
  ∀ goal, Gathers [] (rules goal) fun node => [node]

/-! ## Names -/

/-- The name of a class fits in where it is. -/
theorem fitsIn_className {start stop : Nat} {name : Ident code} (hstart : start ≤ name.span.start)
    (hstop : name.span.stop ≤ stop) : FitsIn start stop [className name] := by
  have hloose : (loose [] : Node code).classStarts = [] := by
    rw [Node.classStarts_eq]
    rfl
  have hwritten : [className name, loose []].Pairwise Node.IsBefore := by
    refine List.pairwise_pair.mpr fun x _ y hy => ?_
    rw [hloose] at hy
    cases hy
  have harranged : (className name).IsArranged :=
    .intro hwritten trivial fun _ h => absurd h List.not_mem_nil
  have hstarts : classStartsIn [className name] = [name.span.start] := by
    rw [classStartsIn, List.flatMap_singleton, classStarts_className]
  refine ⟨⟨List.pairwise_singleton _ _, by simpa using harranged⟩, ?_⟩
  rw [hstarts, List.forall_mem_singleton]
  exact ⟨hstart, Nat.lt_of_lt_of_le name.isWordAt.start_lt_stop hstop⟩

/-- The name that a token is stands where the token does, and the token is a word. -/
theorem span_of_identOf? {t : Token code} {name : Ident code}
    (h : Grammar.identOf? t = some name) : name.span = t.span ∧ t.kind.isWord = true := by
  unfold Grammar.identOf? at h
  split at h
  · rename_i hkind
    exact Option.some.inj h ▸ ⟨rfl, by rw [hkind]; rfl⟩
  · cases h

/-- A word is read as the name that it is. -/
theorem anyName_of_identOf? {s : State code} {name : Ident code}
    (h : Grammar.identOf? s.token = some name) : Grammar.anyName s = .done name s.next := by
  simp only [Grammar.anyName, Bind.bind, Parser.token, h]
  rfl

/-- What is no word is no name. -/
theorem anyName_of_identOf?_eq_none {s : State code} (h : Grammar.identOf? s.token = none) :
    Grammar.anyName s = .failed ⟨s.token.span.start, .identifierExpected⟩ s.skipBroken := by
  simp only [Grammar.anyName, Bind.bind, Parser.token, h]
  rfl

/-- A parser that gives a name only for the word where it starts, and reads no more than that. -/
def ReadsWord (p : Parser code (Ident code)) : Prop :=
  ∀ ⦃s next : State code⦄ ⦃name : Ident code⦄, p s = .done name next →
    s.token.kind.isWord = true ∧ next = s.next

namespace ReadsWord

/-- Any word may be a name. -/
theorem anyName : ReadsWord (Grammar.anyName : Parser code (Ident code)) := by
  intro s next name h
  cases hname : Grammar.identOf? s.token with
  | none =>
      rw [anyName_of_identOf?_eq_none hname] at h
      cases h
  | some ident =>
      rw [anyName_of_identOf? hname] at h
      obtain ⟨-, rfl⟩ := Outcome.done.inj h
      exact ⟨(span_of_identOf? hname).2, rfl⟩

theorem fail (cause : Cause) : ReadsWord (Parser.fail cause : Parser code (Ident code)) :=
  fun _ _ _ h => by cases h

/-- A parser that only looks at the state is in front of a name. -/
theorem look {α : Type} {p : Parser code α} {f : α → Parser code (Ident code)}
    (hp : ∀ s, ∃ a, p s = .done a s) (hf : ∀ a, ReadsWord (f a)) : ReadsWord (p >>= f) := by
  intro s next name h
  obtain ⟨a, between, hlook, hrest⟩ := Parser.exists_of_bind h
  obtain ⟨b, hb⟩ := hp s
  rw [hb] at hlook
  obtain ⟨rfl, rfl⟩ := Outcome.done.inj hlook
  exact hf b hrest

theorem ite {c : Prop} [Decidable c] {p q : Parser code (Ident code)} (hp : ReadsWord p)
    (hq : ReadsWord q) : ReadsWord (if c then p else q) := by
  split
  · exact hp
  · exact hq

/-- A name that is bound is a word. -/
theorem name (mayYield : Bool) : ReadsWord (Grammar.name mayYield : Parser code (Ident code)) := by
  unfold Grammar.name
  refine .look (fun s => ⟨_, rfl⟩) fun kind => ?_
  split
  · exact .anyName
  · refine .look (fun s => ⟨_, rfl⟩) fun flags => .ite .anyName ?_
    exact .look (fun s => ⟨_, rfl⟩) fun flags => .ite (.fail _) (.fail _)
  · exact .ite .anyName (.fail _)
  · exact .ite .anyName (.fail _)
  · exact .fail _

end ReadsWord

namespace Gathers

/-- A word may be the name of a class. -/
theorem anyName :
    Gathers [] (Grammar.anyName : Parser code (Ident code)) fun name => [className name] := by
  intro s start earlier hs hle hfits
  cases hname : Grammar.identOf? s.token with
  | none =>
      rw [anyName_of_identOf?_eq_none hname]
      exact hs.goesTo_skipBroken
  | some name =>
      rw [anyName_of_identOf? hname]
      have hgoes := hs.goesTo_next
      obtain ⟨-, hnext⟩ := hs.next
      obtain ⟨hspan, -⟩ := span_of_identOf? hname
      rw [← hspan] at hnext
      rw [List.append_nil] at hfits
      refine ⟨hgoes, hfits.append (fitsIn_className ?_ hnext) hle hgoes.offset_le⟩
      exact Nat.le_of_eq (congrArg Span.start hspan).symm

/-- A name that is bound may be the name of a class. -/
theorem name (mayYield : Bool) :
    Gathers [] (Grammar.name mayYield : Parser code (Ident code)) fun name => [className name] := by
  unfold Grammar.name
  refine .skip .kind fun kind => ?_
  split
  · exact .anyName
  · refine .skip .flags fun flags => ?_
    refine .ite (fun _ => .anyName) fun _ => ?_
    refine .skip .flags fun flags => ?_
    exact .ite (fun _ => .fail _) fun _ => .fail _
  · exact .ite (fun _ => .anyName) fun _ => .fail _
  · exact .ite (fun _ => .anyName) fun _ => .fail _
  · exact .fail _

end Gathers

namespace IsQuiet

theorem anyName : IsQuiet (Grammar.anyName : Parser code (Ident code)) :=
  .of_gathers .anyName

theorem name (mayYield : Bool) : IsQuiet (Grammar.name mayYield : Parser code (Ident code)) :=
  .of_gathers (.name mayYield)

theorem isAtReference : IsQuiet (Grammar.isAtReference : Parser code Bool) := by
  unfold Grammar.isAtReference
  refine .skip .token fun token => ?_
  exact .done _

/-- A misleading name stops a parser, and nothing is read. -/
theorem failAtLet : IsQuiet (Grammar.failAtLet : Parser code Unit) := by
  unfold Grammar.failAtLet
  refine .skip (.isAtWord _) fun isLet => ?_
  exact .ite (fun _ => .unexpected _) fun _ => .done _

theorem privateName : IsQuiet (Grammar.privateName : Parser code Unit) := by
  unfold Grammar.privateName
  refine .skip .here fun start => ?_
  refine .skip (.expect _) fun _ => ?_
  refine .skip .here fun place => ?_
  refine .when (fun _ => .failAt _ _) ?_
  refine .skip .anyName fun name => ?_
  exact .done _

theorem memberName : IsQuiet (Grammar.memberName : Parser code (Option (Ident code))) := by
  unfold Grammar.memberName
  refine .skip (.isAt _) fun isPrivate => ?_
  refine .ite (fun _ => ?_) fun _ => ?_
  · refine .skip .privateName fun _ => ?_
    exact .done _
  · refine .skip .anyName fun name => ?_
    exact .done _

/-! ## Modifiers -/

theorem modifier? (allowed : List Keyword) :
    IsQuiet (Grammar.modifier? allowed : Parser code (Option Keyword)) := by
  unfold Grammar.modifier?
  refine .skip .kind fun kind => ?_
  split
  · refine .skip .following fun next => ?_
    refine .ite (fun _ => ?_) fun _ => .done _
    refine .skip .advance fun _ => ?_
    exact .done _
  · exact .failWith _
  · exact .failAtEnd
  · exact .done _

/-- A word that says who may see something is read if it is there. -/
theorem visibility : IsQuiet (Grammar.visibility : Parser code Unit) := by
  unfold Grammar.visibility
  refine .skip .keyword? fun keyword => ?_
  have hread : IsQuiet (do
      let next ← Parser.following
      if next.kind.isWord || next.kind = .sign .braceOpen || next.kind = .sign .bracketOpen then
        Parser.advance : Parser code Unit) := by
    refine .skip .following fun next => ?_
    exact .ite (fun _ => .quiet .advance) fun _ => .done _
  split <;> first | exact hread | exact .done _

/-- A word that says who may see a property is read if it is there. -/
theorem access : IsQuiet (Grammar.access : Parser code Bool) := by
  unfold Grammar.access
  refine .skip (.modifier? _) fun word => ?_
  split
  · exact .done _
  · exact .done _

/-- A question mark is read if it may be there. -/
theorem ambientMark : IsQuiet (Grammar.ambientMark : Parser code Unit) := by
  unfold Grammar.ambientMark
  refine .skip .flags fun flags => ?_
  refine .ite (fun _ => ?_) fun _ => .done _
  refine .skip (.eat _) fun isThere => ?_
  exact .done _

end IsQuiet

namespace Gathers

/-- A name that may be missing may be the name of a class. -/
theorem optionalName : Gathers [] (Grammar.optionalName : Parser code (Option (Ident code)))
    fun name => name.toList.map className := by
  unfold Grammar.optionalName
  refine .skip .isAtReference fun isThere => ?_
  exact .ite (fun _ => .map (.name _)) fun _ => .give (.refl _)

variable {rules : Rules code} (h : rules.Gather)
include h

/-! ## Keys -/

/-- A key holds what is evaluated for it. -/
theorem key : Gathers [] (Grammar.key rules) fun node => [node] := by
  unfold Grammar.key
  refine .skip .here fun start => ?_
  refine .skip .kind fun kind => ?_
  split
  · refine .skip .advance fun _ => ?_
    exact .node (fun _ => rfl) fun _ => .refl _
  · refine .skip .advance fun _ => ?_
    exact .node (fun _ => rfl) fun _ => .refl _
  · refine .skip .advance fun _ => ?_
    exact .node (fun _ => rfl) fun _ => .refl _
  · refine .skip .anyName fun name => ?_
    exact .give (.single rfl (.refl _))
  · refine .skip .advance fun _ => ?_
    refine .read (.enclosed (h _)) fun value => ?_
    refine .skip (.expect _) fun _ => ?_
    exact .node (fun _ => rfl) fun _ => .refl _
  · exact .unexpected _

/-- A key of a class member holds what is evaluated for it. -/
theorem memberKey : Gathers [] (Grammar.memberKey rules) fun node => [node] := by
  unfold Grammar.memberKey
  refine .skip .here fun start => ?_
  refine .skip (.isAt _) fun isPrivate => ?_
  refine .ite (fun _ => ?_) fun _ => .key h
  refine .skip .privateName fun _ => ?_
  exact .node (fun _ => rfl) fun _ => .refl _

/-! ## Patterns -/

theorem initializer : Gathers [] (Grammar.initializer rules) fun nodes => nodes := by
  unfold Grammar.initializer
  refine .skip (.eat _) fun isThere => ?_
  refine .ite (fun _ => ?_) fun _ => .give (.refl _)
  refine .read (h _) fun value => ?_
  exact .give (.refl _)

theorem typeBehind : Gathers [] ( Grammar.typeAnnotation rules) fun nodes => nodes := by
  unfold Grammar.typeAnnotation
  refine .skip (.eat _) fun isThere => ?_
  refine .ite (fun _ => ?_) fun _ => .give (.refl _)
  refine .read (h _) fun type => ?_
  exact .give (.refl _)

/-- A pattern stands before its default. -/
theorem bindingElement : Gathers [] (Grammar.bindingElement rules) fun node => [node] := by
  unfold Grammar.bindingElement
  refine .skip .here fun start => ?_
  refine .read (h _) fun pattern => ?_
  refine .read (.initializer h) fun value => ?_
  exact .node (fun _ => rfl) fun _ => .refl _

/-- The elements of a list stand one behind the other. -/
theorem listPattern : Gathers [] (Grammar.listPattern rules) fun node => [node] := by
  unfold Grammar.listPattern
  refine .skip .here fun start => ?_
  refine .skip (.expect _) fun _ => ?_
  have helement : Gathers [] (do
      if ← Parser.isAt .comma then return []
      else if ← Parser.eat .ellipsis then return [← rules .binding]
      else return [← Grammar.bindingElement rules]) fun nodes => nodes := by
    refine .skip (.isAt _) fun isEmpty => ?_
    refine .ite (fun _ => .give (.refl _)) fun _ => ?_
    refine .skip (.eat _) fun isRest => ?_
    refine .ite (fun _ => ?_) fun _ => ?_
    · refine .read (h _) fun pattern => ?_
      exact .give (.refl _)
    · refine .read (.bindingElement h) fun element => ?_
      exact .give (.refl _)
  refine .read (.enclosed (.commaSeparated (.isAt _) helement)) fun elements => ?_
  refine .skip (.expect _) fun _ => ?_
  refine .skip .ambientMark fun _ => ?_
  exact .node (fun _ => rfl) fun _ => by simp [Node.children]

/-- A property of an object holds its key, its pattern and its default. -/
theorem propertyPattern : Gathers [] (Grammar.propertyPattern rules) fun node => [node] := by
  unfold Grammar.propertyPattern
  refine .skip .here fun start => ?_
  refine .skip (.eat _) fun isRest => ?_
  refine .ite (fun _ => h _) fun _ => ?_
  refine .read (.key h) fun key => ?_
  refine .skip (.eat _) fun isNamed => ?_
  refine .ite (fun _ => ?_) fun _ => ?_
  · refine .read (.bindingElement h) fun element => ?_
    exact .node (fun _ => rfl) fun _ => .refl _
  · split
    · refine .read (.initializer h) fun value => ?_
      exact .node (fun _ => rfl) fun _ => .refl _
    · exact .unexpected _

/-- The properties of an object stand one behind the other. -/
theorem objectPattern : Gathers [] (Grammar.objectPattern rules) fun node => [node] := by
  unfold Grammar.objectPattern
  refine .skip .here fun start => ?_
  refine .skip (.expect _) fun _ => ?_
  refine .read (.enclosed (.commaSeparated (.isAt _) (.propertyPattern h))) fun properties => ?_
  refine .skip (.expect _) fun _ => ?_
  refine .skip .ambientMark fun _ => ?_
  exact .node (fun _ => rfl) fun _ => by simp [Node.children]

theorem binding : Gathers [] (Grammar.binding rules) fun node => [node] := by
  unfold Grammar.binding
  refine .skip .kind fun kind => ?_
  split
  · exact .listPattern h
  · exact .objectPattern h
  · refine .skip (.name _) fun name => ?_
    exact .give (.single rfl (.refl _))
  · exact .failWith _
  · exact .unexpected _

/-- Decorators stand one behind the other. -/
theorem decorators : Gathers [] (Grammar.decorators rules) fun nodes => nodes := by
  unfold Grammar.decorators
  have hdecorator : Gathers [] (do
      if ← Parser.isAt .at then return some (← rules .decorator) else return none)
      fun found => found.elim [] fun node => [node] := by
    refine .skip (.isAt _) fun isThere => ?_
    refine .ite (fun _ => ?_) fun _ => .give (.refl _)
    refine .read (h _) fun decorator => ?_
    exact .give (.refl _)
  exact (many hdecorator).follow_after fun nodes => .of_sublist (by simp)

/-! ## Parameters -/

/-- The rest of the parameters holds its pattern, its default and its type. -/
theorem restParameter (mayDefault : Bool) :
    Gathers [] (Grammar.restParameter rules mayDefault) fun parameter => parameter.parts := by
  unfold Grammar.restParameter
  refine .skip .here fun start => ?_
  refine .skip (.expect _) fun _ => ?_
  refine .read (h _) fun pattern => ?_
  refine .readEither (fun _ => .initializer h) (fun _ => .give (.refl _)) fun value => ?_
  refine .read (.typeBehind h) fun annotation => ?_
  extract_lets next
  have hnext : Gathers ([pattern] ++ value ++ annotation) (next ()) fun found => found.parts :=
    .give (.refl _)
  exact .ite (fun _ => .skip (.eat _) fun _ => hnext) fun _ => hnext

/-- A parameter holds its pattern, its type and its default. -/
theorem singleParameter :
    Gathers [] (Grammar.singleParameter rules) fun parameter => parameter.parts := by
  unfold Grammar.singleParameter
  refine .skip .visibility fun _ => ?_
  refine .skip .here fun start => ?_
  refine .read (h _) fun pattern => ?_
  refine .read (.initializer h) fun early => ?_
  refine .skip .here fun mark => ?_
  refine .skip (.eat _) fun isOptional => ?_
  extract_lets next
  have hnext : Gathers ([pattern] ++ early) (next ()) fun found => found.parts := by
    refine .read (.typeBehind h) fun annotation => ?_
    refine .read (.initializer h) fun late => ?_
    -- a type behind a default is left out
    refine .give (.of_sublist ?_)
    cases early <;> simp
  refine .ite (fun _ => ?_) fun _ => hnext
  refine .skip .flags fun flags => ?_
  exact .ite (fun _ => hnext) fun _ => .skip (.failAt _ _) fun _ => hnext

/-- A parameter has its decorators in front. -/
theorem parameter :
    Gathers [] (Grammar.parameter rules) fun found => found.1 ++ found.2.parts := by
  unfold Grammar.parameter
  refine .read (.decorators h) fun decorators => ?_
  refine .skip (.isAt _) fun isRest => ?_
  refine .ite (fun _ => ?_) fun _ => ?_
  · refine .read (.restParameter h true) fun parameter => ?_
    exact .give (.refl _)
  · refine .read (.singleParameter h) fun parameter => ?_
    exact .give (.refl _)

theorem parameters : Gathers [] (Grammar.parameters rules) fun found =>
    found.flatMap fun found => found.1 ++ found.2.parts :=
  .enclosed (.commaSeparated (.isAt _) (.parameter h))

omit h in
/-- Parameters without their decorators. -/
theorem sublist_parameterNodes
    (parameters : List (List (Node code) × Grammar.Parameter code)) :
    (parameters.flatMap (·.2.parts)).Sublist (Grammar.parameterNodes parameters) :=
  List.Sublist.flatMap_right parameters fun _ _ => List.sublist_append_right _ _

/-- A parameter of a constructor has its decorators in front. -/
theorem constructorParameter :
    Gathers [] (Grammar.constructorParameter rules) fun nodes => nodes := by
  unfold Grammar.constructorParameter
  refine .read (.decorators h) fun decorators => ?_
  refine .skip (.isAt _) fun isRest => ?_
  refine .ite (fun _ => ?_) fun _ => ?_
  · refine .read (.restParameter h false) fun parameter => ?_
    exact .give (.refl _)
  · refine .skip .access fun hasAccess => ?_
    refine .skip (.modifier? _) fun override => ?_
    refine .skip (.modifier? _) fun readonly => ?_
    refine .read (.singleParameter h) fun parameter => ?_
    refine .when (fun _ => .failAt _ _) ?_
    exact .give (.refl _)

end Gathers

end ClassRegistry.TypeScript
