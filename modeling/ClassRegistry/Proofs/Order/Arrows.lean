import ClassRegistry.Proofs.Order.Operands
import ClassRegistry.TypeScript.Grammar.Arrow

/-!
# Parentheses and arrow functions in the order of the text

Expressions in parentheses are walked as they are written, unless an arrow function among them holds
those before it once more. The parts of an arrow function are put together anew, so of them only
this is kept: they are what was gathered.
-/

namespace ClassRegistry.TypeScript

open Grammar (Parenthetical)

variable {code : Code}

/-! ## Items in parentheses -/

/-- The nodes of items in parentheses, in their order unless an arrow function repeats them. -/
def itemNodes (items : List (Parenthetical code)) : List (Node code) :=
  if Node.repeats (items.map (·.node)) then [loose (items.map (·.node))] else items.map (·.node)

/-- The nodes of items are in what is kept of them. -/
theorem covers_itemNodes (items : List (Parenthetical code)) :
    Covers (itemNodes items) (items.map (·.node)) := by
  unfold itemNodes
  split
  · exact .children (loose _)
  · exact .of_subset (.refl _)

/-- An item behind others. -/
theorem follows_itemNodes (items : List (Parenthetical code)) (item : Parenthetical code) :
    Follows (itemNodes items ++ [item.node]) (itemNodes (items ++ [item])) := by
  have hcovers : Covers (itemNodes items ++ [item.node]) ((items ++ [item]).map (·.node)) := by
    rw [List.map_append]
    exact (covers_itemNodes items).append (.of_subset (.refl _))
  by_cases hrepeats : Node.repeats ((items ++ [item]).map (·.node))
  · rw [itemNodes, itemNodes, if_pos hrepeats]
    exact .loosely hcovers
  · have hitems : ¬ Node.repeats (items.map (·.node)) := by
      intro h
      exact hrepeats (by rw [List.map_append, Node.repeats, List.any_append, ← Node.repeats, h,
        Bool.true_or])
    rw [itemNodes, itemNodes, if_neg hrepeats, if_neg hitems, List.map_append]
    exact .refl _

namespace Follows

/-- What `...` is put in front of stands for the whole. -/
theorem spreadValue (item : Node code) : Follows [item] [Grammar.spreadValue item] := by
  unfold Grammar.spreadValue
  split
  · exact .children rfl
  · exact .refl _

/-- Expressions in parentheses stand for their items. -/
theorem sequence (items : List (Parenthetical code)) :
    Follows (itemNodes items) [Node.sequence (items.map (·.node))] := by
  by_cases hrepeats : Node.repeats (items.map (·.node))
  · rw [Node.sequence, if_pos hrepeats]
    exact .mixed rfl (covers_itemNodes items)
  · rw [Node.sequence, if_neg hrepeats, itemNodes, if_neg hrepeats]
    exact .single rfl (.refl _)

/-- A name holds no classes. -/
theorem identifier {before : List (Node code)} (name : Ident code) :
    Follows before [Node.identifier name] :=
  .leaf rfl rfl

/-- An arrow function stands for its parts. -/
theorem arrow {before parameters types : List (Node code)} {body : Node code} (span : Span)
    (hparameters : Covers before parameters) (htypes : Covers before types)
    (hbody : Covers before [body]) : Follows before [Node.arrow span parameters types body] :=
  .mixed rfl <|
    ((Follows.loosely hparameters).covers.both hbody).both (Follows.loosely htypes).covers

end Follows

/-- An arrow function that repeats the items before it stands behind them. -/
theorem follows_repeating (items : List (Parenthetical code)) (function : Node code) :
    Follows [loose (items.map (·.node) ++ [function])]
      (itemNodes (items ++ [⟨function.repeating, false, false⟩])) := by
  have hparts : Covers [loose (items.map (·.node) ++ [function])]
      (items.map (·.node) ++ [function]) := .children (loose _)
  have hfunction : Follows [function] [function.repeating] := .single rfl (.refl _)
  rw [itemNodes, if_pos (by simp [Node.repeats, Node.repeating, Node.form?]), List.map_append]
  refine .loosely (.both (hparts.subset (List.subset_append_left _ _)) (hparts.each ?_))
  simpa using Or.inr hfunction

/-- A call of `async` stands for its items. -/
theorem follows_asyncCall {span : Span} (ident : Ident code) (items : List (Parenthetical code)) :
    Follows (itemNodes items) [.call span (.identifier ident) [] (items.map (·.node))] := by
  have hname : Follows [] [Node.identifier ident] := .identifier ident
  by_cases hrepeats : Node.repeats (items.map (·.node))
  · refine .around ?_ (List.nil_subset _) ?_ trivial
    · exact (Follows.identifier ident).covers.both ((covers_itemNodes items).subset (by simp))
    · rw [Node.written, if_pos hrepeats]
      exact .nil
  · rw [itemNodes, if_neg hrepeats]
    exact .call (hname.append (.refl _))

/-- A parameter is what an item turns out to be. -/
theorem exists_of_mem_asParameters {items : List (Parenthetical code)}
    {parameters : List (Node code)} (h : Grammar.asParameters items = .ok parameters) :
    ∀ parameter ∈ parameters, ∃ node ∈ items.map (·.node), Follows [node] [parameter] := by
  induction items generalizing parameters with
  | nil =>
      cases h
      exact fun parameter hparameter => absurd hparameter List.not_mem_nil
  | cons item rest ih =>
      have hrest : ∀ {tail : List (Node code)}, Grammar.asParameters rest = .ok tail →
          ∀ parameter ∈ tail, ∃ node ∈ (item :: rest).map (·.node), Follows [node] [parameter] := by
        intro tail htail parameter hparameter
        obtain ⟨node, hnode, hfollows⟩ := ih htail parameter hparameter
        exact ⟨node, List.mem_cons_of_mem _ hnode, hfollows⟩
      -- an item that is a parameter stands in front of those of the rest
      have hfirst : ∀ {first : Node code}, Follows [item.node] [first] →
          (do return first :: (← Grammar.asParameters rest)) = .ok parameters →
          ∀ parameter ∈ parameters, ∃ node ∈ (item :: rest).map (·.node),
            Follows [node] [parameter] := by
        intro first hfollows h
        obtain ⟨tail, htail, h⟩ := exists_of_bind_eq_ok h
        cases h
        exact List.forall_mem_cons.mpr ⟨⟨_, List.mem_cons_self, hfollows⟩, hrest htail⟩
      unfold Grammar.asParameters at h
      split at h
      · exact hrest h
      · dsimp only at h
        split at h
        · exact hfirst (.refl _) h
        · split at h
          · rename_i hnode
            obtain ⟨value, hvalue, h⟩ := exists_of_bind_eq_ok h
            refine hfirst ?_ h
            rw [hnode]
            refine .trans (.children rfl) (.trans (.asTarget hvalue) ?_)
            exact .single rfl (.refl _)
          · obtain ⟨target, htarget, h⟩ := exists_of_bind_eq_ok h
            exact hfirst (.asTarget htarget) h

namespace Gathers

variable {rules : Rules code} (h : rules.Gather)

/-- A question mark behind a parameter is read if it is there. -/
theorem optionalMark (item : Node code) : IsQuiet (Grammar.optionalMark item) := by
  unfold Grammar.optionalMark
  refine .skip (.isAt _) fun isThere => ?_
  refine .ite (fun _ => ?_) fun _ => .done _
  refine .skip .following fun next => ?_
  have hread : IsQuiet (do
      Parser.advance
      unless Grammar.isName (Grammar.spreadValue item) do
        Parser.failAt item.span.start .optionalPattern
      return true : Parser code Bool) := by
    refine .skip .advance fun _ => ?_
    refine .whenNot (fun _ => .failAt _ _) ?_
    exact .done _
  split <;> first | exact hread | exact .done _

include h

theorem parentheticalExpression :
    Gathers [] (Grammar.parentheticalExpression rules) fun node => [node] := by
  unfold Grammar.parentheticalExpression
  refine .skip .here fun start => ?_
  refine .skip .following fun next => ?_
  refine .skip (.isAt _) fun isSpread => ?_
  refine .ite (fun _ => ?_) fun _ => ?_
  · refine .skip .advance fun _ => ?_
    refine .read (h _) fun value => ?_
    exact .node (fun _ => rfl) fun _ => .refl _
  · refine .skip .isAtReference fun isReference => ?_
    refine .ite (fun _ => ?_) fun _ => .spreadable h
    refine .read (h _) fun left => ?_
    exact .assignmentRest h left

/-- A pattern stands before its type and its default. -/
theorem parentheticalPattern (item : Node code) :
    Gathers [item] (Grammar.parentheticalPattern rules item) fun found => [found.node] := by
  unfold Grammar.parentheticalPattern
  refine .readFound fun pattern hpattern => ?_
  have hitem : Follows [item] [pattern] := (Follows.spreadValue item).trans (.asTarget hpattern)
  refine .follow ?_ hitem
  refine .readEither (fun _ => .typeBehind h) (fun _ => .give (.refl _)) fun type => ?_
  refine .read (.initializer h) fun value => ?_
  refine .skip (.spanFrom _) fun span => ?_
  have hwhole : Follows ([pattern] ++ type ++ value)
      [.compound span .pattern (pattern :: type ++ value)] := .single rfl (.refl _)
  refine .give (hwhole.trans ?_)
  dsimp only
  split
  · exact .single rfl (.refl _)
  · exact .refl _

theorem parenthetical :
    Gathers [] (Grammar.parenthetical rules) fun found => [found.node] := by
  unfold Grammar.parenthetical
  refine .skip .here fun start => ?_
  refine .withArrowStart _ ?_
  refine .skip .visibility fun _ => ?_
  refine .read (.parentheticalExpression h) fun first => ?_
  refine .skip (.optionalMark first) fun isOptional => ?_
  refine .skip (.eat _) fun isConditional => ?_
  refine .bindEither (fun _ => .conditionalRest h first) (fun _ => .give (.refl _))
    fun expression => ?_
  refine .skip (.isAt _) fun isTyped => ?_
  exact .ite (fun _ => .parentheticalPattern h expression) fun _ => .give (.refl _)

/-- An arrow function behind its arrow, with the items that it was read from by its side. -/
theorem arrowRest {before : List (Node code)} (start : Nat) (isAsync : Bool)
    {items : List (Parenthetical code)} {types : List (Node code)}
    (hitems : Covers before (items.map (·.node))) (htypes : Covers before types) :
    Gathers before (Grammar.arrowRest rules start isAsync items types)
      fun function => [loose (items.map (·.node) ++ [function])] := by
  unfold Grammar.arrowRest
  refine .readFound fun parameters hparameters => ?_
  refine .read (.arrowBody h isAsync) fun body => ?_
  refine .skip (.spanFrom _) fun span => ?_
  have hbefore : Covers (before ++ [body]) before := .of_subset (List.subset_append_left _ _)
  have hbody : Covers (before ++ [body]) [body] := .of_subset (List.subset_append_right _ _)
  have hfunction : Follows (before ++ [body]) [Node.arrow span parameters types body] :=
    .arrow span (hitems.each (exists_of_mem_asParameters hparameters)).inFront htypes.inFront hbody
  exact .give (.loosely (hitems.inFront.both hfunction.covers))

/-- Items in parentheses stand one behind the other. -/
theorem parentheticals : Gathers [] (Grammar.parentheticals rules) itemNodes := by
  unfold Grammar.parentheticals
  refine .enclosed ?_
  refine .skip .here fun start => ?_
  refine .skip (.expect _) fun _ => ?_
  refine .bind (.iterate (fun items : List (Parenthetical code) => itemNodes items.reverse)
    (fun items => (?_ : Gathers _ _ (Sum.elim _ itemNodes))) []) fun items => ?_
  · refine .skip (.isAt _) fun isOver => ?_
    refine .ite (fun _ => .give (.refl _)) fun _ => ?_
    refine .read (.parenthetical h) fun item => ?_
    refine .follow (?_ : Gathers (itemNodes (item :: items).reverse) _ _) ?_
    · refine .skip (.eat _) fun hasArrow => ?_
      extract_lets -underBinder last
      have hlast : ∀ items, Gathers (itemNodes items.reverse) (last items)
          (Sum.elim (fun items => itemNodes items.reverse) itemNodes) := by
        intro items
        refine .skip (.isAt _) fun isOver => ?_
        refine .whenNot (fun _ => .expect _) ?_
        exact .give (.refl _)
      refine .ite (fun _ => ?_) fun _ => hlast (item :: items)
      -- an arrow function holds the items before it once more
      refine .bind (.arrowRest h start false (covers_itemNodes _)
        (.of_subset (List.nil_subset _))) fun function => ?_
      refine .follow (hlast (⟨function.repeating, false, false⟩ :: item :: items)) ?_
      have hrepeating := follows_repeating (item :: items).reverse function
      rwa [← List.reverse_cons] at hrepeating
    · rw [List.reverse_cons]
      exact follows_itemNodes items.reverse item
  · refine .skip (.expect _) fun _ => ?_
    exact .give (.refl _)

/-! ## What the parentheses belong to -/

/-- A return type in front of an arrow is gathered, if there is one. -/
theorem arrowResult {before : List (Node code)} :
    Gathers before (Grammar.arrowResult rules) fun found => before ++ found.toList := by
  unfold Grammar.arrowResult
  have hresult : Gathers [] (Parser.attempt do
      let result ← Grammar.returnType rules .colon
      if ← Parser.isAt .arrow then return some result else return none)
      fun found => found.elim [] fun node => [node] := by
    refine .attempt ?_
    refine .read (.returnType h _) fun result => ?_
    refine .skip (.isAt _) fun isArrow => ?_
    exact .ite (fun _ => .give (.refl _)) fun _ => .give .nil
  have hfound : ∀ found : Option (Node code),
      Follows (before ++ found.elim [] fun node => [node]) (before ++ found.toList) := by
    intro found
    cases found <;> exact .refl _
  simpa only [List.append_nil] using (hresult.frame before).follow_after hfound

/-- An arrow function within a conditional expression, or the items if there is none. -/
theorem arrowInConditional (start : Nat) (isAsync : Bool) (items : List (Parenthetical code)) :
    Gathers (itemNodes items) (Grammar.arrowInConditional rules start isAsync items)
      fun found => found.elim (itemNodes items) fun function => [function] := by
  unfold Grammar.arrowInConditional
  refine .attempt ?_
  refine .read (.returnType h _) fun result => ?_
  refine .skip (.expect _) fun _ => ?_
  refine .bind (.arrowRest h start isAsync (covers_itemNodes items).inFront
    (.of_subset (List.subset_append_right _ _))) fun function => ?_
  refine .skip .flags fun flags => ?_
  refine .skip (.isAt _) fun isColon => ?_
  refine .ite (fun _ => .give .nil) fun _ => ?_
  exact .give (.part (by simp))

/-- Operators behind an arrow function stand behind it. -/
theorem operatorsBehindBlock (function : Node code) :
    Gathers [function] (Grammar.operatorsBehindBlock rules function) fun node => [node] := by
  unfold Grammar.operatorsBehindBlock
  refine .skip .kind fun kind => ?_
  refine .ite (fun _ => ?_) fun _ => .give (.refl _)
  refine .bind (.operators h 0 function) fun node => ?_
  refine .skip .isAtStatementEnd fun isOver => ?_
  refine .whenNot (fun _ => .skipBroken) ?_
  exact .give (.refl _)

/-- An arrow function stands for its items and its return type. -/
theorem arrowBehind (start : Nat) (mayStart isAsync : Bool) (items : List (Parenthetical code))
    (result : Option (Node code)) : Gathers (itemNodes items ++ result.toList)
      (Grammar.arrowBehind rules start mayStart isAsync items result) fun node => [node] := by
  unfold Grammar.arrowBehind
  refine .skip .startsLine fun isLine => ?_
  refine .when (fun _ => .failAt _ _) ?_
  refine .whenNot (fun _ => .failAt _ _) ?_
  refine .skip (.expect _) fun _ => ?_
  refine .skip (.isAt _) fun hasBlock => ?_
  refine .bind (.arrowRest h start isAsync (covers_itemNodes items).inFront
    (.of_subset (List.subset_append_right _ _))) fun function => ?_
  refine .follow (?_ : Gathers [function] _ _) (.part (by simp))
  exact .ite (fun _ => .operatorsBehindBlock h function) fun _ => .give (.refl _)

omit h in
/-- An expression in parentheses stands for its items. -/
theorem asExpression (start : Nat) (items : List (Parenthetical code)) :
    Gathers (itemNodes items) (Grammar.asExpression start items) fun node => [node] := by
  unfold Grammar.asExpression
  split
  · exact .failAt _ _
  · split
    · exact .failAt _ _
    · rename_i inner hinner
      refine .follow (.node (fun _ => rfl) fun _ => .refl _) (?_ : Follows _ [inner])
      exact .tightly (hinner ▸ covers_itemNodes items)
    · refine .follow (.node (fun _ => rfl) fun _ => .refl _) (.sequence items)

omit h in
/-- The place where an arrow function may start is looked at. -/
theorem mayStartArrow (start : Nat) :
    IsQuiet (Grammar.mayStartArrow start : Parser code Bool) := by
  unfold Grammar.mayStartArrow
  refine .skip .state fun s => ?_
  exact .done _

/-- An expression in parentheses, a call or an arrow function stands for its items. -/
theorem parenthesized (asyncWord : Option (Ident code)) :
    Gathers [] (Grammar.parenthesized rules asyncWord) fun node => [node] := by
  unfold Grammar.parenthesized
  extract_lets -underBinder further
  have hfurther : ∀ start, Gathers [] (further start) fun node => [node] := by
    intro start
    refine .skip (mayStartArrow start) fun mayStart => ?_
    refine .bind (.parentheticals h) fun items => ?_
    refine .skip .flags fun flags => ?_
    refine .skip (.isAt _) fun isColon => ?_
    refine .bindEither (fun _ => .arrowInConditional h start asyncWord.isSome items)
      (fun _ => .give (.refl _)) fun inConditional => ?_
    cases inConditional with
    | some function => exact .give (.refl _)
    | none =>
        refine .skip (.isAt _) fun isColon => ?_
        refine .bindEither (fun _ => .arrowResult h) (fun _ => .give ?_) fun result => ?_
        · exact .of_sublist (by simp)
        refine .skip (.isAt _) fun isArrow => ?_
        refine .ite (fun _ => .arrowBehind h start mayStart asyncWord.isSome items result)
          fun _ => ?_
        -- without an arrow what was read of a result type is left out
        have hitems : Follows (itemNodes items ++ result.toList) (itemNodes items) :=
          .of_sublist (List.sublist_append_left _ _)
        refine .follow ?_ hitems
        cases asyncWord with
        | some ident =>
            refine .skip (.spanFrom _) fun span => ?_
            exact .give (follows_asyncCall ident items)
        | none => exact .asExpression start items
  cases asyncWord with
  | some ident => exact hfurther _
  | none => exact .skip .here hfurther

/-- A name as the parameter of an arrow function. -/
theorem nameArrow (start : Nat) (isAsync : Bool) (parameter : Ident code) :
    Gathers [] (Grammar.nameArrow rules start isAsync parameter) fun node => [node] := by
  unfold Grammar.nameArrow
  refine .skip (.expect _) fun _ => ?_
  refine .read (.arrowBody h isAsync) fun body => ?_
  refine .skip (.spanFrom _) fun span => ?_
  exact .give (.arrow span (Follows.identifier parameter).covers
    (.of_subset (List.nil_subset _)) (.of_subset (.refl _)))

/-- An arrow function with type parameters behind `async`. -/
theorem genericAsyncArrow : Gathers [] (Grammar.genericAsyncArrow rules)
    fun found => found.elim [] fun node => [node] := by
  unfold Grammar.genericAsyncArrow
  refine .attempt ?_
  refine .skip .here fun start => ?_
  refine .skip .advance fun _ => ?_
  refine .skip (.isAt _) fun isGeneric => ?_
  refine .ite (fun _ => ?_) fun _ => .give (.refl _)
  refine .read (.typeParameters h) fun typeParameters => ?_
  refine .skip (.expect _) fun _ => ?_
  refine .read (.parameters h) fun parameters => ?_
  refine .skip (.expect _) fun _ => ?_
  refine .read (.resultBehind h) fun result => ?_
  refine .skip (.expect _) fun _ => ?_
  refine .read (.arrowBody h true) fun body => ?_
  refine .skip (.spanFrom _) fun span => ?_
  have hparameters := (sublist_parameterNodes parameters).subset
  refine .give (.arrow span (.of_subset ?_) (.of_subset ?_) (.of_subset ?_))
  · refine List.Subset.trans hparameters (List.subset_append_of_subset_left _ ?_)
    exact List.subset_append_of_subset_left _ (List.subset_append_right _ _)
  · intro x
    simp only [List.mem_append]
    tauto
  · exact List.subset_append_right _ _

end Gathers

end ClassRegistry.TypeScript
