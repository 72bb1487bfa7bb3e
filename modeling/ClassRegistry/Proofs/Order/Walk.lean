import ClassRegistry.Proofs.Order.Items
import ClassRegistry.Proofs.Registry.Membership

/-!
# The walk and the text

The walk of a file comes to a class before its decorators, and to its members before its heritage;
it comes to the parameters of a function before its decorators and to its body before its types, and
there are a few more constructs of which it takes the parts in another order than they are written
in. A file lists its classes in the order of the text exactly if none of these constructs has
classes in two parts that change places. Then the first member of a registry is the one that stands
first in the text.
-/

namespace ClassRegistry.TypeScript

open Node (IsBefore)

variable {code : Code} {front back more : List (Node code)}

/-! ## Parts that change places -/

/-- No class is declared in some trees. -/
def IsClassFree (nodes : List (Node code)) : Prop :=
  classStartsIn nodes = []

theorem isClassFree_append :
    IsClassFree (front ++ back) ↔ IsClassFree front ∧ IsClassFree back := by
  simp only [IsClassFree, classStartsIn_append, List.append_eq_nil_iff]

theorem areBefore_append_left :
    AreBefore (front ++ back) more ↔ AreBefore front more ∧ AreBefore back more := by
  simp only [AreBefore, classStartsIn_append, List.forall_mem_append]

theorem areBefore_append_right :
    AreBefore more (front ++ back) ↔ AreBefore more front ∧ AreBefore more back := by
  simp only [AreBefore, classStartsIn_append, List.forall_mem_append, forall_and]

/-- A node with parts in any order has the classes of its parts. -/
theorem classStartsIn_loose (parts : List (Node code)) :
    classStartsIn [loose parts] = classStartsIn parts := by
  rw [classStartsIn, List.flatMap_singleton, Node.classStarts_eq]
  rfl

theorem areBefore_loose_left : AreBefore [loose front] back ↔ AreBefore front back := by
  simp only [AreBefore, classStartsIn_loose]

theorem areBefore_loose_right : AreBefore front [loose back] ↔ AreBefore front back := by
  simp only [AreBefore, classStartsIn_loose]

/-- Trees that come before others come behind them as well only if one of both has no classes. -/
theorem AreBefore.swap_iff (h : AreBefore front back) :
    AreBefore back front ↔ IsClassFree front ∨ IsClassFree back := by
  constructor
  · intro hback
    by_contra hnone
    obtain ⟨hfronts, hbacks⟩ := not_or.mp hnone
    obtain ⟨x, hx⟩ := List.exists_mem_of_ne_nil _ hfronts
    obtain ⟨y, hy⟩ := List.exists_mem_of_ne_nil _ hbacks
    exact Nat.lt_asymm (h x hx y hy) (hback y hy x hx)
  · rintro (hnone | hnone) y hy x hx
    · rw [hnone] at hx
      cases hx
    · rw [hnone] at hy
      cases hy

namespace Node

/-- What has to be so for the walk of a node to come to its own name and to its parts in the order
of the text. -/
def IsWalkedAsWritten : Node code → Prop
  | .classDefinition _ isDeclaration name decorators typeParameters superclass superArguments
      implemented members =>
    ((isDeclaration && name.isSome) = true → IsClassFree decorators) ∧
      (IsClassFree members ∨ IsClassFree
        (typeParameters ++ superclass.toList ++ superArguments.toList ++ implemented)) ∧
      (IsClassFree superclass.toList ∨ IsClassFree typeParameters) ∧
      (superclass.toList ++ superArguments.toList ++ implemented).Pairwise IsBefore
  | .function _ _ decorators parameters types body =>
    (IsClassFree parameters ∨ IsClassFree decorators) ∧ (IsClassFree body ∨ IsClassFree types) ∧
      (parameters ++ types).Pairwise IsBefore
  | .field _ decorators key types value =>
    (IsClassFree decorators ∨ IsClassFree ([key] ++ types ++ value)) ∧
      (IsClassFree value ∨ IsClassFree types)
  | .doWhile _ body test => IsClassFree [body] ∨ IsClassFree [test]
  | .call _ callee types arguments =>
    if repeats arguments then (callee :: (arguments ++ types)).Pairwise IsBefore
    else IsClassFree types ∨ IsClassFree arguments
  | .compound _ form parts => form.keepsOrder = true ∨ parts.Pairwise IsBefore
  | _ => True

/-- What the walk of a class takes in another order than it is written in. -/
theorem pairwise_classParts_iff
    {decorators name typeParameters superclass superArguments implemented members :
      List (Node code)}
    (h : (decorators ++ name ++ typeParameters ++
      [loose (superclass ++ superArguments ++ implemented)] ++ members).Pairwise IsBefore) :
    ((decorators ++ members ++ superclass ++ typeParameters ++ superArguments ++
        implemented).Pairwise IsBefore ↔
      (IsClassFree members ∨
        IsClassFree (typeParameters ++ superclass ++ superArguments ++ implemented)) ∧
      (IsClassFree superclass ∨ IsClassFree typeParameters) ∧
      (superclass ++ superArguments ++ implemented).Pairwise IsBefore) ∧
    (AreBefore name (decorators ++ members ++ superclass ++ typeParameters ++ superArguments ++
        implemented) ↔ IsClassFree name ∨ IsClassFree decorators) := by
  simp only [pairwise_append_iff, areBefore_append_left, areBefore_append_right,
    areBefore_loose_left, areBefore_loose_right, isClassFree_append] at h ⊢
  -- two parts that change places are in order only if either is without classes
  have hname : AreBefore name decorators ↔ IsClassFree decorators ∨ IsClassFree name :=
    AreBefore.swap_iff (by grind)
  have htypes : AreBefore members typeParameters ↔
      IsClassFree typeParameters ∨ IsClassFree members := AreBefore.swap_iff (by grind)
  have hsuper : AreBefore members superclass ↔ IsClassFree superclass ∨ IsClassFree members :=
    AreBefore.swap_iff (by grind)
  have harguments : AreBefore members superArguments ↔
      IsClassFree superArguments ∨ IsClassFree members := AreBefore.swap_iff (by grind)
  have himplemented : AreBefore members implemented ↔
      IsClassFree implemented ∨ IsClassFree members := AreBefore.swap_iff (by grind)
  have hheritage : AreBefore superclass typeParameters ↔
      IsClassFree typeParameters ∨ IsClassFree superclass := AreBefore.swap_iff (by grind)
  grind

/-- A class that is declared comes before some trees if its name does. -/
theorem forall_ownStart_iff {span : Span} {isDeclaration : Bool} {name : Option (Ident code)}
    {decorators typeParameters implemented members parts : List (Node code)}
    {superclass superArguments : Option (Node code)} :
    (∀ x ∈ (classDefinition span isDeclaration name decorators typeParameters superclass
        superArguments implemented members).ownStart, ∀ y ∈ classStartsIn parts, x < y) ↔
      ((isDeclaration && name.isSome) = true →
        AreBefore (name.toList.map className) parts) := by
  cases isDeclaration <;> cases name <;>
    simp [ownStart, AreBefore, classStartsIn, classStarts_className]

/-- The name of a class is one. -/
theorem not_isClassFree_name {name : Option (Ident code)} (h : name.isSome = true) :
    ¬ IsClassFree (name.toList.map className) := by
  obtain ⟨ident, rfl⟩ := Option.isSome_iff_exists.mp h
  simp [IsClassFree, classStartsIn, classStarts_className]

/-- What the walk of a function takes in another order than it is written in. -/
theorem pairwise_functionParts_iff {decorators parameters types body : List (Node code)}
    (h : (decorators ++ [loose (parameters ++ types)] ++ body).Pairwise IsBefore) :
    (parameters ++ decorators ++ body ++ types).Pairwise IsBefore ↔
      (IsClassFree parameters ∨ IsClassFree decorators) ∧ (IsClassFree body ∨ IsClassFree types) ∧
      (parameters ++ types).Pairwise IsBefore := by
  simp only [pairwise_append_iff, areBefore_append_left, areBefore_append_right,
    areBefore_loose_left, areBefore_loose_right] at h ⊢
  have hdecorators : AreBefore parameters decorators ↔
      IsClassFree decorators ∨ IsClassFree parameters := AreBefore.swap_iff (by grind)
  have htypes : AreBefore body types ↔ IsClassFree types ∨ IsClassFree body :=
    AreBefore.swap_iff (by grind)
  grind

/-- What the walk of a property takes in another order than it is written in. -/
theorem pairwise_fieldParts_iff {decorators key types value : List (Node code)}
    (h : (decorators ++ key ++ types ++ value).Pairwise IsBefore) :
    (key ++ (value ++ types ++ decorators)).Pairwise IsBefore ↔
      (IsClassFree decorators ∨ IsClassFree (key ++ types ++ value)) ∧
      (IsClassFree value ∨ IsClassFree types) := by
  simp only [pairwise_append_iff, areBefore_append_left, areBefore_append_right,
    isClassFree_append] at h ⊢
  have hkey : AreBefore key decorators ↔ IsClassFree decorators ∨ IsClassFree key :=
    AreBefore.swap_iff (by grind)
  have htypes : AreBefore types decorators ↔ IsClassFree decorators ∨ IsClassFree types :=
    AreBefore.swap_iff (by grind)
  have hvalue : AreBefore value decorators ↔ IsClassFree decorators ∨ IsClassFree value :=
    AreBefore.swap_iff (by grind)
  have htyped : AreBefore value types ↔ IsClassFree types ∨ IsClassFree value :=
    AreBefore.swap_iff (by grind)
  grind

/-- What the walk of a call takes in another order than it is written in. -/
theorem pairwise_swapped_iff {first second third : List (Node code)}
    (h : (first ++ second ++ third).Pairwise IsBefore) :
    (first ++ (third ++ second)).Pairwise IsBefore ↔ IsClassFree second ∨ IsClassFree third := by
  simp only [pairwise_append_iff, areBefore_append_left, areBefore_append_right] at h ⊢
  have hswap : AreBefore third second ↔ IsClassFree second ∨ IsClassFree third :=
    AreBefore.swap_iff (by grind)
  grind

/-- A node of which the parts come one before the other as they are written is walked as it is
written exactly if they do so in the order of the walk, behind its own name. -/
theorem isWalkedAsWritten_iff {node : Node code} (h : node.written.Pairwise IsBefore) :
    node.IsWalkedAsWritten ↔ node.children.Pairwise IsBefore ∧
      ∀ x ∈ node.ownStart, ∀ y ∈ classStartsIn node.children, x < y := by
  -- only a class has a name of its own
  have hnone : ∀ {p : Prop}, node.ownStart = [] → ((p ∧
      ∀ x ∈ node.ownStart, ∀ y ∈ classStartsIn node.children, x < y) ↔ p) := by
    intro p hown
    simp [hown]
  -- of a node that keeps the order nothing is asked
  have hplain : node.keepsOrder = true → (True ↔ node.children.Pairwise IsBefore ∧
      ∀ x ∈ node.ownStart, ∀ y ∈ classStartsIn node.children, x < y) := by
    intro hkeeps
    rw [hnone (ownStart_of_keepsOrder hkeeps), ← written_of_keepsOrder hkeeps]
    exact (iff_true_intro h).symm
  cases node with
  | classDefinition span isDeclaration name decorators typeParameters superclass superArguments
      implemented members =>
      obtain ⟨hparts, hname⟩ := pairwise_classParts_iff h
      have hown : ((isDeclaration && name.isSome) = true → IsClassFree decorators) ↔
          ((isDeclaration && name.isSome) = true → AreBefore (name.toList.map className)
            (decorators ++ members ++ superclass.toList ++ typeParameters ++
              superArguments.toList ++ implemented)) := by
        refine imp_congr_right fun hdeclared => ?_
        rw [hname, or_iff_right (not_isClassFree_name (Bool.and_eq_true_iff.mp hdeclared).2)]
      rw [forall_ownStart_iff, IsWalkedAsWritten, ← hparts, hown, and_comm]
      rfl
  | function span name decorators parameters types body =>
      exact ((hnone rfl).trans (pairwise_functionParts_iff h)).symm
  | field span decorators key types value =>
      exact ((hnone rfl).trans (pairwise_fieldParts_iff h)).symm
  | doWhile span body test =>
      have hparts : ([] ++ [body] ++ [test]).Pairwise IsBefore := h
      exact ((hnone rfl).trans (pairwise_swapped_iff hparts)).symm
  | call span callee types arguments =>
      refine Iff.trans ?_ (hnone rfl).symm
      rw [written] at h
      rw [IsWalkedAsWritten]
      split
      · exact Iff.rfl
      · rename_i hrepeats
        rw [if_neg hrepeats] at h
        have hparts : ([callee] ++ types ++ arguments).Pairwise IsBefore := h
        exact (pairwise_swapped_iff hparts).symm
  | compound span form parts =>
      rw [IsWalkedAsWritten]
      by_cases hkeeps : form.keepsOrder = true
      · exact Iff.trans (iff_true_intro (Or.inl hkeeps)) (hplain hkeeps)
      · rw [hnone rfl, or_iff_right hkeeps]
        rfl
  | _ => exact hplain rfl

end Node

/-! ## Trees -/

/-- The classes of some trees have their names in the order of the text when those of each tree do,
and the trees come one before the other. -/
theorem pairwise_classStartsIn_iff {nodes : List (Node code)} :
    (classStartsIn nodes).Pairwise (· < ·) ↔
      (∀ node ∈ nodes, node.classStarts.Pairwise (· < ·)) ∧ nodes.Pairwise IsBefore :=
  List.pairwise_flatMap

/-- What holds of all nodes in some trees holds of each tree and of all nodes below it. -/
theorem forall_standsIn_iff {nodes : List (Node code)} {P : Node code → Prop} :
    (∀ p, StandsIn nodes p → P p.node) ↔
      ∀ node ∈ nodes, P node ∧ ∀ p, StandsIn node.children p → P p.node := by
  constructor
  · intro h node hnode
    obtain ⟨number, hnumber⟩ := List.mem_iff_getElem?.mp hnode
    exact ⟨h ⟨[number], [], node⟩ (.top hnumber),
      fun p hp => h (p.within number node) (.inside hnumber hp)⟩
  · intro h p hp
    cases hp with
    | top hnode => exact (h _ (List.mem_of_getElem? hnode)).1
    | @inside _ number outer q houter hinner =>
        exact (h outer (List.mem_of_getElem? houter)).2 q hinner

/-- The classes of an arranged tree have their names in the order of the text exactly if every node
of it is walked as it is written. -/
theorem Node.IsArranged.pairwise_classStarts_iff {node : Node code} (h : node.IsArranged) :
    node.classStarts.Pairwise (· < ·) ↔
      node.IsWalkedAsWritten ∧ ∀ p, StandsIn node.children p → p.node.IsWalkedAsWritten := by
  induction node using Node.induction_on_children with
  | step node ih =>
      have hown : node.ownStart.Pairwise (· < ·) := by
        unfold ownStart
        split
        · exact List.pairwise_singleton _ _
        · exact .nil
      have hbelow : (∀ child ∈ node.children, child.classStarts.Pairwise (· < ·)) ↔
          ∀ p, StandsIn node.children p → p.node.IsWalkedAsWritten := by
        rw [forall_standsIn_iff]
        exact forall₂_congr fun child hchild => ih child hchild (h.of_mem_children hchild)
      rw [Node.classStarts_eq, ← classStartsIn, List.pairwise_append, pairwise_classStartsIn_iff,
        isWalkedAsWritten_iff h.pairwise, hbelow]
      tauto

/-- The classes of a row of trees have their names in the order of the text exactly if every node in
them is walked as it is written. -/
theorem IsRow.pairwise_classStartsIn_iff {nodes : List (Node code)} (h : IsRow nodes) :
    (classStartsIn nodes).Pairwise (· < ·) ↔
      ∀ p, StandsIn nodes p → p.node.IsWalkedAsWritten := by
  rw [TypeScript.pairwise_classStartsIn_iff, and_iff_left h.pairwise, forall_standsIn_iff]
  exact forall₂_congr fun node hnode => (h.isArranged node hnode).pairwise_classStarts_iff

end ClassRegistry.TypeScript

namespace ClassRegistry

open TypeScript (Node StandsIn)

namespace Source

variable {s : Source} {items : List (Node s.code)}

/-- The items of a file form a row. -/
theorem isRow_of_items (h : s.items = .ok items) : TypeScript.IsRow items := by
  unfold Source.items at h
  split at h
  · cases h
    exact TypeScript.isRow_of_parse ‹_›
  · cases h

/-- The member of a registry that a class of the file becomes, if it becomes one. -/
def memberAt? (s : Source) (items : List (Node s.code)) (options : CollectOptions)
    (registry : String) (site : ClassSite s.code) : Option Member :=
  (s.declaration (ModuleScope.ofItems? items) site).member? options |>.toOption.join.filter
    (·.registry = registry)

/-- The members of a registry that is collected from a file are its classes, in the order of the
walk. -/
theorem members_eq_filterMap {options : CollectOptions} {registries : Registries}
    (h : Registries.collect (s.declarationsOf items) options = .ok registries) {r : Registry}
    (hr : r ∈ registries) :
    r.members = (classSitesAll "" items).filterMap (s.memberAt? items options r.name) := by
  rw [Registries.eq_ofMembers_of_collect h] at hr
  rw [Registries.members_eq_filter hr, Registries.membersOf, declarationsOf, List.filterMap_map,
    List.filter_filterMap]
  rfl

/-- A file lists its classes in the order of their names in the text exactly if no node of its tree
has classes in two parts that its walk takes in another order than they are written in. Then the
first member of each registry that is collected from the file is that one of its classes which
stands first in the text. -/
theorem classes_inTextOrder_iff (h : s.items = .ok items) :
    (((classSitesAll "" items).map (·.name.span.start)).Pairwise (· < ·) ↔
      ∀ p, StandsIn items p → p.node.IsWalkedAsWritten) ∧
    (((classSitesAll "" items).map (·.name.span.start)).Pairwise (· < ·) →
      ∀ options registries, Registries.collect (s.declarationsOf items) options = .ok registries →
        ∀ r ∈ registries, ∃ first ∈ classSitesAll "" items, ∃ m, r.canonical? = some m ∧
          s.memberAt? items options r.name first = some m ∧
          ∀ site ∈ classSitesAll "" items, (s.memberAt? items options r.name site).isSome = true →
            first.name.span.start ≤ site.name.span.start) := by
  refine ⟨?_, ?_⟩
  · rw [Node.map_start_classSitesAll]
    exact (isRow_of_items h).pairwise_classStartsIn_iff
  · intro horder options registries hcollect r hr
    obtain ⟨m, hm⟩ := ((Registries.grouped_of_collect hcollect).isUniform r hr).exists_canonical
    have hfirst := hm
    rw [Registry.canonical?, members_eq_filterMap hcollect hr, List.head?_filterMap,
      List.findSome?_eq_some_iff] at hfirst
    obtain ⟨before, first, after, hsites, hmember, hnone⟩ := hfirst
    refine ⟨first, by simp [hsites], m, hm, hmember, fun site hsite hsome => ?_⟩
    rw [hsites, List.mem_append, List.mem_cons] at hsite
    rw [hsites, List.map_append, List.map_cons, List.pairwise_append, List.pairwise_cons] at horder
    rcases hsite with hbefore | rfl | hafter
    · rw [hnone site hbefore] at hsome
      cases hsome
    · exact Nat.le_refl _
    · exact Nat.le_of_lt (horder.2.1.1 _ (List.mem_map_of_mem hafter))

/-- What is found of the items of a source text holds of them. -/
theorem exists_items_of_found {s : Source} {p : List (Node s.code) → Bool}
    (h : (match s.items with
      | .ok items => p items
      | .error _ => false) = true) : ∃ items, s.items = .ok items ∧ p items = true := by
  cases hitems : s.items with
  | error fault => simp [hitems] at h
  | ok items =>
      rw [hitems] at h
      exact ⟨items, rfl, h⟩

end Source

/-- A class with a class in one of its methods, and a class behind it. -/
def classInMethod : Source :=
  ⟨"src/items.ts", ("@Register(Items) class Outer extends Base \x7b make() \x7b class Inner " ++
    "\x7b\x7d \x7d \x7d class Last \x7b\x7d").toList⟩

/-- No part of these classes has changed places with another one that has classes. -/
theorem isWalkedAsWritten_of_classInMethod : ∃ items, classInMethod.items = .ok items ∧
    (classSitesAll "" items).map (·.name.span.start) = [23, 59, 78] ∧
    ∀ p, StandsIn items p → p.node.IsWalkedAsWritten := by
  obtain ⟨items, hitems, hstarts⟩ := Source.exists_items_of_found (s := classInMethod)
    (p := fun items => (classSitesAll "" items).map (·.name.span.start) = [23, 59, 78])
    (by decide +kernel)
  have hstarts := of_decide_eq_true hstarts
  refine ⟨items, hitems, hstarts, (Source.classes_inTextOrder_iff hitems).1.mp ?_⟩
  rw [hstarts]
  decide

/-- A class with a class of the same registry in the arguments of its decorator. -/
def classInDecorator : Source :=
  ⟨"src/items.ts", ("@Register(Items, () => \x7b @Register(Items) class Inner \x7b\x7d \x7d) " ++
    "class Outer \x7b\x7d").toList⟩

/-- The class that stands later in the text is listed first, and is the first of the registry. -/
theorem outer_before_inner_of_classInDecorator : ∃ items registries r,
    classInDecorator.items = .ok items ∧
    (classSitesAll "" items).map (fun site => (site.name.name, site.name.span.start)) =
      [("Outer", 66), ("Inner", 48)] ∧
    ¬ ((classSitesAll "" items).map (·.name.span.start)).Pairwise (· < ·) ∧
    Registries.collect (classInDecorator.declarationsOf items) .standard = .ok registries ∧
    r ∈ registries ∧ r.canonical?.map (·.typeName) = some "Outer" := by
  obtain ⟨items, hitems, h⟩ := Source.exists_items_of_found (s := classInDecorator)
    (p := fun items =>
      (classSitesAll "" items).map (fun site => (site.name.name, site.name.span.start)) =
          [("Outer", 66), ("Inner", 48)] &&
        (Registries.collect (classInDecorator.declarationsOf items) .standard).toOption.any
          (·.any fun r => r.canonical?.map (·.typeName) = some "Outer"))
    (by decide +kernel)
  obtain ⟨hsites, hcollected⟩ := Bool.and_eq_true_iff.mp h
  obtain ⟨registries, r, hcollect, hr, hfirst⟩ :=
    Registries.exists_collected_of_any _ hcollected
  have hsites := of_decide_eq_true hsites
  refine ⟨items, registries, r, hitems, hsites, ?_, hcollect, hr, of_decide_eq_true hfirst⟩
  have hstarts : (classSitesAll "" items).map (·.name.span.start) = [66, 48] := by
    have hmapped := congrArg (List.map Prod.snd) hsites
    rw [List.map_map] at hmapped
    exact hmapped
  rw [hstarts]
  decide

end ClassRegistry
