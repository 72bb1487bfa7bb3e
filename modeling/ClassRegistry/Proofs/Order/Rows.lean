import ClassRegistry.Proofs.Declaration.Sites
import ClassRegistry.Proofs.TypeScript.Gaps

/-!
# Nodes in the order of the text

Nodes form a row when the classes in each of them have their names before those in the next one, and
when the parts of each of them form a row in turn, but for the constructs that are walked in another
order than they are written in. What is made of a row, by leaving parts out or by putting nodes
around them, is a row again. A decorator is in a row only as it is written at its span.
-/

namespace ClassRegistry.TypeScript

variable {code : Code}

namespace Node

/-! ## The places of class names -/

/-- The place of the name of the class that a node declares itself. -/
def ownStart : Node code → List Nat
  | .classDefinition _ true (some name) _ _ _ _ _ _ => [name.span.start]
  | _ => []

/-- The places of the names of the classes that are declared in a tree, in the order of the walk. -/
def classStarts (node : Node code) : List Nat :=
  (classSites "" node).map (·.name.span.start)

/-- The class that a node declares itself has its name at the node's own place. -/
theorem map_start_declaredClass? (scope : String) (node : Node code) :
    (declaredClass? scope node).toList.map (·.name.span.start) = node.ownStart := by
  cases node with
  | classDefinition span isDeclaration name decorators parameters superclass superArguments
      implemented members => cases isDeclaration <;> cases name <;> rfl
  | _ => rfl

/-- A class has the same name in whatever scope it is. -/
theorem map_start_classSites (scope : String) (node : Node code) :
    (classSites scope node).map (·.name.span.start) = node.classStarts := by
  induction node using Node.induction_on_children generalizing scope with
  | step node ih =>
      have hall : ∀ (inner outer : String) (nodes : List (Node code)), nodes ⊆ node.children →
          (classSitesAll inner nodes).map (·.name.span.start) =
            (classSitesAll outer nodes).map (·.name.span.start) := by
        intro inner outer nodes hnodes
        induction nodes with
        | nil => rfl
        | cons first rest ihrest =>
            obtain ⟨hfirst, hrest⟩ := List.cons_subset.mp hnodes
            rw [classSitesAll, classSitesAll, List.map_append, List.map_append,
              ih first hfirst inner, ih first hfirst outer, ihrest hrest]
      rw [classStarts, classSites_eq, classSites_eq, List.map_append, List.map_append,
        map_start_declaredClass?, map_start_declaredClass?,
        hall _ ((namespaceName? node).getD "") _ (List.Subset.refl _)]

/-- The classes in several trees have their names where those of each tree have them. -/
theorem map_start_classSitesAll (scope : String) (nodes : List (Node code)) :
    (classSitesAll scope nodes).map (·.name.span.start) = nodes.flatMap classStarts := by
  induction nodes with
  | nil => rfl
  | cons first rest ih =>
      rw [classSitesAll, List.map_append, map_start_classSites, ih, List.flatMap_cons]

/-- The names of the classes in a tree are its own one and those in its children. -/
theorem classStarts_eq (node : Node code) :
    node.classStarts = node.ownStart ++ node.children.flatMap classStarts := by
  rw [classStarts, classSites_eq, List.map_append, map_start_declaredClass?,
    map_start_classSitesAll]

end Node

/-! ## Parts as they are written -/

/-- Nodes with the given parts that keep no order. -/
def loose (parts : List (Node code)) : Node code :=
  .compound ⟨0, 0⟩ .rearranged parts

/-- A stand-in for the name of a class. -/
def className (name : Ident code) : Node code :=
  .classDefinition name.span true (some name) [] [] none none [] []

/-- The only class in the name of one is this one. -/
theorem classStarts_className (name : Ident code) :
    (className name).classStarts = [name.span.start] := by
  rw [Node.classStarts_eq]
  rfl

/-- Whether a compound of a form has its parts in the order that they are written in. -/
def Form.keepsOrder : Form → Bool
  | .arrow | .new | .optionalChain | .assertion | .rearranged => false
  | _ => true

namespace Node

/-- Whether a node is walked in the order that it is written in, whatever its parts are. -/
def keepsOrder : Node code → Bool
  | .classDefinition .. | .function .. | .field .. | .doWhile .. | .call .. => false
  | .compound _ form _ => form.keepsOrder
  | _ => true

/-- The parts of a node in the order that they are written in, as far as the node shows it. The
heritage of a class may be in any order, and the return type of a function is not told apart from
its type parameters. -/
def written : Node code → List (Node code)
  | .classDefinition _ _ name decorators typeParameters superclass superArguments implemented
      members =>
    decorators ++ name.toList.map className ++ typeParameters ++
      [loose (superclass.toList ++ superArguments.toList ++ implemented)] ++ members
  | .function _ _ decorators parameters types body =>
    decorators ++ [loose (parameters ++ types)] ++ body
  | .field _ decorators key types value => decorators ++ [key] ++ types ++ value
  | .doWhile _ body test => [body, test]
  | .call _ callee types arguments =>
    if repeats arguments then [] else callee :: types ++ arguments
  | node => if node.keepsOrder then node.children else []

/-- A node that is walked as it is written shows the order of all its parts. -/
theorem written_of_keepsOrder {node : Node code} (h : node.keepsOrder = true) :
    node.written = node.children := by
  cases node with
  | classDefinition | function | field | doWhile | call => cases h
  | _ => simp only [written, h, if_true]

/-- Whether a node shows nothing of the order that its parts are written in, and is no class. -/
def isMixed : Node code → Bool
  | .compound _ form _ => !form.keepsOrder
  | _ => false

/-- A node that shows no order. -/
theorem written_of_isMixed {node : Node code} (h : node.isMixed = true) : node.written = [] := by
  cases node with
  | compound =>
      rw [isMixed, Bool.not_eq_true'] at h
      simp [written, keepsOrder, h]
  | _ => cases h

/-- A node that is walked as it is written is no class. -/
theorem ownStart_of_keepsOrder {node : Node code} (h : node.keepsOrder = true) :
    node.ownStart = [] := by
  cases node with
  | classDefinition => cases h
  | _ => rfl

/-- A decorator is written at a span: behind its `@` and a gap stands a parenthesis or a word. -/
def IsDecoratorAt (code : Code) (span : Span) : Prop :=
  ∃ gap first rest, code.drop span.start = '@' :: (gap ++ first :: rest) ∧ IsGap gap ∧
    Text.isBlank first = false ∧ (first = '(' ∨ isWordChar first = true) ∧
    span.start + 1 + gap.length < span.stop

/-- A decorator stands where its span says. -/
def IsPlaced : Node code → Prop
  | .decorator span _ => IsDecoratorAt code span
  | _ => True

/-- Whether a node is walked in the order that it is written in, and is no decorator. -/
def isPlain : Node code → Bool
  | .decorator .. => false
  | node => node.keepsOrder

/-- A plain node is walked as it is written, and it matters for no decorator where it stands. -/
theorem keepsOrder_and_isPlaced_of_isPlain {node : Node code} (h : node.isPlain = true) :
    node.keepsOrder = true ∧ node.IsPlaced := by
  cases node with
  | decorator => cases h
  | _ => exact ⟨h, trivial⟩

/-- All classes in a node have their names before those in another one. -/
def IsBefore (node other : Node code) : Prop :=
  ∀ x ∈ node.classStarts, ∀ y ∈ other.classStarts, x < y

/-- In each node of a tree the parts come one before the other as they are written, and each
decorator stands where its span says. -/
inductive IsArranged : Node code → Prop
  | intro {node : Node code} : node.written.Pairwise IsBefore → node.IsPlaced →
    (∀ child ∈ node.children, IsArranged child) → IsArranged node

/-- The parts of a node come one before the other as they are written. -/
theorem IsArranged.pairwise {node : Node code} (h : node.IsArranged) :
    node.written.Pairwise IsBefore := by
  cases h with
  | intro hpairwise _ _ => exact hpairwise

/-- A decorator in an arranged tree stands where its span says. -/
theorem IsArranged.isPlaced {node : Node code} (h : node.IsArranged) : node.IsPlaced := by
  cases h with
  | intro _ hplaced _ => exact hplaced

/-- The parts of a tree are arranged as the tree is. -/
theorem IsArranged.of_mem_children {node child : Node code} (h : node.IsArranged)
    (hchild : child ∈ node.children) : child.IsArranged := by
  cases h with
  | intro _ _ hbelow => exact hbelow child hchild

end Node

open Node (IsBefore IsArranged)

/-! ## Rows of nodes -/

/-- The places of the names of the classes in several trees. -/
def classStartsIn (nodes : List (Node code)) : List Nat :=
  nodes.flatMap Node.classStarts

/-- Classes of several lists of trees have their names list by list. -/
theorem classStartsIn_append (front back : List (Node code)) :
    classStartsIn (front ++ back) = classStartsIn front ++ classStartsIn back :=
  List.flatMap_append

/-- Fewer trees have no further classes. -/
theorem classStartsIn_subset {nodes others : List (Node code)} (h : nodes ⊆ others) :
    classStartsIn nodes ⊆ classStartsIn others := by
  intro x hx
  obtain ⟨node, hnode, hx⟩ := List.mem_flatMap.mp hx
  exact List.mem_flatMap.mpr ⟨node, h hnode, hx⟩

/-- All classes in some trees have their names before those in others. -/
def AreBefore (front back : List (Node code)) : Prop :=
  ∀ x ∈ classStartsIn front, ∀ y ∈ classStartsIn back, x < y

/-- Nodes that come one before the other and are arranged each. -/
structure IsRow (nodes : List (Node code)) : Prop where
  pairwise : nodes.Pairwise IsBefore
  isArranged : ∀ node ∈ nodes, node.IsArranged

variable {before middle after front back more : List (Node code)} {node : Node code}

/-- What is left of a row is a row. -/
theorem IsRow.sublist (h : IsRow before) (hsub : after.Sublist before) : IsRow after :=
  ⟨h.pairwise.sublist hsub, fun node hnode => h.isArranged node (hsub.subset hnode)⟩

/-- Nodes come one before the other in two parts, and all of the first before all of the second. -/
theorem pairwise_append_iff : (front ++ back).Pairwise IsBefore ↔
    front.Pairwise IsBefore ∧ back.Pairwise IsBefore ∧ AreBefore front back := by
  have hcross : (∀ a ∈ front, ∀ b ∈ back, IsBefore a b) ↔ AreBefore front back := by
    simp only [AreBefore, classStartsIn, List.mem_flatMap, IsBefore]
    constructor
    · rintro h x ⟨a, ha, hx⟩ y ⟨b, hb, hy⟩
      exact h a ha b hb x hx y hy
    · intro h a ha b hb x hx y hy
      exact h x ⟨a, ha, hx⟩ y ⟨b, hb, hy⟩
  rw [List.pairwise_append, hcross]

/-- Two rows form one when all of the first comes before all of the second. -/
theorem isRow_append_iff :
    IsRow (front ++ back) ↔ IsRow front ∧ IsRow back ∧ AreBefore front back := by
  constructor
  · rintro ⟨hpairwise, harranged⟩
    obtain ⟨hfront, hback, hboth⟩ := pairwise_append_iff.mp hpairwise
    obtain ⟨hfronts, hbacks⟩ := List.forall_mem_append.mp harranged
    exact ⟨⟨hfront, hfronts⟩, ⟨hback, hbacks⟩, hboth⟩
  · rintro ⟨hfront, hback, hboth⟩
    exact ⟨pairwise_append_iff.mpr ⟨hfront.pairwise, hback.pairwise, hboth⟩,
      List.forall_mem_append.mpr ⟨hfront.isArranged, hback.isArranged⟩⟩

/-- Nodes that are in others: when these form a row, they are arranged each, and have no classes but
theirs. -/
def Covers (before nodes : List (Node code)) : Prop :=
  IsRow before → (∀ node ∈ nodes, node.IsArranged) ∧ classStartsIn nodes ⊆ classStartsIn before

namespace Covers

/-- Nodes are in a list of nodes if they are among them. -/
theorem of_subset (h : after ⊆ before) : Covers before after :=
  fun hrow => ⟨fun node hnode => hrow.isArranged node (h hnode), classStartsIn_subset h⟩

/-- The parts of a node are in it. -/
theorem children (node : Node code) : Covers [node] node.children := by
  intro hrow
  have harranged := hrow.isArranged node (List.mem_singleton_self node)
  refine ⟨fun child => harranged.of_mem_children, ?_⟩
  rw [classStartsIn, classStartsIn, List.flatMap_singleton, Node.classStarts_eq]
  exact List.subset_append_right _ _

/-- Nodes are in two lists of nodes if some are in the one and the others in the other. -/
theorem append (h : Covers front back) (h' : Covers more after) :
    Covers (front ++ more) (back ++ after) := by
  intro hrow
  obtain ⟨hfront, hmore, -⟩ := isRow_append_iff.mp hrow
  obtain ⟨hback, hstarts⟩ := h hfront
  obtain ⟨hafter, hlater⟩ := h' hmore
  rw [classStartsIn_append, classStartsIn_append]
  refine ⟨List.forall_mem_append.mpr ⟨hback, hafter⟩, ?_⟩
  exact List.append_subset.mpr ⟨List.subset_append_of_subset_left _ hstarts,
    List.subset_append_of_subset_right _ hlater⟩

/-- What is in nodes does not depend on the order of what is. -/
theorem subset (h : Covers before middle) (hsub : after ⊆ middle) : Covers before after := by
  intro hrow
  obtain ⟨harranged, hstarts⟩ := h hrow
  exact ⟨fun node hnode => harranged node (hsub hnode),
    List.Subset.trans (classStartsIn_subset hsub) hstarts⟩

/-- What two lists of nodes are in has all of their nodes. -/
theorem both (h : Covers before front) (h' : Covers before back) :
    Covers before (front ++ back) := by
  intro hrow
  obtain ⟨hfront, hstarts⟩ := h hrow
  obtain ⟨hback, hlater⟩ := h' hrow
  rw [classStartsIn_append]
  exact ⟨List.forall_mem_append.mpr ⟨hfront, hback⟩, List.append_subset.mpr ⟨hstarts, hlater⟩⟩

/-- The parts of a node that is in others are in them. -/
theorem inside (h : Covers before [node]) : Covers before node.children := by
  intro hrow
  obtain ⟨harranged, hstarts⟩ := h hrow
  have hnode := harranged node (List.mem_singleton_self node)
  rw [classStartsIn, List.flatMap_singleton, Node.classStarts_eq] at hstarts
  exact ⟨fun child => hnode.of_mem_children,
    List.Subset.trans (List.subset_append_right _ _) hstarts⟩

/-- What is in nodes does not depend on what stands behind them. -/
theorem inFront (h : Covers before after) : Covers (before ++ more) after := by
  intro hrow
  obtain ⟨harranged, hstarts⟩ := h (hrow.sublist (List.sublist_append_left _ _))
  rw [classStartsIn_append]
  exact ⟨harranged, List.subset_append_of_subset_left _ hstarts⟩

end Covers

/-- Nodes that can stand for others: they form a row when those do, and have no classes but theirs.
-/
def Follows (before after : List (Node code)) : Prop :=
  IsRow before → IsRow after ∧ classStartsIn after ⊆ classStartsIn before

/-- Nodes that stand for others are in them. -/
theorem Follows.covers (h : Follows before after) : Covers before after := by
  intro hrow
  obtain ⟨hafter, hstarts⟩ := h hrow
  exact ⟨hafter.isArranged, hstarts⟩

/-- Nodes that each stand for one of those that are in others are in these as well. -/
theorem Covers.each (h : Covers before middle)
    (heach : ∀ last ∈ after, ∃ node ∈ middle, Follows [node] [last]) : Covers before after := by
  intro hrow
  obtain ⟨harranged, hstarts⟩ := h hrow
  have hsingle : ∀ last ∈ after, last.IsArranged ∧ last.classStarts ⊆ classStartsIn before := by
    intro last hlast
    obtain ⟨node, hnode, hfollows⟩ := heach last hlast
    obtain ⟨hlasts, hlater⟩ := hfollows
      ⟨List.pairwise_singleton _ _, List.forall_mem_singleton.mpr (harranged node hnode)⟩
    rw [classStartsIn, classStartsIn, List.flatMap_singleton, List.flatMap_singleton] at hlater
    have hall : node.classStarts ⊆ classStartsIn middle :=
      fun x hx => List.mem_flatMap.mpr ⟨node, hnode, hx⟩
    exact ⟨hlasts.isArranged last (List.mem_singleton_self last),
      List.Subset.trans (List.Subset.trans hlater hall) hstarts⟩
  refine ⟨fun last hlast => (hsingle last hlast).1, fun x hx => ?_⟩
  obtain ⟨last, hlast, hx⟩ := List.mem_flatMap.mp hx
  exact (hsingle last hlast).2 hx

namespace Follows

theorem refl (nodes : List (Node code)) : Follows nodes nodes :=
  fun h => ⟨h, List.Subset.refl _⟩

theorem trans (h : Follows before middle) (h' : Follows middle after) : Follows before after := by
  intro hrow
  obtain ⟨hmiddle, hstarts⟩ := h hrow
  obtain ⟨hafter, hlater⟩ := h' hmiddle
  exact ⟨hafter, List.Subset.trans hlater hstarts⟩

/-- Nodes can be left out. -/
theorem of_sublist (h : after.Sublist before) : Follows before after :=
  fun hrow => ⟨hrow.sublist h, classStartsIn_subset h.subset⟩

theorem nil : Follows before [] :=
  of_sublist (List.nil_sublist _)

/-- Of two lists of nodes each can be replaced. -/
theorem append {others : List (Node code)} (h : Follows front back) (h' : Follows more others) :
    Follows (front ++ more) (back ++ others) := by
  intro hrow
  obtain ⟨hfront, hmore, hcross⟩ := isRow_append_iff.mp hrow
  obtain ⟨hback, hstarts⟩ := h hfront
  obtain ⟨hothers, hlater⟩ := h' hmore
  rw [classStartsIn_append, classStartsIn_append]
  refine ⟨isRow_append_iff.mpr ⟨hback, hothers, ?_⟩, ?_⟩
  · exact fun x hx y hy => hcross x (hstarts hx) y (hlater hy)
  · exact List.append_subset.mpr ⟨List.subset_append_of_subset_left _ hstarts,
      List.subset_append_of_subset_right _ hlater⟩

/-- A node around nodes: they cover what it is walked with, and stand in the order that it shows. -/
theorem around (hcovers : Covers before node.children)
    (hown : node.ownStart ⊆ classStartsIn before) (hwritten : Follows before node.written)
    (hplaced : node.IsPlaced) : Follows before [node] := by
  intro hrow
  obtain ⟨hchildren, hstarts⟩ := hcovers hrow
  have harranged : node.IsArranged := .intro (hwritten hrow).1.pairwise hplaced hchildren
  refine ⟨⟨List.pairwise_singleton _ _, by simpa using harranged⟩, ?_⟩
  rw [classStartsIn, List.flatMap_singleton, Node.classStarts_eq]
  exact List.append_subset.mpr ⟨hown, hstarts⟩

/-- A node that stands where it has to, around nodes of a row, and is walked as it is written. -/
theorem placed (hkeeps : node.keepsOrder = true) (hplaced : node.IsPlaced)
    (hchildren : node.children.Sublist before) : Follows before [node] := by
  refine around (.of_subset hchildren.subset) ?_ ?_ hplaced
  · rw [Node.ownStart_of_keepsOrder hkeeps]
    exact List.nil_subset _
  · rw [Node.written_of_keepsOrder hkeeps]
    exact of_sublist hchildren

/-- A plain node around nodes of a row. -/
theorem single (h : node.isPlain = true) (hchildren : node.children.Sublist before) :
    Follows before [node] := by
  obtain ⟨hkeeps, hplaced⟩ := Node.keepsOrder_and_isPlaced_of_isPlain h
  exact placed hkeeps hplaced hchildren

theorem leaf (h : node.isPlain = true) (hchildren : node.children = []) : Follows before [node] :=
  single h (hchildren ▸ List.nil_sublist _)

/-- A node around nodes that shows no order. -/
theorem mixed (hmixed : node.isMixed = true) (hcovers : Covers before node.children) :
    Follows before [node] := by
  refine around hcovers ?_ ?_ ?_
  · cases node with
    | compound => exact List.nil_subset _
    | _ => cases hmixed
  · rw [Node.written_of_isMixed hmixed]
    exact nil
  · cases node with
    | compound => trivial
    | _ => cases hmixed

/-- A call around its callee and what stands behind it. -/
theorem call {callee : Node code} {types arguments : List (Node code)} {span : Span}
    (h : Follows before (callee :: types ++ arguments)) :
    Follows before [.call span callee types arguments] := by
  refine around (h.covers.subset fun x => ?_) (List.nil_subset _) ?_ trivial
  · simp only [Node.children, List.mem_append, List.mem_cons]
    tauto
  · rw [Node.written]
    split
    · exact nil
    · exact h

/-- Nodes stand for others that are in them, if no order is kept. -/
theorem loosely (h : Covers before after) : Follows before [loose after] :=
  .mixed rfl h

/-- A single node stands for others that it is in. -/
theorem tightly (h : Covers before [node]) : Follows before [node] := by
  intro hrow
  obtain ⟨harranged, hstarts⟩ := h hrow
  exact ⟨⟨List.pairwise_singleton _ _, harranged⟩, hstarts⟩

theorem part {parts : List (Node code)} (h : node ∈ parts) : Follows [loose parts] [node] :=
  tightly ((Covers.children (loose parts)).subset (List.cons_subset.mpr ⟨h, List.nil_subset _⟩))

/-- The parts of a construct that is walked as it is written. -/
theorem children (hkeeps : node.keepsOrder = true) : Follows [node] node.children := by
  intro hrow
  obtain ⟨harranged, hstarts⟩ := Covers.children node hrow
  have hpairwise := (hrow.isArranged node (List.mem_singleton_self node)).pairwise
  rw [Node.written_of_keepsOrder hkeeps] at hpairwise
  exact ⟨⟨hpairwise, harranged⟩, hstarts⟩

end Follows

end ClassRegistry.TypeScript
