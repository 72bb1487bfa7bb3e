import ClassRegistry.TypeScript.Syntax
import Mathlib.Data.List.Basic

/-!
# Places in syntax trees

A node has children, whatever it is, and what holds of a node when it holds of its children holds of
every node. A place in a list of trees is given by the number of the tree, the number of the child
in it, and so on; it leads to one node with certain nodes around it.
-/

namespace ClassRegistry.TypeScript

variable {code : Code}

namespace Node

/-- The nodes directly inside of a node, in the order of a walk. -/
def children : Node code → List (Node code)
  | .identifier _ | .string .. | .literal _ | .shorthand _ | .importNames .. | .exportNames .. => []
  | .template _ parts | .object _ parts | .typeDeclaration _ _ parts | .typeReference _ _ parts
  | .moduleDeclaration _ parts | .compound _ _ parts | .namespaceBlock _ _ parts => parts
  | .member _ inner _ | .privateMember _ inner | .spread _ inner | .parenthesized _ inner
  | .computedKey _ inner | .decorator _ inner | .exportDeclaration _ inner
  | .exportDefault _ inner => [inner]
  | .computedMember _ first second | .assignment _ _ first second | .property _ first second
  | .instantiation _ first second => [first, second]
  | .call _ callee types arguments => callee :: (arguments ++ types)
  | .classDefinition _ _ _ decorators parameters superclass superArguments implemented members =>
    decorators ++ members ++ superclass.toList ++ parameters ++ superArguments.toList ++ implemented
  | .function _ _ decorators parameters types body => parameters ++ decorators ++ body ++ types
  | .field _ decorators key types value => key :: (value ++ types ++ decorators)
  | .doWhile _ body test => [test, body]

/-- A child is smaller than its node. -/
theorem sizeOf_lt_of_mem_children {node child : Node code} (h : child ∈ node.children) :
    sizeOf child < sizeOf node := by
  have hlist : ∀ nodes : List (Node code), child ∈ nodes → sizeOf child < sizeOf nodes :=
    fun _ => List.sizeOf_lt_of_mem
  have hoption : ∀ found : Option (Node code), found = some child →
      sizeOf child < sizeOf found := by
    rintro _ rfl
    simp
  cases node <;>
    simp only [children, List.mem_append, List.mem_cons, List.not_mem_nil, or_false,
      Option.mem_toList] at h <;>
    simp <;> grind

/-- What holds of a node when it holds of its children holds of every node. -/
@[elab_as_elim]
theorem induction_on_children {motive : Node code → Prop}
    (step : ∀ node, (∀ child ∈ node.children, motive child) → motive node) (node : Node code) :
    motive node :=
  step node fun child _ => induction_on_children step child
termination_by sizeOf node
decreasing_by
  rename_i hchild
  exact sizeOf_lt_of_mem_children hchild

end Node

/-! ## Places -/

/-- A place in a list of trees. -/
structure Place (code : Code) where
  /-- The number of the tree, then that of the child in it, and so on. -/
  address : List Nat
  /-- The nodes around, the outermost first. -/
  around : List (Node code)
  /-- The node that stands there. -/
  node : Node code

namespace Place

/-- A place among the children of a node, as a place in a list that has this node. -/
def within (number : Nat) (outer : Node code) (p : Place code) : Place code :=
  ⟨number :: p.address, outer :: p.around, p.node⟩

/-- A place in a list, after one more tree was put in front. -/
def next (p : Place code) : Place code :=
  { p with address := p.address.modifyHead (· + 1) }

end Place

/-- The places in a list of trees. -/
inductive StandsIn : List (Node code) → Place code → Prop
  | top {nodes : List (Node code)} {number : Nat} {node : Node code} :
    nodes[number]? = some node → StandsIn nodes ⟨[number], [], node⟩
  | inside {nodes : List (Node code)} {number : Nat} {outer : Node code} {p : Place code} :
    nodes[number]? = some outer → StandsIn outer.children p → StandsIn nodes (p.within number outer)

theorem StandsIn.address_ne_nil {nodes : List (Node code)} {p : Place code}
    (h : StandsIn nodes p) : p.address ≠ [] := by
  cases h <;> exact List.cons_ne_nil _ _

theorem not_standsIn_nil (p : Place code) : ¬ StandsIn [] p := by
  intro h
  cases h with
  | top hnode => simp at hnode
  | inside houter => simp at houter

/-- A place in a list is the first tree, or inside of it, or in the rest of the list. -/
theorem standsIn_cons_iff {node : Node code} {rest : List (Node code)} {p : Place code} :
    StandsIn (node :: rest) p ↔ p = ⟨[0], [], node⟩ ∨
      (∃ q, StandsIn node.children q ∧ q.within 0 node = p) ∨
      ∃ q, StandsIn rest q ∧ q.next = p := by
  constructor
  · intro h
    cases h with
    | @top _ number found hfound =>
        cases number with
        | zero =>
            obtain rfl : node = found := by simpa using hfound
            exact Or.inl rfl
        | succ number =>
            exact Or.inr (Or.inr ⟨⟨[number], [], found⟩, .top (by simpa using hfound), rfl⟩)
    | @inside _ number outer q houter hinner =>
        cases number with
        | zero =>
            obtain rfl : node = outer := by simpa using houter
            exact Or.inr (Or.inl ⟨q, hinner, rfl⟩)
        | succ number =>
            exact Or.inr (Or.inr
              ⟨q.within number outer, .inside (by simpa using houter) hinner, rfl⟩)
  · rintro (rfl | ⟨q, hq, rfl⟩ | ⟨q, hq, rfl⟩)
    · exact .top rfl
    · exact .inside rfl hq
    · cases hq with
      | @top _ number found hfound =>
          exact StandsIn.top (by simpa using hfound)
      | @inside _ number outer inner houter hinner =>
          have hlater : (node :: rest)[number + 1]? = some outer := by simpa using houter
          exact StandsIn.inside (p := inner) hlater hinner

end ClassRegistry.TypeScript
