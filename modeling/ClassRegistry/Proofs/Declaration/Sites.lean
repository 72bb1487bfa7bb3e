import ClassRegistry.Declaration.Extraction
import ClassRegistry.Proofs.TypeScript.Tree
import Mathlib.Data.List.Nodup

/-!
# Classes and their places

The walk of a file takes one step for each node: it records the node if it is a class that is
declared by name, and goes on in the children, with the name of the node as scope if it is a named
namespace. So the declarations of a file are its declared classes, each once, and each is in the
scope of the innermost namespace around. A walk that keeps the namespaces around on a stack comes to
the same declarations and leaves the stack as it was.
-/

namespace ClassRegistry

open TypeScript (Node Code Ident Place StandsIn NamespaceName)

variable {code : Code}

/-! ## One step of the walk -/

/-- The full name of a namespace block. The global scope has none, nor does a module that is named
by a string. -/
def namespaceName? : Node code → Option String
  | .namespaceBlock _ (.dotted first rest) _ => some (".".intercalate (first :: rest))
  | _ => none

/-- The class that a node in a scope declares by name. -/
def declaredClass? (scope : String) : Node code → Option (ClassSite code)
  | .classDefinition _ true (some name) decorators _ superclass superArguments implemented _ =>
    some ⟨scope, name, decorators, superclass, superArguments, implemented⟩
  | _ => none

/-- A node that declares a class is its definition. -/
theorem eq_of_declaredClass? {scope : String} {node : Node code} {site : ClassSite code}
    (h : declaredClass? scope node = some site) : site.scope = scope ∧ ∃ span parameters members,
      node = .classDefinition span true (some site.name) site.decorators parameters site.superclass
        site.superArguments site.implemented members := by
  unfold declaredClass? at h
  split at h
  · obtain rfl := Option.some.inj h
    exact ⟨rfl, _, _, _, rfl⟩
  · cases h

/-- Classes of several lists of trees are found list by list. -/
theorem classSitesAll_append (scope : String) (front back : List (Node code)) :
    classSitesAll scope (front ++ back) =
      classSitesAll scope front ++ classSitesAll scope back := by
  induction front with
  | nil => rfl
  | cons node rest ih => rw [List.cons_append, classSitesAll, classSitesAll, ih, List.append_assoc]

/-- A tree that may be missing is a list of at most one. -/
theorem classSitesOption_eq (scope : String) (found : Option (Node code)) :
    classSitesOption scope found = classSitesAll scope found.toList := by
  cases found with
  | none => rfl
  | some node => simp [classSitesOption, classSitesAll]

/-- A node gives the class that it declares itself, then those of its children. -/
theorem classSites_eq (scope : String) (node : Node code) :
    classSites scope node = (declaredClass? scope node).toList ++
      classSitesAll ((namespaceName? node).getD scope) node.children := by
  cases node with
  | classDefinition span isDeclaration name decorators parameters superclass superArguments
      implemented members =>
      cases isDeclaration <;> cases name <;>
        simp [classSites, declaredClass?, namespaceName?, Node.children, classSitesAll_append,
          classSitesOption_eq]
  | namespaceBlock span name body =>
      cases name <;> simp [classSites, declaredClass?, namespaceName?, Node.children, scopeWithin]
  | _ =>
      simp [classSites, declaredClass?, namespaceName?, Node.children, classSitesAll,
        classSitesAll_append]

/-! ## Places of classes -/

/-- The name of the innermost named namespace among the nodes around a place, or that of what is
outside of all of them. -/
def innermostNamespace (outside : String) (around : List (Node code)) : String :=
  (around.reverse.findSome? namespaceName?).getD outside

/-- The outermost node counts when there is no namespace inside of it. -/
theorem innermostNamespace_cons (outside : String) (outer : Node code)
    (around : List (Node code)) :
    innermostNamespace outside (outer :: around) =
      innermostNamespace ((namespaceName? outer).getD outside) around := by
  rw [innermostNamespace, innermostNamespace, List.reverse_cons, List.findSome?_append]
  cases around.reverse.findSome? namespaceName? with
  | none => cases hname : namespaceName? outer <;> simp [hname]
  | some name => rfl

/-- The class that is declared by name at a place. -/
def declaredClassAt? (outside : String) (p : Place code) : Option (ClassSite code) :=
  declaredClass? (innermostNamespace outside p.around) p.node

/-- What a walk makes of the places it comes to: each place of the trees once, and the classes that
are declared there, in order. -/
structure IsWalkOf (nodes : List (Node code)) (places : List (Place code)) : Prop where
  nodup_addresses : (places.map (·.address)).Nodup
  mem_iff : ∀ p, p ∈ places ↔ StandsIn nodes p
  classSites_eq : ∀ outside,
    classSitesAll outside nodes = places.filterMap (declaredClassAt? outside)

theorem isWalkOf_nil : IsWalkOf ([] : List (Node code)) [] where
  nodup_addresses := List.nodup_nil
  mem_iff := fun p => by simp [TypeScript.not_standsIn_nil p]
  classSites_eq := fun _ => rfl

/-- The addresses in a first tree start with a zero and those in the others do not, so together they
are distinct when either are. -/
theorem nodup_addresses_cons {inner others : List (List Nat)} (hinner : inner.Nodup)
    (hothers : others.Nodup) (hne : ∀ address ∈ inner, address ≠ []) :
    ([0] :: (inner.map (0 :: ·) ++ others.map (List.modifyHead (· + 1)))).Nodup := by
  have hhead : ∀ address below : List Nat, address.modifyHead (· + 1) ≠ 0 :: below := by
    intro address below
    cases address <;> simp
  have hmodify : Function.Injective (List.modifyHead (· + 1) : List Nat → List Nat) := by
    intro a b h
    cases a <;> cases b <;> simp_all
  refine List.nodup_cons.mpr ⟨?_, List.Nodup.append ?_ ?_ ?_⟩
  · rw [List.mem_append, List.mem_map, List.mem_map]
    rintro (⟨address, haddress, h⟩ | ⟨address, -, h⟩)
    · exact hne address haddress (List.cons.inj h).2
    · exact hhead address [] h
  · exact hinner.map List.cons_injective
  · exact hothers.map hmodify
  · intro address hfirst hsecond
    obtain ⟨below, -, rfl⟩ := List.mem_map.mp hfirst
    obtain ⟨other, -, h⟩ := List.mem_map.mp hsecond
    exact hhead other below h

/-- The walk of trees is that of the first one, of its children, and of the rest. -/
theorem IsWalkOf.cons {node : Node code} {rest : List (Node code)}
    {inner others : List (Place code)} (hinner : IsWalkOf node.children inner)
    (hothers : IsWalkOf rest others) :
    IsWalkOf (node :: rest)
      (⟨[0], [], node⟩ :: (inner.map (Place.within 0 node) ++ others.map Place.next)) where
  nodup_addresses := by
    have haddresses : (⟨[0], [], node⟩ ::
          (inner.map (Place.within 0 node) ++ others.map Place.next)).map (·.address) =
        [0] :: ((inner.map (·.address)).map (0 :: ·) ++
          (others.map (·.address)).map (List.modifyHead (· + 1))) := by
      simp [Place.within, Place.next, Function.comp_def]
    rw [haddresses]
    refine nodup_addresses_cons hinner.nodup_addresses hothers.nodup_addresses fun address h => ?_
    obtain ⟨p, hp, rfl⟩ := List.mem_map.mp h
    exact ((hinner.mem_iff p).mp hp).address_ne_nil
  mem_iff := by
    intro p
    rw [TypeScript.standsIn_cons_iff, List.mem_cons, List.mem_append, List.mem_map, List.mem_map]
    simp only [hinner.mem_iff, hothers.mem_iff]
  classSites_eq := by
    intro outside
    have hwithin : ∀ p : Place code, declaredClassAt? outside (p.within 0 node) =
        declaredClassAt? ((namespaceName? node).getD outside) p := by
      intro p
      rw [declaredClassAt?, Place.within, innermostNamespace_cons]
      rfl
    have hnext : ∀ p : Place code, declaredClassAt? outside p.next = declaredClassAt? outside p :=
      fun _ => rfl
    rw [classSitesAll, ClassRegistry.classSites_eq, hinner.classSites_eq, hothers.classSites_eq,
      List.filterMap_cons, List.filterMap_append, List.filterMap_map, List.filterMap_map]
    simp only [Function.comp_def, hwithin, hnext]
    have hself : declaredClassAt? outside ⟨[0], [], node⟩ = declaredClass? outside node := rfl
    rw [hself]
    cases declaredClass? outside node <;> simp

/-- Trees of which the children have walks have a walk. -/
theorem exists_isWalkOf_of_children {nodes : List (Node code)}
    (h : ∀ node ∈ nodes, ∃ places, IsWalkOf node.children places) :
    ∃ places, IsWalkOf nodes places := by
  induction nodes with
  | nil => exact ⟨[], isWalkOf_nil⟩
  | cons node rest ih =>
      obtain ⟨inner, hinner⟩ := h node List.mem_cons_self
      obtain ⟨others, hothers⟩ := ih fun other hother => h other (List.mem_cons_of_mem node hother)
      exact ⟨_, hinner.cons hothers⟩

/-- All trees have a walk. -/
theorem exists_isWalkOf (nodes : List (Node code)) : ∃ places, IsWalkOf nodes places := by
  have hchildren : ∀ node : Node code, ∃ places, IsWalkOf node.children places := by
    intro node
    induction node using Node.induction_on_children with
    | step node ih => exact exists_isWalkOf_of_children ih
  exact exists_isWalkOf_of_children fun node _ => hchildren node

/-! ## A walk with a stack -/

/-- The state of a walk that keeps the namespaces around on a stack. -/
structure ScopeWalk (code : Code) where
  /-- The names of the namespaces around, the innermost last. -/
  namespaces : List String
  /-- The classes that were found so far. -/
  found : List (ClassSite code)

namespace ScopeWalk

/-- The name on top of the stack. -/
def scope (w : ScopeWalk code) : String :=
  w.namespaces.getLast?.getD ""

/-- Records a node that is a class declared by name. -/
def record (w : ScopeWalk code) (node : Node code) : ScopeWalk code :=
  { w with found := w.found ++ (declaredClass? w.scope node).toList }

/-- Puts the name of a named namespace on the stack. -/
def enter (w : ScopeWalk code) (node : Node code) : ScopeWalk code :=
  match namespaceName? node with
  | some name => { w with namespaces := w.namespaces ++ [name] }
  | none => w

/-- Takes the name of a named namespace from the stack. -/
def leave (w : ScopeWalk code) (node : Node code) : ScopeWalk code :=
  match namespaceName? node with
  | some _ => { w with namespaces := w.namespaces.dropLast }
  | none => w

end ScopeWalk

/-! ## Declarations of a file -/

namespace Source

/-- The declaration that a place in the items of a file gives: a class that is declared by name
gives its own, in the scope of the innermost namespace around. -/
inductive DeclaresAt (s : Source) (items : List (Node s.code)) :
    Place s.code → ClassDeclaration → Prop
  | classDefinition {address : List Nat} {around : List (Node s.code)} {span : TypeScript.Span}
    {name : Ident s.code} {decorators parameters implemented members : List (Node s.code)}
    {superclass superArguments : Option (Node s.code)} :
    StandsIn items ⟨address, around, .classDefinition span true (some name) decorators parameters
      superclass superArguments implemented members⟩ →
    DeclaresAt s items ⟨address, around, .classDefinition span true (some name) decorators
        parameters superclass superArguments implemented members⟩
      (s.declaration (ModuleScope.ofItems? items) ⟨innermostNamespace "" around, name, decorators,
        superclass, superArguments, implemented⟩)

variable {s : Source} {items : List (Node s.code)} {p : Place s.code} {d : ClassDeclaration}

/-- A place gives the declaration of the class that is declared there. -/
theorem declaresAt_iff : s.DeclaresAt items p d ↔ StandsIn items p ∧
    ∃ site, declaredClassAt? "" p = some site ∧
      s.declaration (ModuleScope.ofItems? items) site = d := by
  constructor
  · rintro ⟨hplace⟩
    exact ⟨hplace, _, rfl, rfl⟩
  · rintro ⟨hplace, site, hsite, rfl⟩
    obtain ⟨address, around, node⟩ := p
    obtain ⟨scope, name, decorators, superclass, superArguments, implemented⟩ := site
    obtain ⟨hscope, span, parameters, members, hnode⟩ := eq_of_declaredClass? hsite
    dsimp only at hscope hnode
    subst hscope hnode
    exact .classDefinition hplace

/-- What a run finds of some class in a source text holds of one of its classes. -/
theorem exists_site_of_any {s : Source}
    {p : List (Node s.code) → ClassSite s.code → Bool}
    (h : (match s.items with
      | .ok items => (classSitesAll "" items).any (p items)
      | .error _ => false) = true) :
    ∃ items site, s.items = .ok items ∧ site ∈ classSitesAll "" items ∧ p items site = true := by
  cases hitems : s.items with
  | error fault => simp [hitems] at h
  | ok items =>
      rw [hitems] at h
      obtain ⟨site, hsite, hp⟩ := List.any_eq_true.mp h
      exact ⟨items, site, rfl, hsite, hp⟩

end Source

end ClassRegistry
