import ClassRegistry.Proofs.Declaration.Arguments

/-!
# Positions of arguments

A marker has the arguments of its decorator in the order written, each with the position of the one
that it comes from. So the arguments with one position are what the argument in this position
becomes: one for each property of an object literal, and one for anything else. Only a literal
without properties leaves its position without an argument.
-/

namespace ClassRegistry

open TypeScript (Node Code Ident)

variable {code : Code}

namespace Decorator

/-! ## What an argument says -/

/-- A property gives a value to a key: a name or a string is given a value, and a bare name is given
itself. -/
inductive Gives : Node code → String → ArgumentValue → Prop
  | name (span : TypeScript.Span) (ident : Ident code) (value : Node code) :
      Gives (.property span (.identifier ident) value) ident.name (.ofNode value)
  | string (span keySpan : TypeScript.Span) (key : String) (value : Node code) :
      Gives (.property span (.string keySpan key) value) key (.ofNode value)
  | bare (ident : Ident code) : Gives (.shorthand ident) ident.name (.identifier ident.name)

/-- An argument is a plain assignment of a value to a name. -/
inductive Assigns : Node code → String → ArgumentValue → Prop
  | plain (span : TypeScript.Span) (target : Ident code) (value : Node code) :
      Assigns (.assignment span true (.identifier target) value) target.name (.ofNode value)

/-- The value that a property gives to a key. -/
theorem propertyValue?_eq_some_iff {key : String} {property : Node code} {value : ArgumentValue} :
    propertyValue? key property = some value ↔ Gives property key value := by
  constructor
  · intro h
    unfold propertyValue? at h
    split at h
    · obtain ⟨hkey, hvalue⟩ := Option.ite_none_right_eq_some.mp h
      obtain rfl := Option.some.inj hvalue
      unfold propertyName? at hkey
      split at hkey
      · obtain rfl := Option.some.inj hkey
        exact .name _ _ _
      · obtain rfl := Option.some.inj hkey
        exact .string _ _ _ _
      · cases hkey
    · obtain ⟨rfl, hvalue⟩ := Option.ite_none_right_eq_some.mp h
      obtain rfl := Option.some.inj hvalue
      exact .bare _
    · cases h
  · rintro (⟨span, ident, value⟩ | ⟨span, keySpan, key, value⟩ | ⟨ident⟩)
    · exact if_pos rfl
    · exact if_pos rfl
    · exact if_pos rfl

/-- The value that an argument assigns to a name. -/
theorem assignedValue?_eq_some_iff {name : String} {argument : Node code}
    {value : ArgumentValue} :
    assignedValue? name argument = some value ↔ Assigns argument name value := by
  constructor
  · intro h
    unfold assignedValue? at h
    split at h
    · obtain ⟨rfl, hvalue⟩ := Option.ite_none_right_eq_some.mp h
      obtain rfl := Option.some.inj hvalue
      exact .plain _ _ _
    · cases h
  · rintro ⟨span, target, value⟩
    exact if_pos rfl

/-- An argument is what a property becomes: it has the key for its label, as far as the property
gives a value to one, and is no value at all otherwise. -/
structure IsOfProperty (property : Node code) (a : Argument) : Prop where
  colon_iff : ∀ key value,
    a.label = some (.colon key) ∧ a.value = value ↔ Gives property key value
  not_equals : ∀ name, a.label ≠ some (.equals name)
  other : a.label = none → ∃ description, a.value = .other description

/-- An argument is what another one becomes: it has a label exactly if a plain assignment to a name
stands there. -/
structure IsOfArgument (argument : Node code) (a : Argument) : Prop where
  equals_iff : ∀ name value,
    a.label = some (.equals name) ∧ a.value = value ↔ Assigns argument name value
  not_colon : ∀ key, a.label ≠ some (.colon key)

/-- What becomes of an argument: one for each property of an object literal, in order, and one for
anything else. -/
inductive Becomes : Node code → List Argument → Prop
  | literal {span : TypeScript.Span} {properties : List (Node code)} {own : List Argument} :
      List.Forall₂ IsOfProperty properties own → Becomes (.object span properties) own
  | single {argument : Node code} {a : Argument} :
      (∀ span properties, argument ≠ .object span properties) → IsOfArgument argument a →
        Becomes argument [a]

/-- Nothing becomes of an argument exactly if it is an object literal without properties. -/
theorem Becomes.eq_nil_iff {argument : Node code} {own : List Argument}
    (h : Becomes argument own) : own = [] ↔ ∃ span, argument = .object span [] := by
  cases h with
  | @literal span properties _ hall =>
      constructor
      · rintro rfl
        exact ⟨span, by rw [List.forall₂_nil_right_iff.mp hall]⟩
      · rintro ⟨_, heq⟩
        obtain ⟨-, rfl⟩ := Node.object.inj heq
        exact List.forall₂_nil_left_iff.mp hall
  | single hother _ =>
      refine iff_of_false (List.cons_ne_nil _ []) ?_
      rintro ⟨span, heq⟩
      exact hother span [] heq

end Decorator

open Decorator

namespace Argument

/-! ## What becomes of it -/

/-- A property without a name is taken for no value. -/
theorem exists_of_namelessProperty? {property : Node code} {value : ArgumentValue}
    (h : namelessProperty? property = some value) : ∃ description, value = .other description := by
  unfold namelessProperty? at h
  split at h
  · exact ⟨_, (Option.some.inj (Option.ite_none_right_eq_some.mp h).2).symm⟩
  · cases h
  · exact ⟨_, (Option.some.inj h).symm⟩
  · exact ⟨_, (Option.some.inj h).symm⟩

/-- A property becomes an argument of its own. -/
theorem isOfProperty_ofProperty (index : Nat) (property : Node code) :
    IsOfProperty property (ofProperty index property) := by
  rcases ofProperty_eq index property with
    ⟨key, value, heq, -, hvalue⟩ | ⟨value, heq, hnameless, hvalue⟩
  · rw [heq]
    constructor
    case colon_iff =>
      intro name given
      rw [← propertyValue?_eq_some_iff, hvalue]
      simp
    case not_equals =>
      intro name hlabel
      cases hlabel
    case other =>
      intro hlabel
      cases hlabel
  · rw [heq]
    constructor
    case colon_iff =>
      intro name given
      rw [← propertyValue?_eq_some_iff, hvalue]
      simp
    case not_equals =>
      intro name hlabel
      cases hlabel
    case other => exact fun _ => exists_of_namelessProperty? hnameless

/-- An argument becomes those that it stands for. -/
theorem becomes_ofNode (index : Nat) (argument : Node code) :
    Becomes argument (ofNode index argument) := by
  rcases ofNode_eq index argument with
    ⟨span, list, rfl, hlist⟩ | ⟨span, target, value, rfl, hlist⟩ |
      ⟨hlabel, -, hassigned, hlist⟩
  · rw [hlist]
    refine .literal (List.forall₂_map_right_iff.mpr (List.forall₂_same.mpr fun property _ => ?_))
    exact isOfProperty_ofProperty index property
  · rw [hlist]
    refine .single ?_ ⟨fun name given => ?_, fun key hlabel => ?_⟩
    · intro span properties heq
      cases heq
    · rw [← assignedValue?_eq_some_iff, assignedValue?]
      simp
    · cases hlabel
  · rw [hlist]
    refine .single ?_ ⟨fun name given => ?_, fun key hlabel => ?_⟩
    · intro span properties heq
      rw [heq] at hlabel
      cases hlabel
    · rw [← assignedValue?_eq_some_iff, hassigned]
      simp
    · cases hlabel

/-! ## Positions -/

/-- The lists hold arguments with one position after the other, from the given one on. -/
def ArePlacedFrom (first : Nat) : List (List Argument) → Prop
  | [] => True
  | own :: rest => (∀ a ∈ own, a.index = first) ∧ ArePlacedFrom (first + 1) rest

/-- What arguments become has their positions. -/
theorem arePlacedFrom_mapIdx (arguments : List (Node code)) (first : Nat) :
    ArePlacedFrom first (arguments.mapIdx fun index => ofNode (first + index)) := by
  induction arguments generalizing first with
  | nil => trivial
  | cons argument rest ih =>
      rw [List.mapIdx_cons]
      refine ⟨fun a ha => index_of_mem_ofNode ha, ?_⟩
      simpa only [Nat.add_assoc, Nat.add_comm 1] using ih (first + 1)

variable {first : Nat} {lists : List (List Argument)}

/-- The positions are those of the lists. -/
theorem ArePlacedFrom.index_mem (h : ArePlacedFrom first lists) {a : Argument}
    (ha : a ∈ lists.flatten) : first ≤ a.index ∧ a.index < first + lists.length := by
  induction lists generalizing first with
  | nil => cases ha
  | cons own rest ih =>
      obtain ⟨hown, hrest⟩ := h
      rw [List.flatten_cons, List.mem_append] at ha
      rw [List.length_cons]
      rcases ha with ha | ha
      · have hindex := hown a ha
        omega
      · have hindex := ih hrest ha
        omega

/-- Positions do not decrease. -/
theorem ArePlacedFrom.pairwise (h : ArePlacedFrom first lists) :
    lists.flatten.Pairwise fun a b => a.index ≤ b.index := by
  induction lists generalizing first with
  | nil => exact List.Pairwise.nil
  | cons own rest ih =>
      obtain ⟨hown, hrest⟩ := h
      rw [List.flatten_cons, List.pairwise_append]
      refine ⟨List.pairwise_of_forall_mem_list fun a ha b hb => ?_, ih hrest, fun a ha b hb => ?_⟩
      · exact Nat.le_of_eq ((hown a ha).trans (hown b hb).symm)
      · have hindex := hrest.index_mem hb
        rw [hown a ha]
        omega

/-- The arguments with one position are those of one list. -/
theorem ArePlacedFrom.filter_eq (h : ArePlacedFrom first lists) {i : Nat} {own : List Argument}
    (hown : lists[i]? = some own) : lists.flatten.filter (·.index = first + i) = own := by
  induction lists generalizing first i with
  | nil => cases hown
  | cons head rest ih =>
      obtain ⟨hhead, hrest⟩ := h
      rw [List.flatten_cons, List.filter_append]
      cases i with
      | zero =>
          obtain rfl := Option.some.inj hown
          have hall : head.filter (·.index = first + 0) = head :=
            List.filter_eq_self.mpr fun a ha => by simpa using hhead a ha
          -- the positions of the other lists are greater
          have hnone : rest.flatten.filter (·.index = first + 0) = [] := by
            refine List.filter_eq_nil_iff.mpr fun a ha => ?_
            have hindex := hrest.index_mem ha
            simp
            omega
          rw [hall, hnone, List.append_nil]
      | succ i =>
          have hnone : head.filter (·.index = first + (i + 1)) = [] := by
            refine List.filter_eq_nil_iff.mpr fun a ha => ?_
            have hindex := hhead a ha
            simp
            omega
          have hshift : first + (i + 1) = first + 1 + i := by omega
          rw [hnone, List.nil_append, hshift]
          exact ih hrest hown

end Argument

namespace Marker

/-- The arguments of a marker have non-decreasing positions among those of the decorator, and those
with one position are what the argument in this position becomes. So a position has none exactly if
an object literal without properties stands there. -/
theorem positions_of_ofNode? {node : Node code} {m : Marker} (h : ofNode? node = some m) :
    m.arguments.Pairwise (fun a b => a.index ≤ b.index) ∧
    (∀ a ∈ m.arguments, a.index < (Decorator.arguments node).length) ∧
    ∀ i argument, (Decorator.arguments node)[i]? = some argument →
      Becomes argument (m.arguments.filter (·.index = i)) ∧
      (m.arguments.filter (·.index = i) = [] ↔ ∃ span, argument = .object span []) := by
  have hplaced := Argument.arePlacedFrom_mapIdx (Decorator.arguments node) 0
  simp only [Nat.zero_add] at hplaced
  rw [arguments_of_ofNode? h]
  refine ⟨hplaced.pairwise, fun a ha => ?_, fun i argument hargument => ?_⟩
  · have hindex := (hplaced.index_mem ha).2
    rwa [List.length_mapIdx, Nat.zero_add] at hindex
  · have hown : ((Decorator.arguments node).mapIdx Argument.ofNode)[i]? =
        some (Argument.ofNode i argument) := by
      rw [List.getElem?_mapIdx, hargument, Option.map_some]
    have hfilter := hplaced.filter_eq hown
    rw [Nat.zero_add] at hfilter
    rw [hfilter]
    have hbecomes := Argument.becomes_ofNode i argument
    exact ⟨hbecomes, hbecomes.eq_nil_iff⟩

end Marker

/-! ## Sources -/

/-- A class whose decorator has arguments of each kind, the first one an object literal without
properties. -/
def severalArgumentsClass : Source :=
  ⟨"src/items.ts", ("@Register(\x7b\x7d, \"Inventory\", \x7b order: 1, kind, ...rest \x7d, " ++
    "registerTypeName = Items) class Foo \x7b\x7d").toList⟩

/-- No argument has the first position, since a literal without properties stands there. -/
theorem positions_of_severalArgumentsClass : ∃ items site node m,
    severalArgumentsClass.items = .ok items ∧ site ∈ classSitesAll "" items ∧
    node ∈ site.decorators ∧ Marker.ofNode? node = some m ∧
    m.arguments.map (·.index) = [1, 2, 2, 2, 3] ∧
    ∃ span, (Decorator.arguments node)[0]? = some (.object span []) := by
  obtain ⟨items, site, hitems, hsite, h⟩ := Source.exists_site_of_any
    (s := severalArgumentsClass)
    (p := fun _ site => site.decorators.any fun node =>
      (Decorator.arguments node).length = 4 &&
        (Marker.ofNode? node).any fun m => m.arguments.map (·.index) = [1, 2, 2, 2, 3])
    (by decide +kernel)
  obtain ⟨node, hnode, hp⟩ := List.any_eq_true.mp h
  obtain ⟨hlength, hmarker⟩ := Bool.and_eq_true_iff.mp hp
  obtain ⟨m, hm, hpositions⟩ := (Option.any_eq_true _ _).mp hmarker
  have hindex : m.arguments.map (·.index) = [1, 2, 2, 2, 3] := of_decide_eq_true hpositions
  obtain ⟨first, rest, hfirst⟩ : ∃ first rest, Decorator.arguments node = first :: rest :=
    List.exists_cons_of_length_pos (by rw [of_decide_eq_true hlength]; decide)
  obtain ⟨-, -, hown⟩ := Marker.positions_of_ofNode? hm
  have hnone : m.arguments.filter (·.index = 0) = [] := by
    refine List.filter_eq_nil_iff.mpr fun a ha => ?_
    have hmem : a.index ∈ [1, 2, 2, 2, 3] := hindex ▸ List.mem_map_of_mem ha
    rw [decide_eq_true_eq]
    intro hzero
    rw [hzero] at hmem
    exact absurd hmem (by decide)
  obtain ⟨span, rfl⟩ := (hown 0 first (by rw [hfirst, List.getElem?_cons_zero])).2.mp hnone
  exact ⟨items, site, node, m, hitems, hsite, hnode, hm, hindex, span,
    by rw [hfirst, List.getElem?_cons_zero]⟩

end ClassRegistry
