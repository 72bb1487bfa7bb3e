import ClassRegistry.Proofs.Declaration.Sites
import ClassRegistry.Registry

/-!
# The registry argument as it is written

A decorator is written with arguments, of which each becomes one argument of the marker, or one for
each property when it is an object literal. The argument that holds the registry name can be told
from what is written: it is the first assignment to the parameter, or else the first property of
this name in any object literal, or else the first argument, unless it names what it is for. One
thing is told apart by the first property of a literal in first position: when this one has no name,
it is taken for a value without a label.
-/

namespace ClassRegistry

open TypeScript (Node Code)

variable {code : Code} {name : String}

namespace Decorator

/-! ## What is written -/

/-- The arguments that a decorator is written with, none when it is no call. -/
def arguments : Node code → List (Node code)
  | .decorator _ (.call _ _ _ arguments) => arguments
  | _ => []

/-- The properties of an object literal. -/
def properties : Node code → List (Node code)
  | .object _ properties => properties
  | _ => []

/-- What a plain assignment to a name assigns. -/
def assignedValue? (name : String) : Node code → Option ArgumentValue
  | .assignment _ true (.identifier target) value =>
    if target.name = name then some (.ofNode value) else none
  | _ => none

/-- What a property gives to its key; one that is written as a bare name gives this name. -/
def propertyValue? (name : String) : Node code → Option ArgumentValue
  | .property _ key value => if propertyName? key = some name then some (.ofNode value) else none
  | .shorthand ident => if ident.name = name then some (.identifier ident.name) else none
  | _ => none

/-- Whether an argument says by itself what it is for: an object literal, whatever is in it, or a
plain assignment to a name. -/
def isLabelled : Node code → Bool
  | .object .. | .assignment _ true (.identifier _) _ => true
  | _ => false

/-- What an argument is that does not say what it is for. -/
def bareValue : Node code → ArgumentValue
  | .spread .. => .other "a spread argument"
  | .assignment _ true _ _ => .other "an assignment"
  | argument => .ofNode argument

/-- The argument in first position, which a label rules out. -/
def bareArgument? : List (Node code) → Option ArgumentValue
  | [] => none
  | first :: _ => if isLabelled first then none else some (bareValue first)

/-- The argument that holds the registry name, as it is meant: the first assignment to the
parameter, or the first property of this name over all object literals, or the first argument
without a label. -/
def meantArgument? (arguments : List (Node code)) (parameter : String) : Option ArgumentValue :=
  arguments.findSome? (assignedValue? parameter) <|>
    (arguments.flatMap properties).findSome? (propertyValue? parameter) <|>
      bareArgument? arguments

/-- What a property without a name is taken for. -/
def namelessProperty? : Node code → Option ArgumentValue
  | .property _ key _ =>
    if (propertyName? key).isNone then some (.other "a computed property") else none
  | .shorthand _ => none
  | .spread .. => some (.other "a spread property")
  | _ => some (.other "an object member")

/-- What the first property of an object literal in first position is taken for if it has no
name. -/
def strayValue? (arguments : List (Node code)) : Option ArgumentValue :=
  (arguments.head?.bind fun first => (properties first).head?).bind namelessProperty?

end Decorator

open Decorator

/-! ## What becomes of one argument -/

namespace Argument

/-- All that a property becomes: an argument with its name as label, or one without a label. -/
theorem ofProperty_eq (index : Nat) (property : Node code) :
    (∃ key value, ofProperty index property = ⟨index, some (.colon key), value⟩ ∧
      namelessProperty? property = none ∧
      ∀ name, propertyValue? name property = if key = name then some value else none) ∨
    ∃ value, ofProperty index property = ⟨index, none, value⟩ ∧
      namelessProperty? property = some value ∧
      ∀ name, propertyValue? name property = none := by
  cases property with
  | property span key value =>
      cases hkey : propertyName? key with
      | none =>
          exact Or.inr ⟨.other "a computed property", by simp [ofProperty, hkey],
            by simp [namelessProperty?, hkey], fun name => by simp [propertyValue?, hkey]⟩
      | some text =>
          exact Or.inl ⟨text, .ofNode value, by simp [ofProperty, hkey],
            by simp [namelessProperty?, hkey], fun name => by simp [propertyValue?, hkey]⟩
  | shorthand ident => exact Or.inl ⟨ident.name, _, rfl, rfl, fun name => rfl⟩
  | _ => exact Or.inr ⟨_, rfl, rfl, fun name => rfl⟩

/-- The property that gives a value to a name, among the arguments that properties become. -/
theorem findSome?_map_ofProperty (index : Nat) (properties : List (Node code)) :
    ((properties.map (ofProperty index)).findSome? fun argument =>
        if argument.label = some (.colon name) then some argument.value else none) =
      properties.findSome? (propertyValue? name) := by
  rw [List.findSome?_map]
  congr 1
  funext property
  rcases ofProperty_eq index property with ⟨key, value, heq, -, hvalue⟩ | ⟨value, heq, -, hvalue⟩
  · simp [heq, hvalue]
  · simp [heq, hvalue]

/-- All that an argument becomes: one for each property of a literal, one with the name that it
assigns to, or one without a label. -/
theorem ofNode_eq (index : Nat) (argument : Node code) :
    (∃ span list, argument = .object span list ∧
      ofNode index argument = list.map (ofProperty index)) ∨
    (∃ span target value, argument = .assignment span true (.identifier target) value ∧
      ofNode index argument = [⟨index, some (.equals target.name), .ofNode value⟩]) ∨
    (isLabelled argument = false ∧ properties argument = [] ∧
      (∀ name, assignedValue? name argument = none) ∧
      ofNode index argument = [⟨index, none, bareValue argument⟩]) := by
  cases argument with
  | object span list => exact Or.inl ⟨span, list, rfl, rfl⟩
  | assignment span isPlain target value =>
      cases isPlain with
      | false => exact Or.inr (Or.inr ⟨rfl, rfl, fun name => rfl, rfl⟩)
      | true =>
          cases target with
          | identifier ident => exact Or.inr (Or.inl ⟨span, ident, value, rfl, rfl⟩)
          | _ => exact Or.inr (Or.inr ⟨rfl, rfl, fun name => rfl, rfl⟩)
  | _ => exact Or.inr (Or.inr ⟨rfl, rfl, fun name => rfl, rfl⟩)

/-- The arguments that one becomes have its position. -/
theorem index_of_mem_ofNode {index : Nat} {argument : Node code} {a : Argument}
    (h : a ∈ ofNode index argument) : a.index = index := by
  rcases ofNode_eq index argument with
    ⟨span, list, -, hlist⟩ | ⟨span, target, value, -, hlist⟩ | ⟨-, -, -, hlist⟩
  · rw [hlist] at h
    obtain ⟨property, -, rfl⟩ := List.mem_map.mp h
    rcases ofProperty_eq index property with ⟨_, _, heq, -⟩ | ⟨_, heq, -⟩
    · rw [heq]
    · rw [heq]
  · rw [hlist, List.mem_singleton] at h
    rw [h]
  · rw [hlist, List.mem_singleton] at h
    rw [h]

/-- Among the arguments that one becomes, only that of an assignment is assigned to a name. -/
theorem findSome?_equals_ofNode (index : Nat) (argument : Node code) :
    ((ofNode index argument).findSome? fun a =>
        if a.label = some (.equals name) then some a.value else none) =
      assignedValue? name argument := by
  rcases ofNode_eq index argument with
    ⟨span, list, rfl, hlist⟩ | ⟨span, target, value, rfl, hlist⟩ | ⟨-, -, hassigned, hlist⟩
  · have hnone : assignedValue? name (.object span list) = none := rfl
    rw [hlist, List.findSome?_map, hnone, List.findSome?_eq_none_iff]
    intro property _
    rcases ofProperty_eq index property with ⟨_, _, heq, -⟩ | ⟨_, heq, -⟩
    · simp [heq]
    · simp [heq]
  · simp [hlist, assignedValue?]
  · simp [hlist, hassigned]

/-- Among the arguments that one becomes, only those of properties are given to a key. -/
theorem findSome?_colon_ofNode (index : Nat) (argument : Node code) :
    ((ofNode index argument).findSome? fun a =>
        if a.label = some (.colon name) then some a.value else none) =
      (properties argument).findSome? (propertyValue? name) := by
  rcases ofNode_eq index argument with
    ⟨span, list, rfl, hlist⟩ | ⟨span, target, value, rfl, hlist⟩ | ⟨-, hproperties, -, hlist⟩
  · rw [hlist, findSome?_map_ofProperty, properties]
  · simp [hlist, properties]
  · simp [hlist, hproperties]

/-! ## What becomes of all arguments -/

/-- What is found in the arguments that each one becomes is found argument by argument. -/
theorem findSome?_flatten_mapIdx {α : Type} {f : Nat → Node code → List Argument}
    {find : Argument → Option α} {found : Node code → Option α}
    (h : ∀ index argument, (f index argument).findSome? find = found argument)
    (arguments : List (Node code)) :
    (arguments.mapIdx f).flatten.findSome? find = arguments.findSome? found := by
  induction arguments generalizing f with
  | nil => rfl
  | cons first rest ih =>
      have hrest := ih (f := fun index => f (index + 1)) fun index => h (index + 1)
      rw [List.mapIdx_cons, List.flatten_cons, List.findSome?_append, h, hrest]
      cases hfirst : found first with
      | none => simp [hfirst]
      | some value => simp [hfirst]

/-- The first of the properties of all literals that gives a value to a name. -/
theorem findSome?_flatMap_properties (arguments : List (Node code)) :
    (arguments.flatMap properties).findSome? (propertyValue? name) =
      arguments.findSome? fun argument =>
        (properties argument).findSome? (propertyValue? name) := by
  induction arguments with
  | nil => rfl
  | cons first rest ih =>
      rw [List.flatMap_cons, List.findSome?_append, ih]
      cases hfirst : (properties first).findSome? (propertyValue? name) with
      | none => simp [hfirst]
      | some value => simp [hfirst]

/-- No argument behind the first one has the first position. -/
theorem find?_flatten_mapIdx (first : Node code) (rest : List (Node code)) :
    ((first :: rest).mapIdx ofNode).flatten.find? (fun a => a.index = 0) =
      (ofNode 0 first).head? := by
  have hrest : (rest.mapIdx fun index => ofNode (index + 1)).flatten.find?
      (fun a => a.index = 0) = none := by
    rw [List.find?_eq_none]
    intro a ha
    obtain ⟨list, hlist, ha⟩ := List.mem_flatten.mp ha
    obtain ⟨index, hindex, rfl⟩ := List.mem_mapIdx.mp hlist
    simp [index_of_mem_ofNode ha]
  rw [List.mapIdx_cons, List.flatten_cons, List.find?_append, hrest, Option.or_none]
  cases hfirst : ofNode 0 first with
  | nil => rfl
  | cons a more =>
      have hindex : a.index = 0 := index_of_mem_ofNode (hfirst ▸ List.mem_cons_self)
      rw [List.find?_cons_of_pos (by simpa using hindex), List.head?_cons]

end Argument

namespace Marker

/-- The arguments of a marker are those that the decorator is written with. -/
theorem arguments_of_ofNode? {node : Node code} {m : Marker} (h : ofNode? node = some m) :
    m.arguments = ((Decorator.arguments node).mapIdx Argument.ofNode).flatten := by
  unfold ofNode? at h
  split at h
  · split at h
    · cases h
    · split at h
      · obtain ⟨_, -, rfl⟩ := Option.map_eq_some_iff.mp h
        rfl
      · rename_i expression hcall
        obtain ⟨_, -, rfl⟩ := Option.map_eq_some_iff.mp h
        unfold Decorator.arguments
        split
        · rename_i heq
          obtain ⟨-, rfl⟩ := Node.decorator.inj heq
          exact absurd rfl (hcall _ _ _ _)
        · rfl
  · cases h

variable {m : Marker} {arguments : List (Node code)}

/-- The first argument counts without a label when it has none, or when it is a literal of which the
first property has no name. -/
theorem positional?_eq (h : m.arguments = (arguments.mapIdx Argument.ofNode).flatten) :
    m.positional? = (bareArgument? arguments <|> strayValue? arguments) := by
  rw [positional?, h]
  cases arguments with
  | nil => rfl
  | cons first rest =>
      rw [Argument.find?_flatten_mapIdx]
      rcases Argument.ofNode_eq 0 first with
        ⟨span, list, rfl, hlist⟩ | ⟨span, target, value, rfl, hlist⟩ |
          ⟨hlabel, hproperties, -, hlist⟩
      · rw [hlist]
        cases list with
        | nil => rfl
        | cons property more =>
            rcases Argument.ofProperty_eq 0 property with
              ⟨_, _, heq, hnamed, -⟩ | ⟨_, heq, hnameless, -⟩
            · simp [heq, hnamed, bareArgument?, isLabelled, strayValue?, properties]
            · simp [heq, hnameless, bareArgument?, isLabelled, strayValue?, properties]
      · simp [hlist, bareArgument?, isLabelled, strayValue?, properties]
      · simp [hlist, bareArgument?, hlabel]

/-- A marker gives a registry the argument that is meant, and where none is, the first property of
an object literal in first position if it has no name. So it gives the one that is meant exactly
when there is one, or the first argument is no such literal. -/
theorem registryArgument?_eq_meantArgument? {node : Node code} (h : ofNode? node = some m)
    (parameter : String) :
    m.registryArgument? parameter = (meantArgument? (Decorator.arguments node) parameter <|>
      strayValue? (Decorator.arguments node)) ∧
    (m.registryArgument? parameter = meantArgument? (Decorator.arguments node) parameter ↔
      meantArgument? (Decorator.arguments node) parameter ≠ none ∨
        strayValue? (Decorator.arguments node) = none) := by
  have harguments := arguments_of_ofNode? h
  have heq : m.registryArgument? parameter =
      (meantArgument? (Decorator.arguments node) parameter <|>
        strayValue? (Decorator.arguments node)) := by
    have hassigned : m.assigned? parameter =
        (Decorator.arguments node).findSome? (assignedValue? parameter) := by
      rw [assigned?, harguments]
      exact Argument.findSome?_flatten_mapIdx Argument.findSome?_equals_ofNode _
    have hproperty : m.property? parameter =
        ((Decorator.arguments node).flatMap properties).findSome? (propertyValue? parameter) := by
      rw [property?, harguments, Argument.findSome?_flatMap_properties]
      exact Argument.findSome?_flatten_mapIdx Argument.findSome?_colon_ofNode _
    rw [registryArgument?, hassigned, hproperty, positional?_eq harguments, meantArgument?]
    simp only [Option.orElse_eq_orElse, Option.orElse_eq_or, Option.or_assoc]
  refine ⟨heq, ?_⟩
  rw [heq]
  cases meantArgument? (Decorator.arguments node) parameter with
  | none => simp
  | some value => simp

end Marker

/-! ## Sources -/

/-- A class whose decorator names the parameter twice, the second time by an assignment. -/
def twiceNamedClass : Source :=
  ⟨"src/items.ts", ("@Register(Kind, \x7b registerTypeName: \"Armory\" \x7d, " ++
    "registerTypeName = Registries.Inventory) class Foo \x7b\x7d").toList⟩

/-- The assignment counts, though a property and an argument without a label stand before it. -/
theorem registryArgument?_of_twiceNamedClass : ∃ items site node m,
    twiceNamedClass.items = .ok items ∧ site ∈ classSitesAll "" items ∧ node ∈ site.decorators ∧
    Marker.ofNode? node = some m ∧
    meantArgument? (Decorator.arguments node) "registerTypeName" = some (.member "Inventory") ∧
    m.registryArgument? "registerTypeName" = some (.member "Inventory") := by
  obtain ⟨items, site, hitems, hsite, h⟩ := Source.exists_site_of_any (s := twiceNamedClass)
    (p := fun _ site => site.decorators.any fun node => (Marker.ofNode? node).isSome &&
      meantArgument? (Decorator.arguments node) "registerTypeName" = some (.member "Inventory"))
    (by decide +kernel)
  obtain ⟨node, hnode, hp⟩ := List.any_eq_true.mp h
  obtain ⟨hmarker, hmeant⟩ := Bool.and_eq_true_iff.mp hp
  obtain ⟨m, hm⟩ := Option.isSome_iff_exists.mp hmarker
  have hargument := of_decide_eq_true hmeant
  refine ⟨items, site, node, m, hitems, hsite, hnode, hm, hargument, ?_⟩
  obtain ⟨-, hiff⟩ := Marker.registryArgument?_eq_meantArgument? hm "registerTypeName"
  rw [hiff.mpr (Or.inl (by rw [hargument]; exact Option.some_ne_none _)), hargument]

/-- A class whose decorator is given an object literal that starts with a spread. -/
def spreadLiteralClass : Source :=
  ⟨"src/items.ts", "@Register(\x7b ...options \x7d) class Foo \x7b\x7d".toList⟩

/-- No argument is meant where an object literal in first position gives nothing to the parameter,
but the spread in it is taken for the argument. -/
theorem spread_property_is_argument : ∃ items site node m,
    spreadLiteralClass.items = .ok items ∧ site ∈ classSitesAll "" items ∧
    node ∈ site.decorators ∧ Marker.ofNode? node = some m ∧
    meantArgument? (Decorator.arguments node) "registerTypeName" = none ∧
    m.registryArgument? "registerTypeName" = some (.other "a spread property") := by
  obtain ⟨items, site, hitems, hsite, h⟩ := Source.exists_site_of_any (s := spreadLiteralClass)
    (p := fun _ site => site.decorators.any fun node =>
      meantArgument? (Decorator.arguments node) "registerTypeName" = none &&
        (Marker.ofNode? node).any fun m =>
          m.registryArgument? "registerTypeName" = some (.other "a spread property"))
    (by decide +kernel)
  obtain ⟨node, hnode, hp⟩ := List.any_eq_true.mp h
  obtain ⟨hmeant, hmarker⟩ := Bool.and_eq_true_iff.mp hp
  obtain ⟨m, hm, hargument⟩ := (Option.any_eq_true _ _).mp hmarker
  exact ⟨items, site, node, m, hitems, hsite, hnode, hm, of_decide_eq_true hmeant,
    of_decide_eq_true hargument⟩

end ClassRegistry
