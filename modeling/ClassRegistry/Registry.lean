import ClassRegistry.Registry.Error
import ClassRegistry.Text.Name

/-!
# Registries

A class with a register marker is a member of the registry its marker names. The collection pass
reads the declarations of a whole project in order and groups the members; the first member of a
registry fixes the base type that every later one must share.

The registry name is the value of the first argument that fits, by precedence: an assignment
`name = X`, a property `name: X`, the unlabelled argument in first position.
-/

namespace ClassRegistry

/-- How members are recognised. -/
structure CollectOptions where
  /-- A decorator whose name contains this text is a register marker. -/
  marker : String
  /-- The parameter that carries the registry name. -/
  registryArgument : String
  /-- Refuse members without a base type. -/
  requireBaseType : Bool
  deriving DecidableEq, Repr

/-- The usual marker and parameter; base types are not required. -/
def CollectOptions.standard : CollectOptions :=
  ⟨"Register", "registerTypeName", false⟩

/-- One registered class. -/
structure Member where
  /-- The dotted name of the enclosing namespace. -/
  scope : String
  typeName : String
  /-- The first base type, empty when there is none. -/
  baseType : String
  registry : String
  context : SourceContext
  /-- Present when the class belongs to a module and has to be imported. -/
  origin : Option ModuleOrigin
  deriving DecidableEq, Repr

namespace Marker

/-- Whether the second text occurs in the first one. -/
def occursIn (part : List Char) : List Char → Bool
  | [] => part.isEmpty
  | c :: rest => part.isPrefixOf (c :: rest) || occursIn part rest

/-- The value of the argument that an assignment gives to `parameter`. -/
def assigned? (m : Marker) (parameter : String) : Option ArgumentValue :=
  m.arguments.findSome? fun argument =>
    if argument.label = some (.equals parameter) then some argument.value else none

/-- The value of the argument that a property gives to `parameter`. -/
def property? (m : Marker) (parameter : String) : Option ArgumentValue :=
  m.arguments.findSome? fun argument =>
    if argument.label = some (.colon parameter) then some argument.value else none

/-- The value of the argument in first position, unless it has a label. An object literal in first
position gives its properties that position, and an empty one leaves the position vacant. -/
def positional? (m : Marker) : Option ArgumentValue :=
  match m.arguments.find? (·.index = 0) with
  | some ⟨_, none, value⟩ => some value
  | _ => none

/-- The argument that holds the registry name. -/
def registryArgument? (m : Marker) (parameter : String) : Option ArgumentValue :=
  m.assigned? parameter <|> m.property? parameter <|> m.positional?

end Marker

namespace ClassDeclaration

/-- The first decorator whose name contains the marker text; later ones do not count. -/
def registerMarker? (d : ClassDeclaration) (marker : String) : Option Marker :=
  d.markers.find? fun candidate => Marker.occursIn marker.toList candidate.name.toList

/-- The text of a registry argument of this class. -/
def argumentText (d : ClassDeclaration) : ArgumentValue → Except RegisterError String
  | .member name | .literal name | .identifier name => .ok name
  | .other description => .error (.invalidArgument d.name description d.context)

/-- The first base type, empty when there is none. -/
def baseType (d : ClassDeclaration) : String :=
  d.baseTypes.headD ""

/-- The registry name that a marker gives to this class. -/
def registryName (d : ClassDeclaration) (marker : Marker) (parameter : String) :
    Except RegisterError String :=
  match marker.registryArgument? parameter with
  | none => .error (.missingArgument d.name marker.name d.context)
  | some argument =>
    match d.argumentText argument with
    | .error e => .error e
    | .ok registry =>
      if registry.isEmpty then .error (.missingArgument d.name marker.name d.context)
      else if !Text.isName registry then .error (.invalidRegistryName d.name registry d.context)
      else .ok registry

/-- Whether the class belongs to a module that does not hand it out. -/
def isHidden (d : ClassDeclaration) : Bool :=
  match d.origin with
  | some origin => origin.exportName.isNone
  | none => false

/-- The member a class becomes, none when it carries no register marker. -/
def member? (d : ClassDeclaration) (options : CollectOptions) :
    Except RegisterError (Option Member) :=
  match d.registerMarker? options.marker with
  | none => .ok none
  | some marker =>
    match d.registryName marker options.registryArgument with
    | .error e => .error e
    | .ok registry =>
      if d.isHidden then .error (.unexportedType d.name registry d.context)
      else if options.requireBaseType && d.baseType.isEmpty then
        .error (.missingBaseType d.name registry d.context)
      else .ok (some ⟨d.scope, d.name, d.baseType, registry, d.context, d.origin⟩)

end ClassDeclaration

/-- A registry: its name and its members in the order they were found. -/
structure Registry where
  name : String
  members : List Member
  deriving DecidableEq, Repr

namespace Registry

/-- The first member; its scope and its base type stand for the registry. -/
def canonical? (r : Registry) : Option Member :=
  r.members.head?

/-- The conflict of a member with the first one of its registry. -/
def conflict (first second : Member) : RegisterError :=
  .conflictingBaseType second.registry first.typeName first.baseType first.context
    second.typeName second.baseType second.context

/-- Offers a member to its registry, which is changed in place. The answer stands beside what is
left of the registry. The base type has to be that of the first member. -/
def offer (r : Registry) (member : Member) : Except RegisterError Unit × Registry :=
  match r.canonical? with
  | none => (.error (.emptyRegistry member.registry), r)
  | some first =>
    if first.baseType = member.baseType then
      (.ok (), { r with members := r.members ++ [member] })
    else (.error (conflict first member), r)

end Registry

/-- Registries in the order their names were first seen. -/
abbrev Registries := List Registry

namespace Registries

/-- The registry of a name. -/
def get? (registries : Registries) (name : String) : Option Registry :=
  registries.find? (·.name = name)

/-- Offers a member to the registry of its name, or opens the registry at the end. The answer stands
beside what is left of the registries. -/
def offer (registries : Registries) (member : Member) : Except RegisterError Unit × Registries :=
  match registries with
  | [] => (.ok (), [⟨member.registry, [member]⟩])
  | registry :: rest =>
    if registry.name = member.registry then
      let (answer, registry) := registry.offer member
      (answer, registry :: rest)
    else
      let (answer, rest) := offer rest member
      (answer, registry :: rest)

/-- The registries with one more member. -/
def insert (registries : Registries) (member : Member) : Except RegisterError Registries :=
  match registries.offer member with
  | (.ok (), registries) => .ok registries
  | (.error e, _) => .error e

/-- The number of registered classes. -/
def memberCount (registries : Registries) : Nat :=
  (registries.map (·.members.length)).foldr (· + ·) 0

/-- Adds one declaration, if it is registered. -/
def add (options : CollectOptions) (registries : Registries) (d : ClassDeclaration) :
    Except RegisterError Registries :=
  match d.member? options with
  | .error e => .error e
  | .ok none => .ok registries
  | .ok (some member) => registries.insert member

/-- The registries of a list of declarations. The first failure ends the pass. -/
def collect (declarations : List ClassDeclaration) (options : CollectOptions) :
    Except RegisterError Registries :=
  declarations.foldlM (add options) []

end Registries

end ClassRegistry
