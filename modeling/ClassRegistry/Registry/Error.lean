import ClassRegistry.Declaration

/-!
# What can be wrong with a registration

Each cause carries what its diagnostic needs; the wording is in `RegisterError.message`.
-/

namespace ClassRegistry

/-- A failure that ends a collection pass. -/
inductive RegisterError where
  /-- The registry argument has a form no name can be read off. -/
  | invalidArgument (typeName found : String) (context : SourceContext)
  /-- Two members of one registry have different base types. -/
  | conflictingBaseType (registry first firstBase : String) (firstContext : SourceContext)
      (second secondBase : String) (secondContext : SourceContext)
  /-- A registry is there without any member. -/
  | emptyRegistry (registry : String)
  /-- A marker without a registry name. -/
  | missingArgument (typeName marker : String) (context : SourceContext)
  /-- A member without a base type where one is required. -/
  | missingBaseType (typeName registry : String) (context : SourceContext)
  /-- The registry name is no identifier. -/
  | invalidRegistryName (typeName registry : String) (context : SourceContext)
  /-- A class of a module that its module does not hand out. -/
  | unexportedType (typeName registry : String) (context : SourceContext)
  deriving DecidableEq, Repr

namespace RegisterError

/-- The short name shown beside a diagnostic. -/
def code : RegisterError → String
  | .invalidArgument .. => "invalid-register-argument"
  | .conflictingBaseType .. => "conflicting-base-type"
  | .emptyRegistry .. => "null-match"
  | .missingArgument .. => "missing-register-argument"
  | .missingBaseType .. => "missing-base-type"
  | .invalidRegistryName .. => "invalid-registry-name"
  | .unexportedType .. => "unexported-registered-type"

/-- A text between grave accents. -/
def quoted (text : String) : String :=
  "\x60" ++ text ++ "\x60"

/-- The text of the diagnostic. -/
def message : RegisterError → String
  | .invalidArgument typeName found _ =>
    "registry argument of " ++ quoted typeName ++
      " must be a string literal, an identifier or a member access, found " ++ found
  | .conflictingBaseType registry first firstBase _ second secondBase _ =>
    quoted second ++ " and " ++ quoted first ++ " are both registered into " ++ quoted registry ++
      " but extend different base types (" ++ quoted secondBase ++ " vs " ++ quoted firstBase ++ ")"
  | .emptyRegistry registry =>
    "registry " ++ quoted registry ++ " exists without a canonical member"
  | .missingArgument typeName marker _ =>
    quoted typeName ++ " is marked with " ++ quoted ("@" ++ marker) ++
      " but no registry name argument was found"
  | .missingBaseType typeName registry _ =>
    quoted typeName ++ " is registered into " ++ quoted registry ++ " but declares no base type"
  | .invalidRegistryName typeName registry _ =>
    "registry name " ++ quoted registry ++ " of " ++ quoted typeName ++
      " is not a valid identifier"
  | .unexportedType typeName registry _ =>
    quoted typeName ++ " is registered into " ++ quoted registry ++
      " but is not exported from its module"

/-- The place to point at: of two members in conflict, the later one. -/
def context? : RegisterError → Option SourceContext
  | .invalidArgument _ _ context
  | .missingArgument _ _ context
  | .missingBaseType _ _ context
  | .invalidRegistryName _ _ context
  | .unexportedType _ _ context
  | .conflictingBaseType _ _ _ _ _ _ context => some context
  | .emptyRegistry _ => none

/-- What else there is to know. -/
def note? : RegisterError → Option String
  | .conflictingBaseType registry first firstBase firstContext _ _ _ =>
    let base := if firstBase.isEmpty then "<none>" else firstBase
    some (quoted first ++ " registered " ++ quoted registry ++ " first with base type " ++
      quoted base ++ " at " ++ firstContext.location.render)
  | .emptyRegistry _ => some "this is a bug in reggen, please report it"
  | _ => none

/-- What to do about it. -/
def hint? : RegisterError → Option String
  | .invalidArgument .. =>
    some "use @Register(\"Name\"), @Register(Name) or @Register(Registries.Name)"
  | .missingArgument .. => some "pass the registry name as the first decorator argument"
  | .missingBaseType .. =>
    some ("add an " ++ quoted "extends" ++ " or " ++ quoted "implements" ++
      " clause, or disable " ++ quoted "requireBaseType")
  | .invalidRegistryName .. =>
    some ("use letters, digits, " ++ quoted "_" ++ " or " ++ quoted "$" ++
      ", not starting with a digit")
  | .unexportedType .. =>
    some ("export the class from the top level of its module so the generated file can " ++
      "import it")
  | _ => none

end RegisterError

end ClassRegistry
