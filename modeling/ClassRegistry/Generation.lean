import ClassRegistry.Generated.Render

/-!
# A generation pass

From declarations to registries to units. Nothing is rendered when the collection fails.
-/

namespace ClassRegistry

/-- What a successful pass gives. -/
structure Generation where
  registries : Registries
  units : List GeneratedUnit
  deriving DecidableEq, Repr

/-- Collects the registries of a list of declarations and renders each of them. -/
def generate (workingDirectory : Path) (collectOptions : CollectOptions)
    (emitOptions : EmitOptions) (declarations : List ClassDeclaration) :
    Except RegisterError Generation :=
  match Registries.collect declarations collectOptions with
  | .error e => .error e
  | .ok registries => .ok ⟨registries, registries.units workingDirectory emitOptions⟩

/-- The path without a leading `.`; what follows keeps its inner spelling. -/
def Path.withoutLeadingDot (p : Path) : Path :=
  match pieces p.text.toList with
  | ['.'] :: more =>
    let front := more.dropWhile fun piece => piece.isEmpty || piece == ['.']
    ⟨String.ofList (joinPieces (trimPieces true front.reverse).reverse)⟩
  | _ => p

/-- A path as seen from a project root. It stays as it is when it is absolute or when the root is
the current directory; else its leading `.` gives way to the root. -/
def Path.under (root p : Path) : Path :=
  if p.isAbsolute || root.components.all (· = .current) then p
  else root.join p.withoutLeadingDot

end ClassRegistry
