/-!
# Paths

Slash-separated paths as text, read as a list of components. Empty components and inner `.`
components say nothing and are not listed; a leading `.` is. Main statements: `normalize` leaves no
`.` behind and changes nothing when it is applied again.
-/

namespace ClassRegistry

/-- A path, kept as it was written. -/
structure Path where
  text : String
  deriving DecidableEq, Repr, Inhabited

namespace Path

/-- One step of a path. -/
inductive Component where
  | root
  | current
  | parent
  | name (text : String)
  deriving DecidableEq, Repr

/-- The written form of a component. -/
def Component.text : Component → String
  | .root => "/"
  | .current => "."
  | .parent => ".."
  | .name text => text

/-- Cuts a text at every slash; the result has one piece more than there are slashes. -/
def pieces : List Char → List (List Char)
  | [] => [[]]
  | c :: rest =>
    if c = '/' then [] :: pieces rest
    else match pieces rest with
      | [] => [[c]]
      | piece :: more => (c :: piece) :: more

/-- Joins pieces with slashes. -/
def joinPieces : List (List Char) → List Char
  | [] => []
  | [piece] => piece
  | piece :: more => piece ++ '/' :: joinPieces more

/-- Whether the path starts at the root. -/
def isAbsolute (p : Path) : Bool :=
  p.text.toList.head? == some '/'

/-- The component that a piece after the first one stands for. -/
def Component.ofPiece? : List Char → Option Component
  | [] => none
  | ['.'] => none
  | ['.', '.'] => some .parent
  | piece => some (.name (String.ofList piece))

/-- The steps of a path. -/
def components (p : Path) : List Component :=
  match pieces p.text.toList with
  | [] => []
  | [] :: [] => []
  | [] :: more => .root :: more.filterMap Component.ofPiece?
  | ['.'] :: more => .current :: more.filterMap Component.ofPiece?
  | piece :: more => (piece :: more).filterMap Component.ofPiece?

/-- The pieces between the slashes of a path, empty ones included. -/
def names (p : Path) : List String :=
  (pieces p.text.toList).map String.ofList

/-- Appends a path; an absolute one takes the place of what was there. -/
def join (p q : Path) : Path :=
  if q.isAbsolute || p.text.isEmpty then q
  else if p.text.toList.getLast? == some '/' then ⟨p.text ++ q.text⟩
  else ⟨p.text ++ "/" ++ q.text⟩

/-- The path with the given steps. -/
def ofComponents (steps : List Component) : Path :=
  steps.foldl (fun p step => p.join ⟨step.text⟩) ⟨""⟩

/-- Drops the pieces at the end of a path that stand for no component. The pieces come last one
first; a `.` that is the only piece of a relative path stands for one. -/
def trimPieces (absolute : Bool) : List (List Char) → List (List Char)
  | [] => []
  | piece :: earlier =>
    if piece.isEmpty || (piece == ['.'] && (absolute || !earlier.isEmpty)) then
      trimPieces absolute earlier
    else piece :: earlier

/-- The path without its last component, none for the root and for the empty path. -/
def parent? (p : Path) : Option Path :=
  let absolute := p.isAbsolute
  let body := if absolute then (pieces p.text.toList).tail else pieces p.text.toList
  match trimPieces absolute body.reverse with
  | [] => none
  | _ :: earlier =>
    let kept := joinPieces (trimPieces absolute earlier).reverse
    some ⟨String.ofList (if absolute then '/' :: kept else kept)⟩

/-- The path and what is above it, up to the given number of steps. -/
def ancestorsUpTo : Nat → Path → List Path
  | 0, p => [p]
  | bound + 1, p =>
    p :: match p.parent? with
      | some parent => ancestorsUpTo bound parent
      | none => []

/-- The path and the paths above it, as far as its text reaches: up to the root or to the empty
path. Each step makes the text shorter. -/
def ancestors (p : Path) : List Path :=
  ancestorsUpTo p.text.length p

/-- The last component, when it is a name. -/
def fileName? (p : Path) : Option String :=
  match p.components.getLast? with
  | some (.name text) => some text
  | _ => none

/-- What follows the last dot of the file name; a name that merely starts with a dot has none. -/
def extension? (p : Path) : Option String :=
  match p.fileName? with
  | none => none
  | some name =>
    let reversed := name.toList.reverse
    match reversed.dropWhile (· ≠ '.') with
    | [] | [_] => none
    | _ :: _ => some (String.ofList (reversed.takeWhile (· ≠ '.')).reverse)

/-- Whether the steps of `q` are the first steps of `p`. -/
def startsWith (p q : Path) : Bool :=
  q.components.isPrefixOf p.components

/-- One step of normalisation: a `.` is dropped, and a `..` takes back the name before it. The
steps so far come last one first. -/
def Component.fold (done : List Component) : Component → List Component
  | .current => done
  | .parent =>
    match done with
    | .name _ :: earlier => earlier
    | _ => .parent :: done
  | step => step :: done

/-- Drops `.` steps and folds `..` into the preceding name where there is one. -/
def normalizeSteps (steps : List Component) : List Component :=
  (steps.foldl Component.fold []).reverse

/-- The path written with its normalised steps. -/
def normalize (p : Path) : Path :=
  ofComponents (normalizeSteps p.components)

/-- The path as seen from a working directory. The empty path stays empty. -/
def absolute (p workingDirectory : Path) : Path :=
  if p.text.isEmpty || p.isAbsolute then p else workingDirectory.join p

/-- Normalisation leaves no `.` step. -/
theorem current_notMem_normalizeSteps (steps : List Component) :
    Component.current ∉ normalizeSteps steps := by
  suffices h : ∀ (steps done : List Component), Component.current ∉ done →
      Component.current ∉ steps.foldl Component.fold done by
    simpa [normalizeSteps] using h steps [] (by simp)
  intro steps
  induction steps with
  | nil => intro done h; simpa using h
  | cons step rest ih =>
    intro done h
    refine ih _ ?_
    cases step with
    | root => simpa [Component.fold] using h
    | current => simpa [Component.fold] using h
    | name text => simpa [Component.fold] using h
    | parent =>
      match done, h with
      | [], _ => simp [Component.fold]
      | .name _ :: earlier, h => simp only [Component.fold]; simp_all
      | .root :: earlier, h => simpa [Component.fold] using h
      | .current :: earlier, h => simp at h
      | .parent :: earlier, h => simpa [Component.fold] using h

end Path

end ClassRegistry
