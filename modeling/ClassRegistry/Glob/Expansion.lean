import ClassRegistry.FileTree
import ClassRegistry.Glob.Pattern

/-!
# Directories that a pattern names

A pattern is expanded component by component: a component without signs leads to the entry of that
name, any other one is matched against the names in the directory reached so far. A leading `.` is
dropped from the paths found.
-/

namespace ClassRegistry.Glob

/-- The name that a component stands for when it holds no sign. -/
def Pattern.literal? (p : Pattern) : Option String :=
  (p.tokens.mapM PatternToken.char?).map String.ofList

/-- Whether a component stands for any number of components. -/
def Pattern.isRecursive (p : Pattern) : Bool :=
  p.tokens = [.anyComponents]

/-- The path of an entry in a directory; in the working directory it is just the name. -/
def childPath (directory : Path) (name : String) : Path :=
  if directory.components = [.current] then ⟨name⟩ else directory.join ⟨name⟩

/-- The names of the entries that a path holds, when it is a directory. -/
def childNames (tree : FileTree) (directory : Path) : List String :=
  match tree.resolve directory with
  | .ok address => if tree.get? address = some .directory then tree.namesIn address else []
  | .error _ => []

/-- What is found from an entry on that a component may match. `expand` goes on below the entry. -/
def expandEntry (tree : FileTree) (expand : List Pattern → Path → List Path)
    (patterns : List Pattern) (path : Path) : List Path :=
  let named : List Pattern → List Path
    | [] => [path]
    | p :: rest =>
      if (path.fileName?.map p.matches).getD false then
        if rest.isEmpty then [path] else expand rest path
      else []
  match patterns with
  | p :: rest =>
    if p.isRecursive then
      let rest := rest.dropWhile (·.isRecursive)
      if tree.isDirectory path then expand (p :: rest) path ++ named rest
      else if rest.isEmpty then []
      else named rest
    else named patterns
  | [] => []

/-- What is found below a directory, at most `bound` steps deep. -/
def expand (tree : FileTree) : Nat → List Pattern → Path → List Path
  | 0, _, _ | _, [], _ => []
  | bound + 1, p :: rest, directory =>
    let found (path : Path) : List Path :=
      if rest.isEmpty then [path] else expand tree bound rest path
    match p.literal? with
    | some name =>
      let path := childPath directory name
      let isThere :=
        if name = "." ∨ name = ".." then tree.isDirectory directory else tree.contains path
      if isThere then found path else []
    | none =>
      let children := (childNames tree directory).flatMap fun name =>
        expandEntry tree (expand tree bound) (p :: rest) (childPath directory name)
      let special := if p.tokens.head? = some (.char '.') && tree.isDirectory directory then
          [".", ".."].filter p.matches
        else []
      children ++ special.flatMap fun name => found (directory.join ⟨name⟩)

/-- The length of the longest address. -/
def longestAddress (tree : FileTree) : Nat :=
  (tree.entries.map (·.1.length)).foldl max tree.workingDirectory.length

/-- A number of steps that no expansion exceeds: for one component there are at most as many as an
address can be long between two links. -/
def maximalSteps (tree : FileTree) (patterns : List Pattern) : Nat :=
  (patterns.length + 1) * ((FileTree.maximalLinks + 1) * (longestAddress tree + 2))

/-- The components of a pattern; a slash at the end starts none. -/
def componentTexts (p : Path) : List String :=
  let names := if p.isAbsolute then p.names.tail else p.names
  if names.getLast? = some "" then names.dropLast else names

/-- The directories that a pattern names. -/
def directories (tree : FileTree) (pattern : Path) : Except PatternError (List Path) := do
  let _ ← Pattern.parse pattern.text
  let patterns ← (componentTexts pattern).mapM Pattern.parse
  let start : Path := if pattern.isAbsolute then ⟨"/"⟩ else ⟨"."⟩
  return (expand tree (maximalSteps tree patterns) patterns start).filter tree.isDirectory

end ClassRegistry.Glob
