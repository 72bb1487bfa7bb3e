import ClassRegistry.Path

/-!
# Module specifiers

The text that names one module from another: the way from a directory to a file, always starting
with `./` or `../`, without the ending of a script source.
-/

namespace ClassRegistry.Path

/-- The ending of `text` taken off, when it has that ending. -/
def withoutEnding? (ending text : List Char) : Option (List Char) :=
  if ending.isSuffixOf text then some (text.take (text.length - ending.length)) else none

/-- Source endings and what an import writes for them; the first one that fits counts. -/
def scriptEndings : List (String × String) :=
  [(".d.ts", ""), (".tsx", ""), (".ts", ""), (".mts", ".mjs"), (".cts", ".cjs")]

/-- Drops the ending of a script source, or writes the ending of what it is compiled to. -/
def withoutScriptEnding (text : String) : String :=
  let fitting := scriptEndings.findSome? fun (ending, written) =>
    (withoutEnding? ending.toList text.toList).map fun stem => String.ofList stem ++ written
  fitting.getD text

/-- The number of leading steps that two paths share. -/
def sharedSteps : List Component → List Component → Nat
  | a :: as, b :: bs => if a = b then sharedSteps as bs + 1 else 0
  | _, _ => 0

/-- The steps from one normalised place to another: up to the last shared directory, then down. -/
def stepsBetween (source target : List Component) : List Component :=
  let shared := sharedSteps source target
  List.replicate (source.length - shared) .parent ++ target.drop shared

/-- The normalised steps of two paths, both as they are when both or neither of them starts at the
root, else both as seen from the working directory. -/
def comparableSteps (workingDirectory p q : Path) : List Component × List Component :=
  if p.isAbsolute = q.isAbsolute then
    (normalizeSteps p.components, normalizeSteps q.components)
  else
    (normalizeSteps (p.absolute workingDirectory).components,
      normalizeSteps (q.absolute workingDirectory).components)

/-- The specifier that reaches `target` from a file in `directory`. -/
def specifier (workingDirectory directory target : Path) : String :=
  let (source, goal) := comparableSteps workingDirectory directory target
  let way := (ofComponents (stepsBetween source goal)).text
  let slashed := String.ofList (way.toList.map fun c => if c = '\\' then '/' else c)
  let written := withoutScriptEnding slashed
  if "../".toList.isPrefixOf written.toList then written else "./" ++ written

end ClassRegistry.Path
