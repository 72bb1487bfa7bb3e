import ClassRegistry.TypeScript.Parser

/-!
# Expressions as targets

What stands before an assignment sign or an arrow is read as an expression first, and turns out to
be a target afterwards. Here such an expression is taken apart again: lists and objects become
patterns, and what can be no target is dropped from them.
-/

namespace ClassRegistry.TypeScript

variable {code : Code}

/-- Why an expression is taken as a target: its names are bound as parameters, or values are
assigned to what it refers to. -/
inductive TargetKind where
  | binding
  | assignment
  deriving DecidableEq

namespace Node

/-- Whether an expression may stand in a pattern for what a value is assigned to. -/
def isPlace : Node code → Bool
  | .identifier _ | .member .. | .privateMember .. | .computedMember .. | .call .. | .string ..
  | .literal .. | .function .. | .classDefinition .. | .parenthesized .. | .template .. => true
  | .compound _ form _ => form = .superMember || form = .new || form = .cast
  | _ => false

/-- Whether a value can be assigned to an expression as it stands. -/
def isSimpleTarget : Node code → Bool
  | .identifier _ | .member .. | .privateMember .. | .computedMember .. | .parenthesized ..
  | .instantiation .. => true
  | .compound _ form _ =>
    form = .superMember || form = .optionalChain || form = .cast || form = .satisfaction ||
      form = .nonNull || form = .assertion
  | _ => false

/-- A node in place of one that can be no part of a pattern. -/
def missing (span : Span) : Node code :=
  .compound span .missing []

mutual

/-- An expression as a part of a pattern. A method in an object can be none. -/
def asTarget (kind : TargetKind) : Node code → Except Fault (Node code)
  | .identifier ident => .ok (.identifier ident)
  | .object span properties => do
    return .compound span .pattern (← propertiesAsTargets kind properties)
  | .compound span .list elements => do
    return .compound span .pattern (← elementsAsTargets kind elements)
  | .compound span .pattern parts => .ok (.compound span .pattern parts)
  | .assignment span true target value => do
    return .compound span .pattern [← asTarget kind target, value]
  | node => .ok (if kind = .assignment && node.isPlace then node else missing node.span)

/-- The elements of a list as parts of a pattern. Only the last one may take the rest. -/
def elementsAsTargets (kind : TargetKind) : List (Node code) → Except Fault (List (Node code))
  | [] => .ok []
  | .spread span value :: rest => do
    if rest.isEmpty then return [.spread span (← asTarget kind value)]
    else elementsAsTargets kind rest
  | node :: rest => do return (← asTarget kind node) :: (← elementsAsTargets kind rest)

/-- The properties of an object as parts of a pattern. -/
def propertiesAsTargets (kind : TargetKind) : List (Node code) → Except Fault (List (Node code))
  | [] => .ok []
  | node :: rest => do
    return (← propertyAsTarget kind node) :: (← propertiesAsTargets kind rest)

/-- A property of an object as a part of a pattern. Where names are bound only a name takes the
rest. -/
def propertyAsTarget (kind : TargetKind) : Node code → Except Fault (Node code)
  | .property span key value => do return .property span key (← asTarget kind value)
  | .spread span (.identifier ident) => .ok (.spread span (.identifier ident))
  | .spread span value => do
    if kind = .binding then return missing span
    else return .spread span (← asTarget kind value)
  | .compound span .method _ => .error ⟨span.start, .notPattern⟩
  | node => .ok node

end

end Node

namespace Grammar

open TypeScript.Parser

/-- Goes on with a value that is there, or stops with the fault that is there instead. -/
def orFail {α : Type} : Except Fault α → Parser code α
  | .ok a => pure a
  | .error fault => failWith fault

/-- What the left side of an assignment assigns to. Only a plain assignment takes a list or an
object apart. -/
def assignmentTarget (isPlain : Bool) (node : Node code) : Rule code :=
  match isPlain, node with
  | true, .object .. | true, .compound _ .list _ => orFail (node.asTarget .assignment)
  | _, _ => if node.isSimpleTarget then pure node else failAt node.span.start .assignmentTarget

end Grammar

end ClassRegistry.TypeScript
