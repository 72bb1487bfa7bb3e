import ClassRegistry.TypeScript.Grammar.Statement

/-!
# Imports, exports and items

What a module is made of: statements, imports and exports. Decorators in front of an item belong to
the class that the item declares; in front of anything else they say nothing.
-/

namespace ClassRegistry.TypeScript.Grammar

open TypeScript.Parser

variable {code : Code}

/-- A name that a module hands out or takes in, which may be a string. -/
inductive ModuleName (code : Code) where
  | word (ident : Ident code)
  | string (span : Span) (value : String)

/-- The text of a name. -/
def ModuleName.text : ModuleName code → String
  | .word ident => ident.name
  | .string _ value => value

/-- Reads a name that a module hands out or takes in. -/
def moduleName : Parser code (ModuleName code) := do
  let start ← here
  match ← kind with
  | .string value =>
    advance
    return .string (← spanFrom start) value
  | .word .. => return .word (← anyName)
  | _ => unexpected "identifier or string"

/-- Reads a string that names a module. -/
def sourceName : Parser code String := do
  match ← kind with
  | .string value =>
    advance
    return value
  | _ => unexpected "a string literal"

/-- What is said of an imported module behind its name. -/
def importOptions (rules : Rules code) : Parser code Unit := do
  unless ← startsLine do
    if (← eatWord .assert_) || (← eatWord .with_) then
      let _ ← rules .object

/-- `from "m"` -/
def fromClause (rules : Rules code) : Parser code String := do
  expectWord .from_
  let source ← sourceName
  importOptions rules
  return source

/-- The items of an import or an export list, in braces. -/
def nameList {α : Type} (item : Parser code α) : Parser code (List α) := do
  expect .braceOpen
  let items ← commaSeparated (isAt .braceClose) do
    if ← isAtEnd then failExpected "\x7d"
    item
  expect .braceClose
  return items

/-- A name in a list, which `type` may mark, and the one after `as`. -/
structure Renamed (code : Code) where
  original : ModuleName code
  renamed : Option (ModuleName code)
  isType : Bool

/-- A name in an import or an export list, and the one behind `as`. -/
def renamedName (second : Parser code (ModuleName code)) (original : ModuleName code)
    (isType : Bool) : Parser code (Renamed code) := do
  if ← eatWord .as_ then return ⟨original, some (← second), isType⟩
  else return ⟨original, none, isType⟩

/-- A name in an import or an export list behind the word `type` and in front of another word. The
words `type` and `as` are names themselves where nothing follows that they could mark or
introduce. -/
def markedName (second : Parser code (ModuleName code)) (mark : ModuleName code) :
    Parser code (Renamed code) := do
  unless ← isAtWord .as_ do return ← renamedName second (← moduleName) true
  let other ← moduleName
  unless ← isAtAnyWord do return ⟨other, none, true⟩
  let isAs ← isAtWord .as_
  let third ← second
  if isAs && (← isAtAnyWord) then return ⟨other, some (← second), true⟩
  else return ⟨mark, some third, false⟩

/-- A name in an import or an export list. -/
def listedName (second : Parser code (ModuleName code)) : Parser code (Renamed code) := do
  let isMark ← isAtWord .type_
  let first ← moduleName
  if isMark && (← isAtAnyWord) then markedName second first else renamedName second first false

/-- What a name in an import list stands for. -/
def importedName (text : String) : ImportedName :=
  if text = "default" then .default else .named text

/-- Whether a name is a reserved word. -/
def isReservedWord (ident : Ident code) : Bool :=
  (Keyword.ofSpelling? ident.name.toList).any Keyword.isReserved

/-- A name in an import list. A string and a reserved word have to be renamed. -/
def importItem : Parser code ImportBinding := do
  let isMark ← isAtWord .type_
  match isMark, (← following).kind with
  | true, .string value =>
    advance
    advance
    expectWord .as_
    return ⟨(← name true).name, importedName value⟩
  | _, _ =>
    let item ← listedName (ModuleName.word <$> name true)
    match item.renamed, item.original with
    | some renamed, original => return ⟨renamed.text, importedName original.text⟩
    | none, .word ident =>
      if isReservedWord ident then failAt ident.span.start .reservedImport
      return ⟨ident.name, importedName ident.name⟩
    | none, .string span value => failAt span.start (.stringBinding value)

/-- When a module is evaluated that something is imported from. -/
inductive ImportPhase where
  | atOnce
  /-- When something of it is asked for. -/
  | deferred
  /-- Never: only its source is imported. -/
  | source
  deriving DecidableEq

/-- What an import binds in front of its source, behind the default binding. Single names are not
imported from a module that is evaluated later, and nothing at all from the source of one. -/
def importList (phase : ImportPhase) : Parser code (List ImportBinding) := do
  if phase ≠ .source && (← eat .star) then
    expectWord .as_
    return [⟨(← name true).name, .everything⟩]
  else if phase = .atOnce && (← isAt .braceOpen) then nameList importItem
  else return []

/-- `import A = b.c` or `import A = require("m")`, from the sign on. -/
def importAlias (start : Nat) (ident : Ident code) : Rule code := do
  expect .assign
  if (← isAtWord .require_) && (← following).kind = .sign .parenOpen then
    advance
    advance
    let _ ← sourceName
    expect .parenClose
  else
    let _ ← entityName false
  expectStatementEnd
  let span ← spanFrom start
  return .moduleDeclaration span [.compound span .element [.identifier ident]]

/-- Whether the name at hand is bound by an import, and does not introduce its source. -/
def startsDefaultBinding : Parser code Bool := do
  return (← isAtReference) &&
    (!(← isAtWord .from_) || ((← following).kind matches .word (some .from_) _))

/-- What an import binds in front of its list. -/
inductive DefaultBinding (code : Code) where
  | bound (ident : Ident code) (phase : ImportPhase)
  | alias (ident : Ident code)
  | none (phase : ImportPhase)

/-- Whether a list of imported names starts here. -/
def startsImportList : Parser code Bool := do
  return (← isAt .star) || (← isAt .braceOpen)

/-- The default binding behind the word `type`, which is that binding itself where no other name
follows; none in front of a list. -/
def typeBinding (mark : Ident code) : Parser code (Option (Ident code)) := do
  if ← startsImportList then return none
  if ← startsDefaultBinding then return some (← name true)
  if (← isAtReference) && (← following).kind = .sign .assign then return some (← anyName)
  return some mark

/-- The phase that the name of a default binding stands for where another name or a list follows. -/
def ImportPhase.ofName? (name : String) : Option ImportPhase :=
  if name = "defer" then some .deferred
  else if name = "source" then some .source
  else none

/-- The default binding behind a name that may stand for a phase. -/
def phasedBinding (ident : Ident code) : Parser code (DefaultBinding code) := do
  match ImportPhase.ofName? ident.name with
  | some phase =>
    if ← startsImportList then return .none phase
    if ← startsDefaultBinding then return .bound (← name true) phase
    return .bound ident .atOnce
  | none => return .bound ident .atOnce

/-- The default binding of an import. -/
def defaultBinding : Parser code (DefaultBinding code) := do
  unless ← isAtReference do return .none .atOnce
  let isMark ← isAtWord .type_
  let first ← name true
  match ← if isMark then typeBinding first else pure (some first) with
  | none => return .none .atOnce
  | some ident => if ← isAt .assign then return .alias ident else phasedBinding ident

/-- What an import binds, behind its word. -/
def importedNames : Parser code (DefaultBinding code × List ImportBinding) := do
  let first ← defaultBinding
  match first with
  | .alias _ => return (first, [])
  | .bound ident phase =>
    unless ← isAtWord .from_ do expect .comma
    return (first, ⟨ident.name, .default⟩ :: (← importList phase))
  | .none phase => return (first, ← importList phase)

/-- An import from its word on, which is the current token. -/
def importDeclaration (rules : Rules code) : Rule code := do
  let start ← here
  advance
  match ← kind with
  | .string source =>
    advance
    importOptions rules
    let _ ← eatStatementEnd
    return .importNames (← spanFrom start) source []
  | _ =>
    match ← importedNames with
    | (.alias ident, _) => importAlias start ident
    | (_, bindings) =>
      let source ← fromClause rules
      expectStatementEnd
      return .importNames (← spanFrom start) source bindings

/-- An expression that starts with `import`, as a statement. -/
def importStatement (rules : Rules code) : Rule code := do
  let node ← rules .expression
  let _ ← eatStatementEnd
  return node

/-- Whether `import` starts an expression here. -/
def startsImportExpression : Parser code Bool := do
  let next ← following
  return next.kind = .sign .parenOpen || next.kind = .sign .dot

/-- A name in an export list, where all names may be marked as types at once. -/
def exportItem (allTypes : Bool) : Parser code ExportBinding := do
  let item ← listedName moduleName
  return ⟨item.original.text, (item.renamed.getD item.original).text, allTypes || item.isType⟩

/-- The source of an export of names of another module. -/
def exportSource (rules : Rules code) (start : Nat) : Rule code := do
  let _ ← fromClause rules
  expectStatementEnd
  return .moduleDeclaration (← spanFrom start) []

/-- An export of names, of its own or of another module. -/
def exportList (rules : Rules code) (start : Nat) (allTypes : Bool) : Rule code := do
  if ← eat .star then
    if ← eatWord .as_ then
      let _ ← moduleName
    return ← exportSource rules start
  let bindings ← nameList (exportItem allTypes)
  if ← isAtWord .from_ then return ← exportSource rules start
  let _ ← eatStatementEnd
  return .exportNames (← spanFrom start) bindings

/-- Decorators behind a word of an export; then there may be none in front of it. -/
def laterDecorators (rules : Rules code) (earlier : List (Node code)) :
    Parser code (List (Node code)) := do
  let start ← here
  let later ← decorators rules
  if later.isEmpty then return earlier
  unless earlier.isEmpty do failAt start .twiceDecorated
  return later

/-- What stands behind `export default`. -/
def defaultValue (rules : Rules code) (earlier : List (Node code)) : Rule code := do
  let decorators ← laterDecorators rules earlier
  let start ← here
  let next ← following
  let isAbstract ← isAtWord .abstract_
  if isAbstract && (next.kind matches .word (some .class_) _) && !next.startsLine then
    advance
    return ← classDefinition rules start true false decorators
  if isAbstract && (next.kind matches .word (some .interface_) _) then advance
  if ← eatWord .interface_ then return ← interface rules start
  if ← isAtWord .class_ then return ← classDefinition rules start true false decorators
  if ← startsAsyncFunction then
    advance
    return ← functionDefinition rules start true .defaultExport
  if ← isAtWord .function_ then return ← functionDefinition rules start false .defaultExport
  let value ← enclosed (rules .assignment)
  expectStatementEnd
  return value

/-- A declaration behind `export` that a reserved word starts, or none. -/
def exportedDeclaration (rules : Rules code) (decorators : List (Node code)) :
    Parser code (Option (Node code)) := do
  let start ← here
  if ← isAtWord .class_ then return some (← classDefinition rules start true true decorators)
  if ← startsAsyncFunction then
    advance
    return some (← functionDefinition rules start true .declaration)
  if ← isAtWord .function_ then return some (← functionDefinition rules start false .declaration)
  if ← startsConstEnumeration then return some (← constEnumeration rules start)
  match ← variableKind? with
  | some .using | none => return none
  | some kind => return some (← variableDeclaration rules kind)

/-- Exports that stand for a whole module, or none. -/
def wholeExport (rules : Rules code) (start : Nat) : Parser code (Option (Node code)) := do
  if ← eatWord .import_ then
    let isMarked := (← isAtWord .type_) && (← following).kind.isWord
    if isMarked then advance
    let ident ← anyName
    return some (← importAlias start ident)
  if ← eat .assign then
    let value ← rules .expression
    expectStatementEnd
    return some (.moduleDeclaration (← spanFrom start) [value])
  if ← eatWord .as_ then
    expectWord .namespace_
    let _ ← name false
    expectStatementEnd
    return some (.moduleDeclaration (← spanFrom start) [])
  return none

/-- An export from its word on, which is the current token. -/
def exportDeclaration (rules : Rules code) (decorators : List (Node code)) : Rule code := do
  let start ← here
  advance
  if ← isAtEnd then failAtEnd
  let declaredStart ← here
  if ← eatWord .declare_ then
    match ← ambientDeclaration rules declaredStart decorators with
    | some node => return .exportDeclaration (← spanFrom start) node
    | none => pure ()
  let wordStart ← here
  match ← attempt (certainDeclaration rules wordStart decorators) with
  | some node => return .exportDeclaration (← spanFrom start) node
  | none =>
    match ← wholeExport rules start with
    | some node => return node
    | none =>
      if ← eatWord .type_ then return ← exportList rules start true
      if ← eatWord .default_ then
        let value ← defaultValue rules decorators
        return .exportDefault (← spanFrom start) value
      let decorators ← laterDecorators rules decorators
      match ← exportedDeclaration rules decorators with
      | some node => return .exportDeclaration (← spanFrom start) node
      | none => exportList rules start false

/-- A statement where neither an import nor an export may stand. -/
def statement (rules : Rules code) (inList : Bool) : Rule code := do
  let decorators ← decorators rules
  if ← isAtWord .import_ then
    if ← startsImportExpression then return ← importStatement rules
    fail .importOutsideModule
  if ← isAtWord .export_ then fail .importOutsideModule
  plainStatement rules inList decorators

/-- A statement, an import or an export. -/
def moduleItem (rules : Rules code) : Rule code := do
  let decorators ← decorators rules
  if ← isAtWord .import_ then
    if ← startsImportExpression then return ← importStatement rules
    return ← importDeclaration rules
  if ← isAtWord .export_ then return ← exportDeclaration rules decorators
  plainStatement rules true decorators

end ClassRegistry.TypeScript.Grammar
