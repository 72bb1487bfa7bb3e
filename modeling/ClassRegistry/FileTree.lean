import ClassRegistry.Path

/-!
# File trees

The files, directories and symbolic links that a run sees, and the directory that relative paths
start from. A tree is a list of entries by address; the root itself is always there. Paths are
followed name by name: links are resolved, and a `..` leads to the directory above the one reached.

Main statements: an entry that is put into a tree is found there, and no other address is touched.
-/

namespace ClassRegistry

/-- The names that lead from the root to an entry. -/
abbrev Address := List String

/-- Contents are compared as their type compares them. -/
local instance decidableEqContents : DecidableEq ByteArray :=
  ByteArray.instDecidableEq

/-- What stands at an address. -/
inductive Entry where
  | file (contents : ByteArray)
  | directory
  | link (target : Path)
  deriving DecidableEq

/-- Why a path cannot be used as it should be. -/
inductive FileError where
  | notFound
  | exists
  | notDirectory
  | isDirectory
  | nameTooLong
  | tooManyLinks
  | zeroInPath
  /-- The contents are not UTF-8. -/
  | notText
  deriving DecidableEq, Repr

/-- The wording of an error. -/
def FileError.message : FileError → String
  | .notFound => "No such file or directory (os error 2)"
  | .exists => "File exists (os error 17)"
  | .notDirectory => "Not a directory (os error 20)"
  | .isDirectory => "Is a directory (os error 21)"
  | .nameTooLong => "File name too long (os error 36)"
  | .tooManyLinks => "Too many levels of symbolic links (os error 40)"
  | .zeroInPath => "file name contained an unexpected NUL byte"
  | .notText => "stream did not contain valid UTF-8"

/-- Files, directories and links by their addresses. -/
structure FileTree where
  entries : List (Address × Entry)
  /-- Where relative paths start. -/
  workingDirectory : Address

namespace FileTree

/-- The path of the working directory. -/
def workingPath (tree : FileTree) : Path :=
  ⟨"/" ++ "/".intercalate tree.workingDirectory⟩

/-- The entry at an address; the root is a directory. -/
def get? (tree : FileTree) (address : Address) : Option Entry :=
  if address = [] then some .directory
  else (tree.entries.find? fun item => item.1 = address).map (·.2)

/-- The entries with one of them put in or replaced. -/
def putEntry (address : Address) (entry : Entry) : List (Address × Entry) → List (Address × Entry)
  | [] => [(address, entry)]
  | item :: rest =>
    if item.1 = address then (address, entry) :: rest else item :: putEntry address entry rest

/-- The tree with an entry put in or replaced. -/
def insert (tree : FileTree) (address : Address) (entry : Entry) : FileTree :=
  { tree with entries := putEntry address entry tree.entries }

/-- The tree without the entry at an address and without everything below it. -/
def erase (tree : FileTree) (address : Address) : FileTree :=
  { tree with entries := tree.entries.filter fun item => !address.isPrefixOf item.1 }

/-- The entries below an address, by the names that lead there from it. -/
def below (tree : FileTree) (address : Address) : List (Address × Entry) :=
  tree.entries.filterMap fun item =>
    if address.isPrefixOf item.1 && address.length < item.1.length then
      some (item.1.drop address.length, item.2)
    else none

/-- The names of the entries in a directory. -/
def namesIn (tree : FileTree) (address : Address) : List String :=
  (tree.below address).filterMap fun
    | ([name], _) => some name
    | _ => none

/-- Where the names of a path lead. -/
inductive Reached where
  | entry (address : Address)
  /-- There is no such name in the directory; more names may follow. -/
  | missing (directory : Address) (name : String) (rest : List String)
  /-- A link in the directory; more names may follow. -/
  | link (directory : Address) (target : Path) (rest : List String)

/-- The greatest number of bytes in a name. -/
def maximalNameSize : Nat := 255

/-- Follows names from an address to the end or to the first link. -/
def follow (tree : FileTree) (address : Address) : List String → Except FileError Reached
  | [] => .ok (.entry address)
  | name :: rest =>
    if tree.get? address ≠ some .directory then .error .notDirectory
    else if name = "" ∨ name = "." then follow tree address rest
    else if name = ".." then follow tree address.dropLast rest
    else if maximalNameSize < name.utf8ByteSize then .error .nameTooLong
    else match tree.get? (address ++ [name]) with
      | none => .ok (.missing address name rest)
      | some (.link target) => .ok (.link address target rest)
      | some _ => follow tree (address ++ [name]) rest

/-- The address that a path starts from. -/
def startOf (directory : Address) (p : Path) : Address :=
  if p.isAbsolute then [] else directory

/-- Follows names through as many links as given. -/
def followLinks (tree : FileTree) : Nat → Address → List String → Except FileError Reached
  | links, address, names =>
    match follow tree address names with
    | .ok (.link directory target rest) =>
      match links with
      | 0 => .error .tooManyLinks
      | links + 1 => followLinks tree links (startOf directory target) (target.names ++ rest)
    | reached => reached

/-- The number of links that a path may lead through. -/
def maximalLinks : Nat := 40

/-- The greatest number of bytes in the text of a path. -/
def maximalPathSize : Nat := 4095

/-- Why the text of a path leads nowhere, in any tree. -/
def textFault? (p : Path) : Option FileError :=
  if p.text.isEmpty then some .notFound
  else if p.text.toList.contains '\x00' then some .zeroInPath
  else if maximalPathSize < p.text.utf8ByteSize then some .nameTooLong
  else none

/-- Where a path leads. -/
def reach (tree : FileTree) (p : Path) : Except FileError Reached :=
  match textFault? p with
  | some error => .error error
  | none => tree.followLinks maximalLinks (startOf tree.workingDirectory p) p.names

/-- The address of what a path names. -/
def resolve (tree : FileTree) (p : Path) : Except FileError Address :=
  match tree.reach p with
  | .ok (.entry address) => .ok address
  | .ok _ => .error .notFound
  | .error e => .error e

/-- What a path names, links followed. -/
def lookup (tree : FileTree) (p : Path) : Except FileError Entry :=
  match tree.resolve p with
  | .error e => .error e
  | .ok address =>
    match tree.get? address with
    | some entry => .ok entry
    | none => .error .notFound

/-- Whether a path names anything. -/
def contains (tree : FileTree) (p : Path) : Bool :=
  (tree.lookup p).isOk

/-- Whether a path names a directory. -/
def isDirectory (tree : FileTree) (p : Path) : Bool :=
  tree.lookup p matches .ok .directory

/-- Whether a path names a file. -/
def isFile (tree : FileTree) (p : Path) : Bool :=
  tree.lookup p matches .ok (.file _)

/-- The contents of the file that a path names. -/
def read (tree : FileTree) (p : Path) : Except FileError ByteArray :=
  match tree.lookup p with
  | .ok (.file contents) => .ok contents
  | .ok _ => .error .isDirectory
  | .error e => .error e

/-- The text of the file that a path names. -/
def readText (tree : FileTree) (p : Path) : Except FileError String :=
  match tree.read p with
  | .error e => .error e
  | .ok contents =>
    match String.fromUTF8? contents with
    | some text => .ok text
    | none => .error .notText

/-! ## Changes -/

/-- The names of a path without its last one, and the last one; slashes at the end do not count. -/
def splitLast (names : List String) : List String × String :=
  let kept := (names.reverse.dropWhile (· = "")).reverse
  (kept.dropLast, kept.getLast?.getD "")

/-- The directory that holds what a path names, and its name there. -/
def resolveParent (tree : FileTree) (p : Path) : Except FileError (Address × String) :=
  match textFault? p with
  | some error => .error error
  | none =>
    let (parents, name) := splitLast p.names
    match tree.followLinks maximalLinks (startOf tree.workingDirectory p) parents with
    | .ok (.entry address) =>
      if tree.get? address = some .directory then .ok (address, name) else .error .notDirectory
    | .ok _ => .error .notFound
    | .error e => .error e

/-- The tree with a new directory, of which the parent has to exist. -/
def makeDirectory (tree : FileTree) (p : Path) : Except FileError FileTree :=
  match tree.resolveParent p with
  | .error e => .error e
  | .ok (directory, name) =>
    if name = "" ∨ name = "." ∨ name = ".." then .error .exists
    else if maximalNameSize < name.utf8ByteSize then .error .nameTooLong
    else match tree.get? (directory ++ [name]) with
      | some _ => .error .exists
      | none => .ok (tree.insert (directory ++ [name]) .directory)

/-- Makes the first of the given paths a directory, after the others where they are missing. -/
def makeDirectoriesAlong : List Path → FileTree → Except FileError Unit × FileTree
  | [], tree => (.ok (), tree)
  | p :: ancestors, tree =>
    match tree.makeDirectory p with
    | .ok tree => (.ok (), tree)
    | .error .notFound =>
      match makeDirectoriesAlong ancestors tree with
      | (.error e, tree) => (.error e, tree)
      | (.ok (), tree) =>
        match tree.makeDirectory p with
        | .ok tree => (.ok (), tree)
        | .error e => (if tree.isDirectory p then .ok () else .error e, tree)
    | .error e => (if tree.isDirectory p then .ok () else .error e, tree)

/-- Makes a path a directory together with all that are missing above it. When that fails, those
made so far stay. -/
def makeDirectories (tree : FileTree) (p : Path) : Except FileError Unit × FileTree :=
  makeDirectoriesAlong (p.ancestors.filter fun q => !q.text.isEmpty) tree

/-- Where a file that is written to a path comes to stand. -/
def writeAddress (tree : FileTree) (p : Path) : Except FileError Address :=
  if p.names.getLast? = some "" then
    match tree.resolveParent p with
    | .ok _ => .error .isDirectory
    | .error e => .error e
  else match tree.reach p with
    | .ok (.entry address) =>
      if tree.get? address = some .directory then .error .isDirectory else .ok address
    | .ok (.missing directory name []) => .ok (directory ++ [name])
    | .ok _ => .error .notFound
    | .error e => .error e

/-- The tree with a file written, of which the directory has to exist. -/
def write (tree : FileTree) (p : Path) (contents : ByteArray) : Except FileError FileTree :=
  (tree.writeAddress p).map fun address => tree.insert address (.file contents)

/-- The entries that are new or not what they were. -/
def changedSince (tree earlier : FileTree) : List (Address × Entry) :=
  tree.entries.filter fun item => earlier.get? item.1 ≠ some item.2

/-- The entries that are gone. -/
def goneSince (tree earlier : FileTree) : List (Address × Entry) :=
  earlier.entries.filter fun item => (tree.get? item.1).isNone

/-! ## What a change does to the entries -/

/-- An entry that was put in is found. -/
theorem find_putEntry_self (address : Address) (entry : Entry) (items : List (Address × Entry)) :
    (putEntry address entry items).find? (fun item => item.1 = address) =
      some (address, entry) := by
  induction items with
  | nil => simp [putEntry]
  | cons item rest ih =>
    by_cases h : item.1 = address
    · simp [putEntry, h]
    · simp [putEntry, h, ih]

/-- Putting an entry in leaves those at other addresses as they are. -/
theorem find_putEntry_of_ne {address other : Address} (h : other ≠ address) (entry : Entry)
    (items : List (Address × Entry)) :
    (putEntry address entry items).find? (fun item => item.1 = other) =
      items.find? (fun item => item.1 = other) := by
  induction items with
  | nil => simp [putEntry, Ne.symm h]
  | cons item rest ih =>
    by_cases hi : item.1 = address
    · have : item.1 ≠ other := fun ho => h (ho ▸ hi)
      simp [putEntry, hi, Ne.symm h]
    · by_cases ho : item.1 = other
      · simp [putEntry, ho]
        simp [ho, h]
      · simp [putEntry, hi, ho, ih]

theorem get?_insert_self (tree : FileTree) {address : Address} (h : address ≠ [])
    (entry : Entry) : (tree.insert address entry).get? address = some entry := by
  simp [get?, h, insert, find_putEntry_self]

theorem get?_insert_of_ne (tree : FileTree) {address other : Address} (h : other ≠ address)
    (entry : Entry) : (tree.insert address entry).get? other = tree.get? other := by
  simp [get?, insert, find_putEntry_of_ne h]

end FileTree

end ClassRegistry
