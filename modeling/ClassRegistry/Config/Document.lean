import ClassRegistry.Config
import ClassRegistry.Json.Printer
import ClassRegistry.Json.Typed

/-!
# Configuration documents

Settings as a JSON document: an object whose members are settings, or a list of the settings in
their fixed order. What a document does not set is as usual. Members with other names are passed
over.
-/

namespace ClassRegistry

open Json (Reader)

/-- One of the settings. -/
inductive Setting where
  | includes
  | ignores
  | ignoreTestFiles
  | outDir
  | marker
  | registryArgument
  | extension
  | requireBaseType
  deriving DecidableEq, Repr

namespace Setting

/-- All settings in the order of a list. -/
def all : List Setting :=
  [.includes, .ignores, .ignoreTestFiles, .outDir, .marker, .registryArgument, .extension,
    .requireBaseType]

/-- The name of a setting in an object. -/
def name : Setting → String
  | .includes => "includes"
  | .ignores => "ignores"
  | .ignoreTestFiles => "ignoreTestFiles"
  | .outDir => "outDir"
  | .marker => "marker"
  | .registryArgument => "registryArgument"
  | .extension => "extension"
  | .requireBaseType => "requireBaseType"

/-- The setting of a name. -/
def ofName? (name : String) : Option Setting :=
  all.find? (·.name = name)

/-- Reads the value of a setting into a configuration. -/
def read (s : Setting) (c : Config) : Reader Config :=
  match s with
  | .includes => return { c with includes := ← Reader.texts }
  | .ignores => return { c with ignores := ← Reader.texts }
  | .ignoreTestFiles => return { c with ignoreTestFiles := ← Reader.flag }
  | .outDir => return { c with outDir := ← Reader.text }
  | .marker => return { c with marker := ← Reader.text }
  | .registryArgument => return { c with registryArgument := ← Reader.text }
  | .extension => return { c with extension := ← Reader.text }
  | .requireBaseType => return { c with requireBaseType := ← Reader.flag }

/-- The written value of a setting. -/
def write (c : Config) : Setting → String
  | .includes => Json.textsText 1 c.includes
  | .ignores => Json.textsText 1 c.ignores
  | .ignoreTestFiles => Json.flagText c.ignoreTestFiles
  | .outDir => Json.quoted c.outDir
  | .marker => Json.quoted c.marker
  | .registryArgument => Json.quoted c.registryArgument
  | .extension => Json.quoted c.extension
  | .requireBaseType => Json.flagText c.requireBaseType

end Setting

namespace Config

/-- Reads settings one after the other as long as the list goes on. -/
def readElements : List Setting → Bool → Config → Reader Config
  | [], _, c => return c
  | setting :: rest, isFirst, c => do
    if ← Reader.hasElement isFirst then readElements rest false (← setting.read c)
    else return c

/-- A list of settings behind its opening bracket. -/
def readList : Reader Config := do
  let c ← readElements Setting.all true standard
  Reader.listEnd
  return c

/-- What is known between two members: the settings so far, those that were set, and whether no
member was read yet. -/
structure Progress where
  config : Config
  set : List Setting
  isFirst : Bool

/-- Reads a member, none at the end of the object. A setting may be set once only. -/
def readMember (p : Progress) : Reader (Progress ⊕ Config) := do
  if ← Reader.hasMember p.isFirst then
    let name ← Reader.key
    match Setting.ofName? name with
    | none =>
      Reader.colon
      Reader.skipValue
      return .inl { p with isFirst := false }
    | some setting =>
      if setting ∈ p.set then Reader.duplicate name
      Reader.colon
      return .inl ⟨← setting.read p.config, setting :: p.set, false⟩
  else
    Reader.skip
    return .inr p.config

/-- The settings of a document. -/
def reader : Reader Config := do
  let byte ← Reader.peekToken .endInValue
  if byte = Json.code '[' then
    Reader.skip
    readList
  else if byte = Json.code '\x7b' then
    Reader.skip
    Reader.iterate readMember ⟨standard, [], true⟩
  else Reader.wrongType "struct Config"

/-- Reads a document. -/
def parse (document : String) : Except Json.Fault Config :=
  Reader.run reader document

/-- The document that sets everything as it is. -/
def render (c : Config) : String :=
  Json.objectText 0 (Setting.all.map fun setting => (setting.name, setting.write c))

end Config

end ClassRegistry
