import Mathlib.Data.Bool.AllAny
import ClassRegistry.Proofs.Declaration.Names
import ClassRegistry.Proofs.Report.HelperPath
import ClassRegistry.Proofs.TypeScript.Units

/-!
# Units as they are parsed

A unit is put together from fragments of the sources: names of classes and of namespaces, the text of
a base type, paths and names of packages. As long as each fragment is of the kind that its place is
for, the unit is parsed without a fault, to the imports that were asked for and a single helper with
one entry for each member. Nothing sees to it that a fragment is of that kind, so there are sources
whose unit is not parsed at all.
-/

namespace ClassRegistry

open TypeScript (Code Node Piece IsIdentifier IsQuotable DottedName TypeText ImportClause MapEntry
  MapText UnitText IsExportedMap IsNested)

variable {code : Code} {workingDirectory outDir : Path}

/-! ## Fragments -/

/-- A text is a plain name, or several with dots between them. -/
def IsDottedName (text : String) : Prop :=
  ∃ name : DottedName, name.IsPlain ∧ name.text = text

/-- A text is a type that is a word of the language, or a dotted name with types as arguments. -/
def IsTypeText (text : String) : Prop :=
  ∃ type : TypeText, type.IsPlain ∧ type.text = text

/-- What an import asks for can be written: the module in quotes, the name in it as an identifier and
the local one as a plain name. -/
structure ImportRequest.IsWritable (q : ImportRequest) : Prop where
  specifier : ∀ c ∈ q.specifier.toList, IsQuotable c
  localName : TypeScript.IsPlainName q.localName
  imported : ∀ name, q.imported = .named name → IsIdentifier name.toList ∧ name ≠ "default"

/-- Each fragment that the unit of a registry holds is of the kind that its place is for. -/
structure Registry.IsWritable (workingDirectory outDir : Path) (r : Registry) (first : Member) :
    Prop where
  helper : IsIdentifier (helperName r.name).toList
  scope : r.needsModule = false → first.scope ≠ "" → IsDottedName first.scope
  valueType : IsTypeText first.valueType
  references : ∀ m ∈ r.members, IsDottedName (r.reference m)
  imports : ∀ q ∈ r.importRequests workingDirectory outDir, q.IsWritable

/-- A dotted name holds nothing that needs an escape. -/
theorem isQuotable_of_isDottedName {text : String} (h : IsDottedName text) :
    ∀ c ∈ text.toList, IsQuotable c := by
  obtain ⟨name, hplain, rfl⟩ := h
  have hpart {c : Char} (hc : Text.isIdentifierPart c = true) : IsQuotable c := by
    refine ⟨?_, ?_, ?_, ?_⟩ <;>
      (rintro rfl
       revert hc
       decide)
  have hname {part : String} (hpart' : part ∈ name.first :: name.more) :
      ∀ c ∈ part.toList, IsQuotable c :=
    fun c hc => hpart ((hplain part hpart').isIdentifier.forall_isIdentifierPart c hc)
  have htext : Piece.textOf (name.pieces []) = name.text.toList := DottedName.textOf_pieces [] name
  rw [← htext]
  intro c hc
  obtain ⟨p, hp, hcp⟩ := List.mem_flatMap.mp hc
  rcases List.mem_cons.mp hp with rfl | hp
  · exact hname List.mem_cons_self c hcp
  · obtain ⟨next, hnext, hp⟩ := List.mem_flatMap.mp hp
    rcases List.mem_pair.mp hp with rfl | rfl
    · obtain rfl := List.mem_singleton.mp hcp
      simp [IsQuotable]
    · exact hname (List.mem_cons_of_mem _ hnext) c hcp

/-- Values of which each is one of something are those of a list of it. -/
theorem exists_map_eq {α β : Type} {P : β → Prop} {f : β → α} {values : List α}
    (h : ∀ a ∈ values, ∃ b, P b ∧ f b = a) :
    ∃ list : List β, (∀ b ∈ list, P b) ∧ list.map f = values := by
  induction values with
  | nil => exact ⟨[], List.forall_mem_nil _, rfl⟩
  | cons a values ih =>
      obtain ⟨⟨b, hb, rfl⟩, hvalues⟩ := List.forall_mem_cons.mp h
      obtain ⟨list, hlist, rfl⟩ := ih hvalues
      exact ⟨b :: list, List.forall_mem_cons.mpr ⟨hb, hlist⟩, rfl⟩

/-! ## Imports -/

/-- A node is the import that stands on a line, and all that it binds was asked for. -/
def IsImportOf (requests : List ImportRequest) (line : String) (node : Node code) : Prop :=
  ∃ span clause specifier, node = .importNames span specifier (ImportClause.bindings clause) ∧
    line = importLine clause.text specifier ∧
    ∀ b ∈ clause.bindings, ⟨specifier, b.localName, b.imported⟩ ∈ requests

/-- A line of a table is an import of what was asked for. -/
theorem ImportTable.exists_clause_of_mem_lines {requests : List ImportRequest} {line : String}
    (h : line ∈ (ofRequests requests).lines) : ∃ (clause : ImportClause) (specifier : String),
      line = importLine clause.text specifier ∧
      ∀ b ∈ clause.bindings, ⟨specifier, b.localName, b.imported⟩ ∈ requests := by
  obtain ⟨specifier, hline⟩ := exists_of_mem_lines_ofRequests h
  have hslot {slot : ImportedName} {name : String} (hisSlot : slot.isSlot = true)
      (hname : ((ofRequests requests).imports specifier).slot? slot = some name) :
      ⟨specifier, name, slot⟩ ∈ requests := by
    rw [slot?_imports_ofRequests requests specifier hisSlot, Option.map_eq_some_iff] at hname
    obtain ⟨q, hfind, rfl⟩ := hname
    obtain ⟨rfl, rfl⟩ : q.specifier = specifier ∧ q.imported = slot := by
      simpa using List.find?_some hfind
    exact List.mem_of_find?_eq_some hfind
  rcases ModuleImports.mem_lines.mp hline with
    ⟨name, hname, rfl⟩ | ⟨name, hname, rfl⟩ | ⟨hne, rfl⟩
  · exact ⟨.default name, specifier, rfl, List.forall_mem_singleton.mpr (hslot rfl hname)⟩
  · exact ⟨.everything name, specifier, rfl, List.forall_mem_singleton.mpr (hslot rfl hname)⟩
  · have hnamed : ∀ binding ∈ ((ofRequests requests).imports specifier).named,
        ∃ pair : String × String, ⟨specifier, pair.2, .named pair.1⟩ ∈ requests ∧
          namedBinding pair.1 pair.2 = binding := by
      intro binding hbinding
      obtain ⟨⟨_, localName, _⟩, hq, rfl, name, rfl, rfl⟩ :=
        mem_named_imports_ofRequests.mp hbinding
      exact ⟨(name, localName), hq, rfl⟩
    obtain ⟨pairs, hpairs, heq⟩ := exists_map_eq hnamed
    cases pairs with
    | nil => exact absurd heq.symm hne
    | cons pair pairs =>
        refine ⟨.named pair pairs, specifier, ?_, ?_⟩
        · rw [ImportClause.text, heq]
        · rintro b hb
          obtain ⟨found, hfound, rfl⟩ := List.mem_map.mp hb
          exact hpairs found hfound

/-- An import of what can be written stays within its place. -/
theorem isPlain_of_isWritable {requests : List ImportRequest} (h : ∀ q ∈ requests, q.IsWritable)
    {clause : ImportClause} {specifier : String}
    (hclause : ∀ b ∈ clause.bindings, ⟨specifier, b.localName, b.imported⟩ ∈ requests) :
    clause.IsPlain ∧ ∀ c ∈ specifier.toList, IsQuotable c := by
  cases clause with
  | default name | everything name =>
      have hq := h _ (hclause _ (List.mem_singleton_self _))
      exact ⟨hq.localName, hq.specifier⟩
  | named first more =>
      have hwritable : ∀ pair ∈ first :: more,
          ImportRequest.IsWritable ⟨specifier, pair.2, .named pair.1⟩ :=
        fun pair hpair => h _ (hclause _ (List.mem_map_of_mem hpair))
      refine ⟨fun pair hpair => ?_, (hwritable first List.mem_cons_self).specifier⟩
      obtain ⟨-, hlocal, himported⟩ := hwritable pair hpair
      obtain ⟨hidentifier, hne⟩ := himported pair.1 rfl
      exact ⟨hidentifier, hne, hlocal⟩

/-! ## Texts -/

/-- Lines behind the first one start behind a line end. -/
theorem toList_linesText_cons (first : String) (lines : List String) :
    (linesText (first :: lines)).toList =
      first.toList ++ (lines.flatMap fun line => '\n' :: line.toList) ++ ['\n'] := by
  induction lines generalizing first with
  | nil => simp [linesText]
  | cons second lines ih =>
      have hfirst : linesText (first :: second :: lines) =
          first ++ "\n" ++ linesText (second :: lines) := by
        simp [linesText, String.join_cons]
      rw [hfirst, String.toList_append, ih]
      simp

/-- A map in namespaces has the text of its lines. -/
theorem textOf_nestedPieces (m : MapText) (front indent : List Char) (isExported : Bool)
    (names : List DottedName) :
    Piece.textOf (TypeScript.nestedPieces m (front ++ '\n' :: indent) indent isExported names) =
      front ++ (nestedLines isExported
        (mapLines m.valueType.text (m.entries.map fun e => (e.key, e.reference.text)))
        (names.map DottedName.text)).flatMap fun line => '\n' :: indent ++ line.toList := by
  induction names generalizing front indent isExported with
  | nil =>
      simp [TypeScript.nestedPieces, nestedLines, mapLines, MapText.textOf_pieces, MapText.text_type,
        MapText.inner, List.flatMap_map]
  | cons name names ih =>
      have hinner := ih [] (MapText.inner indent) true
      rw [List.nil_append, List.nil_append] at hinner
      rw [TypeScript.nestedPieces, Piece.textOf_append, Piece.textOf_append, hinner]
      cases isExported <;>
        simp [TypeScript.openingPieces, nestedLines, namespaceLines, Piece.textOf_cons,
          Piece.textOf_append, DottedName.textOf_pieces, MapText.inner, List.flatMap_map,
          Piece.keyword, Piece.sign, TypeScript.Keyword.spelling, TypeScript.Punctuator.spelling]

/-- A unit has the text of its lines behind a line end each. -/
theorem textOf_unitPieces (u : UnitText) :
    Piece.textOf u.pieces =
      (u.imports.map (fun entry => importLine entry.1.text entry.2) ++
        (if u.isExported then [""] else []) ++
        nestedLines u.isExported
          (mapLines u.map.valueType.text (u.map.entries.map fun e => (e.key, e.reference.text)))
          (u.names.map DottedName.text)).flatMap (fun line => '\n' :: line.toList) ++ ['\n'] := by
  have himports : Piece.textOf ((u.imports.map some).flatMap u.itemPieces) =
      (u.imports.map fun entry => importLine entry.1.text entry.2).flatMap
        fun line => '\n' :: line.toList := by
    induction u.imports with
    | nil => rfl
    | cons entry imports ih =>
        rw [List.map_cons, List.flatMap_cons, Piece.textOf_append, ih, List.map_cons,
          List.flatMap_cons, UnitText.itemPieces, ImportClause.textOf_importPieces]
        rfl
  have hline : u.lineBefore =
      (if u.isExported then [""] else []).flatMap fun line : String => '\n' :: line.toList := by
    cases h : u.isExported <;> simp [UnitText.lineBefore, h]
  rw [UnitText.pieces, UnitText.items, List.flatMap_append, List.flatMap_singleton,
    Piece.textOf_append, Piece.textOf_append, himports, UnitText.itemPieces, textOf_nestedPieces,
    hline]
  simp [Piece.textOf, Piece.ending]

/-! ## Registries -/

namespace Registry

variable {r : Registry} {first : Member}

/-- The name of a helper is no word of the language. -/
theorem isPlainName_helperName {registry : String} (h : IsIdentifier (helperName registry).toList) :
    TypeScript.IsPlainName (helperName registry) := by
  refine ⟨h, List.find?_eq_none.mpr fun k _ hk => ?_⟩
  have hsuffix : "Helper".toList <:+ k.spelling := by
    rw [of_decide_eq_true hk, helperName, String.toList_append]
    exact List.suffix_append _ _
  revert hsuffix
  cases k <;> decide

/-- The class name of a member is what the reference to it ends with. -/
theorem typeName_suffix_reference (r : Registry) (m : Member) :
    m.typeName.toList <:+ (r.reference m).toList := by
  have hqualified : m.typeName.toList <:+ m.qualifiedName.toList := by
    rw [Member.qualifiedName]
    split
    · exact List.suffix_rfl
    · rw [String.toList_append]
      exact List.suffix_append _ _
  rw [reference, Member.moduleReference]
  split
  · split
    · exact List.suffix_rfl
    · exact hqualified
  · exact List.suffix_rfl

/-- The blocks of a helper have dotted names. -/
theorem isDottedName_of_mem_helperBlocks (h : r.IsWritable workingDirectory outDir first) :
    ∀ name ∈ r.helperBlocks first, IsDottedName name := by
  have hhelper : IsDottedName (helperName r.name) :=
    ⟨⟨helperName r.name, []⟩, List.forall_mem_singleton.mpr (isPlainName_helperName h.helper), rfl⟩
  rw [helperBlocks]
  split
  · exact List.forall_mem_singleton.mpr hhelper
  · rename_i hnested
    simp only [Bool.or_eq_true, not_or, Bool.not_eq_true] at hnested
    have hscope : first.scope ≠ "" := by simpa using hnested.2
    exact List.forall_mem_cons.mpr
      ⟨h.scope hnested.1 hscope, List.forall_mem_singleton.mpr hhelper⟩

/-- The parts of the unit of a registry whose fragments are of the kinds that their places are
for. -/
theorem exists_unitText (h : r.IsWritable workingDirectory outDir first) :
    ∃ u : UnitText, u.IsPlain ∧ u.isExported = r.needsModule ∧
      u.names.map DottedName.text = r.helperBlocks first ∧
      u.map.valueType.text = first.valueType ∧
      u.map.entries.map (fun e => (e.key, e.reference.text)) = r.entries ∧
      u.imports.map (fun entry => importLine entry.1.text entry.2) =
        (r.importTable workingDirectory outDir).lines ∧
      ∀ entry ∈ u.imports, ∀ b ∈ entry.1.bindings,
        ⟨entry.2, b.localName, b.imported⟩ ∈ r.importRequests workingDirectory outDir := by
  obtain ⟨type, htype, hvalue⟩ := h.valueType
  obtain ⟨names, hnames, hblocks⟩ := exists_map_eq (isDottedName_of_mem_helperBlocks h)
  have hentry : ∀ entry ∈ r.entries,
      ∃ e : MapEntry, e.IsPlain ∧ (e.key, e.reference.text) = entry := by
    intro entry hentry
    obtain ⟨m, hm, rfl⟩ := List.mem_map.mp hentry
    obtain ⟨reference, hplain, htext⟩ := h.references m hm
    refine ⟨⟨m.typeName, reference⟩, ⟨fun c hc => ?_, hplain⟩, by rw [htext]⟩
    refine isQuotable_of_isDottedName (h.references m hm) c ?_
    exact (typeName_suffix_reference r m).subset hc
  obtain ⟨entries, hplain, hentries⟩ := exists_map_eq hentry
  have hline : ∀ line ∈ (r.importTable workingDirectory outDir).lines,
      ∃ entry : ImportClause × String, (∀ b ∈ entry.1.bindings,
        ⟨entry.2, b.localName, b.imported⟩ ∈ r.importRequests workingDirectory outDir) ∧
        importLine entry.1.text entry.2 = line := by
    intro line hline
    obtain ⟨clause, specifier, rfl, hasked⟩ := ImportTable.exists_clause_of_mem_lines hline
    exact ⟨(clause, specifier), hasked, rfl⟩
  obtain ⟨imports, hasked, hlines⟩ := exists_map_eq hline
  refine ⟨⟨imports, r.needsModule, names, type, entries⟩, ⟨?_, hnames, htype, hplain⟩, rfl, hblocks,
    hvalue, hentries, hlines, hasked⟩
  exact fun entry hentry => isPlain_of_isWritable h.imports (hasked entry hentry)

end Registry

/-- No line ends within the header of a unit. -/
theorem isLineEnd_generatedHeader :
    ∀ c ∈ generatedHeader.toList.drop 2, TypeScript.isLineEnd c = false := by
  have hnone : (generatedHeader.toList.drop 2).any TypeScript.isLineEnd = false := by decide
  intro c hc
  exact eq_false_of_ne_true (List.any_eq_false.mp hnone c hc)

/-- Each unit of a pass belongs to a registry. When each fragment in it is of the kind that its place
is for, it is parsed without a fault, with and without markup: to the imports on the lines of its
table and, behind them, a single helper in the namespaces that it should stand in, whose map has an
entry for each member, in order, of the name of its class and a new instance of what the unit refers
to it by. -/
theorem parse_of_generate {options : CollectOptions} {emit : EmitOptions}
    {declarations : List ClassDeclaration} {g : Generation}
    (h : generate workingDirectory options emit declarations = .ok g) {unit : GeneratedUnit}
    (hu : unit ∈ g.units) :
    ∃ r ∈ g.registries, ∃ first, r.canonical? = some first ∧ unit.registry = r.name ∧
      (r.IsWritable workingDirectory emit.outDir first → ∀ markup, ∃ imports helper,
        TypeScript.parse unit.contents.toList markup = .ok (imports ++ [helper]) ∧
        List.Forall₂ (IsImportOf (r.importRequests workingDirectory emit.outDir))
          (r.importTable workingDirectory emit.outDir).lines imports ∧
        IsNested (IsExportedMap r.entries) r.needsModule (r.helperBlocks first) helper) := by
  obtain ⟨r, hr, first, hf, hunit⟩ := exists_of_mem_units h hu
  obtain ⟨hname, -⟩ := Registry.exists_lines_of_unit? hf hunit
  refine ⟨r, hr, first, hf, hname, fun hwritable markup => ?_⟩
  obtain ⟨u, hplain, hexported, hnames, hvalue, hentries, hlines, hasked⟩ :=
    Registry.exists_unitText hwritable
  have hcode : '/' :: '/' :: (generatedHeader.toList.drop 2 ++ Piece.textOf u.pieces) =
      unit.contents.toList := by
    have hheader : generatedHeader.toList = '/' :: '/' :: generatedHeader.toList.drop 2 := rfl
    rw [Registry.contents_eq_nestedLines hf hunit, Registry.preamble, List.cons_append,
      toList_linesText_cons, textOf_unitPieces, hexported, hnames, hvalue, hentries, hlines, hheader]
    cases hm : r.needsModule with
    | true => simp
    | false =>
        rw [Registry.importTable_eq_nil hm]
        simp [ImportTable.lines]
  obtain ⟨imports, helper, hparse, himports, hhelper⟩ :=
    UnitText.exists_parse hplain isLineEnd_generatedHeader hcode markup
  rw [hexported, hnames, hentries] at hhelper
  refine ⟨imports, helper, hparse, ?_, hhelper⟩
  rw [← hlines, List.forall₂_map_left_iff]
  refine ((List.forall₂_and_left _ _).mpr ⟨hasked, himports⟩).imp ?_
  rintro entry _ ⟨hentry, span, rfl⟩
  exact ⟨span, entry.1, entry.2, rfl, rfl, hentry⟩

/-- Two modules with members of a base type that has an argument. -/
def typedItemModules : List Source :=
  [⟨"src/sword.ts", ("import \x7bItem\x7d from \"./item\"; " ++
      "@Register(\"Items\") export class Sword extends Item<string> \x7b\x7d").toList⟩,
    ⟨"src/shield.ts", ("import \x7bItem\x7d from \"./item\"; " ++
      "@Register(\"Items\") export default class Shield extends Item<string> \x7b\x7d").toList⟩]

/-- Their unit is parsed to three imports and a helper with both members. -/
theorem parse_of_typedItemModules : ∃ declarations g, ∃ unit ∈ g.units,
    ∃ (imports : List (Node unit.contents.toList)) (helper : Node unit.contents.toList),
    Source.allDeclarations typedItemModules = .ok declarations ∧
    generate ⟨"/"⟩ .standard ⟨"ts", ⟨"src/generated"⟩⟩ declarations = .ok g ∧
    TypeScript.parse unit.contents.toList false = .ok (imports ++ [helper]) ∧
    imports.length = 3 ∧
    IsNested (IsExportedMap [("Sword", "Sword"), ("Shield", "Shield")]) true ["ItemsHelper"]
      helper := by
  obtain ⟨declarations, registries, r, hdeclarations, hcollect, hr, hp⟩ :=
    Source.exists_collected_of_any typedItemModules (p := fun r => decide (
      r.name = "Items" ∧ r.needsModule = true ∧
      r.entries = [("Sword", "Sword"), ("Shield", "Shield")] ∧
      r.canonical?.map Member.valueType = some "Item<string>" ∧
      r.importRequests ⟨"/"⟩ ⟨"src/generated"⟩ = [⟨"../sword", "Sword", .named "Sword"⟩,
        ⟨"../shield", "Shield", .default⟩, ⟨"../item", "Item", .named "Item"⟩] ∧
      (r.importTable ⟨"/"⟩ ⟨"src/generated"⟩).lines.length = 3)) (by decide +kernel)
  obtain ⟨hname, hm, hentries, hvalue, hrequests, hlines⟩ := of_decide_eq_true hp
  obtain ⟨g, unit, hg, rfl, hu, hunit, -⟩ :=
    exists_generation_of_collect hcollect hr ⟨"/"⟩ ⟨"ts", ⟨"src/generated"⟩⟩
  obtain ⟨s, hs, first, hf, hfound, hparse⟩ := parse_of_generate hg hu
  obtain rfl : s = r := eq_of_name_eq hg hs hr (hfound.symm.trans hunit)
  rw [hf, Option.map_some, Option.some.injEq] at hvalue
  have hplain : ∀ name ∈ ["Sword", "Shield", "Item"], TypeScript.IsPlainName name := by
    simp only [List.forall_mem_cons]
    exact ⟨⟨⟨by decide, by decide⟩, by decide⟩, ⟨⟨by decide, by decide⟩, by decide⟩,
      ⟨⟨by decide, by decide⟩, by decide⟩, List.forall_mem_nil _⟩
  have hspecifier : ∀ specifier ∈ ["../sword", "../shield", "../item"],
      ∀ c ∈ specifier.toList, IsQuotable c := by
    simp only [List.forall_mem_cons]
    exact ⟨List.all_iff_forall_prop.mp (by decide), List.all_iff_forall_prop.mp (by decide),
      List.all_iff_forall_prop.mp (by decide), List.forall_mem_nil _⟩
  have hwritable : s.IsWritable ⟨"/"⟩ ⟨"src/generated"⟩ first := by
    refine ⟨?_, ?_, ?_, ?_, ?_⟩
    · rw [hname]
      exact ⟨by decide, by decide⟩
    · rw [hm]
      exact fun hscript => absurd hscript (by decide)
    · refine ⟨.named ⟨"Item", []⟩ [] [.word .string_], ⟨by simp, ?_, rfl, trivial⟩, ?_⟩
      · exact List.forall_mem_singleton.mpr (hplain "Item" (by simp))
      · rw [hvalue]
        rfl
    · intro m hm
      have hentry : (m.typeName, s.reference m) ∈ s.entries := List.mem_map_of_mem hm
      have hreference : s.reference m ∈ ["Sword", "Shield", "Item"] := by
        rw [hentries] at hentry
        simp only [List.mem_cons, Prod.mk.injEq, List.not_mem_nil, or_false] at hentry
        rcases hentry with ⟨-, heq⟩ | ⟨-, heq⟩ <;> simp [heq]
      exact ⟨⟨s.reference m, []⟩, List.forall_mem_singleton.mpr (hplain _ hreference), rfl⟩
    · rw [hrequests]
      simp only [List.forall_mem_cons]
      refine ⟨⟨hspecifier _ (by simp), hplain _ (by simp), ?_⟩,
        ⟨hspecifier _ (by simp), hplain _ (by simp), by simp⟩,
        ⟨hspecifier _ (by simp), hplain _ (by simp), ?_⟩, List.forall_mem_nil _⟩ <;>
      · rintro _ ⟨⟩
        exact ⟨(hplain _ (by simp)).isIdentifier, by decide⟩
  obtain ⟨imports, helper, hnodes, himports, hhelper⟩ := hparse hwritable false
  have hblocks : s.helperBlocks first = ["ItemsHelper"] := by
    rw [Registry.helperBlocks, hm, hname]
    rfl
  rw [hentries, hm, hblocks] at hhelper
  exact ⟨declarations, g, unit, hu, imports, helper, hdeclarations, hg, hnodes,
    himports.length_eq.symm.trans hlines, hhelper⟩

/-- A module that hands out its class by a name that is no identifier. -/
def quotedExportModule : Source :=
  ⟨"src/foo.ts", ("@Register(\"Inventory\") class Foo \x7b\x7d\n" ++
    "export \x7b Foo as \"a-b\" \x7d;").toList⟩

/-- What the unit of its registry holds. -/
def quotedExportContents : String :=
  linesText
    [generatedHeader,
      importLine "\x7b a-b as Foo \x7d" "../foo",
      "",
      "export namespace InventoryHelper \x7b",
      "    export const Type: Map<string, unknown> = new Map<string, unknown>([",
      "        [\"Foo\", new Foo()],",
      "    ]);",
      "\x7d"]

/-- The unit takes the name for an identifier, and is not parsed. -/
theorem quoted_export_is_not_parsed : ∃ declarations g, ∃ unit ∈ g.units,
    Source.allDeclarations [quotedExportModule] = .ok declarations ∧
    generate ⟨"/"⟩ .standard ⟨"ts", ⟨"src/generated"⟩⟩ declarations = .ok g ∧
    unit.contents = quotedExportContents ∧
    ∀ markup, ∃ fault, TypeScript.parse unit.contents.toList markup = .error fault := by
  obtain ⟨declarations, registries, r, hdeclarations, hcollect, hr, hp⟩ :=
    Source.exists_collected_of_any [quotedExportModule] (p := fun r => decide (
      (r.unit? ⟨"/"⟩ ⟨"ts", ⟨"src/generated"⟩⟩).map (·.contents) = some quotedExportContents))
      (by decide +kernel)
  obtain ⟨g, unit, hg, rfl, hu, -, hunit⟩ :=
    exists_generation_of_collect hcollect hr ⟨"/"⟩ ⟨"ts", ⟨"src/generated"⟩⟩
  have hcontents : unit.contents = quotedExportContents := by
    simpa [hunit] using of_decide_eq_true hp
  have hfails : ∀ markup,
      (TypeScript.parse quotedExportContents.toList markup).toOption.isNone = true := by
    decide +kernel
  refine ⟨declarations, g, unit, hu, hdeclarations, hg, hcontents, fun markup => ?_⟩
  rw [hcontents]
  cases hparse : TypeScript.parse quotedExportContents.toList markup with
  | error fault => exact ⟨fault, rfl⟩
  | ok nodes =>
      have hnone := hfails markup
      rw [hparse] at hnone
      cases hnone

end ClassRegistry
