import ClassRegistry.Proofs.TypeScript.Imports
import ClassRegistry.Proofs.TypeScript.Maps

/-!
# Texts of units

Imports, and a map in namespaces one inside of the other: a text that is made of these behind a comment
is parsed without a fault, to the trees of its parts.
-/

namespace ClassRegistry.TypeScript

open TypeScript.Parser TypeScript.Grammar

variable {code : Code} {markup : Bool} {gap indent : List Char} {rest : List Piece}

/-! ## Trees -/

/-- A node is a namespace around a single item, which is exported or not. -/
inductive IsNamespace (name : String) (inner : Node code) : Bool → Node code → Prop
  | plain {span : Span} {first : String} {more : List String} :
    ".".intercalate (first :: more) = name →
    IsNamespace name inner false (.namespaceBlock span (.dotted first more) [inner])
  | exported {span exportSpan : Span} {first : String} {more : List String} :
    ".".intercalate (first :: more) = name →
    IsNamespace name inner true
      (.exportDeclaration exportSpan (.namespaceBlock span (.dotted first more) [inner]))

/-- Namespaces one inside of the other, the outermost first, with an item of some kind in the
innermost one. Those inside of another are exported from it. -/
def IsNested (P : Node code → Prop) : Bool → List String → Node code → Prop
  | _, [], node => P node
  | isExported, name :: names, node =>
    ∃ inner, IsNamespace name inner isExported node ∧ IsNested P true names inner

/-! ## Namespaces -/

/-- The pieces of the line that opens a namespace. -/
def openingPieces (gap : List Char) (isExported : Bool) (name : DottedName) : List Piece :=
  (if isExported then [.keyword gap .export_, .keyword [' '] .namespace_]
    else [.keyword gap .namespace_]) ++ (name.pieces [' '] ++ [.sign [' '] .braceOpen])

/-- The pieces of a map in namespaces one inside of the other. -/
def nestedPieces (m : MapText) (gap indent : List Char) (isExported : Bool) :
    List DottedName → List Piece
  | [] => m.pieces gap indent
  | name :: names => openingPieces gap isExported name ++
    (nestedPieces m ('\n' :: MapText.inner indent) (MapText.inner indent) true names ++
      [.sign ('\n' :: indent) .braceClose])

/-- What a map in namespaces starts with. -/
theorem exists_nestedPieces (m : MapText) (gap indent : List Char) (isExported : Bool)
    (names : List DottedName) : ∃ k ps, nestedPieces m gap indent isExported names =
      .keyword gap k :: ps := by
  cases names with
  | nil => exact ⟨_, _, rfl⟩
  | cons name names => cases isExported <;> exact ⟨_, _, rfl⟩

/-- The type of a map in namespaces and the namespaces are no more than the pieces. -/
theorem length_le_nestedPieces (m : MapText) (gap indent : List Char) (isExported : Bool)
    (names : List DottedName) : (m.type.pieces []).length + names.length ≤
      (nestedPieces m gap indent isExported names).length := by
  induction names generalizing gap indent isExported with
  | nil =>
      simp only [nestedPieces, MapText.pieces, List.length_cons, List.length_append,
        TypeText.length_pieces [' ']]
      omega
  | cons name names ih =>
      have hle := ih ('\n' :: MapText.inner indent) (MapText.inner indent) true
      simp only [nestedPieces, List.length_cons, List.length_append]
      omega

/-- A line that opens a namespace is laid out in front of anything. -/
theorem areLaidOut_openingPieces {name : DottedName} (hgap : Piece.IsBlankGap gap)
    (h : name.IsPlain) (isExported : Bool) :
    Piece.AreLaidOut (openingPieces gap isExported name ++ rest) ↔ Piece.AreLaidOut rest := by
  have hname (front : List Char) (hfront : Piece.IsBlankGap front) : Piece.AreLaidOut
      (.keyword front .namespace_ :: (name.pieces [' '] ++ .sign [' '] .braceOpen :: rest)) ↔
        Piece.AreLaidOut rest := by
    rw [Piece.areLaidOut_keyword hfront (name.endsWord_pieces (by simp) (by simp)),
      DottedName.areLaidOut_pieces h (by simp) (Piece.endsWord_sign (by simp)),
      Piece.areLaidOut_lone (by simp) (by decide)]
  rw [openingPieces, List.append_assoc, List.append_assoc, List.singleton_append]
  cases isExported with
  | false => exact hname gap hgap
  | true =>
      rw [← hname [' '] (by simp)]
      exact Piece.areLaidOut_keyword hgap (Piece.endsWord_of_gap (by simp [Piece.keyword])
        (by simp [Piece.keyword]))

/-- A map in namespaces is laid out in front of anything. -/
theorem areLaidOut_nestedPieces {m : MapText} {names : List DottedName} (hm : m.IsPlain)
    (hnames : ∀ name ∈ names, name.IsPlain) (hgap : Piece.IsBlankGap gap)
    (hindent : Piece.IsBlankGap indent) (isExported : Bool) :
    Piece.AreLaidOut (nestedPieces m gap indent isExported names ++ rest) ↔
      Piece.AreLaidOut rest := by
  induction names generalizing gap indent isExported rest with
  | nil => exact MapText.areLaidOut_pieces hm hgap hindent
  | cons name names ih =>
      obtain ⟨hname, hnames⟩ := List.forall_mem_cons.mp hnames
      have hinner : Piece.IsBlankGap (MapText.inner indent) :=
        MapText.isBlankGap_inner hindent
      rw [nestedPieces, List.append_assoc, areLaidOut_openingPieces hgap hname, List.append_assoc,
        ih hnames (by simp [hinner]) hinner]
      exact Piece.areLaidOut_lone (by simp [hindent]) (by decide)

namespace Grammar

variable {rules : Rules code} {p : Piece} {ps tail : List Piece} {P : Node code → Prop}
  {first : String}

/-- The further names of a namespace. -/
theorem reads_namespaceNames {more : List String} (hdot : ∀ q ∈ tail.head?, q.kind ≠ .sign .dot)
    (htail : Continues (.outermost markup) tail) :
    Reads (many do
        if ← eat .dot then return some (← anyName).name else return none : Parser code (List String))
      (.outermost markup) (DottedName.morePieces more ++ tail) tail (· = more) := by
  refine (Reads.many (R := fun name read => read = name) ?_ (fun _ _ _ => ?_) ?_ htail).mono ?_
  · intro name _ after hafter s hs
    have hnext := IsAtPiece.next hs (by simp)
    have hkind : s.token.kind = .sign .dot := IsAtPiece.kind_eq hs
    obtain ⟨ident, last, hrun, hlast, hident⟩ := (reads_anyName rfl hafter).run hnext
    simp only [bind_apply, eat_apply, hkind, if_true, hrun, pure_apply]
    exact .done hlast ⟨_, rfl, hident⟩
  · exact ⟨List.cons_ne_nil _ _, by simp⟩
  · intro s hs
    have hkind : s.token.kind ≠ .sign .dot := hs.kind_ne hdot
    simp [hkind]
    exact .done hs rfl
  · intro names hnames
    have hsame : List.Forall₂ Eq names more := (hnames.imp fun _ _ heq => heq).flip
    rwa [List.forall₂_eq_eq_eq] at hsame

/-- A single item in braces, from the first of them on. -/
theorem reads_namespaceBody {k : Option Keyword} {text : String} (hp : p.kind = .word k text)
    (hrest : Continues (.outermost markup) rest)
    (h : ∀ after, Continues (.outermost markup) after →
      Reads (rules .item) (.outermost markup) (p :: ps ++ after) after P) :
    Reads (namespaceBody rules) (.outermost markup)
      (.sign [' '] .braceOpen :: (p :: ps ++ .sign gap .braceClose :: rest)) rest
      fun nodes => ∃ inner, nodes = [inner] ∧ P inner := by
  have hitems : Reads (many do
        if (← isAt .braceClose) || (← isAtEnd) then return none
        else return some (← rules .item) : Parser code (List (Node code))) (.outermost markup)
      (([()].flatMap fun _ => p :: ps) ++ .sign gap .braceClose :: rest)
      (.sign gap .braceClose :: rest) (List.Forall₂ (fun (_ : Unit) => P) [()]) := by
    refine Reads.many ?_ (fun _ _ _ => ⟨List.cons_ne_nil _ _, by simp [hp]⟩) ?_ (by simp)
    · intro _ _ after hafter s hs
      have hkind : s.token.kind = .word k text := (IsAtPiece.kind_eq hs).trans hp
      obtain ⟨node, last, hrun, hlast, hnode⟩ := (h after hafter).run hs
      simp [hkind, hrun]
      exact .done hlast ⟨_, rfl, hnode⟩
    · intro s hs
      have hkind : s.token.kind = .sign .braceClose := IsAtPiece.kind_eq hs
      simp [hkind]
      exact .done hs rfl
  refine reads_enclosed (fun s hs => ?_) (by simp) hrest
  have hopen : s.token.kind = .sign .braceOpen := IsAtPiece.kind_eq hs
  have hs₁ := IsAtPiece.next hs (by simp [hp])
  rw [List.flatMap_singleton] at hitems
  obtain ⟨nodes, s₂, hrun, hs₂, hnodes⟩ := hitems.run hs₁
  have hclose : s₂.token.kind = .sign .braceClose := IsAtPiece.kind_eq hs₂
  obtain ⟨inner, _, hinner, ⟨⟩, rfl⟩ := List.forall₂_cons_left_iff.mp hnodes
  simp only [bind_apply, expect_of_kind hopen, blockItems, hrun, eat_apply, hclose, if_true,
    pure_apply]
  exact .done (IsAtPiece.next hs₂ hrest) ⟨inner, rfl, hinner⟩

/-- A namespace from its name on, with a single item. -/
theorem reads_namespaceBlock {name : DottedName} {k : Option Keyword} {text : String} {start : Nat}
    (hp : p.kind = .word k text) (hrest : Continues (.outermost markup) rest)
    (h : ∀ after, Continues (.outermost markup) after →
      Reads (rules .item) (.outermost markup) (p :: ps ++ after) after P) :
    Reads (namespaceBlock rules start) (.outermost markup)
      (name.pieces [' '] ++ .sign [' '] .braceOpen :: (p :: ps ++ .sign gap .braceClose :: rest)) rest
      fun node => ∃ span inner,
        node = .namespaceBlock span (.dotted name.first name.more) [inner] ∧ P inner := by
  rw [DottedName.pieces, List.cons_append]
  have hnames {tail : List Piece} : Continues (.outermost markup)
      (DottedName.morePieces name.more ++ .sign [' '] .braceOpen :: tail) := by
    cases name.more <;> simp [DottedName.morePieces]
  intro s hs
  obtain ⟨first, s₁, hrun₁, hs₁, hfirst⟩ := (reads_anyName rfl hnames).run hs
  obtain ⟨_, s₂, hrun₂, hs₂, rfl⟩ := (reads_namespaceNames (by simp) (by simp)).run hs₁
  obtain ⟨_, s₃, hrun₃, hs₃, inner, rfl, hinner⟩ := (reads_namespaceBody hp hrest h).run hs₂
  simp only [namespaceBlock, bind_apply, hrun₁, hrun₂, hrun₃, spanFrom_apply, pure_apply, hfirst]
  exact .done hs₃ ⟨_, inner, rfl, hinner⟩

/-- An import is an item. -/
theorem reads_moduleItem_import {clause : ImportClause} {specifier : String} (h : clause.IsPlain)
    (hrest : Continues (.outermost markup) rest) :
    Reads (moduleItem rules) (.outermost markup)
      (ImportClause.importPieces gap clause specifier ++ rest) rest
      fun node => ∃ span, node = .importNames span specifier clause.bindings := by
  have hread : Reads (importDeclaration rules) (.outermost markup)
      (ImportClause.importPieces gap clause specifier ++ rest) rest
      fun node => ∃ span, node = .importNames span specifier clause.bindings :=
    reads_importDeclaration h hrest
  obtain ⟨q, ps, hq, hkinds⟩ : ∃ q ps, clause.pieces = q :: ps ∧
      ∀ p ∈ [.parenOpen, .dot, .greater], q.kind ≠ .sign p := by
    cases clause <;> exact ⟨_, _, rfl, by simp⟩
  simp only [List.forall_mem_cons] at hkinds
  obtain ⟨hparen, hdot, hgreater, -⟩ := hkinds
  rw [ImportClause.importPieces, hq, List.cons_append, List.cons_append, List.cons_append] at hread ⊢
  intro s hs
  obtain ⟨_, s₁, hrun₁, hs₁, rfl⟩ := (reads_decorators_of_ne rules (by simp)).run hs
  have hword : s₁.token.kind = .word (some .import_) (String.ofList Keyword.import_.spelling) :=
    IsAtPiece.kind_eq hs₁
  have hnext : s₁.next.token.kind = q.kind :=
    IsAtPiece.kind_eq (IsAtPiece.next hs₁ fun hkind => absurd hkind hgreater)
  obtain ⟨node, s₂, hrun₂, hs₂, hnode⟩ := hread.run hs₁
  simp [moduleItem, startsImportExpression, hrun₁, hword, hnext, hparen, hdot, hrun₂]
  exact .done hs₂ hnode

/-- A namespace that is exported. -/
theorem reads_moduleItem_export_namespace
    (h : ∀ start, Reads (namespaceBlock rules start) (.outermost markup)
      (.name [' '] first :: ps) rest P) :
    Reads (moduleItem rules) (.outermost markup)
      (.keyword gap .export_ :: .keyword [' '] .namespace_ :: .name [' '] first :: ps) rest
      fun node => ∃ span declaration, node = .exportDeclaration span declaration ∧ P declaration := by
  intro s hs
  obtain ⟨_, s₁, hrun₁, hs₁, rfl⟩ := (reads_decorators_of_ne rules (by simp)).run hs
  have hexport : s₁.token.kind = .word (some .export_) (String.ofList Keyword.export_.spelling) :=
    IsAtPiece.kind_eq hs₁
  have hs₂ := IsAtPiece.next hs₁ (by simp)
  have hword : s₁.next.token.kind =
      .word (some .namespace_) (String.ofList Keyword.namespace_.spelling) := IsAtPiece.kind_eq hs₂
  obtain ⟨declaration, s₃, hrun₃, hs₃, hP⟩ :=
    (h s₁.next.token.span.start).run (IsAtPiece.next hs₂ (by simp))
  simp [moduleItem, exportDeclaration, certainDeclaration, hrun₁, hexport, hword, hrun₃]
  exact .done hs₃ ⟨_, _, rfl, hP⟩

/-- A namespace that is not exported. -/
theorem reads_moduleItem_namespace
    (h : ∀ start, Reads (namespaceBlock rules start) (.outermost markup)
      (.name [' '] first :: ps) rest P) :
    Reads (moduleItem rules) (.outermost markup)
      (.keyword gap .namespace_ :: .name [' '] first :: ps) rest P := by
  intro s hs
  obtain ⟨_, s₁, hrun₁, hs₁, rfl⟩ := (reads_decorators_of_ne rules (by simp)).run hs
  have hword : s₁.token.kind = .word (some .namespace_) (String.ofList Keyword.namespace_.spelling) :=
    IsAtPiece.kind_eq hs₁
  have hs₂ := IsAtPiece.next hs₁ (by simp)
  have hname : s₁.next.token.kind = .word none first := IsAtPiece.kind_eq hs₂
  obtain ⟨declaration, s₃, hrun₃, hs₃, hP⟩ := (h s₁.token.span.start).run hs₂
  simp [moduleItem, plainStatement, startsConstEnumeration, startsAsyncFunction, variableStatement,
    variableKind?, reservedStatement, wordDeclaration, isReference, isCast, certainDeclaration, hrun₁,
    hword, hname, hrun₃]
  exact .done hs₃ hP

end Grammar

/-- A map in namespaces is read as one. -/
theorem reads_nestedPieces {depth : Nat} {m : MapText} {names : List DottedName} (hm : m.IsPlain)
    (hdepth : (m.type.pieces []).length ≤ depth + 12) (isExported : Bool)
    (hrest : Continues (.outermost markup) rest) :
    Reads (grammar (depth + 18 + names.length) .item : Rule code) (.outermost markup)
      (nestedPieces m gap indent isExported names ++ rest) rest
      (IsNested (IsExportedMap (m.entries.map fun e => (e.key, e.reference.text))) isExported
        (names.map DottedName.text)) := by
  induction names generalizing gap indent isExported rest with
  | nil => exact MapText.reads_pieces hm hdepth hrest
  | cons name names ih =>
      obtain ⟨k, ps, hps⟩ := exists_nestedPieces m ('\n' :: MapText.inner indent)
        (MapText.inner indent) true names
      have hblock (start : Nat) : Reads
          (namespaceBlock (grammar (depth + 18 + names.length)) start : Rule code)
          (.outermost markup)
          (name.pieces [' '] ++ .sign [' '] .braceOpen ::
            (nestedPieces m ('\n' :: MapText.inner indent) (MapText.inner indent) true names ++
              .sign ('\n' :: indent) .braceClose :: rest)) rest
          fun node => ∃ span inner,
            node = .namespaceBlock span (.dotted name.first name.more) [inner] ∧
            IsNested (IsExportedMap (m.entries.map fun e => (e.key, e.reference.text))) true
              (names.map DottedName.text) inner := by
        rw [hps]
        refine reads_namespaceBlock rfl hrest fun after hafter => ?_
        rw [← hps]
        exact ih true hafter
      rw [nestedPieces, openingPieces]
      simp only [List.append_assoc, List.cons_append, List.nil_append]
      cases isExported with
      | false =>
          refine (reads_moduleItem_namespace hblock).mono ?_
          rintro _ ⟨span, inner, rfl, hinner⟩
          exact ⟨inner, .plain rfl, hinner⟩
      | true =>
          refine (reads_moduleItem_export_namespace hblock).mono ?_
          rintro _ ⟨exportSpan, _, rfl, span, inner, rfl, hinner⟩
          exact ⟨inner, .exported rfl, hinner⟩

/-! ## Whole texts -/

/-- A comment reaches to the end of its line. -/
theorem trivia_lineComment {comment text : List Char} (h : ∀ c ∈ comment, isLineEnd c = false)
    (count : Nat) (ended : Bool) :
    trivia .lineComment count ended (comment ++ '\n' :: text) =
      trivia .blank (count + comment.length + 1) true text := by
  induction comment generalizing count with
  | nil => rfl
  | cons c comment ih =>
      obtain ⟨hc, hcomment⟩ := List.forall_mem_cons.mp h
      rw [List.cons_append, trivia]
      simp only [hc, Bool.false_eq_true, if_false, ih hcomment, List.length_cons]
      congr 1
      omega

/-- Behind a comment at the start of a text its pieces are shown. -/
theorem shows_start {comment : List Char} (hcomment : ∀ c ∈ comment, isLineEnd c = false)
    {p : Piece} {ps : List Piece} (hgap : p.gap = '\n' :: gap) (h : Piece.AreLaidOut (p :: ps))
    (hkind : p.kind ≠ .sign .greater) (markup : Bool) :
    Shows (.outermost markup)
      (.start ('/' :: '/' :: (comment ++ Piece.textOf (p :: ps))) markup) (p :: ps) := by
  obtain ⟨hblank, htrivia, hlexed⟩ := h.1
  rw [hgap, Piece.isBlankGap_cons] at hblank
  obtain ⟨code, hcode⟩ : ∃ code, '/' :: '/' :: (comment ++ Piece.textOf (p :: ps)) = code :=
    ⟨_, rfl⟩
  obtain ⟨front, hfront⟩ : ∃ front, '/' :: '/' :: (comment ++ '\n' :: gap) = front := ⟨_, rfl⟩
  have htext : code = front ++ (p.text ++ Piece.textOf ps) := by
    rw [← hcode, ← hfront, Piece.textOf_cons, hgap]
    simp
  -- the comment and the blanks behind it are skipped in one go
  have hcount : trivia .blank 0 true code = (front.length, true) := by
    have hcomments : trivia .blank 0 true code = trivia .lineComment 2 true
        (comment ++ '\n' :: (gap ++ (p.text ++ Piece.textOf ps))) := by
      rw [htext, ← hfront]
      simp [trivia, isLineEnd, isBlank, Text.isBlank]
    rw [hcomments, trivia_lineComment hcomment, Piece.trivia_gap hblank.2 htrivia, ← hfront]
    simp
    omega
  have hskip : (Cursor.start code).skipTrivia =
      ((Cursor.start code).advance front.length, true) := by
    have hshebang : ['#', '!'].isPrefixOf code = false := by
      rw [htext, ← hfront]
      rfl
    simp [Cursor.skipTrivia, Cursor.start, hshebang, hcount]
  rw [hcode]
  obtain ⟨place, hplace⟩ : ∃ place, (Cursor.start code).advance front.length = place := ⟨_, rfl⟩
  have hrest : place.rest = p.text ++ Piece.textOf ps := hplace ▸ Cursor.rest_advance htext
  obtain ⟨htoken, hline, hnext⟩ := hlexed .expression true _ hrest fun heq => absurd heq hkind
  have hstate : State.start code markup = ⟨(Lexeme.at .expression true place).token, place,
      (Lexeme.at .expression true place).next, 0, .outermost markup, none, code.length + 8⟩ := by
    rw [State.start, hskip, hplace]
  rw [hstate]
  refine ⟨rfl, htoken, ?_, hrest, ?_, hnext, h, ?_⟩
  · rw [hline, Piece.startsLine, hgap]
    simp
  · rw [← hplace, ← hfront]
    simp only [Cursor.advance, List.length_cons]
    omega
  · have hle := Piece.length_le_of_areLaidOut h
    have hlength : code.length = comment.length + (Piece.textOf (p :: ps)).length + 2 := by
      rw [← hcode, List.length_cons, List.length_cons, List.length_append]
    change (p :: ps).length ≤ code.length + 8
    omega

/-- The last value that belongs to a longer list belongs to its last element. -/
theorem exists_concat_of_forall₂ {α β : Type} {R : α → β → Prop} {l : List α} {a : α} {bs : List β}
    (h : List.Forall₂ R (l ++ [a]) bs) :
    ∃ front b, bs = front ++ [b] ∧ List.Forall₂ R l front ∧ R a b := by
  induction l generalizing bs with
  | nil =>
      obtain ⟨b, _, hb, ⟨⟩, rfl⟩ := List.forall₂_cons_left_iff.mp h
      exact ⟨[], b, rfl, .nil, hb⟩
  | cons c l ih =>
      obtain ⟨b, more, hb, hmore, rfl⟩ := List.forall₂_cons_left_iff.mp h
      obtain ⟨front, last, rfl, hfront, hlast⟩ := ih hmore
      exact ⟨b :: front, last, rfl, .cons hb hfront, hlast⟩

/-- What a unit is made of: imports by what they take and from where, the namespaces, of which the
outermost one may be exported, and the map in them. -/
structure UnitText where
  imports : List (ImportClause × String)
  isExported : Bool
  names : List DottedName
  map : MapText

namespace UnitText

/-- All parts of a unit stay within their places. -/
structure IsPlain (u : UnitText) : Prop where
  imports : ∀ entry ∈ u.imports, entry.1.IsPlain ∧ ∀ c ∈ entry.2.toList, IsQuotable c
  names : ∀ name ∈ u.names, name.IsPlain
  map : u.map.IsPlain

/-- An item of a unit: an import, or the namespaces. -/
def items (u : UnitText) : List (Option (ImportClause × String)) :=
  u.imports.map some ++ [none]

/-- What stands in front of the line that opens the namespaces: a blank line if they are exported. -/
def lineBefore (u : UnitText) : List Char :=
  if u.isExported then ['\n'] else []

/-- The pieces of an item, on a line of its own. -/
def itemPieces (u : UnitText) : Option (ImportClause × String) → List Piece
  | some (clause, specifier) => clause.importPieces ['\n'] specifier
  | none => nestedPieces u.map (u.lineBefore ++ ['\n']) [] u.isExported u.names

/-- The pieces of a unit. -/
def pieces (u : UnitText) : List Piece :=
  u.items.flatMap u.itemPieces ++ [.ending ['\n']]

/-- A node is that of an item. -/
def IsItem (u : UnitText) : Option (ImportClause × String) → Node code → Prop
  | some entry, node => ∃ span, node = .importNames span entry.2 entry.1.bindings
  | none, node =>
    IsNested (IsExportedMap (u.map.entries.map fun e => (e.key, e.reference.text))) u.isExported
      (u.names.map DottedName.text) node

variable {u : UnitText}

/-- A unit starts on a line of its own with a keyword. -/
theorem exists_pieces (u : UnitText) : ∃ gap k ps, u.pieces = .keyword ('\n' :: gap) k :: ps := by
  rw [pieces, items]
  cases u.imports with
  | nil =>
      have hgap : u.lineBefore ++ ['\n'] = '\n' :: u.lineBefore := by
        cases h : u.isExported <;> simp [lineBefore, h]
      obtain ⟨k, ps, hps⟩ :=
        exists_nestedPieces u.map ('\n' :: u.lineBefore) [] u.isExported u.names
      exact ⟨u.lineBefore, k, ps ++ [.ending ['\n']], by simp [itemPieces, hgap, hps]⟩
  | cons entry imports => exact ⟨_, _, _, rfl⟩

/-- A unit is laid out. -/
theorem areLaidOut_pieces (h : u.IsPlain) : Piece.AreLaidOut u.pieces := by
  have hnested : Piece.AreLaidOut (u.itemPieces none ++ [.ending ['\n']]) :=
    (areLaidOut_nestedPieces h.map h.names (by cases he : u.isExported <;> simp [lineBefore, he])
      Piece.isBlankGap_nil u.isExported).mpr (Piece.areLaidOut_ending (by simp))
  have himports : ∀ imports : List (ImportClause × String),
      (∀ entry ∈ imports, entry ∈ u.imports) →
      Piece.AreLaidOut
        ((imports.map some ++ [none]).flatMap u.itemPieces ++ [.ending ['\n']]) := by
    intro imports hmem
    induction imports with
    | nil => simpa using hnested
    | cons entry imports ih =>
        obtain ⟨hentry, himports⟩ := List.forall_mem_cons.mp hmem
        obtain ⟨hclause, hspecifier⟩ := h.imports entry hentry
        rw [List.map_cons, List.cons_append, List.flatMap_cons, List.append_assoc]
        exact (ImportClause.areLaidOut_importPieces (by simp) hclause hspecifier).mpr (ih himports)
  exact himports u.imports fun _ hentry => hentry

/-- The items of a unit are read one by one. -/
theorem reads_items {depth : Nat} (h : u.IsPlain)
    (hdepth : (u.map.type.pieces []).length ≤ depth + 12) :
    Reads (TypeScript.items (grammar (depth + 18 + u.names.length)) : Parser code (List (Node code)))
      (.outermost markup) u.pieces [.ending ['\n']] (List.Forall₂ u.IsItem u.items) := by
  have hstart (i : Option (ImportClause × String)) :
      ∃ gap k ps, u.itemPieces i = .keyword gap k :: ps := by
    rcases i with _ | entry
    · exact ⟨_, exists_nestedPieces u.map (u.lineBefore ++ ['\n']) [] u.isExported u.names⟩
    · exact ⟨_, _, _, rfl⟩
  refine Reads.many (fun i hi after hafter s hs => ?_) (fun i _ after => ?_) (fun s hs => ?_) (by simp)
  -- an item is the map at the end or an import
  · have hitem : Reads (grammar (depth + 18 + u.names.length) .item : Rule code)
        (.outermost markup) (u.itemPieces i ++ after) after (u.IsItem i) := by
      rcases i with _ | entry
      · exact reads_nestedPieces h.map hdepth u.isExported hafter
      · have hentry : entry ∈ u.imports := by simpa [items] using hi
        have hlevel : depth + 18 + u.names.length = (depth + 17 + u.names.length) + 1 := by omega
        rw [hlevel]
        exact reads_moduleItem_import (h.imports entry hentry).1 hafter
    obtain ⟨node, last, hrun, hlast, hnode⟩ := hitem.run hs
    obtain ⟨gap, k, ps, hps⟩ := hstart i
    rw [hps] at hs
    have hkind : s.token.kind = .word (some k) (String.ofList k.spelling) := IsAtPiece.kind_eq hs
    simp [hkind, hrun]
    exact .done hlast ⟨_, rfl, hnode⟩
  · obtain ⟨gap, k, ps, hps⟩ := hstart i
    simp [hps]
  · have hkind : s.token.kind = .endOfInput := IsAtPiece.kind_eq hs
    simp [hkind]
    exact .done hs rfl

/-- A unit behind a comment is parsed to its imports and, behind them, its map in namespaces. -/
theorem exists_parse (h : u.IsPlain) {comment : List Char}
    (hcomment : ∀ c ∈ comment, isLineEnd c = false)
    (hcode : '/' :: '/' :: (comment ++ Piece.textOf u.pieces) = code) (markup : Bool) :
    ∃ imports helper, parse code markup = .ok (imports ++ [helper]) ∧
      List.Forall₂ (fun entry node => ∃ span, node = .importNames span entry.2 entry.1.bindings)
        u.imports imports ∧
      IsNested (IsExportedMap (u.map.entries.map fun e => (e.key, e.reference.text))) u.isExported
        (u.names.map DottedName.text) helper := by
  obtain ⟨gap, k, ps, hps⟩ := exists_pieces u
  have hlaidOut : Piece.AreLaidOut u.pieces := areLaidOut_pieces h
  -- the grammar is deep enough, as neither the types nor the namespaces outnumber the pieces
  obtain ⟨depth, hlevel, hdepth⟩ : ∃ depth, 8 * (code.length + 8) = depth + 18 + u.names.length ∧
      (u.map.type.pieces []).length ≤ depth + 12 := by
    have hpieces : (u.map.type.pieces []).length + u.names.length ≤ u.pieces.length := by
      have hle := length_le_nestedPieces u.map (u.lineBefore ++ ['\n']) [] u.isExported u.names
      simp only [pieces, items, itemPieces, List.flatMap_append, List.flatMap_singleton,
        List.length_append]
      omega
    have hlength := Piece.length_le_of_areLaidOut hlaidOut
    have htext : code.length = comment.length + (Piece.textOf u.pieces).length + 2 := by
      rw [← hcode, List.length_cons, List.length_cons, List.length_append]
    exact ⟨8 * (code.length + 8) - 18 - u.names.length, by omega, by omega⟩
  have hshows : Shows (.outermost markup) (.start code markup) u.pieces := by
    rw [hps] at hcode hlaidOut ⊢
    exact hcode ▸ shows_start hcomment rfl hlaidOut (by simp) markup
  obtain ⟨nodes, after, hrun, -, hnodes⟩ := (reads_items h hdepth).run hshows
  obtain ⟨front, helper, rfl, hfront, hhelper⟩ := exists_concat_of_forall₂ hnodes
  refine ⟨front, helper, ?_, List.forall₂_map_left_iff.mp hfront, hhelper⟩
  rw [parse, hlevel, hrun]

end UnitText

end ClassRegistry.TypeScript
