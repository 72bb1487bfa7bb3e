import ClassRegistry.Proofs.TypeScript.Expressions
import ClassRegistry.TypeScript.Grammar.Module

/-!
# Exported maps

An exported constant whose value is a new map from strings to fresh instances of classes, with one
entry on each line, as it is written and as it is read.
-/

namespace ClassRegistry.TypeScript

open TypeScript.Parser TypeScript.Grammar

variable {code : Code} {markup : Bool} {gap : List Char} {rest : List Piece}

/-- An entry of a map: a key, and the class that an instance is made of. -/
structure MapEntry where
  key : String
  reference : DottedName

/-- A map: the type of its values, and its entries. -/
structure MapText where
  valueType : TypeText
  entries : List MapEntry

/-! ## Trees -/

/-- A node is the list of a string and of a new instance of a class, without arguments. -/
def IsEntry (key reference : String) (node : Node code) : Prop :=
  ∃ span keySpan newSpan callee,
    node = .compound span .list [.string keySpan key, .compound newSpan .new [callee]] ∧
    dottedName? callee = some reference

/-- A node exports a variable `Type` whose value is a new map of the given entries. -/
def IsExportedMap (entries : List (String × String)) (node : Node code) : Prop :=
  ∃ span variablesSpan elementSpan newSpan listSpan ident type callee typeArguments elements,
    node = .exportDeclaration span (.compound variablesSpan .variables
      [.compound elementSpan .element [.identifier ident, type,
        .compound newSpan .new [callee, .compound listSpan .list elements, typeArguments]]]) ∧
    ident.name = "Type" ∧ dottedName? callee = some "Map" ∧
    List.Forall₂ (fun entry element => IsEntry entry.1 entry.2 element) entries elements

/-! ## Entries -/

namespace MapEntry

/-- The parts of an entry: its key and its class. -/
def parts (e : MapEntry) : List (String ⊕ DottedName) :=
  [.inl e.key, .inr e.reference]

/-- The pieces of a part of an entry. -/
def partPieces : String ⊕ DottedName → List Piece
  | .inl key => [.string [] key]
  | .inr reference =>
    .keyword [' '] .new_ :: (reference.pieces [' '] ++ callPieces [] [.sign [] .parenClose])

/-- The pieces of an entry. -/
def pieces (gap : List Char) (e : MapEntry) : List Piece :=
  .sign gap .bracketOpen ::
    (Piece.separated false (e.parts.map partPieces) ++ [.sign [] .bracketClose])

/-- The key and the class of an entry stay within their places. -/
structure IsPlain (e : MapEntry) : Prop where
  key : ∀ c ∈ e.key.toList, IsQuotable c
  reference : e.reference.IsPlain

theorem pieces_append (gap : List Char) (e : MapEntry) (rest : List Piece) :
    e.pieces gap ++ rest = .sign gap .bracketOpen :: .string [] e.key :: .sign [] .comma ::
      .keyword [' '] .new_ :: (e.reference.pieces [' '] ++ .sign [] .parenOpen ::
        .sign [] .parenClose :: .sign [] .bracketClose :: rest) := by
  simp [pieces, parts, partPieces, Piece.separated, callPieces, TypeText.argumentPieces]

theorem textOf_pieces (gap : List Char) (e : MapEntry) : Piece.textOf (e.pieces gap) =
    gap ++ ("[\"" ++ e.key ++ "\", new " ++ e.reference.text ++ "()]").toList := by
  rw [← List.append_nil (e.pieces gap), pieces_append]
  simp [Piece.textOf_cons, Piece.textOf_append, DottedName.textOf_pieces, Piece.sign, Piece.string,
    Piece.keyword, Punctuator.spelling, Keyword.spelling]

/-- An entry is laid out in front of anything. -/
theorem areLaidOut_pieces {e : MapEntry} (h : e.IsPlain) (hgap : Piece.IsBlankGap gap) :
    Piece.AreLaidOut (e.pieces gap ++ rest) ↔ Piece.AreLaidOut rest := by
  rw [pieces_append, Piece.areLaidOut_lone hgap (by decide), Piece.areLaidOut_string (by simp) h.key,
    Piece.areLaidOut_lone (by simp) (by decide),
    Piece.areLaidOut_keyword (by simp) (e.reference.endsWord_pieces (by simp) (by simp)),
    DottedName.areLaidOut_pieces h.reference (by simp) (Piece.endsWord_sign (by simp)),
    Piece.areLaidOut_lone (by simp) (by decide), Piece.areLaidOut_lone (by simp) (by decide),
    Piece.areLaidOut_lone (by simp) (by decide)]

/-- Entries with a comma behind each of them are laid out in front of anything. -/
theorem areLaidOut_separated {entries : List MapEntry} (h : ∀ e ∈ entries, e.IsPlain)
    (hgap : Piece.IsBlankGap gap) :
    Piece.AreLaidOut (Piece.separated true (entries.map (pieces gap)) ++ rest) ↔
      Piece.AreLaidOut rest := by
  induction entries with
  | nil => rfl
  | cons e entries ih =>
      obtain ⟨he, hentries⟩ := List.forall_mem_cons.mp h
      rw [List.map_cons, Piece.separated_cons (.inr rfl), List.append_assoc, List.cons_append,
        areLaidOut_pieces he hgap, Piece.areLaidOut_lone (by simp) (by decide), ih hentries]

/-- The text of entries with a comma behind each of them. -/
theorem textOf_separated (gap : List Char) (entries : List MapEntry) :
    Piece.textOf (Piece.separated true (entries.map (pieces gap))) = entries.flatMap fun e =>
      gap ++ ("[\"" ++ e.key ++ "\", new " ++ e.reference.text ++ "()],").toList := by
  induction entries with
  | nil => rfl
  | cons e entries ih =>
      rw [List.map_cons, Piece.separated_cons (.inr rfl), Piece.textOf_append, Piece.textOf_cons, ih,
        textOf_pieces]
      simp [Piece.sign, Punctuator.spelling]

/-- A part of an entry is a string or an instance. -/
def IsPart : String ⊕ DottedName → Node code → Prop
  | .inl key, node => ∃ span, node = .string span key
  | .inr reference, node => ∃ span callee, node = .compound span .new [callee] ∧
    dottedName? callee = some reference.text

/-- An entry is read as the list of its key and of an instance. -/
theorem reads_pieces (depth : Nat) (e : MapEntry) (hrest : EndsValue rest) :
    Reads (grammar (depth + 9) .assignment : Rule code) (.outermost markup) (e.pieces gap ++ rest)
      rest (IsEntry e.key e.reference.text) := by
  have htext : ∀ part ∈ e.parts, ∃ p more, partPieces part = p :: more ∧ StartsValue p := by
    rintro (key | reference) -
    · exact ⟨_, _, rfl, .inl ⟨_, rfl⟩⟩
    · exact ⟨_, _, rfl, .inr (.inr ⟨_, rfl⟩)⟩
  have hpart : ∀ part ∈ e.parts, ∀ after, EndsValue after →
      Reads (grammar (depth + 5) .assignment : Rule code) (.outermost markup)
        (partPieces part ++ after) after (IsPart part) := by
    rintro (key | reference) - after hafter
    · exact reads_string hafter
    · have hread : Reads (grammar (depth + 5) .assignment : Rule code) (.outermost markup)
          (.keyword [' '] .new_ :: (reference.pieces [' '] ++ callPieces []
            (Piece.separated false (([] : List Unit).map fun _ => []) ++
              .sign [] .parenClose :: after)))
          after (IsInstance reference (fun _ _ => True) ([] : List Unit) []) :=
        reads_new trivial (by simp) (by simp) (by simp) hafter
      rw [partPieces, List.cons_append, List.append_assoc]
      refine hread.mono ?_
      rintro _ ⟨span, callee, _, types, rfl, hcallee, ⟨⟩, htypes⟩
      obtain rfl : types = none := by simpa using htypes
      exact ⟨span, callee, rfl, hcallee⟩
  rw [pieces, List.cons_append, List.append_assoc]
  refine (reads_list false htext hpart hrest).mono ?_
  rintro _ ⟨span, _, rfl, helements⟩
  obtain ⟨_, _, ⟨keySpan, rfl⟩, hrest, rfl⟩ := List.forall₂_cons_left_iff.mp helements
  obtain ⟨_, _, ⟨newSpan, callee, rfl, hcallee⟩, ⟨⟩, rfl⟩ := List.forall₂_cons_left_iff.mp hrest
  exact ⟨span, keySpan, newSpan, callee, rfl, hcallee⟩

end MapEntry

/-! ## Variables -/

namespace Grammar

variable {ps value tail : List Piece} {P : Node code → Prop}

/-- A variable with its type and its value. -/
theorem reads_declarator {depth : Nat} {name : String}
    (hps : Continues (.outermost markup) ps) (hvalue : Continues (.outermost markup) value)
    (htype : Reads (grammar (depth + 1) .type : Rule code) (.outermost markup) ps
      (.sign [' '] .assign :: value) fun _ => True)
    (hread : Reads (grammar (depth + 1) .assignment) (.outermost markup) value tail P) :
    Reads (declarator (grammar (depth + 1)) .const false) (.outermost markup)
      (.name gap name :: .sign [] .colon :: ps) tail
      fun node => ∃ span ident type value,
        node = .compound span .element [.identifier ident, type, value] ∧ ident.name = name ∧
          P value := by
  refine Reads.here fun start s hs => ?_
  have hkind : s.token.kind = .word none name := IsAtPiece.kind_eq hs
  obtain ⟨ident, s₁, hrun₁, hs₁, hident⟩ := (reads_name true (by simp)).run hs
  have hcolon : s₁.token.kind = .sign .colon := IsAtPiece.kind_eq hs₁
  have hbinding : grammar (depth + 1) .binding s = .done (.identifier ident) s₁ := by
    change binding (grammar depth) s = _
    simp [binding, hkind, hrun₁]
  obtain ⟨type, s₂, hrun₂, hs₂, -⟩ := htype.run (IsAtPiece.next hs₁ hps)
  have hassign : s₂.token.kind = .sign .assign := IsAtPiece.kind_eq hs₂
  obtain ⟨value, s₃, hrun₃, hs₃, hP⟩ := hread.run (IsAtPiece.next hs₂ hvalue)
  simp [failAtLet, hkind, hbinding, isNamePattern, hcolon, typeAnnotation, hrun₂, initializer,
    hassign, hrun₃]
  exact .done hs₃ ⟨_, ident, type, value, rfl, hident, hP⟩

/-- A constant with its type and its value, up to a semicolon. -/
theorem reads_variableDeclaration {depth : Nat} {front : List Char} {name : String}
    (hps : Continues (.outermost markup) ps) (hvalue : Continues (.outermost markup) value)
    (htype : Reads (grammar (depth + 1) .type : Rule code) (.outermost markup) ps
      (.sign [' '] .assign :: value) fun _ => True)
    (hread : Reads (grammar (depth + 1) .assignment) (.outermost markup) value
      (.sign [] .semicolon :: rest) P) (hrest : Continues (.outermost markup) rest) :
    Reads (variableDeclaration (grammar (depth + 1)) .const) (.outermost markup)
      (.keyword front .const_ :: .name gap name :: .sign [] .colon :: ps) rest
      fun node => ∃ span elementSpan ident type value,
        node = .compound span .variables
          [.compound elementSpan .element [.identifier ident, type, value]] ∧
        ident.name = name ∧ P value := by
  have hdeclarators : Reads (declarators (grammar (depth + 1)) .const false) (.outermost markup)
      (.name gap name :: .sign [] .colon :: ps) (.sign [] .semicolon :: rest)
      fun nodes : List (Node code) => ∃ span ident type value,
        nodes = [.compound span .element [.identifier ident, type, value]] ∧ ident.name = name ∧
          P value := by
    refine Reads.map (Reads.iterate_once fun s hs => ?_)
    have hkind : s.token.kind = .word none name := IsAtPiece.kind_eq hs
    obtain ⟨node, s₁, hrun₁, hs₁, hnode⟩ := (reads_declarator hps hvalue htype hread).run hs
    have hend : s₁.token.kind = .sign .semicolon := IsAtPiece.kind_eq hs₁
    simp only [bind_apply, isAt_apply, hkind, reduceCtorEq, decide_false, Bool.false_eq_true,
      if_false, hrun₁, eat_apply, hend, TokenKind.sign.injEq, pure_apply]
    obtain ⟨span, ident, type, value, rfl, hname, hP⟩ := hnode
    exact .done hs₁ ⟨_, rfl, span, ident, type, value, rfl, hname, hP⟩
  have hflagged : Reads (withFlags (fun f => { f with allowIn := true })
      (declarators (grammar (depth + 1)) .const false)) (.outermost markup) _ _ _ :=
    Reads.withFlags hdeclarators
  refine Reads.here fun start s hs => ?_
  obtain ⟨nodes, s₁, hrun₁, hs₁, span, ident, type, value, rfl, hname, hP⟩ :=
    hflagged.run (IsAtPiece.next hs (by simp))
  have hend : s₁.token.kind = .sign .semicolon := IsAtPiece.kind_eq hs₁
  simp [hrun₁, eatStatementEnd, hend]
  exact .done (IsAtPiece.next hs₁ hrest) ⟨_, span, ident, type, value, rfl, hname, hP⟩

/-- A constant is exported from the top level of a module or from a namespace. -/
theorem reads_moduleItem_export_const {rules : Rules code} {name : String}
    (h : Reads (variableDeclaration rules .const) (.outermost markup)
      (.keyword [' '] .const_ :: .name [' '] name :: ps) rest P) :
    Reads (moduleItem rules) (.outermost markup)
      (.keyword gap .export_ :: .keyword [' '] .const_ :: .name [' '] name :: ps) rest
      fun node => ∃ span declaration, node = .exportDeclaration span declaration ∧ P declaration := by
  intro s hs
  obtain ⟨_, s₁, hrun₁, hs₁, rfl⟩ := (reads_decorators_of_ne rules (by simp)).run hs
  have hexport : s₁.token.kind = .word (some .export_) (String.ofList Keyword.export_.spelling) :=
    IsAtPiece.kind_eq hs₁
  have hs₂ := IsAtPiece.next hs₁ (by simp)
  have hconst : s₁.next.token.kind = .word (some .const_) (String.ofList Keyword.const_.spelling) :=
    IsAtPiece.kind_eq hs₂
  obtain ⟨_, s₃, hrun₃, hs₃, rfl⟩ := (reads_decorators_of_ne rules (by simp)).run hs₂
  have hconst₃ : s₃.token.kind = .word (some .const_) (String.ofList Keyword.const_.spelling) :=
    IsAtPiece.kind_eq hs₃
  have hname : s₃.next.token.kind = .word none name := IsAtPiece.kind_eq (IsAtPiece.next hs₃ (by simp))
  obtain ⟨declaration, s₄, hrun₄, hs₄, hP⟩ := h.run hs₃
  simp [moduleItem, exportDeclaration, certainDeclaration, wholeExport, laterDecorators,
    exportedDeclaration, startsAsyncFunction, startsConstEnumeration, variableKind?, hrun₁, hexport,
    hconst, hrun₃, hconst₃, hname, hrun₄]
  exact .done hs₄ ⟨_, _, rfl, hP⟩

end Grammar

/-! ## Maps -/

namespace MapText

/-- The types of the keys and of the values of a map. -/
def types (m : MapText) : List TypeText :=
  [.word .string_, m.valueType]

/-- The type of a map. -/
def type (m : MapText) : TypeText :=
  .named ⟨"Map", []⟩ [' '] m.types

/-- The type of the values and all entries stay within their places. -/
structure IsPlain (m : MapText) : Prop where
  valueType : m.valueType.IsPlain
  entries : ∀ e ∈ m.entries, e.IsPlain

/-- What stands in front of the lines inside of a block. -/
def inner (indent : List Char) : List Char :=
  indent ++ [' ', ' ', ' ', ' ']

/-- A step inside of blanks there are blanks. -/
theorem isBlankGap_inner {indent : List Char} (h : Piece.IsBlankGap indent) :
    Piece.IsBlankGap (inner indent) :=
  List.forall_mem_append.mpr ⟨h, by simp⟩

/-- The pieces of the list of entries, each on a line of its own. -/
def listPieces (indent : List Char) (entries : List MapEntry) : List Piece :=
  .sign [] .bracketOpen ::
    (Piece.separated true (entries.map (MapEntry.pieces ('\n' :: inner indent))) ++
      [.sign ('\n' :: indent) .bracketClose])

/-- The pieces of an exported map behind a gap. -/
def pieces (gap indent : List Char) (m : MapText) : List Piece :=
  .keyword gap .export_ :: .keyword [' '] .const_ :: .name [' '] "Type" :: .sign [] .colon ::
    (m.type.pieces [' '] ++ .sign [' '] .assign :: .keyword [' '] .new_ ::
      (m.type.pieces [' '] ++ .sign [] .parenOpen ::
        (listPieces indent m.entries ++ [.sign [] .parenClose, .sign [] .semicolon])))

variable {m : MapText} {indent : List Char}

/-- The type of a map is plain if that of its values is. -/
theorem isPlain_type (h : m.valueType.IsPlain) : m.type.IsPlain := by
  have hmap : IsPlainName "Map" := ⟨⟨by decide, by decide⟩, by decide⟩
  rw [type, types, TypeText.IsPlain, TypeText.AllPlain, TypeText.AllPlain, TypeText.AllPlain,
    TypeText.IsPlain]
  exact ⟨by simp, List.forall_mem_singleton.mpr hmap, rfl, h, trivial⟩

/-- The text of the type of a map. -/
theorem text_type (m : MapText) : m.type.text = "Map<string, " ++ m.valueType.text ++ ">" := by
  refine String.toList_injective ?_
  rw [TypeText.text, String.toList_ofList, type, types, TypeText.pieces, TypeText.argumentPieces,
    TypeText.morePieces, TypeText.morePieces, TypeText.pieces, Piece.textOf_append,
    DottedName.textOf_pieces]
  simp [Piece.textOf_cons, Piece.textOf_append, TypeText.textOf_pieces, DottedName.text, Piece.sign,
    Piece.keyword, Punctuator.spelling, Keyword.spelling]

theorem textOf_pieces (gap indent : List Char) (m : MapText) : Piece.textOf (m.pieces gap indent) =
    gap ++ ("export const Type: " ++ m.type.text ++ " = new " ++ m.type.text ++ "([").toList ++
      (m.entries.flatMap fun e => '\n' :: inner indent ++
        ("[\"" ++ e.key ++ "\", new " ++ e.reference.text ++ "()],").toList) ++
      '\n' :: indent ++ "]);".toList := by
  simp [pieces, listPieces, Piece.textOf_cons, Piece.textOf_append, TypeText.textOf_pieces,
    MapEntry.textOf_separated, Piece.name, Piece.sign, Piece.keyword, Punctuator.spelling,
    Keyword.spelling]

/-- An exported map is laid out in front of anything. -/
theorem areLaidOut_pieces (h : m.IsPlain) (hgap : Piece.IsBlankGap gap)
    (hindent : Piece.IsBlankGap indent) :
    Piece.AreLaidOut (m.pieces gap indent ++ rest) ↔ Piece.AreLaidOut rest := by
  have hline : Piece.IsBlankGap ('\n' :: indent) := by simp [hindent]
  have hinner : Piece.IsBlankGap ('\n' :: inner indent) := by simp [isBlankGap_inner hindent]
  have hname : IsPlainName "Type" := ⟨⟨by decide, by decide⟩, by decide⟩
  have htype : m.type.IsPlain := isPlain_type h.valueType
  have hends {p : Piece} {ps : List Piece} (hgap : p.gap = [' ']) :
      EndsWord (Piece.textOf (p :: ps)) :=
    Piece.endsWord_of_gap (by simp [hgap]) (by simp [hgap])
  have hlist (tail : List Piece) :
      Piece.AreLaidOut (listPieces indent m.entries ++ tail) ↔ Piece.AreLaidOut tail := by
    rw [listPieces, List.cons_append, List.append_assoc, Piece.areLaidOut_lone (by simp) (by decide),
      MapEntry.areLaidOut_separated h.entries hinner]
    exact Piece.areLaidOut_lone hline (by decide)
  simp only [pieces, List.cons_append, List.append_assoc, List.nil_append]
  rw [Piece.areLaidOut_keyword hgap (hends rfl), Piece.areLaidOut_keyword (by simp) (hends rfl),
    Piece.areLaidOut_name (by simp) hname (Piece.endsWord_sign (by simp)),
    Piece.areLaidOut_lone (by simp) (by decide),
    TypeText.areLaidOut_pieces htype (by simp) (hends rfl),
    Piece.areLaidOut_spaced (by simp) (by decide) rfl,
    Piece.areLaidOut_keyword (by simp) (TypeText.endsWord_pieces htype (by simp) (by simp)),
    TypeText.areLaidOut_pieces htype (by simp) (Piece.endsWord_sign (by simp)),
    Piece.areLaidOut_lone (by simp) (by decide), hlist, Piece.areLaidOut_lone (by simp) (by decide),
    Piece.areLaidOut_lone (by simp) (by decide)]

/-- A list of entries is read as the list of all of them. -/
theorem reads_listPieces {depth : Nat} (entries : List MapEntry) (hrest : EndsValue rest) :
    Reads (grammar (depth + 13) .assignment : Rule code) (.outermost markup)
      (listPieces indent entries ++ rest) rest fun node => ∃ span elements,
        node = .compound span .list elements ∧
        List.Forall₂ (fun (e : MapEntry) element => IsEntry e.key e.reference.text element) entries
          elements := by
  rw [listPieces, List.cons_append, List.append_assoc]
  refine reads_list true ?_ (fun e _ after hafter => e.reads_pieces depth hafter) hrest
  exact fun e _ => ⟨_, _, rfl, .inr (.inl rfl)⟩

/-- The value of an exported map is a new map with the list of its entries. -/
theorem reads_value {depth : Nat} (h : m.IsPlain) (hdepth : (m.type.pieces []).length ≤ depth + 12)
    (hrest : EndsValue rest) :
    Reads (grammar (depth + 17) .assignment : Rule code) (.outermost markup)
      (.keyword [' '] .new_ :: (m.type.pieces [' '] ++ .sign [] .parenOpen ::
        (listPieces indent m.entries ++ .sign [] .parenClose :: rest))) rest
      fun node => ∃ span listSpan callee typeArguments elements,
        node = .compound span .new [callee, .compound listSpan .list elements, typeArguments] ∧
        dottedName? callee = some "Map" ∧
        List.Forall₂ (fun (e : MapEntry) element => IsEntry e.key e.reference.text element) m.entries
          elements := by
  have hplain : TypeText.AllPlain m.types := ⟨rfl, h.valueType, trivial⟩
  have hread : Reads (grammar (depth + 17) .assignment : Rule code) (.outermost markup)
      (.keyword [' '] .new_ :: ((⟨"Map", []⟩ : DottedName).pieces [' '] ++ callPieces m.types
        (Piece.separated false ([m.entries].map (listPieces indent)) ++
          .sign [] .parenClose :: rest))) rest
      (IsInstance ⟨"Map", []⟩ (fun entries node => ∃ span elements,
        node = .compound span .list elements ∧
        List.Forall₂ (fun (e : MapEntry) element => IsEntry e.key e.reference.text element) entries
          elements) [m.entries] m.types) := by
    refine reads_new hplain (fun type htype => ?_) ?_ ?_ hrest
    · exact Nat.le_trans (Nat.le_of_lt (TypeText.length_pieces_lt htype)) hdepth
    · exact fun entries _ => ⟨_, _, rfl, .inr (.inl rfl)⟩
    · exact fun entries _ after hafter => reads_listPieces entries hafter
  have hsingle : Piece.separated false ([m.entries].map (listPieces indent)) =
      listPieces indent m.entries :=
    List.append_nil _
  rw [hsingle, callPieces] at hread
  rw [type, TypeText.pieces, List.append_assoc]
  refine hread.mono ?_
  rintro _ ⟨span, callee, _, types, rfl, hcallee, harguments, htypes⟩
  obtain ⟨_, _, ⟨listSpan, elements, rfl, helements⟩, ⟨⟩, rfl⟩ :=
    List.forall₂_cons_left_iff.mp harguments
  obtain ⟨typeArguments, rfl⟩ := Option.isSome_iff_exists.mp htypes
  exact ⟨span, listSpan, callee, typeArguments, elements, rfl, hcallee, helements⟩

/-- An exported map is read as one. -/
theorem reads_pieces {depth : Nat} (h : m.IsPlain)
    (hdepth : (m.type.pieces []).length ≤ depth + 12) (hrest : Continues (.outermost markup) rest) :
    Reads (moduleItem (grammar (depth + 17)) : Rule code) (.outermost markup)
      (m.pieces gap indent ++ rest) rest
      (IsExportedMap (m.entries.map fun e => (e.key, e.reference.text))) := by
  have htype : m.type.IsPlain := isPlain_type h.valueType
  have hfirst (ps : List Piece) : Continues (.outermost markup) (m.type.pieces [' '] ++ ps) := by
    obtain ⟨start, more, hstart⟩ := TypeText.exists_pieces htype
    obtain ⟨hpieces, -, -, keyword, name, hkind, -⟩ := hstart [' ']
    simp [hpieces, hkind]
  have hassign {ps : List Piece} : EndsType (.sign [' '] .assign :: ps) := ⟨_, _, _, rfl, by decide⟩
  simp only [pieces, List.cons_append, List.append_assoc, List.nil_append]
  refine (reads_moduleItem_export_const (reads_variableDeclaration (hfirst _) (by simp)
    (reads_grammar_type htype (by omega) hassign (.inl rfl) (by simp))
    (reads_value h hdepth ⟨_, _, _, rfl, by simp⟩) hrest)).mono ?_
  rintro _ ⟨span, _, rfl, variablesSpan, elementSpan, ident, type, _, rfl, hname, newSpan, listSpan,
    callee, typeArguments, elements, rfl, hcallee, helements⟩
  exact ⟨span, variablesSpan, elementSpan, newSpan, listSpan, ident, type, callee, typeArguments,
    elements, rfl, hname, hcallee, List.forall₂_map_left_iff.mpr helements⟩

end MapText

end ClassRegistry.TypeScript
