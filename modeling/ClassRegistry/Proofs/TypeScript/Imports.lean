import ClassRegistry.Proofs.Generated.Imports
import ClassRegistry.Proofs.TypeScript.Types
import ClassRegistry.TypeScript.Grammar.Module

/-!
# Import declarations

The forms of import that bind the default of a module, everything of it under one name, or names of
it one by one, as they are written, and that a parser reads them as what they bind.
-/

namespace ClassRegistry.TypeScript

open TypeScript.Parser TypeScript.Grammar

variable {code : Code} {flags : Flags} {gap : List Char} {rest : List Piece}

/-- What an import takes from its module. Names that are taken one by one stand in front of the names
that they are bound to. -/
inductive ImportClause where
  | default (name : String)
  | everything (name : String)
  | named (first : String × String) (more : List (String × String))

/-- A name of a module can be imported under another one: that one is plain, and no name is that of
the default. -/
structure IsImportable (name localName : String) : Prop where
  isIdentifier : IsIdentifier name.toList
  ne_default : name ≠ "default"
  isPlain : IsPlainName localName

namespace ImportClause

/-- The bindings of an import. -/
def bindings : ImportClause → List ImportBinding
  | .default name => [⟨name, .default⟩]
  | .everything name => [⟨name, .everything⟩]
  | .named first more => (first :: more).map fun pair => ⟨pair.2, .named pair.1⟩

/-- The text of what an import takes. -/
def text : ImportClause → String
  | .default name => name
  | .everything name => "* as " ++ name
  | .named first more => "\x7b " ++
    ", ".intercalate ((first :: more).map fun pair => namedBinding pair.1 pair.2) ++
      " \x7d"

/-- The names of an import are bound as they are. -/
def IsPlain : ImportClause → Prop
  | .default name | .everything name => IsPlainName name
  | .named first more => ∀ pair ∈ first :: more, IsImportable pair.1 pair.2

/-- The pieces of a name that is taken from a module. -/
def itemPieces : String × String → List Piece
  | (name, localName) =>
    if name = localName then [.name [' '] localName]
    else [.word [' '] name.toList, .keyword [' '] .as_, .name [' '] localName]

/-- The pieces of what an import takes. -/
def pieces : ImportClause → List Piece
  | .default name => [.name [' '] name]
  | .everything name => [.sign [' '] .star, .keyword [' '] .as_, .name [' '] name]
  | .named first more => .sign [' '] .braceOpen ::
    (Piece.separated false ((first :: more).map itemPieces) ++ [.sign [' '] .braceClose])

/-- The pieces of an import from a module. -/
def importPieces (gap : List Char) (clause : ImportClause) (specifier : String) : List Piece :=
  .keyword gap .import_ ::
    (clause.pieces ++ [.keyword [' '] .from_, .string [' '] specifier, .sign [] .semicolon])

/-! ## Layout -/

/-- The pieces of a name have the text of its binding behind a blank. -/
theorem textOf_itemPieces (pair : String × String) :
    Piece.textOf (itemPieces pair) = ' ' :: (namedBinding pair.1 pair.2).toList := by
  obtain ⟨name, localName⟩ := pair
  by_cases h : name = localName <;>
    simp [itemPieces, namedBinding, h, Piece.textOf, Piece.name, Piece.word, Piece.keyword,
      Keyword.spelling]

/-- Elements behind blanks have the text of a list between commas. -/
theorem textOf_separated_itemPieces (first : String × String) (more : List (String × String)) :
    Piece.textOf (Piece.separated false ((first :: more).map itemPieces)) =
      ' ' :: (", ".intercalate
        ((first :: more).map fun pair => namedBinding pair.1 pair.2)).toList := by
  rw [String.toList_intercalate]
  induction more generalizing first with
  | nil => simp [Piece.separated, textOf_itemPieces]
  | cons next more ih =>
      rw [List.map_cons, List.map_cons, Piece.separated_cons (.inl (List.cons_ne_nil _ _)),
        ← List.map_cons, Piece.textOf_append, Piece.textOf_cons, ih, textOf_itemPieces]
      simp [List.intercalate_cons_cons, Piece.sign, Punctuator.spelling]

/-- The pieces of an import have the text of its line. -/
theorem textOf_importPieces (gap : List Char) (clause : ImportClause) (specifier : String) :
    Piece.textOf (importPieces gap clause specifier) =
      gap ++ (importLine clause.text specifier).toList := by
  have hclause : Piece.textOf clause.pieces = ' ' :: clause.text.toList := by
    cases clause with
    | default name => simp [pieces, text, Piece.textOf, Piece.name]
    | everything name =>
        simp [pieces, text, Piece.textOf, Piece.name, Piece.sign, Piece.keyword,
          Punctuator.spelling, Keyword.spelling]
    | named first more =>
        rw [pieces, Piece.textOf_cons, Piece.textOf_append, textOf_separated_itemPieces]
        simp [text, Piece.textOf, Piece.sign, Punctuator.spelling]
  rw [importPieces, Piece.textOf_cons, Piece.textOf_append, hclause]
  simp [importLine, Piece.textOf, Piece.keyword, Piece.string, Piece.sign, Punctuator.spelling,
    Keyword.spelling]

/-- A name in a list is laid out in front of what ends it. -/
theorem areLaidOut_itemPieces {pair : String × String} (h : IsImportable pair.1 pair.2)
    (hrest : EndsWord (Piece.textOf rest)) :
    Piece.AreLaidOut (itemPieces pair ++ rest) ↔ Piece.AreLaidOut rest := by
  obtain ⟨name, localName⟩ := pair
  have hlocal : Piece.AreLaidOut (.name [' '] localName :: rest) ↔ Piece.AreLaidOut rest :=
    Piece.areLaidOut_name (by simp) h.isPlain hrest
  by_cases heq : name = localName
  · rw [itemPieces, if_pos heq]
    exact hlocal
  · have hends {p : Piece} {ps : List Piece} (hgap : p.gap = [' ']) :
        EndsWord (Piece.textOf (p :: ps)) :=
      Piece.endsWord_of_gap (by simp [hgap]) (by simp [hgap])
    rw [itemPieces, if_neg heq]
    calc Piece.AreLaidOut
          ([.word [' '] name.toList, .keyword [' '] .as_, .name [' '] localName] ++ rest)
      _ ↔ Piece.AreLaidOut ([.keyword [' '] .as_, .name [' '] localName] ++ rest) :=
        Piece.areLaidOut_word (by simp) h.isIdentifier (hends rfl)
      _ ↔ Piece.AreLaidOut (.name [' '] localName :: rest) :=
        Piece.areLaidOut_keyword (by simp) (hends rfl)
      _ ↔ Piece.AreLaidOut rest := hlocal

/-- Names between commas are laid out in front of a blank. -/
theorem areLaidOut_separated_itemPieces {first : String × String} {more : List (String × String)}
    (h : ∀ pair ∈ first :: more, IsImportable pair.1 pair.2)
    (hrest : EndsWord (Piece.textOf rest)) :
    Piece.AreLaidOut (Piece.separated false ((first :: more).map itemPieces) ++ rest) ↔
      Piece.AreLaidOut rest := by
  induction more generalizing first with
  | nil =>
      simp only [List.map_cons, List.map_nil, Piece.separated, Bool.false_eq_true, if_false,
        List.append_nil]
      exact areLaidOut_itemPieces (h first (by simp)) hrest
  | cons next more ih =>
      rw [List.map_cons, List.map_cons, Piece.separated_cons (.inl (List.cons_ne_nil _ _)),
        ← List.map_cons, List.append_assoc, List.cons_append,
        areLaidOut_itemPieces (h first (by simp)) (Piece.endsWord_sign (by simp)),
        Piece.areLaidOut_lone (by simp) (by decide)]
      exact ih fun pair hpair => h pair (List.mem_cons_of_mem _ hpair)

/-- An import is laid out in front of anything. -/
theorem areLaidOut_importPieces {clause : ImportClause} {specifier : String}
    (hgap : Piece.IsBlankGap gap) (h : clause.IsPlain) (hs : ∀ c ∈ specifier.toList, IsQuotable c) :
    Piece.AreLaidOut (importPieces gap clause specifier ++ rest) ↔ Piece.AreLaidOut rest := by
  have hends {p : Piece} {ps : List Piece} (hgap : p.gap = [' ']) :
      EndsWord (Piece.textOf (p :: ps)) :=
    Piece.endsWord_of_gap (by simp [hgap]) (by simp [hgap])
  have hsource : Piece.AreLaidOut
      (.keyword [' '] .from_ :: .string [' '] specifier :: .sign [] .semicolon :: rest) ↔
        Piece.AreLaidOut rest := by
    rw [Piece.areLaidOut_keyword (by simp) (hends rfl), Piece.areLaidOut_string (by simp) hs,
      Piece.areLaidOut_lone (by simp) (by decide)]
  have hword : Piece.AreLaidOut (importPieces gap clause specifier ++ rest) ↔
      Piece.AreLaidOut (clause.pieces ++
        .keyword [' '] .from_ :: .string [' '] specifier :: .sign [] .semicolon :: rest) := by
    rw [importPieces, List.cons_append, List.append_assoc]
    cases clause <;> exact Piece.areLaidOut_keyword hgap (hends rfl)
  rw [hword, ← hsource]
  cases clause with
  | default name => exact Piece.areLaidOut_name (by simp) h (hends rfl)
  | everything name =>
      refine (Piece.areLaidOut_spaced (by simp) (by decide) rfl).trans ?_
      refine (Piece.areLaidOut_keyword (by simp) (hends rfl)).trans ?_
      exact Piece.areLaidOut_name (by simp) h (hends rfl)
  | named first more =>
      rw [pieces, List.cons_append, List.append_assoc, List.singleton_append,
        Piece.areLaidOut_lone (by simp) (by decide), areLaidOut_separated_itemPieces h (hends rfl)]
      exact Piece.areLaidOut_lone (by simp) (by decide)

end ImportClause

/-! ## Reading -/

namespace Grammar

variable {rules : Rules code}

/-- A word is a name that a module hands out. -/
theorem reads_moduleName {p : Piece} {k : Option Keyword} {text : String}
    (hp : p.kind = .word k text) (hrest : Continues flags rest) :
    Reads moduleName flags (p :: rest) rest
      fun m : ModuleName code => ∃ ident, m = .word ident ∧ ident.name = text := by
  refine Reads.here fun start s hs => ?_
  have hkind : s.token.kind = .word k text := (IsAtPiece.kind_eq hs).trans hp
  obtain ⟨ident, after, hrun, hafter, hident⟩ := (reads_anyName hp hrest).run hs
  simp [hkind, hrun]
  exact .done hafter ⟨ident, rfl, hident⟩

/-- A statement ends with a semicolon. -/
theorem reads_expectStatementEnd (hrest : Continues flags rest) :
    Reads (expectStatementEnd : Parser code Unit) flags (.sign gap .semicolon :: rest) rest
      fun _ => True := by
  intro s hs
  have hkind : s.token.kind = .sign .semicolon := IsAtPiece.kind_eq hs
  simp [expectStatementEnd, eatStatementEnd, hkind]
  exact .done (IsAtPiece.next hs hrest) trivial

/-- A plain name is not the word of the default. -/
theorem importedName_of_isPlainName {text : String} (h : IsPlainName text) :
    importedName text = .named text := by
  refine if_neg ?_
  rintro rfl
  exact absurd h.noKeyword (by decide)

/-- A name in a list of imports. -/
theorem reads_importItem {pair : String × String} (h : IsImportable pair.1 pair.2)
    {p : Punctuator} (hp : p = .comma ∨ p = .braceClose) :
    Reads (importItem : Parser code ImportBinding) flags
      (ImportClause.itemPieces pair ++ .sign gap p :: rest) (.sign gap p :: rest) (· = ⟨pair.2, .named pair.1⟩) := by
  obtain ⟨name, localName⟩ := pair
  have hcontinues : Continues flags (.sign gap p :: rest) := by
    rcases hp with rfl | rfl <;> simp
  -- a binding that keeps its name is written once
  by_cases heq : name = localName
  · subst heq
    rw [ImportClause.itemPieces, if_pos rfl]
    intro s hs
    have hkind : s.token.kind = .word none name := IsAtPiece.kind_eq hs
    obtain ⟨_, s₁, hrun, hs₁, ident, rfl, hident⟩ := (reads_moduleName rfl hcontinues).run hs
    have hend : s₁.token.kind = .sign p := IsAtPiece.kind_eq hs₁
    have hreserved : isReservedWord ident = false := by
      rw [isReservedWord, hident, h.isPlain.noKeyword]
      rfl
    simp [importItem, listedName, renamedName, hkind, hrun, hend, hreserved, hident,
      importedName_of_isPlainName h.isPlain]
    exact .done hs₁ rfl
  · rw [ImportClause.itemPieces, if_neg heq]
    have hnamed : importedName name = .named name := if_neg h.ne_default
    intro s hs
    have hkind : s.token.kind = .word (Keyword.ofSpelling? name.toList) name := by
      rw [IsAtPiece.kind_eq hs, Piece.word, String.ofList_toList]
    have hnext := IsAtPiece.next hs (by simp)
    have has : s.next.token.kind = .word (some .as_) (String.ofList Keyword.as_.spelling) :=
      IsAtPiece.kind_eq hnext
    obtain ⟨_, s₁, hrun, hs₁, ident, rfl, hident⟩ :=
      (reads_moduleName rfl (by simp)).run hs
    rw [String.ofList_toList] at hident
    have hword : s₁.token.kind = .word (some .as_) (String.ofList Keyword.as_.spelling) :=
      IsAtPiece.kind_eq hs₁
    have hs₂ := IsAtPiece.next hs₁ (by simp)
    obtain ⟨other, s₃, hrun₂, hs₃, hother⟩ := (reads_name true hcontinues).run hs₂
    have hlocal : s₁.next.token.kind = .word none localName := IsAtPiece.kind_eq hs₂
    by_cases hmark : Keyword.ofSpelling? name.toList = some .type_
    · -- the word `type` is a name here, as the word behind it introduces another one
      obtain ⟨_, s₂', hrunAs, hs₂', -⟩ := (reads_moduleName rfl (by simp)).run hs₁
      obtain ⟨other, s₃, hrun₂, hs₃, hother⟩ := (reads_name true hcontinues).run hs₂'
      have hlocal : s₂'.token.kind = .word none localName := IsAtPiece.kind_eq hs₂'
      simp [importItem, listedName, markedName, hkind, has, hmark, hrun, hword, TokenKind.isWord,
        hrunAs, hlocal, hrun₂, ModuleName.text, hident, hother, hnamed]
      exact .done hs₃ rfl
    · simp [importItem, listedName, renamedName, hkind, hmark, hrun, hword, hrun₂,
        ModuleName.text, hident, hother, hnamed]
      exact .done hs₃ rfl

/-- Names in braces. -/
theorem reads_nameList {pairs : List (String × String)}
    (h : ∀ pair ∈ pairs, IsImportable pair.1 pair.2) (hrest : Continues flags rest) :
    Reads (nameList importItem : Parser code (List ImportBinding)) flags (.sign gap .braceOpen ::
      (Piece.separated false (pairs.map ImportClause.itemPieces) ++ .sign [' '] .braceClose :: rest))
      rest (· = pairs.map fun pair => ⟨pair.2, .named pair.1⟩) := by
  have htext (pair : String × String) : ∃ p more, ImportClause.itemPieces pair = p :: more ∧
      ∃ k text, p.kind = .word k text := by
    obtain ⟨name, localName⟩ := pair
    rw [ImportClause.itemPieces]
    split
    · exact ⟨_, _, rfl, _, _, rfl⟩
    · exact ⟨_, _, rfl, _, _, rfl⟩
  have hlist : Reads (commaSeparated (isAt .braceClose) (do
      if ← isAtEnd then failExpected "\x7d"
      importItem) : Parser code (List ImportBinding)) flags
      (Piece.separated false (pairs.map ImportClause.itemPieces) ++ .sign [' '] .braceClose :: rest)
      (.sign [' '] .braceClose :: rest)
      (List.Forall₂ (fun pair binding => binding = ⟨pair.2, .named pair.1⟩) pairs) := by
    refine Reads.commaSeparated false (fun pair hpair gap p after hp s hs => ?_) ?_ (by simp) (by simp)
    · obtain ⟨q, more, hq, k, text, hkind⟩ := htext pair
      have hread := reads_importItem (h pair hpair) hp s hs
      rw [hq] at hs
      have hword : s.token.kind = .word k text := (IsAtPiece.kind_eq hs).trans hkind
      simpa [hword] using hread
    · intro pair _
      obtain ⟨q, more, hq, k, text, hkind⟩ := htext pair
      exact ⟨q, more, hq, by simp [hkind], by simp [hkind]⟩
  have hfirst : Continues flags (Piece.separated false (pairs.map ImportClause.itemPieces) ++
      .sign [' '] .braceClose :: rest) := by
    refine .separated false (List.forall_mem_map.mpr fun pair _ => ?_) (by simp) _ _
    obtain ⟨q, more, hq, k, text, hkind⟩ := htext pair
    exact ⟨q, more, hq, by simp [hkind]⟩
  intro s hs
  have hopen : s.token.kind = .sign .braceOpen := IsAtPiece.kind_eq hs
  obtain ⟨bindings, after, hrun, hafter, hbindings⟩ := hlist.run (IsAtPiece.next hs hfirst)
  have hclose : after.token.kind = .sign .braceClose := IsAtPiece.kind_eq hafter
  simp only [nameList, bind_apply, expect_of_kind hopen, hrun, expect_of_kind hclose, pure_apply]
  have hsame : List.Forall₂ Eq (pairs.map fun pair => ⟨pair.2, .named pair.1⟩) bindings :=
    List.forall₂_map_left_iff.mpr (hbindings.imp fun _ _ heq => heq.symm)
  rw [List.forall₂_eq_eq_eq] at hsame
  exact .done (IsAtPiece.next hafter hrest) hsame.symm

/-- What an import binds. -/
theorem reads_importedNames {clause : ImportClause} {specifier : String} (h : clause.IsPlain) :
    Reads importedNames flags
      (clause.pieces ++ .keyword [' '] .from_ :: .string [' '] specifier :: rest)
      (.keyword [' '] .from_ :: .string [' '] specifier :: rest)
      fun r : DefaultBinding code × List ImportBinding =>
        (∀ ident, r.1 ≠ .alias ident) ∧ r.2 = clause.bindings := by
  cases clause with
  | default name =>
      intro s hs
      have hkind : s.token.kind = .word none name := IsAtPiece.kind_eq hs
      obtain ⟨ident, s₁, hrun, hs₁, hident⟩ := (reads_name true (by simp)).run hs
      have hfrom : s₁.token.kind = .word (some .from_) (String.ofList Keyword.from_.spelling) :=
        IsAtPiece.kind_eq hs₁
      have hsource : s₁.next.token.kind = .string specifier :=
        IsAtPiece.kind_eq (IsAtPiece.next hs₁ (by simp))
      -- a name that is also the word for a phase is a binding in front of `from`
      have hphase : phasedBinding ident s₁ = .done (.bound ident .atOnce) s₁ := by
        rw [phasedBinding]
        cases ImportPhase.ofName? ident.name <;>
          simp [startsImportList, startsDefaultBinding, hfrom, hsource]
      simp [importedNames, defaultBinding, isReference, importList, hkind, hrun, hfrom, hphase]
      exact .done hs₁ ⟨by simp, by simp [ImportClause.bindings, hident]⟩
  | everything name =>
      intro s hs
      have hkind : s.token.kind = .sign .star := IsAtPiece.kind_eq hs
      have hs₁ := IsAtPiece.next hs (by simp)
      have has : s.next.token.kind = .word (some .as_) (String.ofList Keyword.as_.spelling) :=
        IsAtPiece.kind_eq hs₁
      have hs₂ := IsAtPiece.next hs₁ (by simp)
      obtain ⟨ident, s₃, hrun, hs₃, hident⟩ := (reads_name true (by simp)).run hs₂
      simp [importedNames, defaultBinding, isReference, importList, hkind, has, hrun]
      exact .done hs₃ ⟨by simp, by simp [ImportClause.bindings, hident]⟩
  | named first more =>
      rw [ImportClause.pieces, List.cons_append, List.append_assoc, List.singleton_append]
      intro s hs
      have hkind : s.token.kind = .sign .braceOpen := IsAtPiece.kind_eq hs
      obtain ⟨bindings, after, hrun, hafter, hbindings⟩ := (reads_nameList h (by simp)).run hs
      simp [importedNames, defaultBinding, isReference, importList, hkind, hrun]
      exact .done hafter ⟨by simp, hbindings⟩

/-- An import is read as its source and its bindings. -/
theorem reads_importDeclaration {clause : ImportClause} {specifier : String} (h : clause.IsPlain)
    (hrest : Continues flags rest) :
    Reads (importDeclaration rules) flags (ImportClause.importPieces gap clause specifier ++ rest) rest
      fun node => ∃ span, node = .importNames span specifier clause.bindings := by
  rw [ImportClause.importPieces, List.cons_append, List.append_assoc]
  refine Reads.here fun start s hs => ?_
  have hfirst : Continues flags (clause.pieces ++
      ([.keyword [' '] .from_, .string [' '] specifier, .sign [] .semicolon] ++ rest)) := by
    cases clause <;> simp [ImportClause.pieces]
  have hs₁ := IsAtPiece.next hs hfirst
  have hkind (source : String) : s.next.token.kind ≠ .string source := by
    cases clause <;> exact IsAtPiece.kind_eq hs₁ ▸ by simp [Piece.name]
  obtain ⟨⟨first, bindings⟩, s₂, hrun, hs₂, hfirst, rfl⟩ := (reads_importedNames h).run hs₁
  have hfrom : s₂.token.kind = .word (some .from_) (String.ofList Keyword.from_.spelling) :=
    IsAtPiece.kind_eq hs₂
  have hs₃ := IsAtPiece.next hs₂ (by simp)
  have hsource : s₂.next.token.kind = .string specifier := IsAtPiece.kind_eq hs₃
  have hs₄ := IsAtPiece.next hs₃ (by simp)
  have hend : s₂.next.next.token.kind = .sign .semicolon := IsAtPiece.kind_eq hs₄
  have hline : s₂.next.next.token.startsLine = false := IsAtPiece.startsLine_eq hs₄
  obtain ⟨_, s₅, hrun₅, hs₅, -⟩ := (reads_expectStatementEnd hrest).run hs₄
  simp [hrun, fromClause, sourceName, importOptions, hfrom, hsource, hend, hline, hrun₅]
  exact .done hs₅ ⟨_, rfl⟩

end Grammar

end ClassRegistry.TypeScript
