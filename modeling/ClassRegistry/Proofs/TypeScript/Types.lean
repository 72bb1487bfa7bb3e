import ClassRegistry.Proofs.TypeScript.Reading
import ClassRegistry.TypeScript.Parse

/-!
# Names and types

Dotted names and types with arguments as they are written, and that a parser reads them as what they
are.
-/

namespace ClassRegistry.TypeScript

open TypeScript.Parser TypeScript.Grammar

variable {code : Code} {flags : Flags} {markup : Bool} {gap : List Char} {rest : List Piece}

/-! ## Names -/

namespace Grammar

/-- A word is a name. -/
theorem exists_identOf? {t : Token code} {k : Option Keyword} {text : String}
    (h : t.kind = .word k text) : ∃ ident, identOf? t = some ident ∧ ident.name = text := by
  unfold identOf?
  split
  · rename_i name heq
    rw [h] at heq
    obtain ⟨-, rfl⟩ := TokenKind.word.inj heq
    exact ⟨_, rfl, rfl⟩
  · rename_i hne
    exact absurd h (hne k text)

/-- Any word can be read as a name. -/
theorem reads_anyName {p : Piece} {k : Option Keyword} {text : String} (hp : p.kind = .word k text)
    (hrest : Continues flags rest) :
    Reads anyName flags (p :: rest) rest fun ident : Ident code => ident.name = text := by
  intro s hs
  obtain ⟨ident, hident, hname⟩ := exists_identOf? ((IsAtPiece.kind_eq hs).trans hp)
  simp only [anyName, bind_apply, token_apply, hident, advance_apply, pure_apply]
  exact .done (IsAtPiece.next hs hrest) hname

/-- A plain name can be bound. -/
theorem reads_name {text : String} (mayYield : Bool) (hrest : Continues flags rest) :
    Reads (name mayYield) flags (.name gap text :: rest) rest
      fun ident : Ident code => ident.name = text := by
  intro s hs
  have hkind : s.token.kind = .word none text := IsAtPiece.kind_eq hs
  simp only [name, bind_apply, kind_apply, hkind]
  exact reads_anyName rfl hrest s hs

end Grammar

/-! ## Dotted names -/

/-- A name with dots, by its first name and those behind it. -/
structure DottedName where
  first : String
  more : List String

namespace DottedName

/-- The text of a dotted name. -/
def text (d : DottedName) : String :=
  ".".intercalate (d.first :: d.more)

/-- The pieces of the names behind the first one. -/
def morePieces (more : List String) : List Piece :=
  more.flatMap fun name => [.sign [] .dot, .name [] name]

/-- The pieces of a dotted name. -/
def pieces (gap : List Char) (d : DottedName) : List Piece :=
  .name gap d.first :: morePieces d.more

/-- All names of a dotted name are plain. -/
def IsPlain (d : DottedName) : Prop :=
  ∀ name ∈ d.first :: d.more, IsPlainName name

/-- The first two names may be joined before the others. -/
theorem intercalate_cons_cons (first next : String) (more : List String) :
    ".".intercalate (first :: next :: more) = ".".intercalate ((first ++ "." ++ next) :: more) := by
  cases more with
  | nil => simp [String.intercalate_cons_cons]
  | cons last more => simp [String.intercalate_cons_cons, String.append_assoc]

theorem textOf_pieces (gap : List Char) (d : DottedName) :
    Piece.textOf (d.pieces gap) = gap ++ d.text.toList := by
  have hmore (first : String) (more : List String) :
      first.toList ++ Piece.textOf (morePieces more) =
        (".".intercalate (first :: more)).toList := by
    rw [String.toList_intercalate, morePieces]
    induction more generalizing first with
    | nil => simp [Piece.textOf]
    | cons next more ih =>
        rw [List.map_cons, List.map_cons, List.intercalate_cons_cons, ← List.map_cons, ← ih]
        simp [Piece.textOf_cons, Piece.sign, Piece.name, Punctuator.spelling]
  rw [pieces, Piece.textOf_cons, List.append_assoc]
  exact congrArg (gap ++ ·) (hmore d.first d.more)

theorem endsWord_pieces (d : DottedName) (hgap : Piece.IsBlankGap gap) (hne : gap ≠ []) :
    EndsWord (Piece.textOf (d.pieces gap ++ rest)) :=
  Piece.endsWord_of_gap hgap hne

/-- A dotted name is laid out in front of what ends it. -/
theorem areLaidOut_pieces {d : DottedName} (hd : d.IsPlain) (hgap : Piece.IsBlankGap gap)
    (hrest : EndsWord (Piece.textOf rest)) :
    Piece.AreLaidOut (d.pieces gap ++ rest) ↔ Piece.AreLaidOut rest := by
  obtain ⟨first, more⟩ := d
  induction more generalizing first gap with
  | nil => exact Piece.areLaidOut_name hgap (hd first (by simp)) hrest
  | cons next more ih =>
      have hnext : IsPlainName next := hd next (by simp)
      calc Piece.AreLaidOut (pieces gap ⟨first, next :: more⟩ ++ rest)
        _ ↔ Piece.AreLaidOut (.sign [] .dot :: (pieces [] ⟨next, more⟩ ++ rest)) :=
          Piece.areLaidOut_name hgap (hd first (by simp)) (Piece.endsWord_sign Piece.isBlankGap_nil)
        _ ↔ Piece.AreLaidOut (pieces [] ⟨next, more⟩ ++ rest) := Piece.areLaidOut_dot hnext
        _ ↔ Piece.AreLaidOut rest :=
          ih Piece.isBlankGap_nil next fun name hname => hd name (by simp_all)

end DottedName

/-! ## Types -/

/-- A type: a word that is one by itself, or a dotted name with its arguments and the blanks behind
the commas between them. -/
inductive TypeText where
  | word (keyword : Keyword)
  | named (name : DottedName) (blanks : List Char) (arguments : List TypeText)

namespace TypeText

mutual

/-- The pieces of a type. -/
def pieces (gap : List Char) : TypeText → List Piece
  | .word keyword => [.keyword gap keyword]
  | .named name blanks arguments => name.pieces gap ++ argumentPieces blanks arguments

/-- The pieces of type arguments with the brackets around them, nothing without arguments. -/
def argumentPieces (blanks : List Char) : List TypeText → List Piece
  | [] => []
  | first :: more =>
    .sign [] .less :: (first.pieces [] ++ (morePieces blanks more ++ [.sign [] .greater]))

/-- The pieces of the arguments behind the first one. -/
def morePieces (blanks : List Char) : List TypeText → List Piece
  | [] => []
  | type :: more => .sign [] .comma :: (type.pieces blanks ++ morePieces blanks more)

end

mutual

/-- The names in a type are plain and its words are types. -/
def IsPlain : TypeText → Prop
  | .word keyword => isTypeWord keyword = true
  | .named name blanks arguments => Piece.IsBlankGap blanks ∧ name.IsPlain ∧ AllPlain arguments

/-- The names in several types are plain and their words are types. -/
def AllPlain : List TypeText → Prop
  | [] => True
  | type :: more => type.IsPlain ∧ AllPlain more

end

/-- The text of a type. -/
def text (type : TypeText) : String :=
  String.ofList (Piece.textOf (type.pieces []))

/-- A word that a type starts with. -/
def IsStart (p : Piece) : Prop :=
  IsIdentifier p.text ∧ ∃ keyword name, p.kind = .word keyword name ∧ keyword.all isTypeWord = true

/-- What a type starts with does not depend on the gap in front of it. -/
theorem exists_pieces {type : TypeText} (h : type.IsPlain) :
    ∃ (start : List Char → Piece) (more : List Piece), ∀ gap,
      type.pieces gap = start gap :: more ∧ (start gap).gap = gap ∧ IsStart (start gap) := by
  cases type with
  | word keyword =>
      rw [IsPlain] at h
      refine ⟨fun gap => .keyword gap keyword, [], fun gap => ⟨by rw [pieces], rfl, ?_⟩⟩
      exact ⟨isIdentifier_spelling keyword, some keyword, _, rfl, h⟩
  | named name blanks arguments =>
      rw [IsPlain] at h
      refine ⟨fun gap => .name gap name.first,
        DottedName.morePieces name.more ++ argumentPieces blanks arguments,
        fun gap => ⟨?_, rfl, ?_⟩⟩
      · rw [pieces, DottedName.pieces, List.cons_append]
      · exact ⟨(h.2.1 name.first (by simp)).isIdentifier, none, _, rfl, rfl⟩

theorem endsWord_pieces {type : TypeText} (h : type.IsPlain) (hgap : Piece.IsBlankGap gap)
    (hne : gap ≠ []) : EndsWord (Piece.textOf (type.pieces gap ++ rest)) := by
  obtain ⟨start, more, hstart⟩ := exists_pieces h
  obtain ⟨hpieces, hfront, -⟩ := hstart gap
  rw [hpieces]
  exact Piece.endsWord_of_gap (by rwa [hfront]) (by rwa [hfront])

theorem textOf_pieces (gap : List Char) (type : TypeText) :
    Piece.textOf (type.pieces gap) = gap ++ type.text.toList := by
  rw [text, String.toList_ofList]
  cases type with
  | word keyword => simp [pieces, Piece.textOf, Piece.keyword]
  | named name blanks arguments => simp [pieces, Piece.textOf_append, DottedName.textOf_pieces]

mutual

/-- A type is laid out in front of what ends it. -/
theorem areLaidOut_pieces {type : TypeText} (h : type.IsPlain) {gap : List Char} {rest : List Piece}
    (hgap : Piece.IsBlankGap gap) (hrest : EndsWord (Piece.textOf rest)) :
    Piece.AreLaidOut (type.pieces gap ++ rest) ↔ Piece.AreLaidOut rest := by
  cases type with
  | word keyword => exact Piece.areLaidOut_keyword hgap hrest
  | named name blanks arguments =>
      rw [IsPlain] at h
      obtain ⟨hblanks, hname, hplain⟩ := h
      obtain ⟨hends, harguments⟩ := areLaidOut_argumentPieces hblanks hplain hrest
      rw [pieces, List.append_assoc, DottedName.areLaidOut_pieces hname hgap hends, harguments]

/-- Type arguments are laid out. -/
theorem areLaidOut_argumentPieces {blanks : List Char} (hblanks : Piece.IsBlankGap blanks)
    {types : List TypeText} (h : AllPlain types) {rest : List Piece}
    (hrest : EndsWord (Piece.textOf rest)) :
    EndsWord (Piece.textOf (argumentPieces blanks types ++ rest)) ∧
      (Piece.AreLaidOut (argumentPieces blanks types ++ rest) ↔ Piece.AreLaidOut rest) := by
  cases types with
  | nil => exact ⟨hrest, Iff.rfl⟩
  | cons first more =>
      rw [AllPlain] at h
      have hless (after : List Piece) :
          Piece.AreLaidOut (.sign [] .less :: (first.pieces [] ++ after)) ↔
            Piece.AreLaidOut (first.pieces [] ++ after) := by
        obtain ⟨start, back, hstart⟩ := exists_pieces h.1
        obtain ⟨hpieces, hgap, hword, -⟩ := hstart []
        rw [hpieces]
        exact Piece.areLaidOut_less hgap hword
      obtain ⟨hends, hmore⟩ := areLaidOut_morePieces hblanks h.2 rest
      rw [argumentPieces, List.cons_append, List.append_assoc, List.append_assoc,
        List.singleton_append]
      refine ⟨Piece.endsWord_sign Piece.isBlankGap_nil, ?_⟩
      rw [hless, areLaidOut_pieces h.1 Piece.isBlankGap_nil hends, hmore]

/-- The arguments behind the first one are laid out up to the sign that closes them. -/
theorem areLaidOut_morePieces {blanks : List Char} (hblanks : Piece.IsBlankGap blanks)
    {types : List TypeText} (h : AllPlain types) (rest : List Piece) :
    EndsWord (Piece.textOf (morePieces blanks types ++ .sign [] .greater :: rest)) ∧
      (Piece.AreLaidOut (morePieces blanks types ++ .sign [] .greater :: rest) ↔
        Piece.AreLaidOut rest) := by
  cases types with
  | nil =>
      exact ⟨Piece.endsWord_sign Piece.isBlankGap_nil, Piece.areLaidOut_greater⟩
  | cons type more =>
      rw [AllPlain] at h
      rw [morePieces, List.cons_append, List.append_assoc]
      refine ⟨Piece.endsWord_sign Piece.isBlankGap_nil, ?_⟩
      obtain ⟨hends, hmore⟩ := areLaidOut_morePieces hblanks h.2 rest
      rw [Piece.areLaidOut_lone Piece.isBlankGap_nil (by decide),
        areLaidOut_pieces h.1 hblanks hends, hmore]

end

/-- Each of several plain types is plain. -/
theorem isPlain_of_allPlain {types : List TypeText} (h : AllPlain types) :
    ∀ type ∈ types, type.IsPlain := by
  induction types with
  | nil => exact List.forall_mem_nil _
  | cons type more ih =>
      rw [AllPlain] at h
      exact List.forall_mem_cons.mpr ⟨h.1, ih h.2⟩

/-- A type has as many pieces behind any gap. -/
theorem length_pieces (gap : List Char) (type : TypeText) :
    (type.pieces gap).length = (type.pieces []).length := by
  cases type with
  | word keyword => simp [pieces]
  | named name blanks arguments => simp [pieces, DottedName.pieces]

/-- A type has fewer pieces than one of which it is an argument. -/
theorem length_pieces_lt {name : DottedName} {blanks : List Char} {arguments : List TypeText}
    {type : TypeText} (h : type ∈ arguments) :
    (type.pieces []).length < ((TypeText.named name blanks arguments).pieces []).length := by
  have hmore : ∀ more : List TypeText, type ∈ more →
      (type.pieces []).length < (morePieces blanks more).length := by
    intro more hmem
    induction more with
    | nil => cases hmem
    | cons other more ih =>
        simp only [morePieces, List.length_cons, List.length_append]
        rcases List.mem_cons.mp hmem with rfl | hmem
        · rw [length_pieces blanks]
          omega
        · have hlt := ih hmem
          omega
  cases arguments with
  | nil => cases h
  | cons first more =>
      simp only [pieces, argumentPieces, List.length_cons, List.length_append]
      rcases List.mem_cons.mp h with rfl | hmem
      · omega
      · have hlt := hmore more hmem
        omega

/-- Arguments with the blanks in front of them. -/
def listed (blanks : List Char) (first : TypeText) (more : List TypeText) :
    List (List Char × TypeText) :=
  ([], first) :: more.map (blanks, ·)

/-- Arguments stand between commas. -/
theorem separated_listed (blanks : List Char) (first : TypeText) (more : List TypeText) :
    Piece.separated false ((listed blanks first more).map fun (gap, type) => type.pieces gap) =
      first.pieces [] ++ morePieces blanks more := by
  have hmore (element : List Piece) : Piece.separated false
      (element :: (more.map (blanks, ·)).map fun (gap, type) => type.pieces gap) =
        element ++ morePieces blanks more := by
    induction more generalizing element with
    | nil => simp [Piece.separated, morePieces]
    | cons type more ih =>
        rw [List.map_cons, List.map_cons, Piece.separated_cons (.inl (List.cons_ne_nil _ _)), ih,
          morePieces]
  exact hmore (first.pieces [])

end TypeText

/-! ## Reading types -/

/-- What a type allows at the outermost place of a text. -/
def Flags.typing (markup : Bool) : Flags :=
  { Flags.outermost markup with inType := true }

/-- Where a type ends: at a comma, at the sign that closes an angle, or at a sign of assignment. -/
def EndsType (ps : List Piece) : Prop :=
  ∃ gap p rest, ps = .sign gap p :: rest ∧ p ∈ [.comma, .greater, .assign]

/-- Behind a type another one may go on. -/
theorem EndsType.continues {ps : List Piece} (h : EndsType ps) (hflags : flags.inType = true) :
    Continues flags ps := by
  obtain ⟨gap, p, rest, rfl, -⟩ := h
  exact fun _ => hflags

namespace Grammar

variable {rules : Rules code} {p : Piece} {ps tail : List Piece} {P : Node code → Prop}
  {blanks : List Char}

/-- No brackets stand behind a type. -/
theorem reads_postfixType (h : Reads (typeOperand rules) flags ps tail P) (htail : EndsType tail) :
    Reads (postfixType rules) flags ps tail P := by
  refine Reads.here fun start => h.bind fun type htype => Reads.iterate_once fun s hs => ?_
  obtain ⟨gap, sign, rest, rfl, hsign⟩ := htail
  have hkind : s.token.kind = .sign sign := IsAtPiece.kind_eq hs
  have hopen : sign ≠ .bracketOpen := by
    rintro rfl
    exact absurd hsign (by decide)
  simp only [bind_apply, isAt_apply, hkind, TokenKind.sign.injEq, hopen]
  exact .done hs ⟨_, rfl, htype⟩

/-- No words stand in front of a type. -/
theorem reads_prefixedType (h : Reads (typeOperand rules) flags (p :: ps) tail P)
    (hp : TypeText.IsStart p) (htail : EndsType tail) :
    Reads (prefixedType rules) flags (p :: ps) tail P := by
  obtain ⟨-, keyword, name, hkind, htype⟩ := hp
  have hne : ∀ k ∈ [Keyword.keyof_, .unique_, .readonly_, .infer_], keyword ≠ some k := by
    rintro k hk rfl
    revert hk htype
    cases k <;> decide
  simp only [List.forall_mem_cons] at hne
  refine Reads.here fun start => (Reads.many_nil fun s hs => ?_).bind fun _ _ s hs => ?_
  · have hword : s.token.kind = .word keyword name := (IsAtPiece.kind_eq hs).trans hkind
    simp [hword, hne]
    exact .done hs rfl
  · have hword : s.token.kind = .word keyword name := (IsAtPiece.kind_eq hs).trans hkind
    simp [hword, hne]
    exact reads_postfixType h htail s hs

/-- No types are joined to a type. -/
theorem reads_joinedTypes (sign : Punctuator) {element : Rule code}
    (h : Reads element flags (p :: ps) tail P) (hp : TypeText.IsStart p) (htail : EndsType tail)
    (hsign : sign ∉ [.comma, .greater, .assign]) :
    Reads (joinedTypes sign element) flags (p :: ps) tail P := by
  obtain ⟨-, keyword, name, hkind, -⟩ := hp
  refine Reads.here fun start s hs => ?_
  have hword : s.token.kind = .word keyword name := (IsAtPiece.kind_eq hs).trans hkind
  simp only [bind_apply, eat_apply, hword, reduceCtorEq, if_false]
  refine (h.bind fun type htype => Reads.iterate_once fun s hs => ?_) s hs
  obtain ⟨gap, q, rest, rfl, hq⟩ := htail
  have hend : s.token.kind = .sign q := IsAtPiece.kind_eq hs
  have hne : q ≠ sign := fun heq => hsign (heq ▸ hq)
  simp only [bind_apply, eat_apply, hend, TokenKind.sign.injEq, hne]
  exact .done hs ⟨_, rfl, htype⟩

/-- A type is no function type. -/
theorem reads_plainType (h : Reads (typeOperand rules) flags (p :: ps) tail P)
    (hp : TypeText.IsStart p) (htail : EndsType tail) :
    Reads (plainType rules) flags (p :: ps) tail P := by
  have hmet := reads_joinedTypes .ampersand (reads_prefixedType h hp htail) hp htail (by decide)
  have hjoined := reads_joinedTypes .pipe hmet hp htail (by decide)
  obtain ⟨-, keyword, name, hkind, htype⟩ := hp
  have hne : ∀ k ∈ [Keyword.abstract_, .new_], keyword ≠ some k := by
    rintro k hk rfl
    revert hk htype
    cases k <;> decide
  simp only [List.forall_mem_cons] at hne
  intro s hs
  have hword : s.token.kind = .word keyword name := (IsAtPiece.kind_eq hs).trans hkind
  obtain ⟨answer, hanswer⟩ : ∃ answer, startsFunctionType rules s = .done answer s :=
    exists_lookahead s _
  simp [plainType, hword, hanswer, hne]
  exact hjoined s hs

/-- A type is read in the same way at the outermost place of a text and within a type. -/
theorem reads_inType {p : Parser code α} {P : α → Prop} (h : Reads p (.typing markup) ps tail P)
    (hps : ps ≠ []) (hflags : flags = .outermost markup ∨ flags = .typing markup)
    (hcontinues : Continues flags tail) : Reads (inType p) flags ps tail P := by
  have htyping : { flags with inType := true } = Flags.typing markup := by
    rcases hflags with rfl | rfl <;> rfl
  rw [← htyping] at h
  exact h.withAngles (continues_of_inType rfl hps) hcontinues

/-- A type is no conditional type. -/
theorem reads_type (h : Reads (typeOperand rules) (.typing markup) (p :: ps) tail P)
    (hp : TypeText.IsStart p) (htail : EndsType tail)
    (hflags : flags = .outermost markup ∨ flags = .typing markup) (hcontinues : Continues flags tail) :
    Reads (type rules) flags (p :: ps) tail P := by
  have hchange : { flags with noConditionalType := false } = flags := by
    rcases hflags with rfl | rfl <;> rfl
  refine Reads.withFlags ?_
  rw [hchange]
  refine reads_inType ?_ (List.cons_ne_nil _ _) hflags hcontinues
  refine Reads.here fun start => (reads_plainType h hp htail).bind fun type htype s hs => ?_
  obtain ⟨gap, q, rest, rfl, hq⟩ := htail
  have hend : s.token.kind = .sign q := IsAtPiece.kind_eq hs
  simp [hend]
  exact .done hs htype

/-- A word that is a type by itself. -/
theorem reads_typeOperand_word {keyword : Keyword} (h : isTypeWord keyword = true)
    (htail : EndsType tail) (hcontinues : Continues flags tail) :
    Reads (typeOperand rules) flags (.keyword gap keyword :: tail) tail fun _ => True := by
  intro s hs
  have hnext := IsAtPiece.next hs hcontinues
  obtain ⟨gap', q, rest, rfl, hq⟩ := htail
  have hdot : q ≠ .dot := by
    rintro rfl
    exact absurd hq (by decide)
  have hkind : s.token.kind = .word (some keyword) (String.ofList keyword.spelling) :=
    IsAtPiece.kind_eq hs
  have hend : s.next.token.kind = .sign q := IsAtPiece.kind_eq hnext
  cases keyword <;> first
    | exact absurd h (by decide)
    | simp [typeOperand, wordType, hkind, hend, hdot, isTypeWord]
      exact .done hnext trivial

/-- The names behind the first one of a dotted name. -/
theorem reads_furtherNames {more : List String} (htail : Continues flags tail)
    (hdot : ∀ q ∈ tail.head?, q.kind ≠ .sign .dot) :
    Reads (furtherNames true) flags
      (DottedName.morePieces more ++ tail) tail fun _ : List (Ident code) => True := by
  refine (Reads.many (R := fun name ident => ident.name = name) ?_ (fun _ _ _ => ?_) ?_ htail).mono
    fun _ _ => trivial
  · intro name _ after hafter s hs
    have hnext := IsAtPiece.next hs (by simp)
    have hkind : s.token.kind = .sign .dot := IsAtPiece.kind_eq hs
    have hname : s.next.token.kind = .word none name := IsAtPiece.kind_eq hnext
    obtain ⟨ident, last, hrun, hlast, hident⟩ := (reads_anyName rfl hafter).run hnext
    simp [hkind, hname, TokenKind.isWord, hrun]
    exact .done hlast ⟨_, rfl, hident⟩
  · exact ⟨List.cons_ne_nil _ _, by simp⟩
  · intro s hs
    have hkind : s.token.kind ≠ .sign .dot := hs.kind_ne hdot
    simp [hkind]
    exact .done hs rfl

/-- Types between commas, up to the sign that closes an angle. -/
theorem reads_typeList {first : TypeText} {more : List TypeText}
    (h : TypeText.AllPlain (first :: more))
    (hrules : ∀ type ∈ first :: more, ∀ gap tail, EndsType tail →
      Reads (rules .type) (.typing markup) (type.pieces gap ++ tail) tail fun _ => True) :
    Reads (Parser.commaSeparated (isAt .greater) (rules .type)) (.typing markup)
      (first.pieces [] ++ (TypeText.morePieces blanks more ++ .sign [] .greater :: tail))
      (.sign [] .greater :: tail) fun _ => True := by
  have hmem : ∀ i ∈ TypeText.listed blanks first more, i.2 ∈ first :: more := by
    intro i hi
    rcases List.mem_cons.mp hi with rfl | hi
    · exact List.mem_cons_self
    · obtain ⟨type, htype, rfl⟩ := List.mem_map.mp hi
      exact List.mem_cons_of_mem _ htype
  rw [← List.append_assoc, ← TypeText.separated_listed]
  refine (Reads.commaSeparated (R := fun _ _ => True) false ?_ ?_ (fun _ => rfl) (by decide)).mono
    fun _ _ => trivial
  · intro i hi gap p after hp
    refine hrules i.2 (hmem i hi) i.1 _ ⟨gap, p, after, rfl, ?_⟩
    rcases hp with rfl | rfl <;> decide
  · intro i hi
    obtain ⟨start, back, hstart⟩ :=
      TypeText.exists_pieces (TypeText.isPlain_of_allPlain h i.2 (hmem i hi))
    obtain ⟨hpieces, -, -, keyword, name, hkind, -⟩ := hstart i.1
    exact ⟨_, back, hpieces, by simp [hkind], by simp [hkind]⟩

/-- Between its brackets a list of types is read up to the sign that closes the angle. -/
theorem exists_run_typeList {s : State code} {first : TypeText} {more : List TypeText}
    (h : TypeText.AllPlain (first :: more))
    (hrules : ∀ type ∈ first :: more, ∀ gap tail, EndsType tail →
      Reads (rules .type) (.typing markup) (type.pieces gap ++ tail) tail fun _ => True)
    (hs : Shows (.typing markup) s (TypeText.argumentPieces blanks (first :: more) ++ tail)) :
    s.token.kind = .sign .less ∧
      ∃ types after, Parser.commaSeparated (isAt .greater) (rules .type) s.next =
          .done types after ∧
        IsAtPiece (.typing markup) after (.sign [] .greater) tail := by
  rw [TypeText.argumentPieces, List.cons_append, List.append_assoc, List.append_assoc,
    List.singleton_append] at hs
  obtain ⟨types, after, hrun, hafter, -⟩ :=
    (reads_typeList h hrules).run (IsAtPiece.next hs (continues_of_inType rfl (by simp)))
  exact ⟨IsAtPiece.kind_eq hs, types, after, hrun, hafter⟩

/-- The arguments of a type in their brackets. -/
theorem reads_typeArguments {first : TypeText} {more : List TypeText}
    (h : TypeText.AllPlain (first :: more))
    (hrules : ∀ type ∈ first :: more, ∀ gap tail, EndsType tail →
      Reads (rules .type) (.typing markup) (type.pieces gap ++ tail) tail fun _ => True)
    (hflags : flags = .outermost markup ∨ flags = .typing markup) (hcontinues : Continues flags tail) :
    Reads (typeArguments rules) flags (TypeText.argumentPieces blanks (first :: more) ++ tail) tail
      fun _ => True := by
  refine Reads.here fun start => Reads.bind (P := fun _ => True) ?_ fun _ _ =>
    Reads.spanFrom fun _ => trivial
  refine reads_inType ?_ (List.cons_ne_nil _ _) hflags hcontinues
  intro s hs
  obtain ⟨hless, types, after, hrun, hafter⟩ := exists_run_typeList h hrules hs
  have hgreater : after.token.kind = .sign .greater := hafter.kind_eq
  simp [hless, hrun, hgreater]
  exact .done (hafter.next (continues_of_inType rfl hcontinues.ne_nil)) trivial

/-- Type arguments behind a name, if there are any. -/
theorem reads_optionalTypeArguments {arguments : List TypeText} (h : TypeText.AllPlain arguments)
    (hrules : ∀ type ∈ arguments, ∀ gap tail, EndsType tail →
      Reads (rules .type) (.typing markup) (type.pieces gap ++ tail) tail fun _ => True)
    (hflags : flags = .outermost markup ∨ flags = .typing markup) (htail : EndsType tail)
    (hcontinues : Continues flags tail) :
    Reads (optionalTypeArguments rules) flags (TypeText.argumentPieces blanks arguments ++ tail) tail
      fun _ => True := by
  intro s hs
  cases arguments with
  | nil =>
      obtain ⟨gap, q, rest, rfl, hq⟩ := htail
      have hless : q ≠ .less := by
        rintro rfl
        exact absurd hq (by decide)
      have hend : s.token.kind = .sign q := IsAtPiece.kind_eq hs
      simp [optionalTypeArguments, hend, hless]
      exact .done hs trivial
  | cons first more =>
      obtain ⟨types, after, hrun, hafter, -⟩ :=
        (reads_typeArguments h hrules hflags hcontinues).run hs
      have hless : s.token.kind = .sign .less := IsAtPiece.kind_eq hs
      have hline : s.token.startsLine = false := IsAtPiece.startsLine_eq hs
      simp [optionalTypeArguments, hless, hline, hrun]
      exact .done hafter trivial

/-- A type that is named. -/
theorem reads_typeOperand_named {name : DottedName} {arguments : List TypeText}
    (h : TypeText.AllPlain arguments)
    (hrules : ∀ type ∈ arguments, ∀ gap tail, EndsType tail →
      Reads (rules .type) (.typing markup) (type.pieces gap ++ tail) tail fun _ => True)
    (htail : EndsType tail) :
    Reads (typeOperand rules) (.typing markup)
      ((TypeText.named name blanks arguments).pieces gap ++ tail) tail fun _ => True := by
  have hcontinues : Continues (.typing markup) tail := htail.continues rfl
  have harguments : Reads (optionalTypeArguments rules) (.typing markup)
      (TypeText.argumentPieces blanks arguments ++ tail) tail fun _ => True :=
    reads_optionalTypeArguments h hrules (.inr rfl) htail hcontinues
  have hnext : Continues (.typing markup) (TypeText.argumentPieces blanks arguments ++ tail) :=
    continues_of_inType rfl (by simp [hcontinues.ne_nil])
  have hfirst : Continues (.typing markup)
      (DottedName.morePieces name.more ++ (TypeText.argumentPieces blanks arguments ++ tail)) :=
    continues_of_inType rfl (by simp [hcontinues.ne_nil])
  have hdot : ∀ q ∈ (TypeText.argumentPieces blanks arguments ++ tail).head?, q.kind ≠ .sign .dot := by
    obtain ⟨gap, q, rest, rfl, hq⟩ := htail
    cases arguments with
    | nil =>
        rintro _ ⟨⟩ heq
        rw [Piece.kind_sign, TokenKind.sign.injEq] at heq
        exact absurd (heq ▸ hq) (by decide)
    | cons first more =>
        rintro _ ⟨⟩
        decide
  have hreference : Reads (typeReference rules) (.typing markup)
      ((TypeText.named name blanks arguments).pieces gap ++ tail) tail fun _ => True := by
    rw [TypeText.pieces, DottedName.pieces, List.cons_append, List.cons_append, List.append_assoc]
    refine Reads.here fun start s hs => ?_
    have hkind : s.token.kind = .word none name.first := IsAtPiece.kind_eq hs
    obtain ⟨root, s₁, hrun₁, hs₁, -⟩ := (reads_anyName rfl hfirst).run hs
    obtain ⟨names, s₂, hrun₂, hs₂, -⟩ := (reads_furtherNames hnext hdot).run hs₁
    obtain ⟨types, s₃, hrun₃, hs₃, -⟩ := harguments.run hs₂
    simp [visibility, entityName, hkind, hrun₁, hrun₂, hrun₃]
    exact .done hs₃ trivial
  refine Reads.here fun start s hs => ?_
  have hkind : s.token.kind = .word none name.first := IsAtPiece.kind_eq hs
  simp [hkind, wordType]
  exact hreference s hs

/-- A plain type is read as a type, by a grammar that is as deep as the type has pieces. -/
theorem reads_grammar_type {depth : Nat} {type : TypeText} (h : type.IsPlain)
    (hdepth : (type.pieces []).length ≤ depth) (htail : EndsType tail)
    (hflags : flags = .outermost markup ∨ flags = .typing markup) (hcontinues : Continues flags tail) :
    Reads (grammar depth .type : Rule code) flags (type.pieces gap ++ tail) tail fun _ => True := by
  induction depth generalizing type gap flags tail with
  | zero =>
      obtain ⟨start, more, hstart⟩ := TypeText.exists_pieces h
      rw [(hstart []).1] at hdepth
      exact absurd hdepth (Nat.not_succ_le_zero _)
  | succ depth ih =>
      obtain ⟨start, more, hstart⟩ := TypeText.exists_pieces h
      obtain ⟨hpieces, -, hword⟩ := hstart gap
      have hoperand : Reads (typeOperand (grammar depth)) (.typing markup) (type.pieces gap ++ tail)
          tail fun _ : Node code => True := by
        cases type with
        | word keyword =>
            rw [TypeText.IsPlain] at h
            rw [TypeText.pieces]
            exact reads_typeOperand_word h htail (htail.continues rfl)
        | named name blanks arguments =>
            rw [TypeText.IsPlain] at h
            refine reads_typeOperand_named h.2.2 (fun type htype gap tail htail => ?_) htail
            have hlt : (type.pieces []).length <
                ((TypeText.named name blanks arguments).pieces []).length :=
              TypeText.length_pieces_lt htype
            exact ih (TypeText.isPlain_of_allPlain h.2.2 type htype) (by omega) htail (.inr rfl)
              (htail.continues rfl)
      rw [hpieces, List.cons_append] at hoperand ⊢
      exact reads_type hoperand hword htail hflags hcontinues

end Grammar

end ClassRegistry.TypeScript
