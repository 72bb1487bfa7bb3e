import Mathlib.Data.List.Forall2
import ClassRegistry.Proofs.TypeScript.Pieces
import ClassRegistry.TypeScript.Grammar.Name

/-!
# Parsers on pieces

What a parser does on a text that is laid out in pieces. A parser that stands at a piece sees its
kind, and the next token is the next piece; so a rule of the grammar can be followed token by token.
Loops are dealt with once, and so are the places where the grammar allows something else.
-/

namespace ClassRegistry.TypeScript

open TypeScript.Parser

variable {code : Code} {α β : Type}

/-! ## States at a piece -/

open Piece (textOf AreLaidOut)

/-- A parser stands at the first of several pieces, which is not the very start of the text. -/
structure IsAtPiece (flags : Flags) (s : State code) (p : Piece) (rest : List Piece) : Prop where
  flags_eq : s.flags = flags
  kind_eq : s.token.kind = p.kind
  startsLine_eq : s.token.startsLine = p.startsLine
  place_rest : s.place.rest = p.text ++ textOf rest
  place_pos : 0 < s.place.offset
  after_eq : s.after = s.place.advance p.text.length
  areLaidOut : AreLaidOut (p :: rest)
  length_le : (p :: rest).length ≤ s.bound

/-- What a parser has in front of it. -/
def Shows (flags : Flags) (s : State code) : List Piece → Prop
  | [] => False
  | p :: rest => IsAtPiece flags s p rest

/-- There is a piece, and the sign that closes an angle is one in types only. -/
def Continues (flags : Flags) : List Piece → Prop
  | [] => False
  | p :: _ => p.kind = .sign .greater → flags.inType = true

@[simp] theorem continues_cons {flags : Flags} {p : Piece} {rest : List Piece} :
    Continues flags (p :: rest) ↔ (p.kind = .sign .greater → flags.inType = true) :=
  Iff.rfl

/-- In a type anything may go on. -/
theorem continues_of_inType {flags : Flags} {ps : List Piece} (h : flags.inType = true)
    (hps : ps ≠ []) : Continues flags ps := by
  cases ps with
  | nil => exact absurd rfl hps
  | cons p rest => exact fun _ => h

/-- What goes on is something. -/
theorem Continues.ne_nil {flags : Flags} {ps : List Piece} (h : Continues flags ps) : ps ≠ [] := by
  rintro rfl
  exact h

/-- At a sign the lexer reads a sign. -/
theorem Lexeme.at_eq_sign {mode : LexMode} {startsLine : Bool} {c : Cursor code} {p : Punctuator}
    (h : (Lexeme.at mode startsLine c).token.kind = .sign p) :
    Lexeme.at mode startsLine c = Lexeme.sign mode startsLine c := by
  revert h
  simp only [Lexeme.at]
  split
  · simp [Lexeme.plain]
  · split
    · simp only [Lexeme.wordOrBroken]
      split
      · split
        · split <;> simp [Lexeme.word, Lexeme.broken, Lexeme.plain]
        · simp [Lexeme.broken, Lexeme.plain]
      · simp [Lexeme.broken, Lexeme.plain]
    split
    · unfold Lexeme.number
      split
      · simp [Lexeme.broken, Lexeme.plain]
      · split
        · simp [Lexeme.plain]
        · split <;> simp [Lexeme.broken, Lexeme.plain]
    split
    · unfold Lexeme.string
      simp only
      split <;> simp [Lexeme.broken, Lexeme.plain]
    split
    · unfold Lexeme.template
      split <;> simp [Lexeme.broken, Lexeme.plain]
    · exact fun _ => rfl

/-- The lexer works as the flags say. -/
theorem State.mode_eq_type {s : State code} {flags : Flags} (hflags : s.flags = flags)
    (h : flags.inType = true) : s.mode = .type := by
  rw [State.mode, hflags, if_pos h]

namespace IsAtPiece

variable {flags : Flags} {s : State code} {p : Piece} {rest : List Piece}

/-- Behind the piece at hand the others are unread. -/
theorem after_rest (h : IsAtPiece flags s p rest) : s.after.rest = textOf rest := by
  rw [h.after_eq]
  exact Cursor.rest_advance h.place_rest

/-- Behind a piece stands the next one. -/
theorem next (h : IsAtPiece flags s p rest) (hrest : Continues flags rest) :
    Shows flags s.next rest := by
  cases rest with
  | nil => exact hrest
  | cons q rest =>
      obtain ⟨hgap, htrivia, hlexed⟩ := h.areLaidOut.2.2.1
      have hpos : 0 < s.after.offset := by
        have hplace := h.place_pos
        rw [h.after_eq]
        simp only [Cursor.advance]
        omega
      have hafter : s.after.rest = q.gap ++ (q.text ++ textOf rest) := by
        rw [h.after_rest, Piece.textOf_cons, List.append_assoc]
      have hskip : s.after.skipTrivia = (s.after.advance q.gap.length, q.startsLine) := by
        rw [Cursor.skipTrivia, hafter]
        simp only [Nat.ne_of_gt hpos, decide_false, Bool.false_and, Bool.false_eq_true, if_false]
        rw [Piece.trivia_gap hgap htrivia]
        simp [Piece.startsLine]
      have hplace : (s.after.advance q.gap.length).rest = q.text ++ textOf rest :=
        Cursor.rest_advance hafter
      obtain ⟨hkind, hline, hnext⟩ := hlexed s.mode q.startsLine _ hplace
        fun hq => State.mode_eq_type h.flags_eq (hrest hq)
      have hstate : s.next = { s with
          token := (Lexeme.at s.mode q.startsLine (s.after.advance q.gap.length)).token
          place := s.after.advance q.gap.length
          after := (Lexeme.at s.mode q.startsLine (s.after.advance q.gap.length)).next
          previousStop := s.token.span.stop } := by
        rw [State.next, hskip]
      rw [hstate]
      refine ⟨h.flags_eq, hkind, hline, hplace, ?_, hnext, h.areLaidOut.2.2, ?_⟩
      · simp only [Cursor.advance]
        omega
      · exact Nat.le_of_succ_le h.length_le

theorem withFlags (h : IsAtPiece flags s p rest) (other : Flags) :
    IsAtPiece other { s with flags := other } p rest :=
  { h with flags_eq := rfl }

theorem withArrowStart (h : IsAtPiece flags s p rest) (arrowStart : Option Nat) :
    IsAtPiece flags { s with arrowStart } p rest :=
  { h with }

/-- An angle that is read anew is the angle that it was. -/
theorem rereadAngle (h : IsAtPiece flags s p rest) (hp : Continues flags (p :: rest)) :
    IsAtPiece flags s.rereadAngle p rest := by
  rw [State.rereadAngle]
  split
  · rename_i sign hsign
    split
    · obtain ⟨hkind, hline, hnext⟩ := h.areLaidOut.1.lexed s.mode s.token.startsLine _ h.place_rest
        fun hkind => State.mode_eq_type h.flags_eq (hp hkind)
      have hsame : Lexeme.at s.mode s.token.startsLine s.place =
          Lexeme.sign s.mode s.token.startsLine s.place :=
        Lexeme.at_eq_sign (hkind.trans (h.kind_eq.symm.trans hsign))
      rw [hsame] at hkind hline hnext
      exact { h with
        kind_eq := hkind
        startsLine_eq := hline.trans h.startsLine_eq
        after_eq := hnext }
    · exact h
  · exact h

end IsAtPiece

/-! ## Steps -/

namespace Parser

variable (s : State code)

@[simp] theorem bind_apply (p : Parser code α) (f : α → Parser code β) :
    (p >>= f) s = match p s with
      | .done a s => f a s
      | .failed fault s => .failed fault s := rfl

@[simp] theorem pure_apply (a : α) : (pure a : Parser code α) s = .done a s := rfl

@[simp] theorem map_apply (f : α → β) (p : Parser code α) :
    (f <$> p) s = match p s with
      | .done a s => .done (f a) s
      | .failed fault s => .failed fault s := rfl

@[simp] theorem ite_apply (c : Prop) [Decidable c] (p q : Parser code α) :
    (if c then p else q) s = if c then p s else q s := by
  split <;> rfl

@[simp] theorem state_apply : state s = .done s s := rfl

@[simp] theorem token_apply : token s = .done s.token s := rfl

@[simp] theorem kind_apply : kind s = .done s.token.kind s := rfl

@[simp] theorem following_apply : following s = .done s.next.token s := rfl

@[simp] theorem startsLine_apply : startsLine s = .done s.token.startsLine s := rfl

@[simp] theorem here_apply : here s = .done s.token.span.start s := rfl

@[simp] theorem spanFrom_apply (start : Nat) :
    spanFrom start s = .done ⟨start, s.previousStop⟩ s := rfl

@[simp] theorem flags_apply : flags s = .done s.flags s := rfl

@[simp] theorem advance_apply : advance s = .done () s.next := rfl

@[simp] theorem isAt_apply (p : Punctuator) :
    isAt p s = .done (decide (s.token.kind = .sign p)) s := rfl

@[simp] theorem isAtAnyWord_apply : isAtAnyWord s = .done s.token.kind.isWord s := rfl

@[simp] theorem isAtEnd_apply : isAtEnd s = .done (decide (s.token.kind = .endOfInput)) s := rfl

@[simp] theorem eat_apply (p : Punctuator) :
    eat p s = if s.token.kind = .sign p then .done true s.next else .done false s := by
  by_cases h : s.token.kind = .sign p <;> simp [eat, h]

@[simp] theorem attempt_apply (p : Parser code (Option α)) :
    attempt p s = match p s with
      | .done (some a) after => .done (some a) after
      | .done none _ | .failed _ _ => .done none s := rfl

end Parser

/-- The keyword that a token is. -/
def TokenKind.keyword? : TokenKind → Option Keyword
  | .word keyword _ => keyword
  | _ => none

namespace TokenKind

@[simp] theorem keyword?_word (k : Option Keyword) (name : String) :
    (TokenKind.word k name).keyword? = k := rfl

@[simp] theorem keyword?_sign (p : Punctuator) : (TokenKind.sign p).keyword? = none := rfl

@[simp] theorem keyword?_string (text : String) : (TokenKind.string text).keyword? = none := rfl

@[simp] theorem keyword?_endOfInput : TokenKind.endOfInput.keyword? = none := rfl

end TokenKind

namespace Parser

variable (s : State code)

@[simp] theorem keyword?_apply : keyword? s = .done s.token.kind.keyword? s := by
  simp only [keyword?, bind_apply, kind_apply]
  cases s.token.kind <;> rfl

@[simp] theorem isAtWord_apply (k : Keyword) :
    isAtWord k s = .done (decide (s.token.kind.keyword? = some k)) s := by
  simp [isAtWord]

@[simp] theorem eatWord_apply (k : Keyword) :
    eatWord k s =
      if s.token.kind.keyword? = some k then .done true s.next else .done false s := by
  by_cases h : s.token.kind.keyword? = some k <;> simp [eatWord, h]

@[simp] theorem isAtReference_apply :
    Grammar.isAtReference s = .done (Grammar.isReference s.token) s := rfl

@[simp] theorem expect_of_kind {s : State code} {p : Punctuator} (h : s.token.kind = .sign p) :
    expect p s = .done () s.next := by
  simp [expect, h]

@[simp] theorem expectWord_of_kind {s : State code} {k : Keyword}
    (h : s.token.kind.keyword? = some k) : expectWord k s = .done () s.next := by
  simp [expectWord, h]

/-- A look ahead leaves everything as it is. -/
theorem exists_lookahead (p : Parser code Bool) : ∃ answer, lookahead p s = .done answer s := by
  rw [lookahead]
  cases p s with
  | done answer after => exact ⟨answer, rfl⟩
  | failed fault after => exact ⟨false, rfl⟩

end Parser

namespace Piece

variable (gap : List Char)

@[simp] theorem kind_sign (p : Punctuator) : (sign gap p).kind = .sign p := rfl

@[simp] theorem kind_string (text : String) : (string gap text).kind = .string text := rfl

@[simp] theorem kind_ending : (ending gap).kind = .endOfInput := rfl

@[simp] theorem kind_keyword (k : Keyword) :
    (keyword gap k).kind = .word (some k) (String.ofList k.spelling) := rfl

@[simp] theorem kind_name (text : String) : (name gap text).kind = .word none text := rfl

end Piece

/-! ## What is read -/

namespace Shows

variable {flags : Flags} {s : State code} {ps : List Piece}

theorem flags_eq (h : Shows flags s ps) : s.flags = flags := by
  cases ps with
  | nil => cases h
  | cons p rest => exact IsAtPiece.flags_eq h

/-- What no piece to come is, the token is not. -/
theorem kind_ne {kind : TokenKind} (h : Shows flags s ps) (hps : ∀ p ∈ ps.head?, p.kind ≠ kind) :
    s.token.kind ≠ kind := by
  cases ps with
  | nil => cases h
  | cons p rest => exact IsAtPiece.kind_eq h ▸ hps p rfl

theorem withFlags (h : Shows flags s ps) (other : Flags) :
    Shows other { s with flags := other } ps := by
  cases ps with
  | nil => cases h
  | cons p rest => exact IsAtPiece.withFlags h other

theorem withArrowStart (h : Shows flags s ps) (arrowStart : Option Nat) :
    Shows flags { s with arrowStart } ps := by
  cases ps with
  | nil => cases h
  | cons p rest => exact IsAtPiece.withArrowStart h arrowStart

/-- An angle that is read anew is the angle that it was. -/
theorem rereadAngle (h : Shows flags s ps) (hps : Continues flags ps) :
    Shows flags s.rereadAngle ps := by
  cases ps with
  | nil => cases h
  | cons p rest => exact IsAtPiece.rereadAngle h hps

/-- A state allows as many turns of a loop as it shows pieces. -/
theorem length_le (h : Shows flags s ps) : ps.length ≤ s.bound := by
  cases ps with
  | nil => cases h
  | cons p rest => exact IsAtPiece.length_le h

theorem ne_nil (h : Shows flags s ps) : ps ≠ [] := by
  rintro rfl
  exact h

end Shows

/-- An outcome is a value of some kind, with the given pieces still to read. -/
inductive Gives (flags : Flags) (rest : List Piece) (P : α → Prop) : Outcome code α → Prop
  | done {a : α} {s : State code} : Shows flags s rest → P a → Gives flags rest P (.done a s)

/-- On the first pieces a parser gives a value of some kind and leaves the others. -/
def Reads (p : Parser code α) (flags : Flags) (ps rest : List Piece) (P : α → Prop) : Prop :=
  ∀ s : State code, Shows flags s ps → Gives flags rest P (p s)

namespace Reads

variable {p : Parser code α} {flags : Flags} {ps rest : List Piece} {P : α → Prop}

/-- The run of a parser that reads what is shown. -/
theorem run (h : Reads p flags ps rest P) {s : State code} (hs : Shows flags s ps) :
    ∃ a after, p s = .done a after ∧ Shows flags after rest ∧ P a := by
  have hgives := h s hs
  cases hp : p s with
  | failed fault after =>
      rw [hp] at hgives
      cases hgives
  | done a after =>
      rw [hp] at hgives
      cases hgives with
      | done hafter ha => exact ⟨a, after, rfl, hafter, ha⟩

/-- What is known of a value may be weakened. -/
theorem mono {Q : α → Prop} (h : Reads p flags ps rest P) (hPQ : ∀ a, P a → Q a) :
    Reads p flags ps rest Q := by
  intro s hs
  obtain ⟨a, after, hp, hafter, ha⟩ := h.run hs
  rw [hp]
  exact .done hafter (hPQ a ha)

/-- A parser reads on behind another one. -/
theorem bind {f : α → Parser code β} {last : List Piece} {Q : β → Prop}
    (h : Reads p flags ps rest P) (hf : ∀ a, P a → Reads (f a) flags rest last Q) :
    Reads (p >>= f) flags ps last Q := by
  intro s hs
  obtain ⟨a, after, hp, hafter, ha⟩ := h.run hs
  rw [bind_apply, hp]
  exact hf a ha after hafter

/-- A function of what is read. -/
theorem map {f : α → β} {Q : β → Prop} (h : Reads p flags ps rest fun a => Q (f a)) :
    Reads (f <$> p) flags ps rest Q := by
  intro s hs
  obtain ⟨a, after, hp, hafter, ha⟩ := h.run hs
  rw [map_apply, hp]
  exact .done hafter ha

theorem here {f : Nat → Parser code α} (h : ∀ start, Reads (f start) flags ps rest P) :
    Reads (Parser.here >>= f) flags ps rest P :=
  fun s => h s.token.span.start s

theorem spanFrom {start : Nat} {f : Span → α} (h : ∀ span, P (f span)) :
    Reads ((Parser.spanFrom start : Parser code Span) >>= fun span => pure (f span)) flags ps ps P :=
  fun _ hs => .done hs (h _)

/-! ### Places -/

theorem withFlags {change : Flags → Flags} (h : Reads p (change flags) ps rest P) :
    Reads (Parser.withFlags change p) flags ps rest P := by
  intro s hs
  obtain rfl := hs.flags_eq
  obtain ⟨a, after, hp, hafter, ha⟩ := h.run (hs.withFlags (change s.flags))
  rw [Parser.withFlags, hp]
  exact .done (hafter.withFlags s.flags) ha

/-- Where angle brackets are read in another way the same is read, as long as no angle is closed at
the ends. -/
theorem withAngles {change : Flags → Flags} (h : Reads p (change flags) ps rest P)
    (hps : Continues (change flags) ps) (hrest : Continues flags rest) :
    Reads (Parser.withAngles change p) flags ps rest P := by
  intro s hs
  obtain rfl := hs.flags_eq
  obtain ⟨a, after, hp, hafter, ha⟩ := h.run ((hs.withFlags (change s.flags)).rereadAngle hps)
  rw [Parser.withAngles, hp]
  exact .done ((hafter.withFlags s.flags).rereadAngle hrest) ha

theorem withArrowStart (h : Reads p flags ps rest P) (start : Option Nat) :
    Reads (Parser.withArrowStart start p) flags ps rest P := by
  intro s hs
  obtain ⟨a, after, hp, hafter, ha⟩ := h.run (hs.withArrowStart start)
  rw [Parser.withArrowStart, hp]
  exact .done (hafter.withArrowStart s.arrowStart) ha

/-! ### Loops -/

/-- A loop gives what its turns lead to, as long as each turn but the last one reads a piece. -/
theorem iterate {step : α → Parser code (α ⊕ β)} {I : α → List Piece → Prop} {Q : β → Prop}
    (hstep : ∀ a ps, I a ps →
      (∃ next, next.length < ps.length ∧
        Reads (step a) flags ps next fun r => ∃ a, r = .inl a ∧ I a next) ∨
      Reads (step a) flags ps rest fun r => ∃ b, r = .inr b ∧ Q b)
    {a : α} (h : I a ps) : Reads (Parser.iterate step a) flags ps rest Q := by
  intro s hs
  rw [Parser.iterate]
  -- the pieces that are left bound the turns that are left
  have hlength := hs.length_le
  generalize s.bound = bound at hlength
  induction bound generalizing a ps s with
  | zero => exact absurd (List.length_eq_zero_iff.mp (Nat.le_zero.mp hlength)) hs.ne_nil
  | succ bound ih =>
      rcases hstep a ps h with ⟨next, hshorter, hturn⟩ | hturn
      · obtain ⟨_, after, hrun, hafter, a, rfl, hinv⟩ := hturn.run hs
        rw [iterateUpTo, bind_apply, hrun]
        exact ih hinv after hafter (by omega)
      · obtain ⟨_, after, hrun, hafter, b, rfl, hb⟩ := hturn.run hs
        rw [iterateUpTo, bind_apply, hrun]
        exact .done hafter hb

/-- A loop that ends with its first turn. -/
theorem iterate_once {step : α → Parser code (α ⊕ β)} {Q : β → Prop} {a : α}
    (h : Reads (step a) flags ps rest fun r => ∃ b, r = .inr b ∧ Q b) :
    Reads (Parser.iterate step a) flags ps rest Q :=
  iterate (I := fun b qs => b = a ∧ qs = ps)
    (fun _ _ ⟨hb, hqs⟩ => .inr (hb ▸ hqs ▸ h)) ⟨rfl, rfl⟩

/-- Values are gathered in front, those of the items one by one at the end. -/
theorem forall₂_reverse_cons {ι : Type} {R : ι → α → Prop} {front : List ι} {values : List α}
    {i : ι} {a : α} (h : List.Forall₂ R front values.reverse) (ha : R i a) :
    List.Forall₂ R (front ++ [i]) (a :: values).reverse := by
  rw [List.reverse_cons]
  exact List.rel_append h (.cons ha .nil)

/-- Values are gathered one by one, up to what is none. -/
theorem many {ι : Type} {p : Parser code (Option α)} {text : ι → List Piece} {R : ι → α → Prop}
    {items : List ι} {tail : List Piece}
    (hitem : ∀ i ∈ items, ∀ after, Continues flags after →
      Reads p flags (text i ++ after) after fun r => ∃ a, r = some a ∧ R i a)
    (htext : ∀ i ∈ items, ∀ after, text i ≠ [] ∧ Continues flags (text i ++ after))
    (hend : Reads p flags tail tail (· = none)) (htail : Continues flags tail) :
    Reads (Parser.many p) flags (items.flatMap text ++ tail) tail (List.Forall₂ R items) := by
  refine Reads.map (Reads.iterate (I := fun values ps => ∃ front back, items = front ++ back ∧
    List.Forall₂ R front values.reverse ∧ ps = back.flatMap text ++ tail) ?_ ⟨[], items, by simp⟩)
  rintro values _ ⟨front, back, rfl, hvalues, rfl⟩
  cases back with
  | nil =>
      refine .inr (hend.bind fun r hr => ?_)
      rw [hr]
      intro s hs
      exact .done hs ⟨_, rfl, by simpa using hvalues⟩
  | cons i back =>
      have hi : i ∈ front ++ i :: back := by simp
      have hafter : Continues flags (back.flatMap text ++ tail) := by
        cases back with
        | nil => exact htail
        | cons j back =>
            rw [List.flatMap_cons, List.append_assoc]
            exact (htext j (by simp) _).2
      refine .inl ⟨back.flatMap text ++ tail, ?_, ?_⟩
      · have hpos := List.length_pos_iff.mpr (htext i hi []).1
        simp only [List.flatMap_cons, List.length_append]
        omega
      · rw [List.flatMap_cons, List.append_assoc]
        refine (hitem i hi _ hafter).bind ?_
        rintro _ ⟨a, rfl, ha⟩ s hs
        exact .done hs ⟨_, rfl, front ++ [i], back, by simp, forall₂_reverse_cons hvalues ha, rfl⟩

theorem many_nil {p : Parser code (Option α)} (h : Reads p flags ps ps (· = none)) :
    Reads (Parser.many p) flags ps ps (· = []) :=
  Reads.map (Reads.iterate_once (h.bind fun _ hr _ hs => hr ▸ .done hs ⟨_, rfl, rfl⟩))

end Reads

/-! ### Lists -/

/-- The pieces of elements with commas between them, and one behind the last of them if there is to
be one. -/
def Piece.separated (isTrailing : Bool) : List (List Piece) → List Piece
  | [] => []
  | [element] => element ++ if isTrailing then [.sign [] .comma] else []
  | element :: next :: more => element ++ .sign [] .comma :: separated isTrailing (next :: more)

/-- A comma stands behind an element in front of another one, or behind the last one. -/
theorem Piece.separated_cons {isTrailing : Bool} {element : List Piece} {more : List (List Piece)}
    (h : more ≠ [] ∨ isTrailing = true) : Piece.separated isTrailing (element :: more) =
      element ++ .sign [] .comma :: Piece.separated isTrailing more := by
  cases more with
  | nil =>
      obtain rfl := h.resolve_left (not_not_intro rfl)
      rfl
  | cons next more => rfl

/-- The first of several elements stands in front. -/
theorem Piece.exists_separated_cons (isTrailing : Bool) (element : List Piece)
    (more : List (List Piece)) :
    ∃ after, Piece.separated isTrailing (element :: more) = element ++ after := by
  cases more with
  | nil => exact ⟨_, rfl⟩
  | cons next more => exact ⟨_, rfl⟩

/-- Neither an element nor the sign behind the last one closes an angle where none is open. -/
theorem Continues.separated {flags : Flags} {closing : Punctuator} {elements : List (List Piece)}
    (isTrailing : Bool) (hfirst : ∀ element ∈ elements, ∃ p more, element = p :: more ∧
      p.kind ≠ .sign .greater) (hclosing : closing = .greater → flags.inType = true)
    (gap : List Char) (rest : List Piece) :
    Continues flags (Piece.separated isTrailing elements ++ .sign gap closing :: rest) := by
  cases elements with
  | nil => exact fun hkind => hclosing (TokenKind.sign.inj hkind)
  | cons element more =>
      obtain ⟨p, others, rfl, hnotGreater⟩ := hfirst element List.mem_cons_self
      obtain ⟨after, hafter⟩ := Piece.exists_separated_cons isTrailing (p :: others) more
      rw [hafter]
      exact fun hkind => absurd hkind hnotGreater

/-- Elements are gathered one by one, up to the sign that closes them. -/
theorem Reads.commaSeparated {ι : Type} {element : Parser code α} {flags : Flags}
    {closing : Punctuator} {text : ι → List Piece} {R : ι → α → Prop} {items : List ι}
    {gap : List Char} {rest : List Piece} (isTrailing : Bool)
    (hitem : ∀ i ∈ items, ∀ gap p after, p = .comma ∨ p = closing →
      Reads element flags (text i ++ .sign gap p :: after) (.sign gap p :: after) (R i))
    (htext : ∀ i ∈ items, ∃ p more, text i = p :: more ∧ p.kind ≠ .sign closing ∧
      p.kind ≠ .sign .greater)
    (hclosing : closing = .greater → flags.inType = true) (hcomma : closing ≠ .comma) :
    Reads (Parser.commaSeparated (isAt closing) element) flags
      (Piece.separated isTrailing (items.map text) ++ .sign gap closing :: rest)
      (.sign gap closing :: rest) (List.Forall₂ R items) := by
  refine Reads.map (Reads.iterate (I := fun values ps => ∃ front back, items = front ++ back ∧
    List.Forall₂ R front values.reverse ∧
    ps = Piece.separated isTrailing (back.map text) ++ .sign gap closing :: rest) ?_
    ⟨[], items, by simp⟩)
  -- a turn starts in front of the elements that are left, with those before them gathered
  rintro values _ ⟨front, back, rfl, hvalues, rfl⟩
  cases back with
  | nil =>
      refine .inr fun s hs => ?_
      have hkind : s.token.kind = .sign closing := IsAtPiece.kind_eq hs
      simp only [bind_apply, isAt_apply, hkind]
      exact .done hs ⟨_, rfl, by simpa using hvalues⟩
  | cons i back =>
      have hi : i ∈ front ++ i :: back := by simp
      obtain ⟨p, more, htexti, hnotClosing, -⟩ := htext i hi
      have hopen {after : List Piece} {s : State code} (hs : Shows flags s (text i ++ after)) :
          s.token.kind ≠ .sign closing := by
        rw [htexti] at hs
        exact (IsAtPiece.kind_eq hs).symm ▸ hnotClosing
      have hback : Continues flags
          (Piece.separated isTrailing (back.map text) ++ .sign gap closing :: rest) := by
        refine .separated isTrailing (List.forall_mem_map.mpr fun j hj => ?_) hclosing gap rest
        obtain ⟨p, more, htextj, -, hnotGreater⟩ := htext j (by simp [hj])
        exact ⟨p, more, htextj, hnotGreater⟩
      -- behind a comma the next turn starts, without one the last element is gathered
      by_cases hmore : back.map text ≠ [] ∨ isTrailing = true
      · rw [List.map_cons, Piece.separated_cons hmore, List.append_assoc, List.cons_append]
        refine .inl ⟨Piece.separated isTrailing (back.map text) ++ .sign gap closing :: rest, ?_, ?_⟩
        · simp only [List.length_append, List.length_cons]
          omega
        · intro s hs
          obtain ⟨a, after, hrun, hafter, ha⟩ := (hitem i hi [] .comma _ (.inl rfl)).run hs
          have hkind : after.token.kind = .sign .comma := IsAtPiece.kind_eq hafter
          simp only [bind_apply, isAt_apply, hopen hs, decide_false, Bool.false_eq_true, if_false,
            hrun, eat_apply, hkind, if_true]
          exact .done (IsAtPiece.next hafter hback)
            ⟨_, rfl, front ++ [i], back, by simp, forall₂_reverse_cons hvalues ha, rfl⟩
      · simp only [not_or, not_not, Bool.not_eq_true] at hmore
        obtain ⟨hnone, rfl⟩ := hmore
        obtain rfl := List.map_eq_nil_iff.mp hnone
        rw [List.map_singleton, Piece.separated, if_neg Bool.false_ne_true, List.append_nil]
        refine .inr fun s hs => ?_
        obtain ⟨a, after, hrun, hafter, ha⟩ := (hitem i hi gap closing rest (.inr rfl)).run hs
        have hkind : after.token.kind = .sign closing := IsAtPiece.kind_eq hafter
        have hcomma' : TokenKind.sign closing ≠ .sign .comma := fun h => hcomma (TokenKind.sign.inj h)
        simp only [bind_apply, isAt_apply, hopen hs, decide_false, Bool.false_eq_true, if_false,
          hrun, eat_apply, hkind, hcomma', decide_true, if_true]
        exact .done hafter ⟨_, rfl, forall₂_reverse_cons hvalues ha⟩

end ClassRegistry.TypeScript
