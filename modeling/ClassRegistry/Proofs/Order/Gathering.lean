import ClassRegistry.Proofs.Order.Rows
import ClassRegistry.TypeScript.Parser

/-!
# Parsers that gather nodes in the order of the text

A parser never goes back behind the token where it began, whether it gives a value or a fault. What
it gives holds nodes, and those that were gathered before it began form a row with these: their
classes have names between the place where gathering began and the place where the parser stopped.
This is put together along the grammar: a parser that is run after another one adds its nodes behind
those of the other one. What is shown of a rule of the grammar bears the name of the rule.
-/

namespace ClassRegistry.TypeScript

variable {code : Code}

/-! ## Tokens and states -/

/-- A lexeme is read at a cursor: its token starts there, and ends where the next place is. A sign
stands there with all of its characters. -/
structure Lexeme.IsAt (c : Cursor code) (l : Lexeme code) : Prop where
  start_eq : l.token.span.start = c.offset
  next_eq : l.next.offset = l.token.span.stop
  offset_le : c.offset ≤ l.next.offset
  sign : ∀ p, l.token.kind = .sign p →
    p.spelling <+: c.rest ∧ l.next.offset = c.offset + p.spelling.length

/-- Whether a token is a sign. -/
def TokenKind.isSign : TokenKind → Bool
  | .sign _ => true
  | _ => false

/-- The sign that a text starts with stands there. -/
theorem prefix_of_leading? {text : List Char} {p : Punctuator}
    (h : Punctuator.leading? text = some p) : p.spelling <+: text := by
  have hfound : Punctuator.all.find? (fun q => q.spelling.isPrefixOf text) = some p := h
  simpa using List.find?_some hfound

namespace Lexeme

variable {startsLine : Bool} {c : Cursor code}

/-- A token that is no word and no sign is read where it is. -/
theorem isAt_plain (kind : TokenKind) (h : kind.isWord = false) (length : Nat)
    (hsign : kind.isSign = false) : IsAt c (.plain kind h startsLine c length) :=
  ⟨rfl, rfl, Nat.le_add_right _ _,
    fun _ hp => Bool.noConfusion (hsign.symm.trans (congrArg TokenKind.isSign hp))⟩

/-- A sign is read where its characters are. -/
theorem isAt_plainSign {p : Punctuator} (h : p.spelling <+: c.rest) :
    IsAt c (.plain (.sign p) rfl startsLine c p.spelling.length) := by
  refine ⟨rfl, rfl, Nat.le_add_right _ _, fun q hq => ?_⟩
  obtain rfl : p = q := TokenKind.sign.inj hq
  exact ⟨h, rfl⟩

/-- A token is a word or none. -/
theorem isAt_wordOrBroken : IsAt c (.wordOrBroken startsLine c) := by
  unfold wordOrBroken
  simp only
  split
  · split
    · split
      · exact isAt_plain _ _ _ rfl
      · exact ⟨rfl, rfl, Nat.le_add_right _ _, nofun⟩
    · exact isAt_plain _ _ _ rfl
  · exact isAt_plain _ _ _ rfl

/-- A number is read where it is. -/
theorem isAt_number : IsAt c (.number startsLine c) := by
  unfold number
  split
  · exact isAt_plain _ _ _ rfl
  · split
    · exact isAt_plain _ _ _ rfl
    · split <;> exact isAt_plain _ _ _ rfl

theorem isAt_string (quote : Char) : IsAt c (.string quote startsLine c) := by
  unfold string
  simp only
  split <;> exact isAt_plain _ _ _ rfl

theorem isAt_template : IsAt c (.template startsLine c) := by
  unfold template
  split <;> exact isAt_plain _ _ _ rfl

theorem isAt_regex : IsAt c (.regex startsLine c) := by
  unfold regex
  split <;> exact isAt_plain _ _ _ rfl

/-- A sign is read where it is, also where only a part of it is taken. -/
theorem isAt_sign (mode : LexMode) : IsAt c (.sign mode startsLine c) := by
  unfold sign
  split
  · exact isAt_plain _ _ _ rfl
  · rename_i p hp
    have hfront := prefix_of_leading? hp
    have hpart : ∀ q : Punctuator, q.spelling <+: p.spelling →
        IsAt c (.plain (.sign q) rfl startsLine c q.spelling.length) :=
      fun q hq => isAt_plainSign (hq.trans hfront)
    have hangle : ∀ first, p.spelling.head? = some first → [first] <+: p.spelling := by
      intro first hfirst
      obtain ⟨rest, hrest⟩ := List.head?_eq_some_iff.mp hfirst
      exact ⟨rest, hrest.symm⟩
    dsimp only
    split
    · rename_i hdot
      obtain rfl : p = .optionalDot := of_decide_eq_true (Bool.and_eq_true_iff.mp hdot).1
      exact hpart .question ⟨['.'], rfl⟩
    · split
      · rename_i hless
        exact hpart .less (hangle _ (of_decide_eq_true (Bool.and_eq_true_iff.mp hless).2))
      · split
        · rename_i hgreater
          exact hpart .greater (hangle _ (of_decide_eq_true (Bool.and_eq_true_iff.mp hgreater).2))
        · exact hpart p (List.prefix_refl _)

/-- A token is read where it is. -/
theorem isAt_at (mode : LexMode) : IsAt c (.at mode startsLine c) := by
  unfold Lexeme.at
  split
  · exact isAt_plain _ _ _ rfl
  · split
    · exact isAt_wordOrBroken
    · split
      · exact isAt_number
      · split
        · exact isAt_string _
        · split
          · exact isAt_template
          · exact isAt_sign mode

/-- Raw text is read where it is. -/
theorem isAt_raw : IsAt c (.raw c) := by
  unfold raw
  split
  · exact isAt_plain _ _ _ rfl
  · exact isAt_plain _ _ _ rfl
  · rename_i rest _ hrest
    exact isAt_plainSign ⟨_, hrest.symm⟩
  · rename_i rest hrest
    exact isAt_plainSign ⟨_, hrest.symm⟩
  · exact isAt_plain _ _ _ rfl

end Lexeme

/-- The next token is no further back. -/
theorem Cursor.offset_le_skipTrivia (c : Cursor code) : c.offset ≤ c.skipTrivia.1.offset :=
  Nat.le_add_right _ _

namespace State

/-- The number of characters before the current token. -/
def offset (s : State code) : Nat :=
  s.token.span.start

/-- The current token stands at the place of the state, behind the token before, and ends where the
text is still unread. A sign stands there with all of its characters. -/
structure IsSound (s : State code) : Prop where
  offset_eq : s.offset = s.place.offset
  after_eq : s.after.offset = s.token.span.stop
  offset_le : s.offset ≤ s.after.offset
  sign : ∀ p, s.token.kind = .sign p →
    p.spelling <+: s.place.rest ∧ s.after.offset = s.offset + p.spelling.length
  previousStop_le : s.previousStop ≤ s.offset

variable {s : State code}

/-- A state with a lexeme that was read at its place. -/
theorem isSound_of_isAt {l : Lexeme code} (htoken : s.token = l.token) (hafter : s.after = l.next)
    (h : l.IsAt s.place) (hprevious : s.previousStop ≤ s.place.offset) : s.IsSound := by
  have hoffset : s.offset = s.place.offset := by rw [offset, htoken, h.start_eq]
  refine ⟨hoffset, by rw [hafter, htoken, h.next_eq], by rw [hoffset, hafter]; exact h.offset_le,
    fun p hp => ?_, hoffset ▸ hprevious⟩
  rw [hoffset, hafter]
  exact h.sign p (htoken ▸ hp)

theorem isSound_start (code : Code) (markup : Bool) : (start code markup).IsSound :=
  isSound_of_isAt rfl rfl (Lexeme.isAt_at _) (Nat.zero_le _)

/-- The next token stands at the place of its state, wherever reading goes on behind the current
one. -/
theorem isSound_next (h : s.token.span.stop ≤ s.after.offset) :
    s.next.IsSound ∧ s.after.offset ≤ s.next.offset := by
  have hskip := s.after.offset_le_skipTrivia
  have hnext : s.next.IsSound :=
    isSound_of_isAt rfl rfl (Lexeme.isAt_at _) (Nat.le_trans h hskip)
  refine ⟨hnext, ?_⟩
  rw [hnext.offset_eq]
  exact hskip

theorem IsSound.next (h : s.IsSound) : s.next.IsSound ∧ s.token.span.stop ≤ s.next.offset := by
  obtain ⟨hnext, hle⟩ := isSound_next (Nat.le_of_eq h.after_eq.symm)
  exact ⟨hnext, h.after_eq ▸ hle⟩

/-- Raw text is behind the current token. -/
theorem IsSound.nextRaw (h : s.IsSound) :
    s.nextRaw.IsSound ∧ s.token.span.stop ≤ s.nextRaw.offset := by
  have hnext : s.nextRaw.IsSound :=
    isSound_of_isAt rfl rfl Lexeme.isAt_raw (Nat.le_of_eq h.after_eq.symm)
  refine ⟨hnext, ?_⟩
  rw [hnext.offset_eq, ← h.after_eq]
  exact Nat.le_refl _

/-- A token is read anew where it is. -/
theorem IsSound.reread (h : s.IsSound) {read : Bool → Cursor code → Lexeme code}
    (hread : ∀ startsLine c, (read startsLine c).IsAt c) :
    (s.reread read).IsSound ∧ (s.reread read).offset = s.offset := by
  have hagain : (s.reread read).IsSound :=
    isSound_of_isAt rfl rfl (hread _ _) (h.offset_eq ▸ h.previousStop_le)
  exact ⟨hagain, hagain.offset_eq.trans h.offset_eq.symm⟩

/-- A state may be replaced by one that stands no further back. -/
structure GoesTo (s after : State code) : Prop where
  isSound : after.IsSound
  offset_le : s.offset ≤ after.offset
  previousStop_le : s.previousStop ≤ after.previousStop

/-- Every state stands where it does. -/
theorem IsSound.goesTo (h : s.IsSound) : s.GoesTo s :=
  ⟨h, Nat.le_refl _, Nat.le_refl _⟩

/-- A state that goes on from another one. -/
theorem GoesTo.trans {between after : State code} (h : s.GoesTo between)
    (h' : between.GoesTo after) : s.GoesTo after :=
  ⟨h'.isSound, Nat.le_trans h.offset_le h'.offset_le,
    Nat.le_trans h.previousStop_le h'.previousStop_le⟩

/-- The token before ends no further on than the current one. -/
theorem IsSound.previousStop_le_stop (h : s.IsSound) : s.previousStop ≤ s.token.span.stop :=
  Nat.le_trans h.previousStop_le (h.after_eq ▸ h.offset_le)

theorem IsSound.goesTo_next (h : s.IsSound) : s.GoesTo s.next := by
  obtain ⟨hnext, hle⟩ := h.next
  exact ⟨hnext, Nat.le_trans h.offset_le (h.after_eq ▸ hle), h.previousStop_le_stop⟩

theorem IsSound.goesTo_nextRaw (h : s.IsSound) : s.GoesTo s.nextRaw := by
  obtain ⟨hnext, hle⟩ := h.nextRaw
  exact ⟨hnext, Nat.le_trans h.offset_le (h.after_eq ▸ hle), h.previousStop_le_stop⟩

theorem IsSound.goesTo_reread (h : s.IsSound) {read : Bool → Cursor code → Lexeme code}
    (hread : ∀ startsLine c, (read startsLine c).IsAt c) : s.GoesTo (s.reread read) := by
  obtain ⟨hagain, heq⟩ := h.reread hread
  exact ⟨hagain, Nat.le_of_eq heq.symm, Nat.le_refl _⟩

theorem IsSound.goesTo_skipBroken (h : s.IsSound) : s.GoesTo s.skipBroken := by
  unfold skipBroken
  split
  · exact h.goesTo_next
  · exact h.goesTo

/-- An angle bracket that was read anew is no further back. -/
theorem IsSound.goesTo_rereadAngle (h : s.IsSound) : s.GoesTo s.rereadAngle := by
  unfold rereadAngle
  split
  · split
    · exact h.goesTo_reread fun _ _ => Lexeme.isAt_sign _
    · exact h.goesTo
  · exact h.goesTo

end State

/-! ## Nodes within a stretch of text -/

/-- Nodes that form a row, with the names of their classes between two places. -/
structure FitsIn (start stop : Nat) (nodes : List (Node code)) : Prop where
  isRow : IsRow nodes
  bounds : ∀ x ∈ classStartsIn nodes, start ≤ x ∧ x < stop

namespace FitsIn

variable {start middle stop : Nat} {nodes others front back : List (Node code)}

theorem nil : FitsIn start stop ([] : List (Node code)) :=
  ⟨⟨.nil, fun _ h => absurd h List.not_mem_nil⟩, fun _ h => absurd h List.not_mem_nil⟩

theorem mono (h : FitsIn start middle nodes) (hle : middle ≤ stop) : FitsIn start stop nodes :=
  ⟨h.isRow, fun x hx => ⟨(h.bounds x hx).1, Nat.lt_of_lt_of_le (h.bounds x hx).2 hle⟩⟩

/-- What stands for nodes fits in where they do. -/
theorem follow (h : FitsIn start stop nodes) (hfollows : Follows nodes others) :
    FitsIn start stop others := by
  obtain ⟨hrow, hstarts⟩ := hfollows h.isRow
  exact ⟨hrow, fun x hx => h.bounds x (hstarts hx)⟩

/-- Nodes that fit in up to a place and nodes that fit in from there on fit in together. -/
theorem append (h : FitsIn start middle front) (h' : FitsIn middle stop back)
    (hfront : start ≤ middle) (hback : middle ≤ stop) : FitsIn start stop (front ++ back) := by
  constructor
  · refine isRow_append_iff.mpr ⟨h.isRow, h'.isRow, fun x hx y hy => ?_⟩
    exact Nat.lt_of_lt_of_le (h.bounds x hx).2 (h'.bounds y hy).1
  · intro x hx
    rw [classStartsIn_append, List.mem_append] at hx
    rcases hx with hx | hx
    · exact ⟨(h.bounds x hx).1, Nat.lt_of_lt_of_le (h.bounds x hx).2 hback⟩
    · exact ⟨Nat.le_trans hfront (h'.bounds x hx).1, (h'.bounds x hx).2⟩

end FitsIn

/-! ## Parsers -/

/-- What a parser comes to that starts in a state: it goes on from there, and what it gives is so.
-/
def Outcome.Holds {α : Type} (s : State code) (P : α → State code → Prop) :
    Outcome code α → Prop
  | .done a after => s.GoesTo after ∧ P a after
  | .failed _ after => s.GoesTo after

/-- A parser that is run when some nodes were gathered, and has gathered others when it stops. Those
that were gathered still earlier form a row with them, within the stretch of text that was read. -/
def Gathers {α : Type} (before : List (Node code)) (p : Parser code α)
    (after : α → List (Node code)) : Prop :=
  ∀ (s : State code) (start : Nat) (earlier : List (Node code)), s.IsSound → start ≤ s.offset →
    FitsIn start s.offset (earlier ++ before) →
      (p s).Holds s fun a next => FitsIn start next.offset (earlier ++ after a)

/-- A parser that gathers no nodes. -/
def IsQuiet {α : Type} (p : Parser code α) : Prop :=
  Gathers [] p fun _ => []

namespace Gathers

variable {α β : Type} {before middle more : List (Node code)} {p q : Parser code α}
  {f : α → Parser code β} {found after : α → List (Node code)} {last : β → List (Node code)}

/-- Nodes that were gathered before stay in front. -/
theorem frame (h : Gathers before p after) (more : List (Node code)) :
    Gathers (more ++ before) p fun a => more ++ after a := by
  intro s start earlier hs hle hfits
  rw [← List.append_assoc] at hfits
  have hp := h s start (earlier ++ more) hs hle hfits
  simpa only [List.append_assoc] using hp

/-- One parser after the other. -/
theorem bind (hp : Gathers before p found) (hf : ∀ a, Gathers (found a) (f a) last) :
    Gathers before (p >>= f) last := by
  intro s start earlier hs hle hfits
  have hfirst := hp s start earlier hs hle hfits
  change Outcome.Holds s _ (match p s with
    | .done a s => f a s
    | .failed fault s => .failed fault s)
  cases hrun : p s with
  | failed fault next =>
      rw [hrun] at hfirst
      exact hfirst
  | done a next =>
      rw [hrun] at hfirst
      obtain ⟨hgoes, hfound⟩ := hfirst
      have hsecond := hf a next start earlier hgoes.isSound (Nat.le_trans hle hgoes.offset_le) hfound
      simp only
      cases hnext : f a next with
      | failed fault stop =>
          rw [hnext] at hsecond
          exact hgoes.trans hsecond
      | done b stop =>
          rw [hnext] at hsecond
          exact ⟨hgoes.trans hsecond.1, hsecond.2⟩

/-- A parser that adds its nodes to those before. -/
theorem read (hp : Gathers [] p found) (hf : ∀ a, Gathers (before ++ found a) (f a) last) :
    Gathers before (p >>= f) last := by
  have hframe := hp.frame before
  rw [List.append_nil] at hframe
  exact hframe.bind hf

/-- A parser that adds no nodes to those before. -/
theorem skip (hp : IsQuiet p) (hf : ∀ a, Gathers before (f a) last) :
    Gathers before (p >>= f) last := by
  refine read hp fun a => ?_
  rw [List.append_nil]
  exact hf a

/-- What stands for the nodes before can be gathered in their place. -/
theorem follow (h : Gathers middle p after) (hfollows : Follows before middle) :
    Gathers before p after := by
  intro s start earlier hs hle hfits
  exact h s start earlier hs hle (hfits.follow ((Follows.refl earlier).append hfollows))

/-- What stands for the nodes that a run has gathered is gathered as well. -/
theorem follow_run (h : Gathers before p found)
    (hfollows : ∀ s a next, s.IsSound → p s = .done a next → Follows (found a) (after a)) :
    Gathers before p after := by
  intro s start earlier hs hle hfits
  have hp := h s start earlier hs hle hfits
  cases hrun : p s with
  | failed fault next =>
      rw [hrun] at hp
      exact hp
  | done a next =>
      rw [hrun] at hp
      exact ⟨hp.1, hp.2.follow ((Follows.refl earlier).append (hfollows s a next hs hrun))⟩

/-- What stands for the nodes that were gathered is gathered as well. -/
theorem follow_after (h : Gathers before p found) (hfollows : ∀ a, Follows (found a) (after a)) :
    Gathers before p after :=
  h.follow_run fun _ a _ _ _ => hfollows a

/-- A parser that gathers from nothing goes on from where it starts. -/
theorem goesTo (h : Gathers [] p found) {s next : State code} {a : α} (hs : s.IsSound)
    (hrun : p s = .done a next) : s.GoesTo next := by
  have hp := h s s.offset [] hs (Nat.le_refl _) .nil
  rw [hrun] at hp
  exact hp.1

/-- A value that holds what was gathered. -/
theorem give {a : α} (h : Follows before (after a)) : Gathers before (pure a) after := by
  intro s start earlier hs _ hfits
  exact ⟨hs.goesTo, hfits.follow ((Follows.refl earlier).append h)⟩

/-- A value that holds nothing of what was gathered. -/
theorem done (a : α) : Gathers before (pure a) fun _ => before :=
  give (.refl before)

/-- A quiet parser keeps what was gathered before. -/
theorem quiet (h : IsQuiet p) : Gathers before p fun _ => before := by
  simpa only [List.append_nil] using frame h before

/-- One of two parsers. -/
theorem ite {c : Prop} [Decidable c] (hp : c → Gathers before p after)
    (hq : ¬ c → Gathers before q after) : Gathers before (if c then p else q) after := by
  split
  · exact hp ‹_›
  · exact hq ‹_›

/-- A parser behind one that is run under a condition. -/
theorem when {c : Prop} [Decidable c] {guard : Parser code PUnit} {rest : PUnit → Parser code β}
    (hguard : c → IsQuiet guard) (hrest : Gathers before (rest ⟨⟩) last) :
    Gathers before (have next := rest; if c then guard >>= next else next ⟨⟩) last :=
  .ite (fun h => .skip (hguard h) fun _ => hrest) fun _ => hrest

/-- A parser behind one that is run unless a condition holds. -/
theorem whenNot {c : Prop} [Decidable c] {guard : Parser code PUnit} {rest : PUnit → Parser code β}
    (hguard : ¬ c → IsQuiet guard) (hrest : Gathers before (rest ⟨⟩) last) :
    Gathers before (have next := rest; if c then next ⟨⟩ else guard >>= next) last :=
  .ite (fun _ => hrest) fun h => .skip (hguard h) fun _ => hrest

/-- A parser behind one of two that gather nothing. -/
theorem skipEither {c : Prop} [Decidable c] {guard : Parser code PUnit}
    {rest : PUnit → Parser code β} (hguard : c → IsQuiet guard) (hp : ¬ c → IsQuiet p)
    (hrest : Gathers before (rest ⟨⟩) last) :
    Gathers before (have next := rest; if c then guard >>= next else p >>= fun _ => next ⟨⟩) last :=
  .ite (fun h => .skip (hguard h) fun _ => hrest) fun h => .skip (hp h) fun _ => hrest

/-- A parser behind one of two, which go on with what was gathered before. -/
theorem bindEither {c : Prop} [Decidable c] {rest : α → Parser code β}
    (hp : c → Gathers before p found) (hq : ¬ c → Gathers before q found)
    (hrest : ∀ a, Gathers (found a) (rest a) last) :
    Gathers before (have next := rest; if c then p >>= next else q >>= next) last :=
  .ite (fun h => .bind (hp h) hrest) fun h => .bind (hq h) hrest

/-- A parser behind one of two. -/
theorem readEither {c : Prop} [Decidable c] {rest : α → Parser code β}
    (hp : c → Gathers [] p found) (hq : ¬ c → Gathers [] q found)
    (hrest : ∀ a, Gathers (before ++ found a) (rest a) last) :
    Gathers before (have next := rest; if c then p >>= next else q >>= next) last :=
  .ite (fun h => .read (hp h) hrest) fun h => .read (hq h) hrest

/-- A parser behind one for a node that is run under a condition. -/
theorem readWhen {c : Prop} [Decidable c] {p : Rule code} {rest : List (Node code) → Parser code β}
    (hp : c → Gathers [] p fun node => [node])
    (hrest : ∀ nodes, Gathers (before ++ nodes) (rest nodes) last) :
    Gathers before (have next := rest;
      if c then p >>= fun node => pure [node] >>= next else pure [] >>= next) last := by
  have hnone : Gathers before (rest []) last := by simpa only [List.append_nil] using hrest []
  exact .ite (fun h => .read (hp h) fun node => hrest [node]) fun _ => hnone

/-- A parser behind one for a node that is run unless a condition holds. -/
theorem readUnless {c : Prop} [Decidable c] {p : Rule code}
    {rest : List (Node code) → Parser code β} (hp : ¬ c → Gathers [] p fun node => [node])
    (hrest : ∀ nodes, Gathers (before ++ nodes) (rest nodes) last) :
    Gathers before (have next := rest;
      if c then pure [] >>= next else p >>= fun node => pure [node] >>= next) last := by
  have hnone : Gathers before (rest []) last := by simpa only [List.append_nil] using hrest []
  exact .ite (fun _ => hnone) fun h => .read (hp h) fun node => hrest [node]

/-- A plain node around what was gathered. -/
theorem node {start : Nat} {make : Span → Node code}
    (hplain : ∀ span, (make span).isPlain = true)
    (hchildren : ∀ span, (make span).children.Sublist before) :
    Gathers before (do return make (← Parser.spanFrom start)) fun node => [node] := by
  intro s _ earlier hs _ hfits
  have hnode : Follows before [make ⟨start, s.previousStop⟩] :=
    .single (hplain _) (hchildren _)
  exact ⟨hs.goesTo, hfits.follow ((Follows.refl earlier).append hnode)⟩

/-- A node around what was gathered that is walked in another order. -/
theorem mixed {start : Nat} {make : Span → Node code}
    (hmixed : ∀ span, (make span).isMixed = true)
    (hcovers : ∀ span, Covers before (make span).children) :
    Gathers before (do return make (← Parser.spanFrom start)) fun node => [node] := by
  intro s _ earlier hs _ hfits
  have hnode : Follows before [make ⟨start, s.previousStop⟩] := .mixed (hmixed _) (hcovers _)
  exact ⟨hs.goesTo, hfits.follow ((Follows.refl earlier).append hnode)⟩

/-- A parser with a function behind it. -/
theorem map {g : α → β} (h : Gathers before p fun a => last (g a)) :
    Gathers before (g <$> p) last :=
  h.bind fun a => give (Follows.refl (last (g a)))

/-- A parser that stops. -/
theorem of_stops (h : ∀ s, s.IsSound → ∃ fault next, p s = .failed fault next ∧ s.GoesTo next) :
    Gathers before p after := by
  intro s start earlier hs _ _
  obtain ⟨fault, next, hrun, hgoes⟩ := h s hs
  rw [hrun]
  exact hgoes

end Gathers

namespace IsQuiet

variable {α : Type} {p : Parser code α}

/-- What is gathered can be left out. -/
theorem of_gathers {found : α → List (Node code)} (h : Gathers [] p found) : IsQuiet p :=
  h.follow_after fun _ => .of_sublist (List.nil_sublist _)

/-- A parser that only looks at the state. -/
theorem of_looks (h : ∀ s, ∃ a, p s = .done a s) : IsQuiet p := by
  intro s start earlier hs _ hfits
  obtain ⟨a, ha⟩ := h s
  rw [ha]
  exact ⟨hs.goesTo, hfits⟩

/-- A parser that goes on to another state. -/
theorem of_goes (h : ∀ s, s.IsSound → ∃ a next, p s = .done a next ∧ s.GoesTo next) :
    IsQuiet p := by
  intro s start earlier hs _ hfits
  obtain ⟨a, next, ha, hgoes⟩ := h s hs
  rw [ha]
  exact ⟨hgoes, hfits.mono hgoes.offset_le⟩

/-- A parser that goes on to another state, which depends on the current one. -/
theorem of_state {rest : State code → Parser code α}
    (h : ∀ s, s.IsSound → ∃ a next, rest s s = .done a next ∧ s.GoesTo next) :
    IsQuiet (Parser.state >>= rest) :=
  of_goes h

end IsQuiet

end ClassRegistry.TypeScript
