import ClassRegistry.Proofs.Order.Gathering

/-!
# The steps of a parser

Looking at tokens, reading and requiring them, and stopping gathers no nodes. What a parser gathers
under other flags, in an attempt, or again and again is what it gathers by itself.
-/

namespace ClassRegistry.TypeScript

variable {code : Code} {α β : Type}

/-! ## Tokens -/

namespace IsQuiet

theorem state : IsQuiet (Parser.state : Parser code (State code)) := of_looks fun _ => ⟨_, rfl⟩

theorem token : IsQuiet (Parser.token : Parser code (Token code)) := of_looks fun _ => ⟨_, rfl⟩

theorem kind : IsQuiet (Parser.kind : Parser code TokenKind) := of_looks fun _ => ⟨_, rfl⟩

theorem following : IsQuiet (Parser.following : Parser code (Token code)) :=
  of_looks fun _ => ⟨_, rfl⟩

theorem startsLine : IsQuiet (Parser.startsLine : Parser code Bool) := of_looks fun _ => ⟨_, rfl⟩

theorem here : IsQuiet (Parser.here : Parser code Nat) := of_looks fun _ => ⟨_, rfl⟩

/-- The span up to the token before is looked at. -/
theorem spanFrom (start : Nat) : IsQuiet (Parser.spanFrom start : Parser code Span) :=
  of_looks fun _ => ⟨_, rfl⟩

theorem flags : IsQuiet (Parser.flags : Parser code Flags) := of_looks fun _ => ⟨_, rfl⟩

theorem isAt (p : Punctuator) : IsQuiet (Parser.isAt p : Parser code Bool) :=
  of_looks fun _ => ⟨_, rfl⟩

theorem isAtAnyWord : IsQuiet (Parser.isAtAnyWord : Parser code Bool) := of_looks fun _ => ⟨_, rfl⟩

theorem isAtEnd : IsQuiet (Parser.isAtEnd : Parser code Bool) := of_looks fun _ => ⟨_, rfl⟩

theorem lookahead (p : Parser code Bool) : IsQuiet (Parser.lookahead p) := by
  refine of_looks fun s => ?_
  unfold Parser.lookahead
  split <;> exact ⟨_, rfl⟩

theorem advance : IsQuiet (Parser.advance : Parser code Unit) :=
  of_goes fun _ hs => ⟨_, _, rfl, hs.goesTo_next⟩

theorem advanceToRaw : IsQuiet (Parser.advanceToRaw : Parser code Unit) :=
  of_goes fun _ hs => ⟨_, _, rfl, hs.goesTo_nextRaw⟩

theorem skipBroken : IsQuiet (Parser.skipBroken : Parser code Unit) :=
  of_goes fun _ hs => ⟨_, _, rfl, hs.goesTo_skipBroken⟩

end IsQuiet

/-! ## Faults -/

namespace Gathers

variable {before : List (Node code)} {after : α → List (Node code)}

theorem failAt (offset : Nat) (cause : Cause) :
    Gathers before (Parser.failAt offset cause : Parser code α) after :=
  of_stops fun _ hs => ⟨_, _, rfl, hs.goesTo_skipBroken⟩

theorem failWith (fault : Fault) : Gathers before (Parser.failWith fault : Parser code α) after :=
  failAt _ _

theorem fail (cause : Cause) : Gathers before (Parser.fail cause : Parser code α) after :=
  of_stops fun _ hs => ⟨_, _, rfl, hs.goesTo_skipBroken⟩

theorem failAtEnd : Gathers before (Parser.failAtEnd : Parser code α) after :=
  fail _

theorem unexpected (possible : String) :
    Gathers before (Parser.unexpected possible : Parser code α) after :=
  of_stops fun _ hs => ⟨_, _, rfl, hs.goesTo_skipBroken⟩

theorem failExpected (what : String) :
    Gathers before (Parser.failExpected what : Parser code α) after := by
  unfold Parser.failExpected
  refine .skip .kind fun kind => ?_
  exact .fail _

end Gathers

/-! ## Signs and words -/

namespace IsQuiet

theorem keyword? : IsQuiet (Parser.keyword? : Parser code (Option Keyword)) := by
  unfold Parser.keyword?
  refine .skip .kind fun kind => ?_
  split
  · exact .done _
  · exact .done _

theorem isAtWord (k : Keyword) : IsQuiet (Parser.isAtWord k : Parser code Bool) := by
  unfold Parser.isAtWord
  refine .skip .keyword? fun keyword => ?_
  exact .done _

theorem eat (p : Punctuator) : IsQuiet (Parser.eat p : Parser code Bool) := by
  unfold Parser.eat
  refine .skip (.isAt p) fun isThere => ?_
  refine .ite (fun _ => ?_) fun _ => .done _
  refine .skip .advance fun _ => ?_
  exact .done _

theorem eatWord (k : Keyword) : IsQuiet (Parser.eatWord k : Parser code Bool) := by
  unfold Parser.eatWord
  refine .skip (.isAtWord k) fun isThere => ?_
  refine .ite (fun _ => ?_) fun _ => .done _
  refine .skip .advance fun _ => ?_
  exact .done _

theorem expect (p : Punctuator) : IsQuiet (Parser.expect p : Parser code Unit) := by
  unfold Parser.expect
  refine .skip (.eat p) fun isThere => ?_
  exact .ite (fun _ => .done _) fun _ => .failExpected _

theorem expectWord (k : Keyword) : IsQuiet (Parser.expectWord k : Parser code Unit) := by
  unfold Parser.expectWord
  refine .skip (.eatWord k) fun isThere => ?_
  exact .ite (fun _ => .done _) fun _ => .failExpected _

theorem isAtStatementEnd : IsQuiet (Parser.isAtStatementEnd : Parser code Bool) := by
  unfold Parser.isAtStatementEnd
  refine .skip (.isAt _) fun isSemicolon => ?_
  refine .skip (.isAt _) fun isBrace => ?_
  refine .skip .isAtEnd fun isEnd => ?_
  refine .skip .startsLine fun isLine => ?_
  exact .done _

/-- The end of a statement is read if it is there. -/
theorem eatStatementEnd : IsQuiet (Parser.eatStatementEnd : Parser code Bool) := by
  unfold Parser.eatStatementEnd
  refine .skip (.eat _) fun isThere => ?_
  exact .ite (fun _ => .done _) fun _ => .quiet .isAtStatementEnd

theorem expectStatementEnd : IsQuiet (Parser.expectStatementEnd : Parser code Unit) := by
  unfold Parser.expectStatementEnd
  refine .skip .eatStatementEnd fun isThere => ?_
  exact .ite (fun _ => .done _) fun _ => .failExpected _

/-- A token is read anew. -/
theorem reread (read : Bool → Cursor code → Lexeme code)
    (hread : ∀ startsLine c, (read startsLine c).IsAt c) :
    IsQuiet (do Parser.goto ((← Parser.state).reread read) : Parser code Unit) :=
  of_goes fun _ hs => ⟨_, _, rfl, hs.goesTo_reread hread⟩

end IsQuiet

/-- A parser behind a token that is read anew. -/
theorem Gathers.reread {before : List (Node code)} {last : β → List (Node code)}
    {rest : Parser code β} (read : Bool → Cursor code → Lexeme code)
    (hread : ∀ startsLine c, (read startsLine c).IsAt c) (hrest : Gathers before rest last) :
    Gathers before (do Parser.goto ((← Parser.state).reread read); rest) last := by
  have hboth : Gathers before
      ((do Parser.goto ((← Parser.state).reread read)) >>= fun _ => rest) last :=
    .skip (.reread read hread) fun _ => hrest
  exact hboth

namespace IsQuiet

theorem continueTemplate : IsQuiet (Parser.continueTemplate : Parser code Unit) := by
  unfold Parser.continueTemplate
  refine .skip (.isAt _) fun isThere => ?_
  refine .ite (fun _ => ?_) fun _ => .unexpected _
  exact .quiet <| .reread _ fun _ _ => Lexeme.isAt_template

theorem templatePiece (isTagged : Bool) :
    IsQuiet (Parser.templatePiece isTagged : Parser code Bool) := by
  unfold Parser.templatePiece
  refine .skip .kind fun kind => ?_
  split
  · split
    · exact .failWith _
    · refine .skip .advance fun _ => ?_
      exact .done _
  · exact .failWith _
  · exact .failExpected _

end IsQuiet

/-! ## Runs -/

namespace Parser

variable {s next : State code}

/-- What two parsers give one after the other is given by the second one behind the first one. -/
theorem exists_of_bind {p : Parser code α} {f : α → Parser code β} {b : β}
    (h : (p >>= f) s = .done b next) :
    ∃ a between, p s = .done a between ∧ f a between = .done b next := by
  unfold bind Monad.toBind instMonad at h
  dsimp only at h
  split at h
  · exact ⟨_, _, by assumption, h⟩
  · cases h

/-- A sign is read exactly if it is there. -/
theorem eat_cases {p : Punctuator} {isThere : Bool} (h : eat p s = .done isThere next) :
    (isThere = true ∧ s.token.kind = .sign p ∧ next = s.next) ∨
      (isThere = false ∧ next = s) := by
  obtain ⟨isAt, between, hat, hrest⟩ := exists_of_bind h
  obtain ⟨rfl, rfl⟩ := Outcome.done.inj hat
  split at hrest
  · rename_i hthere
    obtain ⟨rfl, rfl⟩ := Outcome.done.inj hrest
    exact Or.inl ⟨rfl, of_decide_eq_true hthere, rfl⟩
  · obtain ⟨rfl, rfl⟩ := Outcome.done.inj hrest
    exact Or.inr ⟨rfl, rfl⟩

/-- A sign that is required is there. -/
theorem eq_of_expect {p : Punctuator} {u : Unit} (h : expect p s = .done u next) :
    s.token.kind = .sign p ∧ next = s.next := by
  obtain ⟨isThere, between, heat, hrest⟩ := exists_of_bind h
  rcases eat_cases heat with ⟨rfl, hkind, rfl⟩ | ⟨rfl, rfl⟩
  · obtain ⟨-, rfl⟩ := Outcome.done.inj hrest
    exact ⟨hkind, rfl⟩
  · obtain ⟨kind, stop, -, hfault⟩ := exists_of_bind (p := Parser.kind) hrest
    cases hfault

end Parser

/-! ## Parsers around parsers -/

/-- What a parser comes to, with the state where it stops replaced. -/
def Outcome.goOn (leave : State code → State code) : Outcome code α → Outcome code α
  | .done a next => .done a (leave next)
  | .failed fault next => .failed fault (leave next)

namespace Gathers

variable {p q : Parser code α} {before : List (Node code)} {found after : α → List (Node code)}

/-- What is gathered from a state in place of another one, and is gone on from in place of where it
stops. -/
theorem within (enter : State code → State code) (leave : State code → State code → State code)
    (henter : ∀ s : State code, s.IsSound → s.GoesTo (enter s))
    (hleave : ∀ s next : State code, next.IsSound → next.GoesTo (leave s next))
    (hq : ∀ s, q s = (p (enter s)).goOn (leave s)) (h : Gathers before p after) :
    Gathers before q after := by
  intro s start earlier hs hle hfits
  have hentered := henter s hs
  have hp := h (enter s) start earlier hentered.isSound
    (Nat.le_trans hle hentered.offset_le) (hfits.mono hentered.offset_le)
  rw [hq]
  cases hrun : p (enter s) with
  | failed fault next =>
      rw [hrun] at hp
      exact (hentered.trans hp).trans (hleave s next hp.isSound)
  | done a next =>
      rw [hrun] at hp
      have hleft := hleave s next hp.1.isSound
      exact ⟨(hentered.trans hp.1).trans hleft, hp.2.mono hleft.offset_le⟩

/-- What is gathered under other flags. -/
theorem withFlags (change : Flags → Flags) (h : Gathers before p after) :
    Gathers before (Parser.withFlags change p) after := by
  refine within (fun s => { s with flags := change s.flags })
    (fun s next => { next with flags := s.flags })
    (fun s hs => { hs.goesTo with isSound := { hs with } })
    (fun s next hnext => { hnext.goesTo with isSound := { hnext with } }) (fun s => ?_) h
  unfold Parser.withFlags
  cases p { s with flags := change s.flags } <;> rfl

/-- What is gathered where an arrow function may start elsewhere. -/
theorem withArrowStart (place : Option Nat) (h : Gathers before p after) :
    Gathers before (Parser.withArrowStart place p) after := by
  refine within (fun s => { s with arrowStart := place })
    (fun s next => { next with arrowStart := s.arrowStart })
    (fun s hs => { hs.goesTo with isSound := { hs with } })
    (fun s next hnext => { hnext.goesTo with isSound := { hnext with } }) (fun s => ?_) h
  unfold Parser.withArrowStart
  cases p { s with arrowStart := place } <;> rfl

/-- What is gathered where angle brackets are read in another way. -/
theorem withAngles (change : Flags → Flags) (h : Gathers before p after) :
    Gathers before (Parser.withAngles change p) after := by
  have hangles : ∀ (s : State code) (flags : Flags), s.IsSound →
      s.GoesTo ({ s with flags := flags } : State code).rereadAngle := by
    intro s flags hs
    have hother : ({ s with flags := flags } : State code).IsSound := { hs with }
    exact { hother.goesTo_rereadAngle with }
  refine within (fun s => ({ s with flags := change s.flags } : State code).rereadAngle)
    (fun s next => ({ next with flags := s.flags } : State code).rereadAngle)
    (fun s => hangles s _) (fun s next => hangles next s.flags) (fun s => ?_) h
  unfold Parser.withAngles
  cases p ({ s with flags := change s.flags } : State code).rereadAngle <;> rfl

theorem inType (h : Gathers before p after) : Gathers before (Parser.inType p) after :=
  h.withAngles _

theorem enclosed (h : Gathers before p after) : Gathers before (Parser.enclosed p) after :=
  h.withAngles _

/-- What is gathered in an attempt; if it fails, what was gathered before. -/
theorem attempt {p : Parser code (Option α)} (h : Gathers before p fun a => a.elim [] found) :
    Gathers before (Parser.attempt p) fun a => a.elim before found := by
  intro s start earlier hs hle hfits
  have hp := h s start earlier hs hle hfits
  unfold Parser.attempt
  cases hrun : p s with
  | failed fault next => exact ⟨hs.goesTo, hfits⟩
  | done a next =>
      rw [hrun] at hp
      cases a with
      | none => exact ⟨hs.goesTo, hfits⟩
      | some a => exact hp

/-- What is gathered by a parser that goes back where it does not apply. -/
theorem orGoBack {p : Parser code (Option α)} (h : Gathers before p fun a => a.elim [] found) :
    Gathers before (Parser.orGoBack p) fun a => a.elim before found := by
  intro s start earlier hs hle hfits
  have hp := h s start earlier hs hle hfits
  unfold Parser.orGoBack
  cases hrun : p s with
  | failed fault next =>
      rw [hrun] at hp
      exact hp
  | done a next =>
      rw [hrun] at hp
      cases a with
      | none => exact ⟨hs.goesTo, hfits⟩
      | some a => exact hp

/-- What is gathered up to a fault, where a value stands in for what could not be read. -/
theorem orGive {a : α} (h : Gathers [] p found) (ha : Follows [] (found a)) :
    Gathers [] (Parser.orGive p a) found := by
  intro s start earlier hs hle hfits
  have hp := h s start earlier hs hle hfits
  unfold Parser.orGive
  cases hrun : p s with
  | done b next =>
      rw [hrun] at hp
      exact hp
  | failed fault next =>
      rw [hrun] at hp
      have hgoes := State.GoesTo.trans hp hp.isSound.goesTo_skipBroken
      exact ⟨hgoes, (hfits.mono hgoes.offset_le).follow ((Follows.refl earlier).append ha)⟩

/-- What is gathered up to a fault, or nothing. -/
theorem orNone (h : Gathers [] p found) :
    Gathers [] (Parser.orNone p) fun a => a.elim [] found := by
  intro s start earlier hs hle hfits
  have hp := h s start earlier hs hle hfits
  unfold Parser.orNone
  cases hrun : p s with
  | done b next =>
      rw [hrun] at hp
      exact hp
  | failed fault next =>
      rw [hrun] at hp
      exact ⟨hp, hfits.mono hp.offset_le⟩

/-! ## Repetition -/

/-- What is gathered step by step. -/
theorem iterate (held : α → List (Node code)) {step : α → Parser code (α ⊕ β)}
    {last : β → List (Node code)}
    (h : ∀ a, Gathers (held a) (step a) (Sum.elim held last)) (a : α) :
    Gathers (held a) (Parser.iterate step a) last := by
  have hbound : ∀ bound a, Gathers (held a) (Parser.iterateUpTo bound step a) last := by
    intro bound
    induction bound with
    | zero => exact fun a => .fail _
    | succ bound ih =>
        intro a
        unfold Parser.iterateUpTo
        refine (h a).bind fun next => ?_
        cases next with
        | inl a => exact ih a
        | inr b => exact .done b
  intro s
  exact hbound s.bound a s

/-- Values that are read one after the other hold what each of them holds. -/
theorem many {p : Parser code (Option α)}
    (h : Gathers [] p fun a => a.elim [] found) :
    Gathers [] (Parser.many p) fun values => values.flatMap found := by
  unfold Parser.many
  refine .map ?_
  refine iterate (fun values => values.reverse.flatMap found) (fun values => ?_) []
  refine .read h fun value => ?_
  cases value with
  | none => exact .give (.of_sublist (by simp))
  | some value => exact .give (.of_sublist (by simp))

end Gathers

theorem IsQuiet.attempt {p : Parser code (Option α)} (h : IsQuiet p) :
    IsQuiet (Parser.attempt p) := by
  have hvalue : Gathers [] p fun a => a.elim [] fun _ => [] :=
    h.follow_after fun a => .of_sublist (by cases a <;> simp)
  exact .of_gathers (.attempt hvalue)

theorem IsQuiet.many {p : Parser code (Option α)} (h : IsQuiet p) : IsQuiet (Parser.many p) := by
  have hvalues : Gathers [] p fun a => a.elim [] fun _ => [] :=
    h.follow_after fun a => .of_sublist (by cases a <;> simp)
  exact .of_gathers (.many hvalues)

namespace Gathers

variable {p : Parser code α} {found : α → List (Node code)}

/-- Values between commas hold what each of them holds. -/
theorem commaSeparated {isClosed : Parser code Bool} (hclosed : IsQuiet isClosed)
    (h : Gathers [] p found) :
    Gathers [] (Parser.commaSeparated isClosed p) fun values => values.flatMap found := by
  unfold Parser.commaSeparated
  refine .map ?_
  refine iterate (fun values => values.reverse.flatMap found) (fun values => ?_) []
  refine .skip hclosed fun isOver => ?_
  refine .ite (fun _ => .give (.refl _)) fun _ => ?_
  refine .read h fun value => ?_
  refine .skip (.eat _) fun isComma => ?_
  refine .ite (fun _ => .give (.of_sublist (by simp))) fun _ => ?_
  refine .skip hclosed fun isOver => ?_
  refine .ite (fun _ => .give (.of_sublist (by simp))) fun _ => ?_
  refine .skip (.expect _) fun _ => ?_
  exact .give (.of_sublist (by simp))

end Gathers

end ClassRegistry.TypeScript
