import ClassRegistry.Glob.Expansion
import ClassRegistry.Proofs.Path.Pieces

/-!
# The characters of a pattern

The tokens that stand for one character are characters of the text that a pattern was read from. So
a component of a path that is read as a pattern and holds no sign stands for a name without a slash.
-/

namespace ClassRegistry.Glob

/-- What follows a closing bracket is a part of the text. -/
theorem mem_of_untilBracket {text inner after : List Char}
    (h : untilBracket text = some (inner, after)) {c : Char} (hc : c ∈ after) : c ∈ text := by
  induction text generalizing inner with
  | nil => cases h
  | cons first rest ih =>
      rw [untilBracket] at h
      split at h
      · obtain ⟨-, rfl⟩ := Prod.mk.inj (Option.some.inj h)
        exact List.mem_cons_of_mem first hc
      · obtain ⟨⟨found, behind⟩, hfound, heq⟩ := Option.map_eq_some_iff.mp h
        obtain ⟨-, rfl⟩ := Prod.mk.inj heq
        exact List.mem_cons_of_mem first (ih hfound)

/-- A class is no single character, and what follows it is a part of the text. -/
theorem of_classAt {text after : List Char} {token : PatternToken}
    (h : classAt text = some (token, after)) :
    (∀ c, token ≠ .char c) ∧ ∀ c ∈ after, c ∈ text := by
  unfold classAt at h
  split at h
  · rename_i first rest
    obtain ⟨⟨inner, behind⟩, hinner, heq⟩ := Option.map_eq_some_iff.mp h
    obtain ⟨rfl, rfl⟩ := Prod.mk.inj heq
    refine ⟨fun c => PatternToken.noConfusion, fun c hc => ?_⟩
    exact List.mem_cons_of_mem _ (List.mem_cons_of_mem first (mem_of_untilBracket hinner hc))
  · cases h
  · rename_i first rest _ _
    obtain ⟨⟨inner, behind⟩, hinner, heq⟩ := Option.map_eq_some_iff.mp h
    obtain ⟨rfl, rfl⟩ := Prod.mk.inj heq
    refine ⟨fun c => PatternToken.noConfusion, fun c hc => ?_⟩
    exact List.mem_cons_of_mem first (mem_of_untilBracket hinner hc)
  · cases h

/-- A token in front of the tokens of what follows. -/
theorem cons_eq_ok_iff {token : PatternToken} {e : Except PatternError (List PatternToken)}
    {tokens : List PatternToken} :
    (do return token :: (← e)) = Except.ok tokens ↔
      ∃ rest, e = .ok rest ∧ tokens = token :: rest := by
  cases e with
  | error error => simp [bind, Except.bind]
  | ok rest => simp [bind, Except.bind, pure, Except.pure, eq_comm]

/-- All that one step of reading does: it ends with a `**`, or it reads one token and goes on in
what follows. A token that stands for a character stands for the first one. -/
theorem tokensFrom_succ_cases {bound position : Nat} {previous : Option Char} {first : Char}
    {rest : List Char} {tokens : List PatternToken}
    (h : tokensFrom (bound + 1) position previous (first :: rest) = .ok tokens) :
    tokens = [.anyComponents] ∨ ∃ token place before after others,
      tokensFrom bound place before after = .ok others ∧ tokens = token :: others ∧
      (∀ c, token = .char c → c = first) ∧ after ⊆ rest := by
  unfold tokensFrom at h
  split at h
  · contradiction
  · contradiction
  -- a question mark
  · rename_i hbound htext
    obtain rfl := Nat.succ.inj hbound
    obtain ⟨others, hothers, rfl⟩ := cons_eq_ok_iff.mp h
    obtain ⟨rfl, rfl⟩ := List.cons.inj htext
    exact Or.inr ⟨_, _, _, _, others, hothers, rfl, fun c => PatternToken.noConfusion,
      List.Subset.refl _⟩
  -- one star, or two that stand for components
  · rename_i hbound htext
    obtain rfl := Nat.succ.inj hbound
    obtain ⟨rfl, rfl⟩ := List.cons.inj htext
    split at h
    · obtain ⟨others, hothers, rfl⟩ := cons_eq_ok_iff.mp h
      exact Or.inr ⟨_, _, _, _, others, hothers, rfl, fun c => PatternToken.noConfusion,
        List.Subset.refl _⟩
    · cases h
    · split at h
      · cases h
      · split at h
        · exact Or.inl (Except.ok.inj h).symm
        · rename_i after hafter
          obtain ⟨others, hothers, rfl⟩ := cons_eq_ok_iff.mp h
          refine Or.inr ⟨_, _, _, after, others, hothers, rfl,
            fun c => PatternToken.noConfusion, ?_⟩
          have hdrop : after ⊆ rest.drop 1 := by
            rw [hafter]
            exact List.subset_cons_self '/' after
          exact List.Subset.trans hdrop (List.drop_subset 1 rest)
        · cases h
  -- a class in brackets
  · rename_i hbound htext
    obtain rfl := Nat.succ.inj hbound
    obtain ⟨rfl, rfl⟩ := List.cons.inj htext
    split at h
    · cases h
    · rename_i token after hclass
      obtain ⟨htoken, hafter⟩ := of_classAt hclass
      obtain ⟨others, hothers, rfl⟩ := cons_eq_ok_iff.mp h
      exact Or.inr ⟨token, _, _, after, others, hothers, rfl, fun c hc => absurd hc (htoken c),
        hafter⟩
  -- any other character, which stands for itself
  · rename_i hbound htext
    obtain rfl := Nat.succ.inj hbound
    obtain ⟨rfl, rfl⟩ := List.cons.inj htext
    obtain ⟨others, hothers, rfl⟩ := cons_eq_ok_iff.mp h
    exact Or.inr ⟨_, _, _, _, others, hothers, rfl, fun c hc => (PatternToken.char.inj hc).symm,
      List.Subset.refl _⟩

/-- A token that stands for a character was read from it. -/
theorem mem_of_char_mem_tokensFrom {bound position : Nat} {previous : Option Char}
    {text : List Char} {tokens : List PatternToken}
    (h : tokensFrom bound position previous text = .ok tokens) {c : Char}
    (hc : .char c ∈ tokens) : c ∈ text := by
  induction bound generalizing position previous text tokens with
  | zero =>
      have hnil : tokens = [] := by
        cases text with
        | nil => exact (Except.ok.inj h).symm
        | cons first rest => exact (Except.ok.inj h).symm
      rw [hnil] at hc
      cases hc
  | succ bound ih =>
      cases text with
      | nil =>
          rw [← Except.ok.inj h] at hc
          cases hc
      | cons first rest =>
          rcases tokensFrom_succ_cases h with
            rfl | ⟨token, _, _, after, others, hothers, rfl, hfirst, hafter⟩
          · simp at hc
          · rcases List.mem_cons.mp hc with htoken | hc
            · rw [hfirst c htoken.symm]
              exact List.mem_cons_self
            · exact List.mem_cons_of_mem first (hafter (ih hothers hc))

/-- The characters that tokens stand for are those of the tokens. -/
theorem char_mem_of_mapM {tokens : List PatternToken} {chars : List Char}
    (h : tokens.mapM PatternToken.char? = some chars) {c : Char} (hc : c ∈ chars) :
    .char c ∈ tokens := by
  induction tokens generalizing chars with
  | nil =>
      obtain rfl : [] = chars := by simpa using h
      cases hc
  | cons token rest ih =>
      rw [List.mapM_cons, Option.bind_eq_bind, Option.bind_eq_some_iff] at h
      obtain ⟨first, hfirst, hmore⟩ := h
      rw [Option.bind_eq_bind, Option.bind_eq_some_iff] at hmore
      obtain ⟨more, hrest, heq⟩ := hmore
      obtain rfl : first :: more = chars := by simpa using heq
      rcases List.mem_cons.mp hc with rfl | hc
      · cases token with
        | char found =>
            obtain rfl : found = c := by simpa [PatternToken.char?] using hfirst
            exact List.mem_cons_self
        | anyChar => cases hfirst
        | anyText => cases hfirst
        | anyComponents => cases hfirst
        | class_ isNegated items => cases hfirst
      · exact List.mem_cons_of_mem token (ih hrest hc)

/-- A component of a path that stands for a name stands for one without a slash. -/
theorem slash_notMem_of_literal? {text name : String} (hslash : '/' ∉ text.toList) {p : Pattern}
    (hparse : Pattern.parse text = .ok p) (hname : p.literal? = some name) :
    '/' ∉ name.toList := by
  rw [Pattern.parse] at hparse
  cases htokens : tokensFrom text.toList.length 0 none text.toList with
  | error e =>
      rw [htokens] at hparse
      cases hparse
  | ok tokens =>
      rw [htokens] at hparse
      obtain rfl := Except.ok.inj hparse
      obtain ⟨chars, hchars, rfl⟩ := Option.map_eq_some_iff.mp hname
      intro hmem
      rw [String.toList_ofList] at hmem
      exact hslash (mem_of_char_mem_tokensFrom htokens (char_mem_of_mapM hchars hmem))

end ClassRegistry.Glob
