import ClassRegistry.Proofs.Order.Walk
import Mathlib.Data.List.TakeWhile

/-!
# Decorators that are markers

A decorator is a marker when its expression is a dotted name or a call of one, unless it is in
parentheses. The tree does not show these: the text behind the `@` is asked for them, and there they
are seen behind white space but not behind a comment. Main statement: for every class of every text,
which of its decorators are markers, and of what name.
-/

namespace ClassRegistry

open TypeScript (Node Code Span IsGap StandsIn isWordChar)

variable {code : Code}

/-! ## Dotted names -/

/-- A name or a chain of members, and its text. -/
inductive IsDotted : Node code → String → Prop
  | name (ident : TypeScript.Ident code) : IsDotted (.identifier ident) ident.name
  | member {object : Node code} {text : String} (span : Span) (property : String) :
    IsDotted object text → IsDotted (.member span object property) (text ++ "." ++ property)

/-- The dotted text is that of a name or of a chain of members. -/
theorem dottedName?_eq_some_iff {node : Node code} {text : String} :
    dottedName? node = some text ↔ IsDotted node text := by
  constructor
  · intro h
    fun_induction dottedName? node generalizing text with
    | case1 ident =>
        obtain rfl := Option.some.inj h
        exact .name ident
    | case2 span object property ih =>
        obtain ⟨first, hfirst, rfl⟩ := Option.map_eq_some_iff.mp h
        exact .member span property (ih hfirst)
    | case3 => cases h
  · intro h
    induction h with
    | name ident => rfl
    | member span property hobject ih => rw [dottedName?, ih]; rfl

/-- An expression is a dotted name, or a call of one. -/
def NamesMarker (expression : Node code) (name : String) : Prop :=
  IsDotted expression name ∨
    ∃ span callee types arguments, expression = .call span callee types arguments ∧
      IsDotted callee name

namespace Marker

/-- A decorator that is not seen to be in parentheses is a marker of the name in its expression. -/
theorem exists_ofNode?_iff {span : Span} {expression : Node code} {name : String} :
    (∃ arguments, ofNode? (.decorator span expression) = some ⟨name, arguments⟩) ↔
      isParenthesized span code = false ∧ NamesMarker expression name := by
  have hdotted : ∀ {node : Node code} {arguments : List Argument},
      (∃ found, (dottedName? node).map (fun name => Marker.mk name arguments) =
        some ⟨name, found⟩) ↔ IsDotted node name := by
    intro node arguments
    rw [← dottedName?_eq_some_iff]
    cases dottedName? node <;> simp
  by_cases hparen : isParenthesized span code = true
  · simp [ofNode?, hparen]
  · simp only [ofNode?, hparen, if_false, Bool.false_eq_true, true_and]
    cases expression with
    | call callSpan callee types arguments =>
        refine hdotted.trans ⟨fun h => Or.inr ⟨_, _, _, _, rfl, h⟩, ?_⟩
        rintro (h | ⟨_, _, _, _, heq, h⟩)
        · cases h
        · obtain ⟨-, rfl, -, -⟩ := Node.call.inj heq
          exact h
    | _ =>
        refine hdotted.trans ⟨Or.inl, ?_⟩
        rintro (h | ⟨_, _, _, _, heq, -⟩)
        · exact h
        · cases heq

/-- Nothing but a decorator is a marker. -/
theorem exists_of_ofNode? {node : Node code} {m : Marker} (h : ofNode? node = some m) :
    ∃ expression, node = .decorator node.span expression := by
  cases node with
  | decorator span expression => exact ⟨expression, rfl⟩
  | _ => cases h

/-! ## Parentheses in the text -/

/-- A decorator is seen to be in parentheses exactly if its first token is one, and there is nothing
but white space in front of it. -/
theorem isParenthesized_iff {span : Span} {gap rest : List Char} {first : Char}
    (htext : code.drop span.start = '@' :: (gap ++ first :: rest)) (hgap : IsGap gap)
    (hfirst : first ≠ '@') (hblank : Text.isBlank first = false)
    (hstop : span.start + 1 + gap.length < span.stop) :
    isParenthesized span code = true ↔ first = '(' ∧ ∀ c ∈ gap, Text.isBlank c = true := by
  -- the span is cut behind the first token, not before it
  obtain ⟨length, hlength⟩ : ∃ length, span.stop - span.start = gap.length + length + 1 + 1 :=
    ⟨span.stop - span.start - gap.length - 2, by omega⟩
  have hspan : span.text code = '@' :: (gap ++ first :: rest.take length) := by
    rw [Span.text, htext, hlength, List.take_succ_cons, Nat.add_assoc, List.take_length_add_append,
      List.take_succ_cons]
  have hbehind : (span.text code).dropWhile (· = '@') = gap ++ first :: rest.take length := by
    rw [hspan, List.dropWhile_cons_of_pos (by simp)]
    cases gap with
    | nil => exact List.dropWhile_cons_of_neg (by simpa using hfirst)
    | cons c more =>
        refine List.dropWhile_cons_of_neg ?_
        simpa using hgap.ne_at
  rw [isParenthesized, hbehind, decide_eq_true_iff, List.dropWhile_append]
  cases hseen : gap.dropWhile Text.isBlank with
  | nil =>
      have hall : ∀ c ∈ gap, Text.isBlank c = true := List.dropWhile_eq_nil_iff.mp hseen
      simp [hblank, and_iff_left hall]
  | cons c more =>
      have hnot : ¬ ∀ c ∈ gap, Text.isBlank c = true := by
        rw [← List.dropWhile_eq_nil_iff, hseen]
        exact List.cons_ne_nil _ _
      have hc : c ≠ '(' := by
        have hmem := hgap.head?_dropWhile c (by rw [hseen]; rfl)
        rintro rfl
        revert hmem
        decide
      simp [hc, hnot]

end Marker

/-! ## The decorators of a class -/

/-- The nodes of arranged trees are arranged. -/
theorem isArranged_of_standsIn {nodes : List (Node code)} {p : TypeScript.Place code}
    (h : ∀ node ∈ nodes, node.IsArranged) (hp : StandsIn nodes p) : p.node.IsArranged := by
  induction hp with
  | top hnode => exact h _ (List.mem_of_getElem? hnode)
  | inside houter _ ih =>
      have harranged := h _ (List.mem_of_getElem? houter)
      exact ih fun child => harranged.of_mem_children

namespace Source

variable {s : Source} {items : List (Node s.code)} {site : ClassSite s.code}

/-- A decorator of a class of a file stands where its span says. -/
theorem isDecoratorAt_of_mem (h : s.items = .ok items) (hsite : site ∈ classSitesAll "" items)
    {span : Span} {expression : Node s.code} (hmem : .decorator span expression ∈ site.decorators) :
    Node.IsDecoratorAt s.code span := by
  obtain ⟨places, hplaces⟩ := exists_isWalkOf items
  rw [hplaces.classSites_eq, List.mem_filterMap] at hsite
  obtain ⟨p, hp, hdeclared⟩ := hsite
  obtain ⟨-, classSpan, parameters, members, hnode⟩ := eq_of_declaredClass? hdeclared
  have harranged : p.node.IsArranged :=
    isArranged_of_standsIn (isRow_of_items h).isArranged ((hplaces.mem_iff p).mp hp)
  have hchild : .decorator span expression ∈ p.node.children := by
    rw [hnode]
    simp [Node.children, hmem]
  exact (harranged.of_mem_children hchild).isPlaced

/-- The markers of a class are those of its decorators, one by one. Behind the `@` of each stand a
gap and a first token, and the decorator is a marker of a name exactly if its expression is that
dotted name or a call of it, and a parenthesis that it starts with stands behind a comment, or behind
a character of the gap that is no white space. -/
theorem marker_of_decorator_iff (h : s.items = .ok items)
    (hsite : site ∈ classSitesAll "" items) :
    (∀ scope, (s.declaration scope site).markers = site.decorators.filterMap Marker.ofNode?) ∧
    ∀ span expression, .decorator span expression ∈ site.decorators →
      ∃ gap first rest, s.code.drop span.start = '@' :: (gap ++ first :: rest) ∧ IsGap gap ∧
        (first = '(' ∨ isWordChar first = true) ∧
        ∀ name, (∃ arguments, Marker.ofNode? (.decorator span expression) =
          some ⟨name, arguments⟩) ↔
            NamesMarker expression name ∧
              (first = '(' → ∃ c ∈ gap, Text.isBlank c = false) := by
  refine ⟨fun _ => rfl, fun span expression hmem => ?_⟩
  obtain ⟨gap, first, rest, htext, hgap, hblank, hfirst, hstop⟩ :=
    isDecoratorAt_of_mem h hsite hmem
  refine ⟨gap, first, rest, htext, hgap, hfirst, fun name => ?_⟩
  have hat : first ≠ '@' := by
    rintro rfl
    revert hfirst
    decide
  have hparen := Marker.isParenthesized_iff htext hgap hat hblank hstop
  rw [Marker.exists_ofNode?_iff, and_comm, ← Bool.not_eq_true, hparen]
  simp

end Source

/-- A class with a decorator behind a comment, and one in parentheses behind a blank. -/
def decoratedClass : Source :=
  ⟨"src/items.ts", ("@/* ( */Registries.Register(\"Inventory\") @ (Register(\"Items\")) " ++
    "class Foo \x7b\x7d").toList⟩

/-- Of its two decorators the one with the comment is a marker. -/
theorem markers_of_decoratedClass : ∃ items site, decoratedClass.items = .ok items ∧
    site ∈ classSitesAll "" items ∧ site.decorators.length = 2 ∧
    (site.decorators.filterMap Marker.ofNode?).map (·.name) = ["Registries.Register"] ∧
    ∀ span expression, .decorator span expression ∈ site.decorators →
      ∃ gap first rest, decoratedClass.code.drop span.start = '@' :: (gap ++ first :: rest) ∧
        IsGap gap ∧ (first = '(' ∨ isWordChar first = true) ∧
        ∀ name, (∃ arguments, Marker.ofNode? (.decorator span expression) =
          some ⟨name, arguments⟩) ↔
            NamesMarker expression name ∧
              (first = '(' → ∃ c ∈ gap, Text.isBlank c = false) := by
  obtain ⟨items, site, hitems, hsite, h⟩ := Source.exists_site_of_any (s := decoratedClass)
    (p := fun _ site => site.decorators.length = 2 &&
      (site.decorators.filterMap Marker.ofNode?).map (·.name) = ["Registries.Register"])
    (by decide +kernel)
  obtain ⟨hlength, hmarkers⟩ := Bool.and_eq_true_iff.mp h
  exact ⟨items, site, hitems, hsite, of_decide_eq_true hlength, of_decide_eq_true hmarkers,
    (Source.marker_of_decorator_iff hitems hsite).2⟩

/-- A class with a decorator in parentheses behind a comment. -/
def commentedClass : Source :=
  ⟨"src/items.ts", "@/**/(Register(\"Inventory\")) class Foo \x7b\x7d".toList⟩

/-- This decorator is in parentheses, and a marker. -/
theorem commented_parenthesis_is_marker : ∃ items site span expression gap rest m,
    commentedClass.items = .ok items ∧ site ∈ classSitesAll "" items ∧
    .decorator span expression ∈ site.decorators ∧
    commentedClass.code.drop span.start = '@' :: (gap ++ '(' :: rest) ∧ IsGap gap ∧
    Marker.ofNode? (.decorator span expression) = some m := by
  obtain ⟨items, site, hitems, hsite, h⟩ := Source.exists_site_of_any (s := commentedClass)
    (p := fun _ site => site.decorators.any fun node =>
      (Marker.ofNode? node).isSome && node.span.start = 0)
    (by decide +kernel)
  obtain ⟨node, hnode, hp⟩ := List.any_eq_true.mp h
  obtain ⟨hmarker, hstart⟩ := Bool.and_eq_true_iff.mp hp
  obtain ⟨m, hm⟩ := Option.isSome_iff_exists.mp hmarker
  obtain ⟨expression, hdecorator⟩ := Marker.exists_of_ofNode? hm
  rw [hdecorator] at hnode hm
  refine ⟨items, site, node.span, expression, ['/', '*', '*', '/'],
    "Register(\"Inventory\")) class Foo \x7b\x7d".toList, m, hitems, hsite, hnode, ?_, ?_, hm⟩
  · rw [of_decide_eq_true hstart]
    decide
  · have hopen : ¬ ['*', '/'] <:+: ([] : List Char) := by decide
    exact .blockComment hopen .nil

end ClassRegistry
