import ClassRegistry.Proofs.Declaration.Sites
import ClassRegistry.Proofs.Source.Lines
import ClassRegistry.Registry
import ClassRegistry.Report.Diagnostic
import Mathlib.Algebra.Ring.Nat

/-!
# The caret under a class name

The place of a class is recorded in columns, and the caret of a diagnostic takes as many characters
of the source line as there are columns before the place. The two agree exactly when the characters
before the name take as many columns as they are. A tab, a wide character or one without width
before the name can shift the caret away from it.
-/

namespace ClassRegistry

open TypeScript (Node isWordChar)

namespace Source

/-- The caret takes a character for each column that the text before the place takes. -/
theorem caretLead_context (s : Source) {offset : Nat} {c : Char}
    (hc : s.code[offset]? = some c) (hne : c ≠ '\n') :
    (s.context offset).caretLead = (textBefore s.code offset ++
      c :: (s.code.drop (offset + 1)).takeWhile (· ≠ '\n')).take
        ((textBefore s.code offset).map Text.columns).sum := by
  rw [SourceContext.caretLead, toList_sourceLine_context s hc hne]
  simp only [context, location, linePart_eq hc hne, Nat.add_sub_cancel, List.sum_eq_foldr]

/-- The caret leaves exactly the text before the place when that text takes a column for each of its
characters on the whole. -/
theorem caretLead_context_eq_iff (s : Source) {offset : Nat} {c : Char}
    (hc : s.code[offset]? = some c) (hne : c ≠ '\n') :
    (s.context offset).caretLead = textBefore s.code offset ↔
      ((textBefore s.code offset).map Text.columns).sum = (textBefore s.code offset).length := by
  rw [caretLead_context s hc hne]
  constructor
  · intro h
    -- The character at the place is shown, so a longer lead would not stop before it.
    have hlength := congrArg List.length h
    rw [List.length_take, List.length_append, List.length_cons] at hlength
    omega
  · intro h
    rw [h, List.take_left]

end Source

namespace RegisterError

/-- The lines that show the place of an error are printed as they are. -/
theorem lines_context_isInfix {e : RegisterError} {context : SourceContext}
    (h : e.context? = some context) (isColored : Bool) :
    context.lines isColored <:+: e.lines isColored := by
  rw [lines, h]
  simp only [Option.map_some, Option.getD_some, List.append_assoc]
  exact (List.prefix_append ..).isInfix.trans (List.suffix_append ..).isInfix

end RegisterError

/-- The two lines of a diagnostic that show a source line and the caret below it, with the given
text free before the caret. -/
def SourceContext.caretLines (isColored : Bool) (c : SourceContext) (lead : List Char) :
    List String :=
  let bar := Style.paint isColored [.blue] "|"
  [Style.paint isColored [.blue] (toString c.location.line) ++ " " ++ bar ++ " " ++ c.sourceLine,
    blanks c.gutter ++ " " ++ bar ++ " " ++
      (blanks (Text.width lead) ++ Style.paint isColored [.red] "^")]

/-- A diagnostic shows the source line and below it the caret behind its lead. -/
theorem SourceContext.caretLines_isInfix (isColored : Bool) (c : SourceContext) :
    c.caretLines isColored c.caretLead <:+: c.lines isColored :=
  (List.suffix_append [_, _] _).isInfix

/-- For every class that is declared in a source text and every error at its place: the shown line
is the text before the class name, then the name, and the caret below it leaves free the text before
the name exactly when that text takes a column for each of its characters on the whole. -/
theorem caret_under_name_iff {s : Source} {items : List (Node s.code)}
    (hitems : s.items = .ok items) {site : ClassSite s.code}
    (hsite : site ∈ classSitesAll "" items) {e : RegisterError}
    (he : e.context? = some (s.declaration (ModuleScope.ofItems? items) site).context)
    (isColored : Bool) :
    let d := s.declaration (ModuleScope.ofItems? items) site
    let before := Source.textBefore s.code site.name.span.start
    (∃ declarations, s.declarations = .ok declarations ∧ d ∈ declarations) ∧
    (∃ c rest, s.code[site.name.span.start]? = some c ∧ isWordChar c = true ∧
      d.context.sourceLine.toList = before ++ c :: rest) ∧
    d.context.caretLines isColored d.context.caretLead <:+: e.lines isColored ∧
    (d.context.caretLead = before ↔ (before.map Text.columns).sum = before.length) := by
  intro d before
  obtain ⟨c, hc, hword, hne⟩ := Source.exists_getElem?_of_ident site.name
  refine ⟨⟨s.declarationsOf items, ?_, ?_⟩, ?_, ?_, ?_⟩
  · rw [Source.declarations, hitems]
    rfl
  · exact List.mem_map_of_mem hsite
  · exact ⟨c, _, hc, hword, s.toList_sourceLine_context hc hne⟩
  · exact (d.context.caretLines_isInfix isColored).trans
      (RegisterError.lines_context_isInfix he isColored)
  · exact s.caretLead_context_eq_iff hc hne

/-- A class with a marker that gives no name. -/
def unnamedClass : Source :=
  ⟨"src/items.ts", "@Register() class Foo \x7b\x7d".toList⟩

/-- Behind ordinary characters the caret stands under the name. -/
theorem caret_under_name_of_unnamedClass : ∃ items site e,
    unnamedClass.items = .ok items ∧ site ∈ classSitesAll "" items ∧
    Registries.collect (unnamedClass.declarationsOf items) .standard = .error e ∧
    e.context? = some (unnamedClass.declaration (ModuleScope.ofItems? items) site).context ∧
    (unnamedClass.declaration (ModuleScope.ofItems? items) site).context.caretLead =
      "@Register() class ".toList := by
  obtain ⟨items, site, hitems, hsite, h⟩ := Source.exists_site_of_any (s := unnamedClass)
    (p := fun items site =>
      let context := (unnamedClass.declaration (ModuleScope.ofItems? items) site).context
      decide (Registries.collect (unnamedClass.declarationsOf items) .standard =
          .error (.missingArgument "Foo" "Register" context) ∧
        Source.textBefore unnamedClass.code site.name.span.start = "@Register() class ".toList))
    (by decide +kernel)
  obtain ⟨hcollect, hbefore⟩ := of_decide_eq_true h
  refine ⟨items, site, _, hitems, hsite, hcollect, rfl, ?_⟩
  obtain ⟨-, -, -, hiff⟩ := caret_under_name_iff hitems hsite
    (e := .missingArgument "Foo" "Register" _) rfl false
  rw [hbefore] at hiff
  exact hiff.mpr (by decide +kernel)

/-- The same class behind a comment with wide characters. -/
def unnamedClassBehindComment : Source :=
  ⟨"src/items.ts", "/* 名前 */ @Register() class Foo \x7b\x7d".toList⟩

/-- Behind wide characters the caret leaves free more than the text before the name. -/
theorem caret_misses_name_behind_comment : ∃ items site e,
    unnamedClassBehindComment.items = .ok items ∧ site ∈ classSitesAll "" items ∧
    Registries.collect (unnamedClassBehindComment.declarationsOf items) .standard = .error e ∧
    let context :=
      (unnamedClassBehindComment.declaration (ModuleScope.ofItems? items) site).context
    let before := Source.textBefore unnamedClassBehindComment.code site.name.span.start
    e.context? = some context ∧ context.caretLead ≠ before ∧
      context.caretPadding ≠ Text.width before := by
  obtain ⟨items, site, hitems, hsite, h⟩ :=
    Source.exists_site_of_any (s := unnamedClassBehindComment) (p := fun items site =>
      let context :=
        (unnamedClassBehindComment.declaration (ModuleScope.ofItems? items) site).context
      let before := Source.textBefore unnamedClassBehindComment.code site.name.span.start
      decide (Registries.collect (unnamedClassBehindComment.declarationsOf items) .standard =
          .error (.missingArgument "Foo" "Register" context) ∧
        context.caretLead ≠ before ∧ context.caretPadding ≠ Text.width before))
    (by decide +kernel)
  obtain ⟨hcollect, hlead, hpadding⟩ := of_decide_eq_true h
  exact ⟨items, site, _, hitems, hsite, hcollect, rfl, hlead, hpadding⟩

end ClassRegistry
