import ClassRegistry.Generated.Specifier
import ClassRegistry.Proofs.FileTree.Plain
import Mathlib.Data.List.Basic

/-!
# Names of modules

A module is named without the ending of its script source, or with that of what the script is
compiled to. The rule looks at the last name of a path only, for no ending has a slash.
-/

namespace ClassRegistry.Path

/-- The name of the module of a file: without the ending of a script source, or with the ending of
what it is compiled to. -/
inductive IsModuleName : String → String → Prop
  | declaration (stem : String) : IsModuleName (stem ++ ".d.ts") stem
  | markup (stem : String) : IsModuleName (stem ++ ".tsx") stem
  | script {stem : String} : ¬ ".d".toList <:+ stem.toList → IsModuleName (stem ++ ".ts") stem
  | esModule (stem : String) : IsModuleName (stem ++ ".mts") (stem ++ ".mjs")
  | commonModule (stem : String) : IsModuleName (stem ++ ".cts") (stem ++ ".cjs")
  | other {name : String} :
    (∀ ending ∈ [".tsx", ".ts", ".mts", ".cts"], ¬ ending.toList <:+ name.toList) →
    IsModuleName name name

/-! ## The rule for endings -/

theorem withoutEnding?_append (ending stem : List Char) :
    withoutEnding? ending (stem ++ ending) = some stem := by
  rw [withoutEnding?, if_pos (List.isSuffixOf_iff_suffix.mpr (List.suffix_append stem ending))]
  simp

theorem withoutEnding?_eq_none {ending text : List Char} (h : ¬ ending <:+ text) :
    withoutEnding? ending text = none := by
  rw [withoutEnding?, if_neg (fun hsuffix => h (List.isSuffixOf_iff_suffix.mp hsuffix))]

/-- Every file has a module name. -/
theorem exists_isModuleName (name : String) : ∃ moduleName, IsModuleName name moduleName := by
  have hstem : ∀ ending : String, ending.toList <:+ name.toList →
      ∃ stem, name = stem ++ ending := by
    rintro ending ⟨stem, hstem⟩
    refine ⟨String.ofList stem, ?_⟩
    rw [← String.toList_inj, String.toList_append, String.toList_ofList, hstem]
  by_cases hmarkup : ".tsx".toList <:+ name.toList
  · obtain ⟨stem, rfl⟩ := hstem _ hmarkup
    exact ⟨_, .markup stem⟩
  by_cases hscript : ".ts".toList <:+ name.toList
  · obtain ⟨stem, rfl⟩ := hstem _ hscript
    -- a declaration ends like a script as well
    by_cases hdeclaration : ".d".toList <:+ stem.toList
    · obtain ⟨front, hfront⟩ := hdeclaration
      have hname : stem ++ ".ts" = String.ofList front ++ ".d.ts" := by
        rw [← String.toList_inj, String.toList_append, String.toList_append, ← hfront]
        simp
      rw [hname]
      exact ⟨_, .declaration (String.ofList front)⟩
    · exact ⟨_, .script hdeclaration⟩
  by_cases hes : ".mts".toList <:+ name.toList
  · obtain ⟨stem, rfl⟩ := hstem _ hes
    exact ⟨_, .esModule stem⟩
  by_cases hcommon : ".cts".toList <:+ name.toList
  · obtain ⟨stem, rfl⟩ := hstem _ hcommon
    exact ⟨_, .commonModule stem⟩
  refine ⟨name, .other ?_⟩
  simp only [List.forall_mem_cons]
  exact ⟨hmarkup, hscript, hes, hcommon, fun _ h => absurd h List.not_mem_nil⟩

/-- What is written for a name by an entry of the table, when its ending fits. -/
def moduleNameBy? (name : String) (entry : String × String) : Option String :=
  (withoutEnding? entry.1.toList name.toList).map fun stem => String.ofList stem ++ entry.2

/-- The first entry of the table that fits counts. -/
theorem withoutScriptEnding_eq (name : String) :
    withoutScriptEnding name = (scriptEndings.findSome? (moduleNameBy? name)).getD name :=
  rfl

theorem moduleNameBy?_eq_none {name : String} {entry : String × String}
    (h : ¬ entry.1.toList <:+ name.toList) : moduleNameBy? name entry = none := by
  rw [moduleNameBy?, withoutEnding?_eq_none h, Option.map_none]

/-- The ending of the first entry that fits is replaced. -/
theorem withoutScriptEnding_append {front back : List (String × String)} {ending written : String}
    (hlist : scriptEndings = front ++ (ending, written) :: back) {stem : String}
    (hfront : ∀ entry ∈ front, ¬ entry.1.toList <:+ (stem ++ ending).toList) :
    withoutScriptEnding (stem ++ ending) = stem ++ written := by
  have hnone : front.findSome? (moduleNameBy? (stem ++ ending)) = none :=
    List.findSome?_eq_none_iff.mpr fun entry hentry => moduleNameBy?_eq_none (hfront entry hentry)
  have hfits : moduleNameBy? (stem ++ ending) (ending, written) = some (stem ++ written) := by
    rw [moduleNameBy?, String.toList_append, withoutEnding?_append, Option.map_some,
      String.ofList_toList]
  rw [withoutScriptEnding_eq, hlist, List.findSome?_append, hnone, List.findSome?_cons, hfits]
  rfl

/-- A name stays as it is when no ending fits. -/
theorem withoutScriptEnding_eq_self {name : String}
    (h : ∀ entry ∈ scriptEndings, ¬ entry.1.toList <:+ name.toList) :
    withoutScriptEnding name = name := by
  have hnone : scriptEndings.findSome? (moduleNameBy? name) = none :=
    List.findSome?_eq_none_iff.mpr fun entry hentry => moduleNameBy?_eq_none (h entry hentry)
  rw [withoutScriptEnding_eq, hnone]
  rfl

/-- Endings are compared from their last characters on. -/
theorem suffix_append_iff {ending stem other : String} : ending.toList <:+ (stem ++ other).toList ↔
    ending.toList.reverse <+: other.toList.reverse ++ stem.toList.reverse := by
  rw [String.toList_append, ← List.reverse_append, List.reverse_prefix]

/-- The name of a module is that which is written for the file. -/
theorem IsModuleName.eq {name moduleName : String} (h : IsModuleName name moduleName) :
    withoutScriptEnding name = moduleName := by
  -- the table is looked up in order, so no earlier ending may fit
  cases h with
  | declaration stem =>
      have hfront : ∀ entry ∈ ([] : List (String × String)),
          ¬ entry.1.toList <:+ (moduleName ++ ".d.ts").toList := by simp
      rw [withoutScriptEnding_append rfl hfront, String.append_empty]
  | markup stem =>
      have hfront : ∀ entry ∈ [(".d.ts", "")],
          ¬ entry.1.toList <:+ (moduleName ++ ".tsx").toList := by
        simp only [List.forall_mem_singleton, suffix_append_iff]
        simp
      rw [withoutScriptEnding_append rfl hfront, String.append_empty]
  | script hdeclaration =>
      have hfront : ∀ entry ∈ [(".d.ts", ""), (".tsx", "")],
          ¬ entry.1.toList <:+ (moduleName ++ ".ts").toList := by
        rw [← List.reverse_prefix] at hdeclaration
        simp only [List.forall_mem_cons, suffix_append_iff]
        simpa using hdeclaration
      rw [withoutScriptEnding_append rfl hfront, String.append_empty]
  | esModule stem =>
      have hfront : ∀ entry ∈ [(".d.ts", ""), (".tsx", ""), (".ts", "")],
          ¬ entry.1.toList <:+ (stem ++ ".mts").toList := by
        simp only [List.forall_mem_cons, suffix_append_iff]
        simp
      exact withoutScriptEnding_append rfl hfront
  | commonModule stem =>
      have hfront : ∀ entry ∈ [(".d.ts", ""), (".tsx", ""), (".ts", ""), (".mts", ".mjs")],
          ¬ entry.1.toList <:+ (stem ++ ".cts").toList := by
        simp only [List.forall_mem_cons, suffix_append_iff]
        simp
      exact withoutScriptEnding_append rfl hfront
  | other hother =>
      refine withoutScriptEnding_eq_self ?_
      simp only [List.forall_mem_cons] at hother
      obtain ⟨hmarkup, hscript, hes, hcommon, -⟩ := hother
      have hdeclaration : ¬ ".d.ts".toList <:+ name.toList := fun hsuffix =>
        hscript (List.IsSuffix.trans ⟨".d".toList, rfl⟩ hsuffix)
      simp only [scriptEndings, List.forall_mem_cons]
      exact ⟨hdeclaration, hmarkup, hscript, hes, hcommon, fun _ h => absurd h List.not_mem_nil⟩

/-- What is written for a file is the name of its module. -/
theorem isModuleName_withoutScriptEnding (name : String) :
    IsModuleName name (withoutScriptEnding name) := by
  obtain ⟨moduleName, h⟩ := exists_isModuleName name
  rw [h.eq]
  exact h

/-! ## Characters -/

/-- A character of no ending is in the name of a module when it is in that of the file. -/
theorem IsModuleName.mem_iff {name moduleName : String} (h : IsModuleName name moduleName)
    {c : Char} (hc : c ∉ ".dtsxmcj".toList) :
    c ∈ moduleName.toList ↔ c ∈ name.toList := by
  have hending : ∀ ending : String, ending.toList ⊆ ".dtsxmcj".toList →
      ∀ stem : String, c ∈ (stem ++ ending).toList ↔ c ∈ stem.toList := by
    intro ending hsub stem
    rw [String.toList_append, List.mem_append]
    exact or_iff_left fun hmem => hc (hsub hmem)
  cases h with
  | declaration stem => rw [hending ".d.ts" (by decide)]
  | markup stem => rw [hending ".tsx" (by decide)]
  | script _ => rw [hending ".ts" (by decide)]
  | esModule stem => rw [hending ".mjs" (by decide), hending ".mts" (by decide)]
  | commonModule stem => rw [hending ".cjs" (by decide), hending ".cts" (by decide)]
  | other _ => exact Iff.rfl

/-- The rule for endings looks at what stands behind the last slash. -/
theorem withoutScriptEnding_append_slash (front back : String) :
    withoutScriptEnding (front ++ "/" ++ back) = front ++ "/" ++ withoutScriptEnding back := by
  have hsuffix : ∀ ending : String, '/' ∉ ending.toList → ∀ name : String,
      (ending.toList <:+ (front ++ "/" ++ name).toList ↔ ending.toList <:+ name.toList) := by
    intro ending hslash name
    have hchars : (front ++ "/" ++ name).toList = front.toList ++ '/' :: name.toList := by
      simp [String.toList_append]
    rw [hchars, suffix_append_slash_iff hslash]
  refine IsModuleName.eq ?_
  have hmodule := isModuleName_withoutScriptEnding back
  -- by the way in which the last name gets its module name
  generalize withoutScriptEnding back = moduleName at hmodule
  cases hmodule with
  | declaration stem =>
      rw [← String.append_assoc]
      exact .declaration _
  | markup stem =>
      rw [← String.append_assoc]
      exact .markup _
  | script hdeclaration =>
      rw [← String.append_assoc]
      exact .script fun h => hdeclaration ((hsuffix ".d" (by decide) _).mp h)
  | esModule stem =>
      rw [← String.append_assoc, ← String.append_assoc]
      exact .esModule _
  | commonModule stem =>
      rw [← String.append_assoc, ← String.append_assoc]
      exact .commonModule _
  | other hother =>
      refine .other fun ending hending h => hother ending hending ?_
      have hslash : ∀ ending ∈ [".tsx", ".ts", ".mts", ".cts"], '/' ∉ ending.toList := by decide
      exact (hsuffix ending (hslash ending hending) back).mp h

end ClassRegistry.Path
