import ClassRegistry.FileTree
import Mathlib.Data.List.Basic

/-!
# Entries and their addresses

What is found at an address is one of the entries of a tree, so the entries below a directory and
the names in it are told by what is found behind its address.
-/

namespace ClassRegistry.FileTree

variable {tree : FileTree} {address : Address}

/-- Something stands at an address when an entry has it. -/
theorem get?_ne_none_iff (hne : address ≠ []) :
    tree.get? address ≠ none ↔ ∃ entry, (address, entry) ∈ tree.entries := by
  rw [get?, if_neg hne, ← Option.isSome_iff_ne_none, Option.isSome_map, List.find?_isSome]
  constructor
  · rintro ⟨⟨found, entry⟩, hmem, hitem⟩
    obtain rfl : found = address := by simpa using hitem
    exact ⟨entry, hmem⟩
  · rintro ⟨entry, hmem⟩
    exact ⟨(address, entry), hmem, decide_eq_true rfl⟩

/-- The entries below an address are those with a longer one that starts with it. -/
theorem mem_below {names : Address} {entry : Entry} :
    (names, entry) ∈ tree.below address ↔
      names ≠ [] ∧ (address ++ names, entry) ∈ tree.entries := by
  rw [below, List.mem_filterMap]
  constructor
  · rintro ⟨⟨longer, found⟩, hmem, hitem⟩
    split at hitem
    · rename_i hprefix
      rw [Bool.and_eq_true, List.isPrefixOf_iff_prefix, decide_eq_true_eq] at hprefix
      obtain ⟨⟨more, rfl⟩, hlength⟩ := hprefix
      obtain ⟨rfl, rfl⟩ := Prod.mk.inj (Option.some.inj hitem)
      rw [List.drop_left]
      refine ⟨?_, hmem⟩
      rintro rfl
      simp at hlength
    · cases hitem
  · rintro ⟨hne, hmem⟩
    refine ⟨(address ++ names, entry), hmem, ?_⟩
    have hlength : address.length < (address ++ names).length := by
      have hpos := List.length_pos_of_ne_nil hne
      rw [List.length_append]
      omega
    rw [if_pos]
    · rw [List.drop_left]
    · rw [Bool.and_eq_true, List.isPrefixOf_iff_prefix, decide_eq_true_eq]
      exact ⟨List.prefix_append address names, hlength⟩

/-- Names lead below an address when something stands there. -/
theorem exists_mem_below {names : Address} : (∃ entry, (names, entry) ∈ tree.below address) ↔
    names ≠ [] ∧ tree.get? (address ++ names) ≠ none := by
  simp only [mem_below, exists_and_left]
  refine and_congr_right fun hne => ?_
  rw [get?_ne_none_iff (List.append_ne_nil_of_right_ne_nil address hne)]

/-- The names in a directory are those under which something stands there. -/
theorem mem_namesIn {name : String} :
    name ∈ tree.namesIn address ↔ tree.get? (address ++ [name]) ≠ none := by
  have hbelow : name ∈ tree.namesIn address ↔ ∃ entry, ([name], entry) ∈ tree.below address := by
    rw [namesIn, List.mem_filterMap]
    constructor
    · rintro ⟨⟨names, entry⟩, hmem, hitem⟩
      split at hitem
      · rename_i found other heq
        obtain ⟨rfl, rfl⟩ := Prod.mk.inj heq
        obtain rfl := Option.some.inj hitem
        exact ⟨entry, hmem⟩
      · cases hitem
    · rintro ⟨entry, hmem⟩
      exact ⟨([name], entry), hmem, rfl⟩
  rw [hbelow, exists_mem_below]
  exact and_iff_right (List.cons_ne_nil name [])

end ClassRegistry.FileTree
