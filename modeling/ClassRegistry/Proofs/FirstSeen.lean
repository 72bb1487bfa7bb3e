import Mathlib.Data.List.Induction
import Mathlib.Data.List.Nodup

/-!
# Values in the order first seen

Erasing the repetitions of a list keeps each value at its first place, so a list that grows at its
end adds a value only when it is new.
-/

namespace ClassRegistry

variable {α : Type} [BEq α] [LawfulBEq α]

/-- A known value at the end is erased, a new one is kept. -/
theorem eraseDups_concat (values : List α) (value : α) :
    (values ++ [value]).eraseDups =
      if value ∈ values then values.eraseDups else values.eraseDups ++ [value] := by
  rw [List.eraseDups_append]
  by_cases h : value ∈ values
  · simp [List.removeAll, h]
  · simp [List.removeAll, h, List.eraseDups_cons]

/-- No value is left twice. -/
theorem nodup_eraseDups (values : List α) : values.eraseDups.Nodup := by
  induction values using List.reverseRecOn with
  | nil => exact List.nodup_nil
  | append_singleton values value ih =>
      rw [eraseDups_concat]
      by_cases h : value ∈ values
      · rw [if_pos h]
        exact ih
      · rw [if_neg h, List.nodup_append_comm, List.singleton_append, List.nodup_cons]
        exact ⟨mt List.mem_eraseDups.mp h, ih⟩

/-- What is left of the values that fit is what fits of the values that are left. -/
theorem eraseDups_filter (values : List α) (p : α → Bool) :
    (values.filter p).eraseDups = values.eraseDups.filter p := by
  induction values using List.reverseRecOn with
  | nil => rfl
  | append_singleton values value ih =>
      rw [List.filter_append, eraseDups_concat, List.filter_singleton]
      by_cases hp : p value = true
      · rw [hp, cond_true, eraseDups_concat, ih]
        by_cases hknown : value ∈ values
        · rw [if_pos (List.mem_filter.mpr ⟨hknown, hp⟩), if_pos hknown]
        · have hnew : value ∉ values.filter p := fun h => hknown (List.mem_filter.mp h).1
          rw [if_neg hnew, if_neg hknown, List.filter_append, List.filter_singleton, hp, cond_true]
      · have hp : p value = false := by simpa using hp
        rw [hp, cond_false, List.append_nil, ih]
        by_cases hknown : value ∈ values
        · rw [if_pos hknown]
        · rw [if_neg hknown, List.filter_append, List.filter_singleton, hp, cond_false,
            List.append_nil]

/-- Of a value that is repeated, one is left. -/
theorem eraseDups_eq_singleton {values : List α} {value : α} (hne : values ≠ [])
    (h : ∀ v ∈ values, v = value) : values.eraseDups = [value] := by
  have hall : ∀ v ∈ values.eraseDups, v = value := fun v hv => h v (List.mem_eraseDups.mp hv)
  have hmem : value ∈ values.eraseDups := by
    obtain ⟨v, hv⟩ := List.exists_mem_of_ne_nil values hne
    exact List.mem_eraseDups.mpr (h v hv ▸ hv)
  have hreplicate := List.eq_replicate_of_mem hall
  have hlength : values.eraseDups.length ≤ 1 := by
    have hnodup := nodup_eraseDups values
    rw [hreplicate, List.nodup_replicate] at hnodup
    exact hnodup
  have hpos := List.length_pos_of_mem hmem
  rw [hreplicate, show values.eraseDups.length = 1 by omega]
  rfl

/-- The values that are left keep their order. -/
theorem eraseDups_sublist (values : List α) : values.eraseDups.Sublist values := by
  induction values using List.reverseRecOn with
  | nil => exact List.Sublist.slnil
  | append_singleton values value ih =>
      rw [eraseDups_concat]
      split
      · exact ih.trans (List.sublist_append_left values [value])
      · exact ih.append_right [value]

theorem length_eraseDups_le (values : List α) : values.eraseDups.length ≤ values.length :=
  (eraseDups_sublist values).length_le

/-- There are as many values left as there were when none is repeated. -/
theorem length_eraseDups_eq_iff {values : List α} :
    values.eraseDups.length = values.length ↔ values.Nodup := by
  induction values using List.reverseRecOn with
  | nil => simp
  | append_singleton values value ih =>
      have hle := length_eraseDups_le values
      rw [eraseDups_concat, List.nodup_append_comm, List.singleton_append, List.nodup_cons, ← ih,
        List.length_append, List.length_singleton]
      by_cases h : value ∈ values
      · rw [if_pos h]
        exact ⟨fun hlength => by omega, fun hnew => absurd h hnew.1⟩
      · rw [if_neg h, List.length_append, List.length_singleton]
        exact ⟨fun hlength => ⟨h, by omega⟩, fun hnew => by omega⟩

end ClassRegistry
