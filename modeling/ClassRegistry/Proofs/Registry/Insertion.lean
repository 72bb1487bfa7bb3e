import ClassRegistry.Registry
import Mathlib.Data.List.Induction
import Mathlib.Data.List.Nodup

/-!
# Registries under a sequence of offers

Registries are built by offering members one after the other, and a run goes on after a refusal.
Every state of such a run is grouped: names are distinct, no registry is empty, and the members of a
registry agree with its name and with the base type of the first one. The answer to an offer and
what it leaves behind are read off the state before it: a refusal changes nothing at all, and an
acceptance adds one member in one place.
-/

namespace ClassRegistry

namespace Registry

/-- A registry has members, and they agree with its name and with the first one's base type. -/
structure IsUniform (r : Registry) : Prop where
  members_ne_nil : r.members ≠ []
  registry_eq : ∀ m ∈ r.members, m.registry = r.name
  baseType_eq : ∀ first, r.canonical? = some first → ∀ m ∈ r.members, m.baseType = first.baseType

/-- A registry is without its first member only when it is empty. -/
theorem canonical?_eq_none_iff {r : Registry} : r.canonical? = none ↔ r.members = [] :=
  List.head?_eq_none_iff

/-- A uniform registry has a first member to compare with. -/
theorem IsUniform.exists_canonical {r : Registry} (h : r.IsUniform) :
    ∃ first, r.canonical? = some first :=
  Option.ne_none_iff_exists'.mp (mt canonical?_eq_none_iff.mp h.members_ne_nil)

/-- A member of the first one's base type is appended. -/
theorem offer_of_baseType_eq {r : Registry} {first m : Member} (hf : r.canonical? = some first)
    (hb : first.baseType = m.baseType) :
    r.offer m = (.ok (), { r with members := r.members ++ [m] }) := by
  simp only [offer, hf, hb, ite_true]

/-- A member of another base type is refused, and the registry is left as it was. -/
theorem offer_of_baseType_ne {r : Registry} {first m : Member} (hf : r.canonical? = some first)
    (hb : first.baseType ≠ m.baseType) : r.offer m = (.error (conflict first m), r) := by
  simp only [offer, hf, hb, ite_false]

/-- A registry opened by its first member is uniform. -/
theorem isUniform_singleton (m : Member) : IsUniform ⟨m.registry, [m]⟩ where
  members_ne_nil := List.cons_ne_nil m []
  registry_eq := by
    intro o ho
    rw [List.mem_singleton.mp ho]
  baseType_eq := by
    intro first hf o ho
    have he : m = first := Option.some.inj hf
    rw [List.mem_singleton.mp ho, he]

/-- A member that agrees with a uniform registry leaves it uniform. -/
theorem IsUniform.append {r : Registry} (h : r.IsUniform) {first m : Member}
    (hf : r.canonical? = some first) (hr : r.name = m.registry)
    (hb : first.baseType = m.baseType) :
    IsUniform { r with members := r.members ++ [m] } where
  members_ne_nil := List.append_ne_nil_of_left_ne_nil h.members_ne_nil [m]
  registry_eq := by
    intro o ho
    rcases List.mem_append.mp ho with ho | ho
    · exact h.registry_eq o ho
    · rw [List.mem_singleton.mp ho, hr]
  baseType_eq := by
    intro other hother o ho
    have he : other = first := by
      simp only [canonical?] at hother hf
      rw [List.head?_append, hf] at hother
      exact (Option.some.inj hother).symm
    subst he
    rcases List.mem_append.mp ho with ho | ho
    · exact h.baseType_eq other hf o ho
    · rw [List.mem_singleton.mp ho, hb]

end Registry

namespace Registries

/-- The registry of a name is the first one that bears it. -/
theorem get?_eq_some_iff {s : Registries} {name : String} {r : Registry} :
    s.get? name = some r ↔ ∃ before after, s = before ++ r :: after ∧ r.name = name ∧
      ∀ o ∈ before, o.name ≠ name := by
  rw [get?, List.find?_eq_some_iff_append]
  simp only [decide_eq_true_eq, Bool.not_eq_true', decide_eq_false_iff_not]
  constructor
  · rintro ⟨hn, before, after, rfl, hb⟩
    exact ⟨before, after, rfl, hn, hb⟩
  · rintro ⟨before, after, rfl, hn, hb⟩
    exact ⟨hn, before, after, rfl, hb⟩

theorem get?_eq_none_iff {s : Registries} {name : String} :
    s.get? name = none ↔ ∀ r ∈ s, r.name ≠ name := by
  simp only [get?, List.find?_eq_none, decide_eq_true_eq, ne_eq]

/-- The first member of a new name opens a registry at the end. -/
theorem offer_of_get?_eq_none {s : Registries} {m : Member} (h : s.get? m.registry = none) :
    s.offer m = (.ok (), s ++ [⟨m.registry, [m]⟩]) := by
  rw [get?_eq_none_iff] at h
  induction s with
  | nil => rfl
  | cons r rest ih =>
      have hne : r.name ≠ m.registry := h r (List.mem_cons_self ..)
      have hrest := ih fun o ho => h o (List.mem_cons_of_mem r ho)
      simp only [offer, hne, ite_false, hrest, List.cons_append]

/-- An offer reaches the first registry of its name and passes over all others. -/
theorem offer_append_cons {before after : Registries} {r : Registry} {m : Member}
    (hb : ∀ o ∈ before, o.name ≠ m.registry) (hr : r.name = m.registry) :
    offer (before ++ r :: after) m = ((r.offer m).1, before ++ (r.offer m).2 :: after) := by
  induction before with
  | nil => simp only [List.nil_append, offer, hr, ite_true]
  | cons o rest ih =>
      have hne : o.name ≠ m.registry := hb o (List.mem_cons_self ..)
      have hrest := ih fun o ho => hb o (List.mem_cons_of_mem _ ho)
      simp only [List.cons_append, offer, hne, ite_false, hrest]

/-- What every state of a run has in common. -/
structure Grouped (s : Registries) : Prop where
  names_nodup : (s.map (·.name)).Nodup
  isUniform : ∀ r ∈ s, r.IsUniform

/-- All that an offer to grouped registries can do: open a registry, add to one, or nothing. -/
theorem Grouped.offer_cases {s : Registries} (h : s.Grouped) (m : Member) :
    (s.get? m.registry = none ∧ s.offer m = (.ok (), s ++ [⟨m.registry, [m]⟩])) ∨
    ∃ before r after first, s = before ++ r :: after ∧ r.name = m.registry ∧
      s.get? m.registry = some r ∧ r.canonical? = some first ∧
      ((first.baseType = m.baseType ∧
          s.offer m = (.ok (), before ++ { r with members := r.members ++ [m] } :: after)) ∨
        (first.baseType ≠ m.baseType ∧ s.offer m = (.error (Registry.conflict first m), s))) := by
  cases hg : s.get? m.registry with
  | none => exact Or.inl ⟨rfl, offer_of_get?_eq_none hg⟩
  | some r =>
      obtain ⟨before, after, rfl, hn, hb⟩ := get?_eq_some_iff.mp hg
      obtain ⟨first, hf⟩ := (h.isUniform r (by simp)).exists_canonical
      refine Or.inr ⟨before, r, after, first, rfl, hn, rfl, hf, ?_⟩
      rw [offer_append_cons hb hn]
      by_cases he : first.baseType = m.baseType
      · rw [Registry.offer_of_baseType_eq hf he]
        exact Or.inl ⟨he, rfl⟩
      · rw [Registry.offer_of_baseType_ne hf he]
        exact Or.inr ⟨he, rfl⟩

/-- A new name at the end keeps registries grouped. -/
theorem Grouped.concat {s : Registries} (h : s.Grouped) {m : Member}
    (hg : s.get? m.registry = none) : Grouped (s ++ [⟨m.registry, [m]⟩]) where
  names_nodup := by
    rw [List.map_append, List.map_singleton, List.nodup_append_comm, List.singleton_append,
      List.nodup_cons]
    refine ⟨?_, h.names_nodup⟩
    intro hm
    obtain ⟨r, hr, hn⟩ := List.mem_map.mp hm
    exact get?_eq_none_iff.mp hg r hr hn
  isUniform := by
    intro r hr
    rcases List.mem_append.mp hr with hr | hr
    · exact h.isUniform r hr
    · rw [List.mem_singleton.mp hr]
      exact Registry.isUniform_singleton m

/-- A uniform registry can stand in for another one of its name. -/
theorem Grouped.replace {before after : Registries} {r new : Registry}
    (h : Grouped (before ++ r :: after)) (hn : new.name = r.name) (hu : new.IsUniform) :
    Grouped (before ++ new :: after) where
  names_nodup := by simpa only [List.map_append, List.map_cons, hn] using h.names_nodup
  isUniform := by
    intro o ho
    simp only [List.mem_append, List.mem_cons] at ho
    rcases ho with ho | rfl | ho
    · exact h.isUniform o (by simp [ho])
    · exact hu
    · exact h.isUniform o (by simp [ho])

/-- An offer keeps registries grouped, whatever the answer. -/
theorem Grouped.offer {s : Registries} (h : s.Grouped) (m : Member) : (s.offer m).2.Grouped := by
  rcases h.offer_cases m with ⟨hg, ho⟩ | ⟨before, r, after, first, rfl, hn, -, hf, ho⟩
  · rw [ho]
    exact h.concat hg
  · rcases ho with ⟨hb, ho⟩ | ⟨-, ho⟩
    · rw [ho]
      exact h.replace rfl ((h.isUniform r (by simp)).append hf hn hb)
    · rw [ho]
      exact h

/-- Inserting a member keeps registries grouped. -/
theorem Grouped.insert {s new : Registries} (h : s.Grouped) {m : Member}
    (hi : s.insert m = .ok new) : new.Grouped := by
  have hoffer := h.offer m
  rw [Registries.insert] at hi
  split at hi
  · rename_i after ho
    rw [ho] at hoffer
    exact Except.ok.inj hi ▸ hoffer
  · cases hi

/-- The registries after a sequence of offers; a refusal does not end it. -/
def offers (s : Registries) (members : List Member) : Registries :=
  members.foldl (fun s m => (s.offer m).2) s

theorem grouped_nil : Grouped [] where
  names_nodup := List.nodup_nil
  isUniform := fun _ hr => absurd hr List.not_mem_nil

/-- Every state of a run is grouped. -/
theorem grouped_offers (members : List Member) : (offers [] members).Grouped := by
  induction members using List.reverseRecOn with
  | nil => exact grouped_nil
  | append_singleton members m ih =>
      rw [offers, List.foldl_append]
      exact ih.offer m

/-- In every state that a run can reach, registries are grouped, and the next offer is refused
exactly when the registry of its name has a first member of another base type. A registry is never
found empty, a refusal leaves everything as it was, and an acceptance either opens a registry at the
end or appends one member to the registry of its name. -/
theorem offer_after_offers (members : List Member) (m : Member) :
    let s := offers [] members
    s.Grouped ∧
    (∀ name, (s.offer m).1 ≠ .error (.emptyRegistry name)) ∧
    ((∃ e, (s.offer m).1 = .error e) ↔ ∃ r first, s.get? m.registry = some r ∧
      r.canonical? = some first ∧ first.baseType ≠ m.baseType) ∧
    (∀ e, (s.offer m).1 = .error e → (s.offer m).2 = s) ∧
    ((s.offer m).1 = .ok () →
      (s.get? m.registry = none ∧ (s.offer m).2 = s ++ [⟨m.registry, [m]⟩]) ∨
      ∃ before r after, s = before ++ r :: after ∧ r.name = m.registry ∧
        (s.offer m).2 = before ++ { r with members := r.members ++ [m] } :: after) := by
  intro s
  have hs : s.Grouped := grouped_offers members
  refine ⟨hs, ?_⟩
  rcases hs.offer_cases m with ⟨hg, ho⟩ | ⟨before, r, after, first, he, hn, hg, hf, ho⟩
  · simp [ho, hg]
  · rcases ho with ⟨hb, ho⟩ | ⟨hb, ho⟩
    · rw [ho]
      refine ⟨by simp, ?_, by simp, fun _ => Or.inr ⟨before, r, after, he, hn, rfl⟩⟩
      simp [hg, hf, hb]
    · rw [ho]
      refine ⟨by simp [Registry.conflict], ?_, by simp, by simp⟩
      simp [hg, hf, hb]

end Registries

end ClassRegistry
