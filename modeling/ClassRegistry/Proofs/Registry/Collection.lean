import ClassRegistry.Proofs.FirstSeen
import ClassRegistry.Proofs.Registry.Insertion
import Mathlib.Order.Bounds.Defs

/-!
# Collection as one reading of the whole list

The collection pass goes through the declarations one by one and ends at the first failure. Here its
result is described without a pass. Declarations that none offends give their members grouped by
registry, names in the order first seen. Otherwise the first offence alone decides, and what comes
after it does not matter: it is either a declaration that fails on its own or a member that does not
share the base type of an earlier one.
-/

namespace ClassRegistry

namespace Registries

/-! ## Grouping members -/

/-- Members grouped by registry: the names in the order first seen, and under each name the members
that bear it, in order. -/
def ofMembers (members : List Member) : Registries :=
  (members.map (·.registry)).eraseDups.map fun name =>
    ⟨name, members.filter (·.registry = name)⟩

theorem map_name_ofMembers (members : List Member) :
    (ofMembers members).map (·.name) = (members.map (·.registry)).eraseDups := by
  simp only [ofMembers, List.map_map, Function.comp_def, List.map_id']

/-- A name that no member bears has no registry. -/
theorem get?_ofMembers_eq_none {members : List Member} {name : String}
    (h : ∀ m ∈ members, m.registry ≠ name) : (ofMembers members).get? name = none := by
  rw [get?_eq_none_iff]
  intro r hr
  have hn : r.name ∈ (members.map (·.registry)).eraseDups := by
    rw [← map_name_ofMembers]
    exact List.mem_map_of_mem hr
  obtain ⟨m, hm, he⟩ := List.mem_map.mp (List.mem_eraseDups.mp hn)
  rw [← he]
  exact h m hm

/-- A name that a member bears has a registry, which holds all the members of that name. -/
theorem get?_ofMembers_eq_some {members : List Member} {m : Member} (h : m ∈ members) :
    (ofMembers members).get? m.registry =
      some ⟨m.registry, members.filter (·.registry = m.registry)⟩ := by
  have hn : m.registry ∈ (members.map (·.registry)).eraseDups :=
    List.mem_eraseDups.mpr (List.mem_map_of_mem h)
  have hf : (members.map (·.registry)).eraseDups.find? (fun name => decide (name = m.registry)) =
      some m.registry := by
    cases he : (members.map (·.registry)).eraseDups.find?
        (fun name => decide (name = m.registry)) with
    | none => exact absurd (by simp) (List.find?_eq_none.mp he _ hn)
    | some name =>
        have hname : name = m.registry := by simpa using List.find?_some he
        rw [hname]
  simp only [get?, ofMembers, List.find?_map, Function.comp_def, hf, Option.map_some]

/-- A name that a member bears has one place among the registries. -/
theorem ofMembers_eq_append_cons {members : List Member} {name : String}
    (h : ∃ m ∈ members, m.registry = name) :
    ∃ before after, ofMembers members =
        before ++ ⟨name, members.filter (·.registry = name)⟩ :: after ∧
      ∀ o ∈ before, o.name ≠ name := by
  obtain ⟨m, hm, rfl⟩ := h
  obtain ⟨before, after, hs, -, hb⟩ := get?_eq_some_iff.mp (get?_ofMembers_eq_some hm)
  exact ⟨before, after, hs, hb⟩

/-- A member of a new name adds a registry at the end. -/
theorem ofMembers_concat_of_new {members : List Member} {m : Member}
    (h : ∀ o ∈ members, o.registry ≠ m.registry) :
    ofMembers (members ++ [m]) = ofMembers members ++ [⟨m.registry, [m]⟩] := by
  have hn : m.registry ∉ members.map (·.registry) := by
    intro hm
    obtain ⟨o, ho, he⟩ := List.mem_map.mp hm
    exact h o ho he
  have hf : members.filter (·.registry = m.registry) = [] := by
    simpa only [List.filter_eq_nil_iff, decide_eq_true_eq] using h
  rw [ofMembers, List.map_append, List.map_singleton, eraseDups_concat]
  simp only [hn, ite_false, List.map_append, List.map_singleton, List.filter_append, hf,
    List.filter_singleton, decide_true, List.nil_append, cond_true]
  refine congrArg (· ++ _) (List.map_congr_left ?_)
  intro name hname
  have hne : m.registry ≠ name := by
    rintro rfl
    exact hn (List.mem_eraseDups.mp hname)
  simp only [hne, decide_false, cond_false, List.append_nil]

/-- A member of a known name is appended to the registry of that name, and nothing else changes. -/
theorem ofMembers_concat_of_known {members : List Member} {m : Member} {before after : Registries}
    {r : Registry} (h : ofMembers members = before ++ r :: after) (hr : r.name = m.registry) :
    ofMembers (members ++ [m]) =
      before ++ { r with members := r.members ++ [m] } :: after := by
  have hnames := map_name_ofMembers members
  rw [h] at hnames
  have hknown : m.registry ∈ members.map (·.registry) := by
    rw [← List.mem_eraseDups, ← hnames, ← hr]
    simp
  have hdup := nodup_eraseDups (members.map (·.registry))
  rw [← hnames, List.map_append, List.map_cons, List.nodup_middle, List.nodup_cons] at hdup
  -- grouping once more extends the registry of this name, which is the only one
  let extend (o : Registry) : Registry :=
    if o.name = m.registry then { o with members := o.members ++ [m] } else o
  have hother {o : Registry} (ho : o ∈ before ++ after) : extend o = o := by
    have hne : o.name ≠ m.registry := by
      intro he
      apply hdup.1
      rw [hr, ← he, ← List.map_append]
      exact List.mem_map_of_mem ho
    simp only [extend, hne, ite_false]
  have hextend : ofMembers (members ++ [m]) = (ofMembers members).map extend := by
    rw [ofMembers, ofMembers, List.map_append, List.map_singleton, eraseDups_concat,
      if_pos hknown, List.map_map]
    refine List.map_congr_left ?_
    intro name _
    by_cases he : m.registry = name
    · simp [extend, he]
    · simp [extend, he, Ne.symm he]
  rw [hextend, h, List.map_append, List.map_cons,
    List.map_congr_left fun o ho => hother (List.mem_append_left after ho),
    List.map_congr_left fun o ho => hother (List.mem_append_right before ho)]
  simp [extend, hr]

/-- Grouping loses no member and gives none twice. -/
theorem flatMap_members_ofMembers (members : List Member) :
    ((ofMembers members).flatMap (·.members)).Perm members := by
  induction members using List.reverseRecOn with
  | nil => exact List.Perm.refl []
  | append_singleton members m ih =>
      by_cases h : ∃ o ∈ members, o.registry = m.registry
      · obtain ⟨before, after, hs, -⟩ := ofMembers_eq_append_cons h
        rw [ofMembers_concat_of_known hs rfl]
        rw [hs] at ih
        simp only [List.flatMap_append, List.flatMap_cons] at ih ⊢
        refine List.Perm.trans ?_ (ih.append_right [m])
        simp only [List.append_assoc]
        refine List.Perm.append_left _ (List.Perm.append_left _ ?_)
        exact List.perm_append_comm
      · rw [ofMembers_concat_of_new fun o ho he => h ⟨o, ho, he⟩, List.flatMap_append]
        exact ih.append_right [m]

/-! ## Offering a member to grouped members -/

/-- The first member of a registry is the first one that bears its name. -/
theorem canonical?_filter (members : List Member) (name : String) :
    Registry.canonical? ⟨name, members.filter (·.registry = name)⟩ =
      members.find? (·.registry = name) :=
  List.head?_filter ..

/-- A member that shares the base type of all earlier ones of its registry joins them. -/
theorem offer_ofMembers {members : List Member} {m : Member}
    (h : ∀ o ∈ members, o.registry = m.registry → o.baseType = m.baseType) :
    (ofMembers members).offer m = (.ok (), ofMembers (members ++ [m])) := by
  by_cases hknown : ∃ o ∈ members, o.registry = m.registry
  · obtain ⟨before, after, hs, hb⟩ := ofMembers_eq_append_cons hknown
    obtain ⟨first, hf⟩ : ∃ first, members.find? (·.registry = m.registry) = some first :=
      Option.isSome_iff_exists.mp (List.find?_isSome.mpr (by simpa using hknown))
    have hfirst : first.baseType = m.baseType :=
      h first (List.mem_of_find?_eq_some hf) (by simpa using List.find?_some hf)
    rw [ofMembers_concat_of_known hs rfl, hs, offer_append_cons hb rfl,
      Registry.offer_of_baseType_eq ((canonical?_filter ..).trans hf) hfirst]
  · have hnew : ∀ o ∈ members, o.registry ≠ m.registry := fun o ho he => hknown ⟨o, ho, he⟩
    rw [offer_of_get?_eq_none (get?_ofMembers_eq_none hnew), ofMembers_concat_of_new hnew]

/-- A member that does not share the base type of the first one of its registry is refused. -/
theorem offer_ofMembers_of_conflict {members : List Member} {first m : Member}
    (hf : members.find? (·.registry = m.registry) = some first)
    (hb : first.baseType ≠ m.baseType) :
    (ofMembers members).offer m = (.error (Registry.conflict first m), ofMembers members) := by
  have he : first.registry = m.registry := by simpa using List.find?_some hf
  obtain ⟨before, after, hs, hbefore⟩ :=
    ofMembers_eq_append_cons ⟨first, List.mem_of_find?_eq_some hf, he⟩
  rw [hs, offer_append_cons hbefore rfl,
    Registry.offer_of_baseType_ne ((canonical?_filter ..).trans hf) hb]

/-! ## Offences -/

variable {options : CollectOptions}

/-- The members that declarations become, in order. -/
def membersOf (options : CollectOptions) (declarations : List ClassDeclaration) : List Member :=
  declarations.filterMap fun d => (d.member? options).toOption.join

/-- A declaration offends those before it when it fails on its own, or when it becomes a member
whose registry an earlier member names with another base type. -/
def Offends (options : CollectOptions) (before : List ClassDeclaration) (d : ClassDeclaration) :
    Prop :=
  (∃ e, d.member? options = .error e) ∨
  ∃ m, d.member? options = .ok (some m) ∧ ∃ o ∈ membersOf options before,
    o.registry = m.registry ∧ o.baseType ≠ m.baseType

/-- The declaration at an index offends those before it. -/
def OffendsAt (options : CollectOptions) (declarations : List ClassDeclaration) (i : Nat) : Prop :=
  ∃ d, declarations[i]? = some d ∧ Offends options (declarations.take i) d

/-- Whether an index is an offence does not depend on what comes after it. -/
theorem offendsAt_append_iff {before more : List ClassDeclaration} {i : Nat}
    (hi : i < before.length) :
    OffendsAt options (before ++ more) i ↔ OffendsAt options before i := by
  rw [OffendsAt, OffendsAt, List.getElem?_append_left hi,
    List.take_append_of_le_length (Nat.le_of_lt hi)]

/-- The offence of the declaration that follows a list. -/
theorem offendsAt_length_iff {before more : List ClassDeclaration} {d : ClassDeclaration} :
    OffendsAt options (before ++ d :: more) before.length ↔ Offends options before d := by
  simp [OffendsAt]

/-- The members that a list with one more declaration becomes. -/
theorem membersOf_concat (before : List ClassDeclaration) (d : ClassDeclaration) :
    membersOf options (before ++ [d]) =
      membersOf options before ++ (d.member? options).toOption.join.toList := by
  cases h : (d.member? options).toOption.join with
  | none => simp [membersOf, h]
  | some m => simp [membersOf, h]

/-- Nothing in a list offends when nothing in its first part does and the last one does not. -/
theorem not_offendsAt_concat {before : List ClassDeclaration} {d : ClassDeclaration}
    (h : ∀ i, ¬ OffendsAt options (before ++ [d]) i) :
    (∀ i, ¬ OffendsAt options before i) ∧ ¬ Offends options before d := by
  refine ⟨?_, fun hd => h before.length (offendsAt_length_iff.mpr hd)⟩
  intro i hi
  have hlt : i < before.length := by
    obtain ⟨o, ho, -⟩ := hi
    exact (List.getElem?_eq_some_iff.mp ho).1
  exact h i ((offendsAt_append_iff hlt).mpr hi)

/-- A member that does not offend shares the base type of all earlier ones of its registry. -/
theorem baseType_eq_of_not_offends {before : List ClassDeclaration} {d : ClassDeclaration}
    {m : Member} (h : ¬ Offends options before d) (hd : d.member? options = .ok (some m)) :
    ∀ o ∈ membersOf options before, o.registry = m.registry → o.baseType = m.baseType := by
  intro o ho hr
  by_contra hb
  exact h (Or.inr ⟨m, hd, o, ho, hr, hb⟩)

/-- Where nothing offends, members of one registry share their base type. -/
theorem baseType_eq_of_not_offendsAt {declarations : List ClassDeclaration}
    (h : ∀ i, ¬ OffendsAt options declarations i) :
    ∀ o ∈ membersOf options declarations, ∀ p ∈ membersOf options declarations,
      o.registry = p.registry → o.baseType = p.baseType := by
  induction declarations using List.reverseRecOn with
  | nil => exact fun o ho => absurd ho List.not_mem_nil
  | append_singleton before d ih =>
      obtain ⟨hbefore, hlast⟩ := not_offendsAt_concat h
      intro o ho p hp hr
      rw [membersOf_concat] at ho hp
      cases hd : d.member? options with
      | error e => exact absurd (Or.inl ⟨e, hd⟩) hlast
      | ok found =>
          cases found with
          | none =>
              simp only [hd, Except.toOption, Option.join_some, Option.toList_none,
                List.append_nil] at ho hp
              exact ih hbefore o ho p hp hr
          -- the last member agrees with those before it, or it would offend
          | some m =>
              have hagree := baseType_eq_of_not_offends hlast hd
              simp only [hd, Except.toOption, Option.join_some, Option.toList_some,
                List.mem_append, List.mem_singleton] at ho hp
              rcases ho with ho | rfl
              · rcases hp with hp | rfl
                · exact ih hbefore o ho p hp hr
                · exact hagree o ho hr
              · rcases hp with hp | rfl
                · exact (hagree p hp hr.symm).symm
                · rfl

/-- A declaration that does not offend adds its member, if it has one, to the grouped members of
those before it. -/
theorem add_ofMembers {before : List ClassDeclaration} {d : ClassDeclaration}
    (h : ¬ Offends options before d) :
    add options (ofMembers (membersOf options before)) d =
      .ok (ofMembers (membersOf options (before ++ [d]))) := by
  rw [membersOf_concat]
  cases hd : d.member? options with
  | error e => exact absurd (Or.inl ⟨e, hd⟩) h
  | ok found =>
      cases found with
      | none => simp [add, hd, Except.toOption]
      | some m =>
          rw [add, hd]
          simp only [insert, offer_ofMembers (baseType_eq_of_not_offends h hd)]
          rfl

/-- A declaration that offends those before it ends the pass, with its own error or with the
conflict between the earliest member of its registry and its own. -/
theorem add_ofMembers_of_offends {before : List ClassDeclaration} {d : ClassDeclaration}
    (h : ∀ i, ¬ OffendsAt options before i) (hd : Offends options before d) :
    ∃ e, add options (ofMembers (membersOf options before)) d = .error e ∧
      (∀ own, d.member? options = .error own → e = own) ∧
      ∀ m, d.member? options = .ok (some m) → ∃ first,
        (membersOf options before).find? (·.registry = m.registry) = some first ∧
        e = Registry.conflict first m := by
  rcases hd with ⟨e, he⟩ | ⟨m, hm, o, ho, hr, hb⟩
  · refine ⟨e, by simp only [add, he], ?_, by simp [he]⟩
    intro own hown
    exact Except.error.inj (he.symm.trans hown)
  · obtain ⟨first, hf⟩ : ∃ first,
        (membersOf options before).find? (·.registry = m.registry) = some first :=
      Option.isSome_iff_exists.mp (List.find?_isSome.mpr ⟨o, ho, by simpa using hr⟩)
    have hfirst : first.registry = m.registry := by simpa using List.find?_some hf
    -- Nothing before offends, so the earliest member has the base type of the one that disagrees.
    have hsame := baseType_eq_of_not_offendsAt h first (List.mem_of_find?_eq_some hf) o ho
      (hfirst.trans hr.symm)
    have hne : first.baseType ≠ m.baseType := hsame ▸ hb
    refine ⟨Registry.conflict first m, ?_, by simp [hm], ?_⟩
    · simp only [add, hm, insert, offer_ofMembers_of_conflict hf hne]
    · intro found hfound
      obtain rfl : m = found := by simpa [hm] using hfound
      exact ⟨first, hf, rfl⟩

/-- The pass over a list goes on from where the pass over its first part ended. -/
theorem collect_append (before more : List ClassDeclaration) :
    collect (before ++ more) options = collect before options >>= more.foldlM (add options) :=
  List.foldlM_append

/-- Declarations of which none offends give the grouped members. -/
theorem collect_of_not_offendsAt {declarations : List ClassDeclaration}
    (h : ∀ i, ¬ OffendsAt options declarations i) :
    collect declarations options = .ok (ofMembers (membersOf options declarations)) := by
  induction declarations using List.reverseRecOn with
  | nil => rfl
  | append_singleton before d ih =>
      obtain ⟨hbefore, hd⟩ := not_offendsAt_concat h
      rw [collect_append, ih hbefore]
      change [d].foldlM (add options) (ofMembers (membersOf options before)) = _
      rw [List.foldlM_cons, add_ofMembers hd]
      rfl

/-- A declaration that is added keeps registries grouped. -/
theorem Grouped.add {s new : Registries} (h : s.Grouped) {d : ClassDeclaration}
    (ha : add options s d = .ok new) : new.Grouped := by
  rw [Registries.add] at ha
  split at ha
  · cases ha
  · exact Except.ok.inj ha ▸ h
  · exact h.insert ha

/-- The registries of a pass that succeeds are grouped. -/
theorem grouped_of_collect {declarations : List ClassDeclaration} {s : Registries}
    (h : collect declarations options = .ok s) : s.Grouped := by
  induction declarations using List.reverseRecOn generalizing s with
  | nil => exact Except.ok.inj h ▸ grouped_nil
  | append_singleton before d ih =>
      rw [collect_append] at h
      cases hb : collect before options with
      | error e =>
          rw [hb] at h
          cases h
      | ok start =>
          rw [hb] at h
          change [d].foldlM (add options) start = .ok s at h
          rw [List.foldlM_cons] at h
          simp only [List.foldlM_nil, bind_pure] at h
          exact (ih hb).add h

/-- An error behind declarations that do not offend ends the pass, whatever follows. -/
theorem collect_append_cons_of_add_error {before : List ClassDeclaration} {d : ClassDeclaration}
    {e : RegisterError} (h : ∀ i, ¬ OffendsAt options before i)
    (he : add options (ofMembers (membersOf options before)) d = .error e)
    (rest : List ClassDeclaration) : collect (before ++ d :: rest) options = .error e := by
  rw [collect_append, collect_of_not_offendsAt h]
  change (d :: rest).foldlM (add options) (ofMembers (membersOf options before)) = _
  rw [List.foldlM_cons, he]
  rfl

/-- Nothing before the first offence offends. -/
theorem not_offendsAt_take_of_isLeast {declarations : List ClassDeclaration} {i : Nat}
    (h : IsLeast {i | OffendsAt options declarations i} i) :
    ∀ j, ¬ OffendsAt options (declarations.take i) j := by
  intro j hj
  have hlt : j < (declarations.take i).length := by
    obtain ⟨o, ho, -⟩ := hj
    exact (List.getElem?_eq_some_iff.mp ho).1
  have hj' : OffendsAt options declarations j := by
    rw [← List.take_append_drop i declarations]
    exact (offendsAt_append_iff hlt).mpr hj
  have hle : i ≤ j := h.2 hj'
  rw [List.length_take] at hlt
  omega

/-- The pass succeeds when no declaration offends those before it, and then gives all members and no
other ones, grouped by registry. Otherwise the first offence decides: the result is the error of its
declaration or the conflict of its member with the earliest one of the registry, and nothing after
it can change that. -/
theorem collect_outcome (declarations : List ClassDeclaration) (options : CollectOptions) :
    ((∀ i, ¬ OffendsAt options declarations i) →
      collect declarations options = .ok (ofMembers (membersOf options declarations)) ∧
      ((ofMembers (membersOf options declarations)).flatMap (·.members)).Perm
        (membersOf options declarations)) ∧
    ∀ i, IsLeast {i | OffendsAt options declarations i} i → ∃ d, declarations[i]? = some d ∧
      (∀ e, d.member? options = .error e → collect declarations options = .error e) ∧
      (∀ m, d.member? options = .ok (some m) → ∃ first,
        (membersOf options (declarations.take i)).find? (·.registry = m.registry) = some first ∧
        collect declarations options = .error (.conflictingBaseType m.registry
          first.typeName first.baseType first.context m.typeName m.baseType m.context)) ∧
      (∃ e, collect declarations options = .error e) ∧
      ∀ rest, collect (declarations.take (i + 1) ++ rest) options =
        collect declarations options := by
  refine ⟨fun h => ⟨collect_of_not_offendsAt h, flatMap_members_ofMembers _⟩, ?_⟩
  intro i hi
  obtain ⟨d, hd, hoffends⟩ := hi.1
  have hbefore := not_offendsAt_take_of_isLeast hi
  obtain ⟨e, hadd, hown, hconflict⟩ := add_ofMembers_of_offends hbefore hoffends
  have hall := collect_append_cons_of_add_error hbefore hadd
  have hresult : collect declarations options = .error e := by
    obtain ⟨hlt, hget⟩ := List.getElem?_eq_some_iff.mp hd
    have hsplit : declarations.take i ++ d :: declarations.drop (i + 1) = declarations := by
      rw [← hget, List.getElem_cons_drop, List.take_append_drop]
    simpa only [hsplit] using hall (declarations.drop (i + 1))
  refine ⟨d, hd, ?_, ?_, ⟨e, hresult⟩, ?_⟩
  · intro own h
    rw [hresult, hown own h]
  · intro m h
    obtain ⟨first, hf, he⟩ := hconflict m h
    refine ⟨first, hf, ?_⟩
    rw [hresult, he]
    rfl
  · intro rest
    rw [List.take_add_one, hd, Option.toList_some, List.append_assoc, List.singleton_append,
      hall, hresult]

end Registries

end ClassRegistry
