import ClassRegistry.Generated.Imports
import ClassRegistry.Proofs.FirstSeen
import Mathlib.Data.List.ReduceOption

/-!
# Import tables as answers to requests

A table is built by asking for bindings one after the other. What it then holds is read off the
requests: modules in the order first asked for, each named binding that was asked for, and in the
slots for a default and for everything the name of the first request alone. So every request is
bound exactly when no slot is asked for under two names, and with plain names the written lines tell
which ones are.
-/

namespace ClassRegistry

/-! ## Requests -/

/-- A binding that is asked for. -/
structure ImportRequest where
  specifier : String
  localName : String
  imported : ImportedName
  deriving DecidableEq

/-- Whether a module has a single place for what is imported. -/
def ImportedName.isSlot : ImportedName → Bool
  | .named _ => false
  | .default | .everything => true

/-- The named binding that is asked for, if it is one. -/
def ImportRequest.namedBinding? (q : ImportRequest) : Option String :=
  match q.imported with
  | .named name => some (namedBinding name q.localName)
  | .default | .everything => none

/-- A request asks for a named binding by its name and the local one. -/
theorem ImportRequest.namedBinding?_eq_some_iff {q : ImportRequest} {binding : String} :
    q.namedBinding? = some binding ↔
      ∃ name, q.imported = .named name ∧ namedBinding name q.localName = binding := by
  unfold namedBinding?
  cases q.imported <;> simp

/-- The requests for one module. -/
def requestsFor (specifier : String) (requests : List ImportRequest) : List ImportRequest :=
  requests.filter (·.specifier = specifier)

/-- A request for a module is one more, another one is not. -/
theorem requestsFor_concat (specifier : String) (requests : List ImportRequest)
    (q : ImportRequest) :
    requestsFor specifier (requests ++ [q]) =
      if q.specifier = specifier then requestsFor specifier requests ++ [q]
      else requestsFor specifier requests := by
  rw [requestsFor, List.filter_append, List.filter_singleton]
  by_cases h : q.specifier = specifier
  · rw [if_pos h, decide_eq_true h, cond_true, requestsFor]
  · rw [if_neg h, decide_eq_false h, cond_false, List.append_nil, requestsFor]

/-! ## Answers -/

namespace ModuleImports

/-- The name in a slot. -/
def slot? (imports : ModuleImports) : ImportedName → Option String
  | .default => imports.defaultName
  | .everything => imports.everythingName
  | .named _ => .none

/-- A slot keeps its first name. -/
theorem slot?_add (imports : ModuleImports) (localName : String) (imported : ImportedName)
    {slot : ImportedName} (h : slot.isSlot = true) :
    (imports.add localName imported).slot? slot =
      (imports.slot? slot).or (if imported = slot then some localName else .none) := by
  cases imported with
  | named name =>
      have hne : ImportedName.named name ≠ slot := by
        rintro rfl
        exact Bool.false_ne_true h
      rw [if_neg hne, Option.or_none, add]
      split
      · rfl
      · cases slot <;> rfl
  | default => cases slot <;> simp_all [add, slot?, ImportedName.isSlot, Option.orElse_eq_orElse]
  | everything => cases slot <;> simp_all [add, slot?, ImportedName.isSlot, Option.orElse_eq_orElse]

/-- What the requests for a module ask for: in a slot the name that it is first asked for under, and
each named binding where it is first asked for. -/
def ofRequests (requests : List ImportRequest) : ModuleImports where
  defaultName := (requests.find? (·.imported = .default)).map (·.localName)
  everythingName := (requests.find? (·.imported = .everything)).map (·.localName)
  named := (requests.filterMap (·.namedBinding?)).eraseDups

/-- A slot holds the name that it is first asked for under. -/
theorem slot?_ofRequests (requests : List ImportRequest) {slot : ImportedName}
    (h : slot.isSlot = true) :
    (ofRequests requests).slot? slot =
      (requests.find? (·.imported = slot)).map (·.localName) := by
  cases slot with
  | named name => exact absurd h Bool.false_ne_true
  | default => rfl
  | everything => rfl

/-- The slots and the named bindings are all that is imported from a module. -/
theorem eq_of_slot?_eq {imports other : ModuleImports}
    (hslot : ∀ slot, slot.isSlot = true → imports.slot? slot = other.slot? slot)
    (hnamed : imports.named = other.named) : imports = other := by
  have hdefault : imports.defaultName = other.defaultName := hslot .default rfl
  have heverything : imports.everythingName = other.everythingName := hslot .everything rfl
  cases imports
  simp_all

/-- One more request for a module adds what it asks for. -/
theorem ofRequests_concat (requests : List ImportRequest) (q : ImportRequest) :
    ofRequests (requests ++ [q]) = (ofRequests requests).add q.localName q.imported := by
  refine eq_of_slot?_eq ?_ ?_
  · intro slot hslot
    rw [slot?_add _ _ _ hslot, slot?_ofRequests _ hslot, slot?_ofRequests _ hslot,
      List.find?_append, Option.map_or]
    by_cases hq : q.imported = slot <;> simp [hq]
  · rw [ofRequests, List.filterMap_append]
    cases hi : q.imported with
    | default => simp [ImportRequest.namedBinding?, hi, add, ofRequests]
    | everything => simp [ImportRequest.namedBinding?, hi, add, ofRequests]
    | named name =>
        have hq : [q].filterMap (·.namedBinding?) = [namedBinding name q.localName] := by
          simp [ImportRequest.namedBinding?, hi]
        rw [hq, eraseDups_concat, add, ofRequests]
        simp only [List.mem_eraseDups]
        split
        · rfl
        · rfl

end ModuleImports

namespace ImportTable

/-- What is imported from the module behind a specifier. -/
def imports (table : ImportTable) (specifier : String) : ModuleImports :=
  ((table.find? (·.1 = specifier)).map (·.2)).getD .none

/-- Asking for a binding changes what is imported from its module, and from no other one. -/
theorem imports_add (table : ImportTable) (specifier localName other : String)
    (imported : ImportedName) :
    (table.add specifier localName imported).imports other =
      if specifier = other then (table.imports other).add localName imported
      else table.imports other := by
  induction table with
  | nil => by_cases h : specifier = other <;> simp [add, imports, h]
  | cons entry rest ih =>
      obtain ⟨known, found⟩ := entry
      by_cases hk : known = specifier
      · subst hk
        by_cases h : known = other <;> simp [add, imports, h]
      · by_cases h : known = other
        · have hne : specifier ≠ other := fun he => hk (h.trans he.symm)
          simp [add, imports, h, hne, Ne.symm hne]
        · simpa [add, imports, hk, h] using ih

/-- Modules are listed in the order first asked for. -/
theorem map_fst_add (table : ImportTable) (specifier localName : String)
    (imported : ImportedName) :
    (table.add specifier localName imported).map (·.1) =
      if specifier ∈ table.map (·.1) then table.map (·.1)
      else table.map (·.1) ++ [specifier] := by
  induction table with
  | nil => rfl
  | cons entry rest ih =>
      obtain ⟨known, found⟩ := entry
      by_cases hk : known = specifier
      · simp [add, hk]
      · rw [add, if_neg hk]
        simp only [List.map_cons, ih]
        by_cases h : specifier ∈ rest.map (·.1)
        · rw [if_pos h, if_pos (List.mem_cons_of_mem _ h)]
        · rw [if_neg h, if_neg, List.cons_append]
          simpa only [List.mem_cons, not_or] using ⟨Ne.symm hk, h⟩

/-- A module that is listed is listed with what is imported from it. -/
theorem mem_of_mem_map_fst {table : ImportTable} {specifier : String}
    (h : specifier ∈ table.map (·.1)) : (specifier, table.imports specifier) ∈ table := by
  obtain ⟨entry, hmem, he⟩ := List.mem_map.mp h
  have hsome : (table.find? (·.1 = specifier)).isSome = true :=
    List.find?_isSome.mpr ⟨entry, hmem, by simpa using he⟩
  obtain ⟨found, hfound⟩ := Option.isSome_iff_exists.mp hsome
  have hspecifier : found.1 = specifier := by simpa using List.find?_some hfound
  have himports : table.imports specifier = found.2 := by
    rw [imports, hfound, Option.map_some, Option.getD_some]
  rw [himports, ← hspecifier]
  exact List.mem_of_find?_eq_some hfound

/-- In a table that lists no module twice, an entry holds what is imported from its module. -/
theorem imports_eq_of_mem {table : ImportTable} (hnodup : (table.map (·.1)).Nodup)
    {entry : String × ModuleImports} (h : entry ∈ table) : table.imports entry.1 = entry.2 := by
  have hother := mem_of_mem_map_fst (List.mem_map_of_mem h)
  exact congrArg Prod.snd (List.inj_on_of_nodup_map hnodup hother h rfl)

/-- The table that answers requests. -/
def ofRequests (requests : List ImportRequest) : ImportTable :=
  requests.foldl (fun table q => table.add q.specifier q.localName q.imported) []

/-- One more request is asked of the table that answers those before it. -/
theorem ofRequests_concat (requests : List ImportRequest) (q : ImportRequest) :
    ofRequests (requests ++ [q]) =
      (ofRequests requests).add q.specifier q.localName q.imported := by
  rw [ofRequests, List.foldl_append]
  rfl

/-- The modules of a table are those that were asked for, in the order first seen. -/
theorem map_fst_ofRequests (requests : List ImportRequest) :
    (ofRequests requests).map (·.1) = (requests.map (·.specifier)).eraseDups := by
  induction requests using List.reverseRecOn with
  | nil => rfl
  | append_singleton requests q ih =>
      rw [ofRequests_concat, map_fst_add, ih, List.map_append, List.map_singleton,
        eraseDups_concat]
      simp only [List.mem_eraseDups]

theorem nodup_map_fst_ofRequests (requests : List ImportRequest) :
    ((ofRequests requests).map (·.1)).Nodup := by
  rw [map_fst_ofRequests]
  exact nodup_eraseDups _

/-- What is imported from a module is what the requests for it ask for. -/
theorem imports_ofRequests (requests : List ImportRequest) (specifier : String) :
    (ofRequests requests).imports specifier =
      ModuleImports.ofRequests (requestsFor specifier requests) := by
  induction requests using List.reverseRecOn with
  | nil => rfl
  | append_singleton requests q ih =>
      rw [ofRequests_concat, imports_add, requestsFor_concat, ih]
      split
      · rw [ModuleImports.ofRequests_concat]
      · rfl

/-- The table lists the modules where they are first asked for, each with what the requests for it
ask for. -/
theorem ofRequests_eq (requests : List ImportRequest) :
    ofRequests requests = (requests.map (·.specifier)).eraseDups.map fun specifier =>
      (specifier, ModuleImports.ofRequests (requestsFor specifier requests)) := by
  rw [← map_fst_ofRequests, List.map_map]
  have hentry : ∀ entry ∈ ofRequests requests, (entry.1,
      ModuleImports.ofRequests (requestsFor entry.1 requests)) = entry := by
    intro entry hentry
    rw [← imports_ofRequests, imports_eq_of_mem (nodup_map_fst_ofRequests requests) hentry]
  exact ((List.map_congr_left hentry).trans (List.map_id _)).symm

/-- A slot holds the name of the first request for it. -/
theorem slot?_imports_ofRequests (requests : List ImportRequest) (specifier : String)
    {slot : ImportedName} (h : slot.isSlot = true) :
    ((ofRequests requests).imports specifier).slot? slot =
      (requests.find? fun q => q.specifier = specifier ∧ q.imported = slot).map
        (·.localName) := by
  rw [imports_ofRequests, ModuleImports.slot?_ofRequests _ h, requestsFor, List.find?_filter]
  simp only [decide_eq_true_eq]

/-- The named bindings of a module are those that were asked for. -/
theorem mem_named_imports_ofRequests {requests : List ImportRequest}
    {specifier binding : String} :
    binding ∈ ((ofRequests requests).imports specifier).named ↔
      ∃ q ∈ requests, q.specifier = specifier ∧
        ∃ name, q.imported = .named name ∧ namedBinding name q.localName = binding := by
  rw [imports_ofRequests, ModuleImports.ofRequests, List.mem_eraseDups, List.mem_filterMap]
  simp only [requestsFor, List.mem_filter, decide_eq_true_eq, and_assoc,
    ImportRequest.namedBinding?_eq_some_iff]

theorem nodup_named_ofRequests (requests : List ImportRequest) (specifier : String) :
    ((ofRequests requests).imports specifier).named.Nodup := by
  rw [imports_ofRequests]
  exact nodup_eraseDups _

end ImportTable

/-! ## Bound requests -/

/-- The table binds what was asked for. -/
def ImportRequest.IsHeldBy (table : ImportTable) (q : ImportRequest) : Prop :=
  match q.imported with
  | .named name => namedBinding name q.localName ∈ (table.imports q.specifier).named
  | slot => (table.imports q.specifier).slot? slot = some q.localName

/-- A slot is bound when it holds the name that it was asked for under. -/
theorem ImportRequest.isHeldBy_iff_of_isSlot {table : ImportTable} {q : ImportRequest}
    (h : q.imported.isSlot = true) :
    q.IsHeldBy table ↔ (table.imports q.specifier).slot? q.imported = some q.localName := by
  unfold IsHeldBy
  cases hi : q.imported with
  | named name =>
      rw [hi] at h
      exact absurd h Bool.false_ne_true
  | default => rfl
  | everything => rfl

/-- No slot is asked for under two names. -/
def SlotsAgree (requests : List ImportRequest) : Prop :=
  ∀ q ∈ requests, ∀ p ∈ requests, q.specifier = p.specifier → q.imported = p.imported →
    q.imported.isSlot = true → q.localName = p.localName

instance (requests : List ImportRequest) : Decidable (SlotsAgree requests) :=
  inferInstanceAs (Decidable (∀ q ∈ requests, ∀ p ∈ requests, q.specifier = p.specifier →
    q.imported = p.imported → q.imported.isSlot = true → q.localName = p.localName))

namespace ImportTable

/-- A slot that was asked for holds the name that it was asked for under at first. -/
theorem exists_slot?_eq_some {requests : List ImportRequest} {q : ImportRequest}
    (hq : q ∈ requests) (hslot : q.imported.isSlot = true) :
    ∃ p ∈ requests, p.specifier = q.specifier ∧ p.imported = q.imported ∧
      ((ofRequests requests).imports q.specifier).slot? q.imported = some p.localName := by
  rw [slot?_imports_ofRequests requests q.specifier hslot]
  have hsome : (requests.find? fun p =>
      decide (p.specifier = q.specifier ∧ p.imported = q.imported)).isSome = true :=
    List.find?_isSome.mpr ⟨q, hq, by simp⟩
  obtain ⟨p, hp⟩ := Option.isSome_iff_exists.mp hsome
  obtain ⟨hspecifier, himported⟩ : p.specifier = q.specifier ∧ p.imported = q.imported := by
    simpa using List.find?_some hp
  exact ⟨p, List.mem_of_find?_eq_some hp, hspecifier, himported, by rw [hp, Option.map_some]⟩

/-- Where slots agree, a slot that was asked for holds the name that it was asked for under. -/
theorem slot?_eq_of_slotsAgree {requests : List ImportRequest} (h : SlotsAgree requests)
    {q : ImportRequest} (hq : q ∈ requests) (hslot : q.imported.isSlot = true) :
    ((ofRequests requests).imports q.specifier).slot? q.imported = some q.localName := by
  obtain ⟨p, hp, hspecifier, himported, hname⟩ := exists_slot?_eq_some hq hslot
  rw [hname, h p hp q hq hspecifier himported (himported ▸ hslot)]

/-- A named binding that was asked for is bound. -/
theorem isHeldBy_of_not_isSlot {requests : List ImportRequest} {q : ImportRequest}
    (hq : q ∈ requests) (h : ¬ q.imported.isSlot = true) : q.IsHeldBy (ofRequests requests) := by
  unfold ImportRequest.IsHeldBy
  cases hi : q.imported with
  | named name => exact mem_named_imports_ofRequests.mpr ⟨q, hq, rfl, name, hi, rfl⟩
  | default => exact absurd (hi ▸ rfl) h
  | everything => exact absurd (hi ▸ rfl) h

/-- All that was asked for is bound exactly when no slot is asked for under two names. -/
theorem isHeldBy_ofRequests_iff {requests : List ImportRequest} :
    (∀ q ∈ requests, q.IsHeldBy (ofRequests requests)) ↔ SlotsAgree requests := by
  constructor
  · intro h q hq p hp hspecifier himported hslot
    have hqslot := (ImportRequest.isHeldBy_iff_of_isSlot hslot).mp (h q hq)
    have hpslot := (ImportRequest.isHeldBy_iff_of_isSlot (himported ▸ hslot)).mp (h p hp)
    rw [hspecifier, himported, hpslot] at hqslot
    exact (Option.some.inj hqslot).symm
  · intro h q hq
    by_cases hslot : q.imported.isSlot = true
    · exact (ImportRequest.isHeldBy_iff_of_isSlot hslot).mpr (slot?_eq_of_slotsAgree h hq hslot)
    · exact isHeldBy_of_not_isSlot hq hslot

end ImportTable

/-! ## Written imports -/

/-- The line that imports what a clause names. -/
def importLine (clause specifier : String) : String :=
  "import " ++ clause ++ " from \"" ++ specifier ++ "\";"

/-- A line of the block binds what was asked for. A named binding may stand among others. -/
def ImportRequest.IsWrittenIn (block : List String) (q : ImportRequest) : Prop :=
  match q.imported with
  | .default => importLine q.localName q.specifier ∈ block
  | .everything => importLine ("* as " ++ q.localName) q.specifier ∈ block
  | .named name => ∃ bindings, namedBinding name q.localName ∈ bindings ∧
      importLine ("\x7b " ++ ", ".intercalate bindings ++ " \x7d") q.specifier ∈ block

/-- The clause of named bindings, if there are any. -/
def namedClause? : List String → Option String
  | [] => none
  | bindings => some ("\x7b " ++ ", ".intercalate bindings ++ " \x7d")

/-- The clauses of a module: one for the default, one for everything and one for the named bindings,
as far as they are imported. -/
def ModuleImports.clauses (imports : ModuleImports) : List String :=
  [imports.defaultName, imports.everythingName.map ("* as " ++ ·),
    namedClause? imports.named].reduceOption

/-- A module has one line for each of its clauses. -/
theorem ModuleImports.lines_eq_map_clauses (specifier : String) (imports : ModuleImports) :
    imports.lines specifier = imports.clauses.map (importLine · specifier) := by
  have hdefault (name : String) : "import " ++ name ++ (" from \"" ++ specifier ++ "\";") =
      importLine name specifier := by
    simp only [importLine, String.append_assoc]
  have heverything (name : String) :
      "import * as " ++ name ++ (" from \"" ++ specifier ++ "\";") =
        importLine ("* as " ++ name) specifier := by
    simp only [importLine, ← String.append_assoc]
    rfl
  have hnamed (bindings : String) :
      "import \x7b " ++ bindings ++ " \x7d" ++ (" from \"" ++ specifier ++ "\";") =
        importLine ("\x7b " ++ bindings ++ " \x7d") specifier := by
    simp only [importLine, ← String.append_assoc]
    rfl
  obtain ⟨defaultName, everythingName, named⟩ := imports
  simp only [lines, hdefault, heverything, hnamed]
  cases defaultName <;> cases everythingName <;> cases named <;> rfl

/-- The lines for a module, by their clauses. -/
theorem ModuleImports.mem_lines {specifier line : String} {imports : ModuleImports} :
    line ∈ imports.lines specifier ↔
      (∃ name, imports.defaultName = some name ∧ importLine name specifier = line) ∨
      (∃ name, imports.everythingName = some name ∧
        importLine ("* as " ++ name) specifier = line) ∨
      imports.named ≠ [] ∧
        importLine ("\x7b " ++ ", ".intercalate imports.named ++ " \x7d") specifier = line := by
  have hnamed (clause : String) : namedClause? imports.named = some clause ↔
      imports.named ≠ [] ∧ "\x7b " ++ ", ".intercalate imports.named ++ " \x7d" = clause := by
    cases imports.named <;> simp [namedClause?]
  rw [lines_eq_map_clauses, List.mem_map]
  simp [clauses, List.reduceOption_mem_iff, eq_comm, hnamed, or_and_right, exists_or, and_assoc]

namespace ImportTable

/-- A line of a table is a line for one of its modules. -/
theorem mem_lines {table : ImportTable} {line : String} :
    line ∈ table.lines ↔ ∃ entry ∈ table, line ∈ entry.2.lines entry.1 :=
  List.mem_flatMap

/-- The lines for a module that was asked for are lines of the table. -/
theorem mem_lines_ofRequests {requests : List ImportRequest} {q : ImportRequest}
    (hq : q ∈ requests) {line : String}
    (h : line ∈ ((ofRequests requests).imports q.specifier).lines q.specifier) :
    line ∈ (ofRequests requests).lines := by
  refine mem_lines.mpr ⟨_, mem_of_mem_map_fst ?_, h⟩
  rw [map_fst_ofRequests, List.mem_eraseDups]
  exact List.mem_map_of_mem hq

/-- Where something is asked for, something is written. -/
theorem lines_ofRequests_ne_nil {requests : List ImportRequest} {q : ImportRequest}
    (hq : q ∈ requests) : (ofRequests requests).lines ≠ [] := by
  suffices hline : ∃ line, line ∈ ((ofRequests requests).imports q.specifier).lines q.specifier by
    obtain ⟨line, hline⟩ := hline
    exact List.ne_nil_of_mem (mem_lines_ofRequests hq hline)
  cases hi : q.imported with
  | named name =>
      have hmem := mem_named_imports_ofRequests.mpr ⟨q, hq, rfl, name, hi, rfl⟩
      exact ⟨_, ModuleImports.mem_lines.mpr (Or.inr (Or.inr ⟨List.ne_nil_of_mem hmem, rfl⟩))⟩
  | default =>
      obtain ⟨p, -, -, -, hname⟩ := exists_slot?_eq_some hq (by rw [hi]; rfl)
      rw [hi] at hname
      exact ⟨_, ModuleImports.mem_lines.mpr (Or.inl ⟨p.localName, hname, rfl⟩)⟩
  | everything =>
      obtain ⟨p, -, -, -, hname⟩ := exists_slot?_eq_some hq (by rw [hi]; rfl)
      rw [hi] at hname
      exact ⟨_, ModuleImports.mem_lines.mpr (Or.inr (Or.inl ⟨p.localName, hname, rfl⟩))⟩

/-- What the table that answers requests binds is written. -/
theorem isWrittenIn_of_isHeldBy {requests : List ImportRequest} {q : ImportRequest}
    (hq : q ∈ requests) (h : q.IsHeldBy (ofRequests requests)) :
    q.IsWrittenIn (ofRequests requests).lines := by
  unfold ImportRequest.IsHeldBy at h
  unfold ImportRequest.IsWrittenIn
  cases hi : q.imported with
  | default =>
      rw [hi] at h
      exact mem_lines_ofRequests hq (ModuleImports.mem_lines.mpr (Or.inl ⟨_, h, rfl⟩))
  | everything =>
      rw [hi] at h
      exact mem_lines_ofRequests hq (ModuleImports.mem_lines.mpr (Or.inr (Or.inl ⟨_, h, rfl⟩)))
  | named name =>
      rw [hi] at h
      exact ⟨_, h, mem_lines_ofRequests hq (ModuleImports.mem_lines.mpr
        (Or.inr (Or.inr ⟨List.ne_nil_of_mem h, rfl⟩)))⟩

end ImportTable

/-! ## Lost imports -/

/-- A name that can be told from the other clauses of an import. -/
def IsPlainName (name : String) : Prop :=
  ∀ c ∈ name.toList, c ≠ ' ' ∧ c ≠ '*' ∧ c ≠ '\x7b'

/-- What stands before the first blank is determined. -/
theorem append_blank_inj {a b x y : List Char} (ha : ' ' ∉ a) (hb : ' ' ∉ b)
    (h : a ++ ' ' :: x = b ++ ' ' :: y) : a = b ∧ x = y := by
  induction a generalizing b with
  | nil =>
      cases b with
      | nil => exact ⟨rfl, (List.cons.inj h).2⟩
      | cons d b =>
          have hd : ' ' = d := (List.cons.inj h).1
          exact absurd (hd ▸ List.mem_cons_self ..) hb
  | cons c a ih =>
      cases b with
      | nil =>
          have hc : c = ' ' := (List.cons.inj h).1
          exact absurd (hc ▸ List.mem_cons_self ..) ha
      | cons d b =>
          simp only [List.cons_append, List.cons.injEq] at h
          obtain ⟨rfl, h⟩ := h
          obtain ⟨rfl, rfl⟩ := ih (fun hm => ha (List.mem_cons_of_mem _ hm))
            (fun hm => hb (List.mem_cons_of_mem _ hm)) h
          exact ⟨rfl, rfl⟩

/-- The characters of a line that imports. -/
theorem toList_importLine (clause specifier : String) :
    (importLine clause specifier).toList =
      "import ".toList ++ (clause.toList ++ ' ' :: ("from \"".toList ++
        (specifier.toList ++ "\";".toList))) := by
  have hfrom : " from \"".toList = ' ' :: "from \"".toList := by decide
  simp only [importLine, String.toList_append, hfrom, List.append_assoc, List.cons_append]

/-- Plain names behind the same words, and their modules, are read off the line. -/
theorem importLine_inj (words : String) {name other specifier otherSpecifier : String}
    (hn : IsPlainName name) (ho : IsPlainName other)
    (h : importLine (words ++ name) specifier = importLine (words ++ other) otherSpecifier) :
    name = other ∧ specifier = otherSpecifier := by
  have hlist := congrArg String.toList h
  simp only [toList_importLine, String.toList_append, List.append_assoc] at hlist
  obtain ⟨hname, hrest⟩ := append_blank_inj (fun hm => (hn _ hm).1 rfl) (fun hm => (ho _ hm).1 rfl)
    (List.append_cancel_left (List.append_cancel_left hlist))
  refine ⟨String.toList_inj.mp hname, String.toList_inj.mp ?_⟩
  exact List.append_cancel_right (List.append_cancel_left hrest)

/-- Equal lines have clauses that start alike. -/
theorem headD_eq_of_importLine_eq {clause other specifier otherSpecifier : String}
    (h : importLine clause specifier = importLine other otherSpecifier) :
    clause.toList.headD ' ' = other.toList.headD ' ' := by
  have hlist := congrArg String.toList h
  rw [toList_importLine, toList_importLine] at hlist
  have hhead := congrArg (List.headD · ' ') (List.append_cancel_left hlist)
  cases hc : clause.toList with
  | nil =>
      cases ho : other.toList with
      | nil => rfl
      | cons d more => simpa [hc, ho] using hhead
  | cons c more =>
      cases ho : other.toList with
      | nil => simpa [hc, ho] using hhead
      | cons d rest => simpa [hc, ho] using hhead

/-- A plain name starts with no sign. -/
theorem IsPlainName.headD_ne {name : String} (h : IsPlainName name) :
    name.toList.headD ' ' ≠ '*' ∧ name.toList.headD ' ' ≠ '\x7b' := by
  cases hn : name.toList with
  | nil => decide
  | cons c more => exact (h c (hn ▸ List.mem_cons_self ..)).2

namespace ImportTable

/-- A name in a slot is one that the slot was asked for under. -/
theorem exists_of_slot?_eq_some {requests : List ImportRequest} {specifier name : String}
    {slot : ImportedName} (hslot : slot.isSlot = true)
    (h : ((ofRequests requests).imports specifier).slot? slot = some name) :
    ∃ q ∈ requests, q.localName = name := by
  rw [slot?_imports_ofRequests requests specifier hslot] at h
  obtain ⟨q, hq, he⟩ := Option.map_eq_some_iff.mp h
  exact ⟨q, List.mem_of_find?_eq_some hq, he⟩

/-- A line of the table that answers requests is a line for what is imported from a module. -/
theorem exists_of_mem_lines_ofRequests {requests : List ImportRequest} {line : String}
    (h : line ∈ (ofRequests requests).lines) :
    ∃ specifier, line ∈ ((ofRequests requests).imports specifier).lines specifier := by
  obtain ⟨entry, hentry, hline⟩ := mem_lines.mp h
  refine ⟨entry.1, ?_⟩
  rwa [imports_eq_of_mem (nodup_map_fst_ofRequests requests) hentry]

/-- What is written under a plain name is bound. -/
theorem isHeldBy_of_isWrittenIn {requests : List ImportRequest}
    (hplain : ∀ q ∈ requests, IsPlainName q.localName) {q : ImportRequest} (hq : q ∈ requests)
    (h : q.IsWrittenIn (ofRequests requests).lines) : q.IsHeldBy (ofRequests requests) := by
  have hq' := hplain q hq
  have hstored {specifier name : String} (slot : ImportedName) (hs : slot.isSlot = true)
      (hname : ((ofRequests requests).imports specifier).slot? slot = some name) :
      IsPlainName name := by
    obtain ⟨p, hp, rfl⟩ := exists_of_slot?_eq_some hs hname
    exact hplain p hp
  unfold ImportRequest.IsWrittenIn at h
  unfold ImportRequest.IsHeldBy
  -- a line of its own tells the slot that it was written for by what it starts with
  cases hi : q.imported with
  | named name => exact mem_named_imports_ofRequests.mpr ⟨q, hq, rfl, name, hi, rfl⟩
  | default =>
      rw [hi] at h
      obtain ⟨specifier, hline⟩ := exists_of_mem_lines_ofRequests h
      rcases ModuleImports.mem_lines.mp hline with ⟨name, hname, he⟩ | ⟨name, -, he⟩ | ⟨-, he⟩
      · have hn : IsPlainName name := hstored .default rfl hname
        obtain ⟨rfl, rfl⟩ := importLine_inj "" hn hq' (by simpa using he)
        exact hname
      · exact absurd (headD_eq_of_importLine_eq he).symm (by simpa using hq'.headD_ne.1)
      · exact absurd (headD_eq_of_importLine_eq he).symm (by simpa using hq'.headD_ne.2)
  | everything =>
      rw [hi] at h
      obtain ⟨specifier, hline⟩ := exists_of_mem_lines_ofRequests h
      rcases ModuleImports.mem_lines.mp hline with ⟨name, hname, he⟩ | ⟨name, hname, he⟩ | ⟨-, he⟩
      · have hn : IsPlainName name := hstored .default rfl hname
        exact absurd (headD_eq_of_importLine_eq he) (by simpa using hn.headD_ne.1)
      · have hn : IsPlainName name := hstored .everything rfl hname
        obtain ⟨rfl, rfl⟩ := importLine_inj _ hn hq' he
        exact hname
      · have hhead := headD_eq_of_importLine_eq he
        simp at hhead

end ImportTable

end ClassRegistry
