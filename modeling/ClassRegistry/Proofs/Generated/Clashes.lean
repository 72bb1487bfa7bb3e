import ClassRegistry.Proofs.Generated.Bindings
import ClassRegistry.Proofs.Generated.Layout

/-!
# Names that clash in a unit

Nothing keeps the names in a unit apart. Two members of one class name share a key of the map, and
the last of them is what is found under it. Two imports can bind one local name, and a class can
have the name of what the unit declares or relies on. Each of these is told from the members alone,
and a unit without any of them finds every member that it was made from.
-/

namespace ClassRegistry

/-! ## Maps built from entries -/

/-- Sets an entry of a map: in the place of the entry with its key, or at the end. -/
def setEntry : List (String × String) → String × String → List (String × String)
  | [], entry => [entry]
  | known :: rest, entry =>
    if known.1 = entry.1 then entry :: rest else known :: setEntry rest entry

/-- The map that is built from entries, one after the other. -/
def builtMap (entries : List (String × String)) : List (String × String) :=
  entries.foldl setEntry []

/-- A new key stands at the end. -/
theorem map_fst_setEntry (table : List (String × String)) (entry : String × String) :
    (setEntry table entry).map (·.1) =
      if entry.1 ∈ table.map (·.1) then table.map (·.1) else table.map (·.1) ++ [entry.1] := by
  induction table with
  | nil => rfl
  | cons known rest ih =>
      by_cases hk : known.1 = entry.1
      · simp [setEntry, hk]
      · rw [setEntry, if_neg hk, List.map_cons, List.map_cons, ih]
        by_cases h : entry.1 ∈ rest.map (·.1)
        · rw [if_pos h, if_pos (List.mem_cons_of_mem _ h)]
        · rw [if_neg h, if_neg, List.cons_append]
          simpa only [List.mem_cons, not_or] using ⟨Ne.symm hk, h⟩

/-- An entry takes the place of the one with its key, and of no other. -/
theorem mem_setEntry {table : List (String × String)} (hnodup : (table.map (·.1)).Nodup)
    {entry found : String × String} :
    found ∈ setEntry table entry ↔ found = entry ∨ found ∈ table ∧ found.1 ≠ entry.1 := by
  induction table with
  | nil => simp [setEntry]
  | cons known rest ih =>
      obtain ⟨hnew, hrest⟩ := List.nodup_cons.mp hnodup
      by_cases hk : known.1 = entry.1
      · -- the key is that of the known entry, and no later one has it
        have hother (hf : found ∈ rest) : found.1 ≠ entry.1 := by
          intro he
          refine hnew (List.mem_map.mpr ⟨found, hf, ?_⟩)
          exact he.trans hk.symm
        rw [setEntry, if_pos hk, List.mem_cons, List.mem_cons]
        constructor
        · rintro (rfl | hf)
          · exact Or.inl rfl
          · exact Or.inr ⟨Or.inr hf, hother hf⟩
        · rintro (rfl | ⟨rfl | hf, hne⟩)
          · exact Or.inl rfl
          · exact absurd hk hne
          · exact Or.inr hf
      · rw [setEntry, if_neg hk, List.mem_cons, List.mem_cons, ih hrest]
        constructor
        · rintro (rfl | rfl | ⟨hf, hne⟩)
          · exact Or.inr ⟨Or.inl rfl, hk⟩
          · exact Or.inl rfl
          · exact Or.inr ⟨Or.inr hf, hne⟩
        · rintro (rfl | ⟨rfl | hf, hne⟩)
          · exact Or.inr (Or.inl rfl)
          · exact Or.inl rfl
          · exact Or.inr (Or.inr ⟨hf, hne⟩)

theorem builtMap_concat (entries : List (String × String)) (entry : String × String) :
    builtMap (entries ++ [entry]) = setEntry (builtMap entries) entry := by
  rw [builtMap, List.foldl_append]
  rfl

/-- The keys of a map stand in the order first seen. -/
theorem map_fst_builtMap (entries : List (String × String)) :
    (builtMap entries).map (·.1) = (entries.map (·.1)).eraseDups := by
  induction entries using List.reverseRecOn with
  | nil => rfl
  | append_singleton entries entry ih =>
      rw [builtMap_concat, map_fst_setEntry, ih, List.map_append, List.map_singleton,
        eraseDups_concat]
      simp only [List.mem_eraseDups]

/-- A map holds the last entry of each key. -/
theorem mem_builtMap {entries : List (String × String)} {found : String × String} :
    found ∈ builtMap entries ↔ entries.reverse.find? (·.1 = found.1) = some found := by
  -- from the end: the entry set last is the first one met in reverse
  induction entries using List.reverseRecOn with
  | nil => simp [builtMap]
  | append_singleton entries entry ih =>
      have hnodup : ((builtMap entries).map (·.1)).Nodup := by
        rw [map_fst_builtMap]
        exact nodup_eraseDups _
      rw [builtMap_concat, mem_setEntry hnodup, ih, List.reverse_concat, List.find?_cons]
      by_cases h : entry.1 = found.1
      · simp [h, eq_comm]
      · have hne : found ≠ entry := fun he => h (he ▸ rfl)
        simp [h, hne, Ne.symm h]

/-- A map has as many entries as it was built from when no key is repeated. -/
theorem length_builtMap_eq_iff {entries : List (String × String)} :
    (builtMap entries).length = entries.length ↔ (entries.map (·.1)).Nodup := by
  rw [← List.length_map (·.1), map_fst_builtMap, ← length_eraseDups_eq_iff, List.length_map]

/-! ## References -/

/-- The name that a reference starts with. -/
def leadingName (reference : String) : String :=
  String.ofList (reference.toList.takeWhile (· ≠ '.'))

/-- A dotted name starts with what its front starts with. -/
theorem leadingName_dotted (front rest : String) :
    leadingName (front ++ "." ++ rest) = leadingName front := by
  have hlist : (front ++ "." ++ rest).toList = front.toList ++ '.' :: rest.toList := by
    simp [String.toList_append]
  rw [leadingName, leadingName, hlist, takeWhile_append_cons (by simp)]

namespace Registry

/-- The names that a unit declares around its entries or relies on there. -/
def ownNames (r : Registry) : List String :=
  ["Type", helperName r.name, "Map"]

/-- A module refers to a member of a script by its namespace, any other reference is the class
name. -/
theorem leadingName_reference (r : Registry) {m : Member}
    (hm : m.exportName? = none ↔ m.origin = none) :
    leadingName (r.reference m) = leadingName
      (if r.needsModule = true ∧ m.origin = none ∧ m.scope ≠ "" then m.scope else m.typeName) := by
  rw [reference]
  cases r.needsModule with
  | false => simp
  | true =>
      cases he : m.exportName? with
      | some exported =>
          have horigin : m.origin ≠ none := fun ho => by simp [hm.mpr ho] at he
          simp [Member.moduleReference, he, horigin]
      | none =>
          rw [if_pos rfl, Member.moduleReference, he]
          by_cases hs : m.scope = ""
          · simp [Member.qualifiedName, hs]
          · simp [Member.qualifiedName, hs, hm.mp he, leadingName_dotted]

/-- The map of a unit holds, under a class name, the last member of this name. -/
theorem mem_builtMap_entries {r : Registry} {key reference : String} :
    (key, reference) ∈ builtMap r.entries ↔
      ∃ m, r.members.reverse.find? (·.typeName = key) = some m ∧ r.reference m = reference := by
  rw [mem_builtMap, entries, ← List.map_reverse, List.find?_map, Option.map_eq_some_iff]
  constructor
  · rintro ⟨m, hm, he⟩
    exact ⟨m, hm, (Prod.mk.inj he).2⟩
  · rintro ⟨m, hm, rfl⟩
    have hname : m.typeName = key := by simpa using List.find?_some hm
    exact ⟨m, hm, by rw [hname]⟩

end Registry

/-- The keys of a unit are the class names of its members, and its map holds the last member of each
name, so all of them are found exactly when no name is shared. No local name is bound twice exactly
when the imports for each name are the same binding of the same module, and no reference is captured
exactly when no namespace that a module refers to, and no other class, starts with a name that the
unit declares or relies on. -/
theorem clashes_of_generate {workingDirectory : Path} {options : CollectOptions}
    {emit : EmitOptions} {declarations : List ClassDeclaration} {g : Generation}
    (h : generate workingDirectory options emit declarations = .ok g) {unit : GeneratedUnit}
    (hu : unit ∈ g.units) :
    ∃ r ∈ g.registries, ∃ first opening closing, r.canonical? = some first ∧
      unit.registry = r.name ∧
      let table := r.importTable workingDirectory emit.outDir
      let requests := r.importRequests workingDirectory emit.outDir
      unit.contents = linesText (generatedHeader :: table.lines ++ opening ++
        r.entries.map (entryLine (r.indent first)) ++ closing) ∧
      (∀ line ∈ opening ++ closing, IsFrameLine line) ∧
      (∀ entry ∈ r.entries, IsEntryLine (entryLine (r.indent first) entry)) ∧
      ((r.entries.map (·.1)).Nodup ↔ (r.members.map (·.typeName)).Nodup) ∧
      ((builtMap r.entries).length = r.members.length ↔ (r.members.map (·.typeName)).Nodup) ∧
      (∀ key reference, (key, reference) ∈ builtMap r.entries ↔
        ∃ m, r.members.reverse.find? (·.typeName = key) = some m ∧ r.reference m = reference) ∧
      (table.localNames.Nodup ↔ ∀ p ∈ requests, ∀ q ∈ requests, p.IsHeldBy table →
        q.IsHeldBy table → boundName p.localName = boundName q.localName →
        p.specifier = q.specifier ∧ p.binding = q.binding) ∧
      ((∀ m ∈ r.members, leadingName (r.reference m) ∉ r.ownNames) ↔
        ∀ m ∈ r.members, leadingName
          (if r.needsModule = true ∧ m.origin = none ∧ m.scope ≠ "" then m.scope
            else m.typeName) ∉ r.ownNames) := by
  obtain ⟨r, hr, first, hf, hunit⟩ := exists_of_mem_units h hu
  obtain ⟨hname, opening, closing, hcontents, hframe, hentries⟩ :=
    Registry.exists_lines_of_unit? hf hunit
  have hkeys : r.entries.map (·.1) = r.members.map (·.typeName) := by
    rw [Registry.entries, List.map_map]
    rfl
  have hlength : r.entries.length = r.members.length := List.length_map ..
  have hcollect := (generate_eq_ok_iff.mp h).1
  refine ⟨r, hr, first, opening, closing, hf, hname, hcontents, hframe, hentries, by rw [hkeys], ?_,
    fun key reference => Registry.mem_builtMap_entries,
    ImportTable.nodup_localNames_ofRequests_iff, ?_⟩
  · rw [← hkeys, ← hlength]
    exact length_builtMap_eq_iff
  · refine forall₂_congr fun m hm => ?_
    obtain ⟨-, d, -, hd⟩ := (Registries.mem_members_iff hcollect hr).mp hm
    rw [r.leadingName_reference (ClassDeclaration.exportName?_eq_none_iff_of_member? hd)]

/-- Two classes of modules with one base type, one of them handed out by default. -/
def itemClasses : List ClassDeclaration :=
  [.registered "Items" "src/sword.ts" "" "Sword" ["Item"]
      (some ⟨some (.named "Sword"), some ⟨"Item", .named "Item", .file "src/./base"⟩⟩),
    .registered "Items" "src/shield.ts" "" "Shield" ["Item"]
      (some ⟨some .default, some ⟨"Item", .named "Item", .file "src/./base"⟩⟩)]

/-- In their unit nothing clashes. -/
theorem no_clash_of_itemClasses : ∃ g unit, ∃ r ∈ g.registries,
    generate ⟨"/"⟩ .standard ⟨"ts", ⟨"src/generated"⟩⟩ itemClasses = .ok g ∧ unit ∈ g.units ∧
    r.members.length = 2 ∧ unit.registry = r.name ∧ (r.entries.map (·.1)).Nodup ∧
    (r.importTable ⟨"/"⟩ ⟨"src/generated"⟩).localNames.Nodup ∧
    ∀ m ∈ r.members, leadingName (r.reference m) ∉ r.ownNames := by
  obtain ⟨registries, s, hcollect, hs, hp⟩ :=
    Registries.exists_collected_of_any itemClasses (p := fun r => decide (r.members.length = 2 ∧
      (r.members.map Member.typeName).Nodup ∧
      (∀ p ∈ r.importRequests ⟨"/"⟩ ⟨"src/generated"⟩,
        ∀ q ∈ r.importRequests ⟨"/"⟩ ⟨"src/generated"⟩,
        boundName p.localName = boundName q.localName →
          p.specifier = q.specifier ∧ p.binding = q.binding) ∧
      ∀ m ∈ r.members, leadingName
        (if r.needsModule = true ∧ m.origin = none ∧ m.scope ≠ "" then m.scope
          else m.typeName) ∉ r.ownNames)) (by decide)
  obtain ⟨hlength, hnames, hbindings, hleading⟩ := of_decide_eq_true hp
  obtain ⟨g, unit, hg, rfl, hu, hunit, -⟩ :=
    exists_generation_of_collect hcollect hs ⟨"/"⟩ ⟨"ts", ⟨"src/generated"⟩⟩
  obtain ⟨r, hr, -, -, -, -, hname, -, -, -, hkeys, -, -, hlocal, hown⟩ := clashes_of_generate hg hu
  obtain rfl : r = s := eq_of_name_eq hg hr hs (hname.symm.trans hunit)
  refine ⟨g, unit, r, hr, hg, hu, hlength, hname, hkeys.mpr hnames, hlocal.mpr ?_,
    hown.mpr hleading⟩
  intro p hp q hq _ _ hpq
  exact hbindings p hp q hq hpq

/-- Classes of three modules, two of one name and one with the name of what a unit relies on. -/
def clashingClasses : List ClassDeclaration :=
  [.registered "Inventory" "src/a.ts" "" "Foo" [] (some ⟨some (.named "Foo"), none⟩),
    .registered "Inventory" "src/b.ts" "" "Foo" [] (some ⟨some (.named "Foo"), none⟩),
    .registered "Inventory" "src/c.ts" "" "Map" [] (some ⟨some (.named "Map"), none⟩)]

/-- In their unit a key is repeated, a local name is bound twice, and a class is captured. -/
theorem names_clash_in_one_unit : ∃ g unit, ∃ r ∈ g.registries,
    generate ⟨"/"⟩ .standard ⟨"ts", ⟨"src/generated"⟩⟩ clashingClasses = .ok g ∧ unit ∈ g.units ∧
    r.unit? ⟨"/"⟩ ⟨"ts", ⟨"src/generated"⟩⟩ = some unit ∧ r.members.length = 3 ∧
    r.entries = [("Foo", "Foo"), ("Foo", "Foo"), ("Map", "Map")] ∧
    builtMap r.entries = [("Foo", "Foo"), ("Map", "Map")] ∧
    (r.importTable ⟨"/"⟩ ⟨"src/generated"⟩).localNames = ["Foo", "Foo", "Map"] ∧
    r.ownNames = ["Type", "InventoryHelper", "Map"] ∧
    ¬ (r.entries.map (·.1)).Nodup ∧
    ¬ (r.importTable ⟨"/"⟩ ⟨"src/generated"⟩).localNames.Nodup ∧
    ¬ ∀ m ∈ r.members, leadingName (r.reference m) ∉ r.ownNames := by
  obtain ⟨registries, r, hcollect, hr, hp⟩ :=
    Registries.exists_collected_of_any clashingClasses (p := fun r => decide (
      r.members.length = 3 ∧ r.entries = [("Foo", "Foo"), ("Foo", "Foo"), ("Map", "Map")] ∧
      (r.importTable ⟨"/"⟩ ⟨"src/generated"⟩).localNames = ["Foo", "Foo", "Map"] ∧
      r.ownNames = ["Type", "InventoryHelper", "Map"] ∧
      ¬ ∀ m ∈ r.members, leadingName (r.reference m) ∉ r.ownNames)) (by decide)
  obtain ⟨hlength, hentries, hlocal, hown, hcaptured⟩ := of_decide_eq_true hp
  obtain ⟨g, unit, hg, rfl, hu, -, hunit⟩ :=
    exists_generation_of_collect hcollect hr ⟨"/"⟩ ⟨"ts", ⟨"src/generated"⟩⟩
  refine ⟨g, unit, r, hr, hg, hu, hunit, hlength, hentries, ?_, hlocal, hown, ?_, ?_, hcaptured⟩
  · rw [hentries]
    decide
  · rw [hentries]
    decide
  · rw [hlocal]
    decide

end ClassRegistry
