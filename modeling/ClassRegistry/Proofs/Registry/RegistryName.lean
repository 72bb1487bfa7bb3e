import ClassRegistry.Generated.Render
import ClassRegistry.Proofs.Registry.Membership
import ClassRegistry.Text.IdentifierPart

/-!
# Registry names and identifiers

A registry name becomes a part of an identifier in the generated code. It is held to letters and
numbers as Unicode has them, with the properties *Alphabetic* and *Numeric*, while an identifier is
made of characters with the properties *ID_Start* and *ID_Continue*. Main statement: which names are
no identifiers, and which identifiers are no names, is told by the characters that have only one of
these properties.
-/

namespace ClassRegistry

namespace Text

/-! ## Words over two sets of characters -/

/-- A character of one set, and others of another one behind it. -/
def isWordOver (start part : Char → Bool) : List Char → Bool
  | [] => false
  | first :: rest => start first && rest.all part

/-- A first character of one set, or another one of another set. -/
def hasOneOf (start part : Char → Bool) : List Char → Bool
  | [] => false
  | first :: rest => start first || rest.any part

/-- A word over two sets is one over two others exactly if it has none of the characters that are
not in these. -/
theorem isWordOver_iff {start part start' part' : Char → Bool} {word : List Char}
    (h : isWordOver start part word = true) :
    isWordOver start' part' word = true ↔
      hasOneOf (fun c => start c && !start' c) (fun c => part c && !part' c) word = false := by
  cases word with
  | nil => cases h
  | cons first rest =>
      obtain ⟨hfirst, hrest⟩ := Bool.and_eq_true_iff.mp h
      have hall : ∀ c ∈ rest, part c = true := List.all_eq_true.mp hrest
      simp only [isWordOver, hasOneOf, hfirst, Bool.true_and, Bool.and_eq_true, Bool.or_eq_false_iff,
        Bool.not_eq_false', List.all_eq_true, List.any_eq_false, Bool.not_eq_true']
      refine and_congr_right fun _ => forall₂_congr fun c hc => ?_
      simp [hall c hc]

/-! ## Names and identifiers -/

/-- Whether a text is the name of an identifier, written without escapes: ID_Start, `$` or `_`, then
ID_Continue, `$` or a zero-width joiner. -/
def isIdentifierName (text : String) : Bool :=
  isWordOver isIdentifierStart isIdentifierPart text.toList

/-- A name has a letter that starts no identifier, or behind its first character a letter or a number
that is no part of one. -/
def hasStray (text : String) : Bool :=
  hasOneOf (fun c => isNameStart c && !isIdentifierStart c)
    (fun c => isNamePart c && !isIdentifierPart c) text.toList

/-- An identifier starts with no letter, or has a part that is neither a letter nor a number. -/
def hasMark (text : String) : Bool :=
  hasOneOf (fun c => isIdentifierStart c && !isNameStart c)
    (fun c => isIdentifierPart c && !isNamePart c) text.toList

/-- A name is a word over letters, and letters and numbers. -/
theorem isName_eq (text : String) : isName text = isWordOver isNameStart isNamePart text.toList := by
  unfold isName isWordOver
  rfl

/-- A name is an identifier exactly if it has no stray character. -/
theorem isIdentifierName_iff_of_isName {text : String} (h : isName text = true) :
    isIdentifierName text = true ↔ hasStray text = false :=
  isWordOver_iff ((isName_eq text).symm.trans h)

/-- An identifier is a name exactly if it has no mark. -/
theorem isName_iff_of_isIdentifierName {text : String} (h : isIdentifierName text = true) :
    isName text = true ↔ hasMark text = false := by
  rw [isName_eq]
  exact isWordOver_iff h

/-- Among ASCII characters, names and identifiers have the same ones. -/
theorem nameChars_eq_of_ascii {c : Char} (h : c.toNat < 0x80) :
    isNameStart c = isIdentifierStart c ∧ isNamePart c = isIdentifierPart c := by
  constructor
  · simp [isNameStart, isIdentifierStart, h]
  · simp only [isNamePart, isNameStart, isIdentifierPart, h, if_true, Char.isAlphanum]
    cases c.isAlpha <;> cases c.isDigit <;> simp

/-- Words over sets that have the same characters of a text are the same. -/
theorem isWordOver_congr {start part start' part' : Char → Bool} {word : List Char}
    (hstart : ∀ c ∈ word, start c = start' c) (hpart : ∀ c ∈ word, part c = part' c) :
    isWordOver start part word = isWordOver start' part' word := by
  cases word with
  | nil => rfl
  | cons first rest =>
      have hrest : rest.all part = rest.all part' := by
        rw [Bool.eq_iff_iff, List.all_eq_true, List.all_eq_true]
        exact forall₂_congr fun c hc => by rw [hpart c (List.mem_cons_of_mem _ hc)]
      rw [isWordOver, isWordOver, hstart first List.mem_cons_self, hrest]

/-- Of ASCII characters, names and identifiers are the same. -/
theorem isName_eq_of_ascii {text : String} (h : ∀ c ∈ text.toList, c.toNat < 0x80) :
    isName text = isIdentifierName text := by
  rw [isName_eq]
  exact isWordOver_congr (fun c hc => (nameChars_eq_of_ascii (h c hc)).1)
    fun c hc => (nameChars_eq_of_ascii (h c hc)).2

/-- Names and identifiers agree on a text exactly if it is no name with a stray character, and no
identifier with a mark. -/
theorem isName_eq_isIdentifierName_iff (text : String) :
    isName text = isIdentifierName text ↔ (isName text = true → hasStray text = false) ∧
      (isIdentifierName text = true → hasMark text = false) := by
  constructor
  · intro heq
    exact ⟨fun h => (isIdentifierName_iff_of_isName h).mp (heq ▸ h),
      fun h => (isName_iff_of_isIdentifierName h).mp (heq ▸ h)⟩
  · rintro ⟨hstray, hmark⟩
    rw [Bool.eq_iff_iff]
    exact ⟨fun h => (isIdentifierName_iff_of_isName h).mpr (hstray h),
      fun h => (isName_iff_of_isIdentifierName h).mpr (hmark h)⟩

/-- A character that starts a name or an identifier, but not both, makes a text that is one of them.
-/
theorem isName_singleton_ne {c : Char} (h : isNameStart c ≠ isIdentifierStart c) :
    isName (String.ofList [c]) ≠ isIdentifierName (String.ofList [c]) := by
  simpa [isName_eq, isIdentifierName, isWordOver] using h

/-- A character that continues a name or an identifier, but not both, does so behind a letter. -/
theorem isName_pair_ne {c : Char} (h : isNamePart c ≠ isIdentifierPart c) :
    isName (String.ofList ['a', c]) ≠ isIdentifierName (String.ofList ['a', c]) := by
  have hstart : isNameStart 'a' = true ∧ isIdentifierStart 'a' = true := by decide
  simpa [isName_eq, isIdentifierName, isWordOver, hstart] using h

/-- The name of a helper is an identifier exactly if that of its registry is. -/
theorem isIdentifierName_helperName {registry : String} (h : registry ≠ "") :
    isIdentifierName (helperName registry) = isIdentifierName registry := by
  have hhelper : "Helper".toList.all isIdentifierPart = true := by decide
  rw [isIdentifierName, isIdentifierName, helperName, String.toList_append]
  cases hregistry : registry.toList with
  | nil => exact absurd (String.toList_eq_nil_iff.mp hregistry) h
  | cons first rest =>
      rw [List.cons_append, isWordOver, isWordOver, List.all_append, hhelper, Bool.and_true]

end Text

namespace ClassDeclaration

variable {d : ClassDeclaration} {options : CollectOptions} {registry : String}

/-- The register marker of a class gives it the name of a registry, be it a proper one or not. -/
def NamesRegistry (options : CollectOptions) (registry : String) (d : ClassDeclaration) : Prop :=
  ∃ marker argument, d.registerMarker? options.marker = some marker ∧
    marker.registryArgument? options.registryArgument = some argument ∧
    d.argumentText argument = .ok registry

/-- A text that is there as the name of a registry is taken if it is a name. -/
theorem registryName_of_argumentText {marker : Marker} {parameter : String}
    {argument : ArgumentValue} (hargument : marker.registryArgument? parameter = some argument)
    (htext : d.argumentText argument = .ok registry) (hne : registry ≠ "") :
    d.registryName marker parameter =
      if Text.isName registry then .ok registry
      else .error (.invalidRegistryName d.name registry d.context) := by
  rw [registryName, hargument]
  simp only [htext, String.isEmpty_iff, hne, if_false]
  cases Text.isName registry <;> rfl

/-- The registry name of a class is rejected exactly if it is no name. -/
theorem member?_eq_invalidRegistryName_iff (h : d.NamesRegistry options registry)
    (hne : registry ≠ "") :
    d.member? options = .error (.invalidRegistryName d.name registry d.context) ↔
      Text.isName registry = false := by
  obtain ⟨marker, argument, hmarker, hargument, htext⟩ := h
  rw [member?, hmarker]
  simp only [registryName_of_argumentText hargument htext hne]
  cases Text.isName registry with
  | false => simp
  | true =>
      simp only [if_true]
      split
      · simp
      · split <;> simp

end ClassDeclaration

/-! ## Main statement -/

open Text in
/-- A text is held for a name exactly if it is an identifier, but for the characters that only one
of the two allows: where a name has a stray character it is no identifier, where an identifier has a
mark it is no name, and elsewhere they agree, as on all ASCII texts. Every such character makes a
text on which they disagree. So the helper of a registry has an identifier for its name exactly if
the name of the registry has no stray character, and an identifier is rejected as the name of a
registry exactly if it has a mark. -/
theorem registry_names_and_identifiers (text : String) :
    (isName text = isIdentifierName text ↔
      (isName text = true → hasStray text = false) ∧
        (isIdentifierName text = true → hasMark text = false)) ∧
    ((∀ c ∈ text.toList, c.toNat < 0x80) → isName text = isIdentifierName text) ∧
    (∀ c, (isNameStart c ≠ isIdentifierStart c →
        isName (String.ofList [c]) ≠ isIdentifierName (String.ofList [c])) ∧
      (isNamePart c ≠ isIdentifierPart c →
        isName (String.ofList ['a', c]) ≠ isIdentifierName (String.ofList ['a', c]))) ∧
    ∀ options (d : ClassDeclaration),
      (∀ m, d.member? options = .ok (some m) → m.registry = text →
        (isIdentifierName (helperName text) = true ↔ hasStray text = false)) ∧
      (d.NamesRegistry options text → isIdentifierName text = true →
        (d.member? options = .error (.invalidRegistryName d.name text d.context) ↔
          hasMark text = true)) := by
  refine ⟨isName_eq_isIdentifierName_iff text, isName_eq_of_ascii,
    fun _ => ⟨isName_singleton_ne, isName_pair_ne⟩, fun options d => ⟨?_, ?_⟩⟩
  · rintro m hmember rfl
    have hname : isName m.registry = true := ClassDeclaration.isName_of_member? hmember
    rw [isIdentifierName_helperName (ne_empty_of_isName hname)]
    exact isIdentifierName_iff_of_isName hname
  · intro hnames hidentifier
    have hne : text ≠ "" := by
      rintro rfl
      simp [isIdentifierName, isWordOver] at hidentifier
    rw [ClassDeclaration.member?_eq_invalidRegistryName_iff hnames hne, ← Bool.not_eq_true,
      isName_iff_of_isIdentifierName hidentifier, Bool.not_eq_false]

/-- A class of the registry `Armería` is a member of it, and the name of its helper an identifier. A
registry whose name ends in an accent of its own is refused to a class, identifier or not. -/
theorem helper_of_accentedRegistry :
    (∃ m, (ClassDeclaration.registered "Armería" "src/items.ts" "" "Foo" [] none).member?
        .standard = .ok (some m) ∧ m.registry = "Armería") ∧
      Text.isIdentifierName (helperName "Armería") = true ∧
      (ClassDeclaration.registered "e\u0301" "src/items.ts" "" "Foo" [] none).member? .standard =
        .error (.invalidRegistryName "Foo" "e\u0301" ⟨⟨"src/items.ts", 1, 1⟩, ""⟩) :=
  have hmember : (ClassDeclaration.registered "Armería" "src/items.ts" "" "Foo" [] none).member?
      .standard = .ok (some ⟨"", "Foo", "", "Armería", ⟨⟨"src/items.ts", 1, 1⟩, ""⟩, none⟩) := by
    decide +kernel
  have hnames : (ClassDeclaration.registered "e\u0301" "src/items.ts" "" "Foo" [] none).NamesRegistry
      .standard "e\u0301" :=
    ⟨⟨"Register", [⟨0, none, .literal "e\u0301"⟩]⟩, .literal "e\u0301", by decide, by decide, rfl⟩
  have ⟨_, _, _, haccented⟩ := registry_names_and_identifiers "Armería"
  have ⟨_, _, _, hmarked⟩ := registry_names_and_identifiers "e\u0301"
  ⟨⟨_, hmember, rfl⟩, ((haccented _ _).1 _ hmember rfl).mpr (by decide +kernel),
    ((hmarked _ _).2 hnames (by decide +kernel)).mpr (by decide +kernel)⟩

/-- A registry may be called `a²`, and its helper then has no identifier for its name: a superscript
is numeric, but no part of an identifier. An accent on its own is a part of an identifier, and none
of a name. -/
theorem superscript_in_registry_name :
    (∃ m, (ClassDeclaration.registered "a²" "src/items.ts" "" "Foo" [] none).member?
        .standard = .ok (some m) ∧ Text.isIdentifierName (helperName m.registry) = false) ∧
      Text.isName "a²" = true ∧ Text.isIdentifierName "a²" = false ∧
      Text.isName "e\u0301" = false ∧ Text.isIdentifierName "e\u0301" = true :=
  have hmember : (ClassDeclaration.registered "a²" "src/items.ts" "" "Foo" [] none).member?
      .standard = .ok (some ⟨"", "Foo", "", "a²", ⟨⟨"src/items.ts", 1, 1⟩, ""⟩, none⟩) := by
    decide +kernel
  ⟨⟨_, hmember, by decide +kernel⟩, by decide +kernel, by decide +kernel, by decide +kernel,
    by decide +kernel⟩

end ClassRegistry
