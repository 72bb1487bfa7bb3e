import ClassRegistry.Text.Letters

/-!
# Registry names

A registry name ends up in a file name and in an identifier of the generated code, so it is held to
the shape of an identifier: Unicode letters, digits, `$` and `_`, not starting with a digit.
-/

namespace ClassRegistry.Text

/-- A character that can start a name. -/
def isNameStart (c : Char) : Bool :=
  (if c.toNat < 0x80 then c.isAlpha else alphabetic.contains c) || c == '_' || c == '$'

/-- A character that can continue a name. -/
def isNamePart (c : Char) : Bool :=
  isNameStart c || (if c.toNat < 0x80 then c.isDigit else numeric.contains c)

/-- Whether a text is a name. -/
def isName (text : String) : Bool :=
  match text.toList with
  | [] => false
  | first :: rest => isNameStart first && rest.all isNamePart

/-- What starts a name can also continue one. -/
theorem isNamePart_of_isNameStart {c : Char} (h : isNameStart c = true) : isNamePart c = true := by
  simp [isNamePart, h]

theorem ne_empty_of_isName {text : String} (h : isName text = true) : text ≠ "" := by
  rintro rfl
  simp [isName] at h

end ClassRegistry.Text
