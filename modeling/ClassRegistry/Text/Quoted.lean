import ClassRegistry.Text.Unprintable

/-!
# Quoted text

A text between double quotes, with the characters escaped that would break it or that cannot be
seen.
-/

namespace ClassRegistry.Text

/-- The code point of a character in hexadecimal digits. -/
def hexadecimal (c : Char) : List Char :=
  Nat.toDigits 16 c.toNat

/-- A character as it is written between quotes. -/
def escaped (escapesApostrophe : Bool) (c : Char) : List Char :=
  if c = '\x00' then ['\\', '0']
  else if c = '\t' then ['\\', 't']
  else if c = '\n' then ['\\', 'n']
  else if c = '\r' then ['\\', 'r']
  else if c = '\\' || c = '"' || (escapesApostrophe && c = '\x27') then ['\\', c]
  else if unprintable.contains c then ['\\', 'u', '\x7b'] ++ hexadecimal c ++ ['\x7d']
  else [c]

/-- A text between quotes. -/
def quoted (escapesApostrophe : Bool) (text : String) : String :=
  String.ofList ('"' :: text.toList.flatMap (escaped escapesApostrophe) ++ ['"'])

end ClassRegistry.Text
