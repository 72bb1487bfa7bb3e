/-!
# White space

The characters with the Unicode property White_Space.
-/

namespace ClassRegistry.Text

/-- Whether a character is white space. -/
def isBlank (c : Char) : Bool :=
  (0x9 ≤ c.toNat && c.toNat ≤ 0xD) || (0x2000 ≤ c.toNat && c.toNat ≤ 0x200A) ||
    [0x20, 0x85, 0xA0, 0x1680, 0x2028, 0x2029, 0x202F, 0x205F, 0x3000].contains c.toNat

end ClassRegistry.Text
