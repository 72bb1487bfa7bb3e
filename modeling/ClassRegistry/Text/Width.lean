import ClassRegistry.Text.WidthTable

/-!
# Display width

How many columns a text takes in a terminal. A single character has a width of its own; in a text,
what stands behind a character can change its width, as in an emoji with its modifiers or in the
ligatures of a few scripts. So a text is measured from its end.
-/

namespace ClassRegistry.Text

/-- Whether a character controls the terminal and shows nothing. -/
def isControl (c : Char) : Bool :=
  c.toNat < 0x20 || (0x7F ≤ c.toNat && c.toNat < 0xA0)

/-- The columns of a character that stands alone and is no control character. -/
def ownWidth (c : Char) : Nat :=
  if c.toNat < 0x7F then 1
  else if c.toNat = 0x17A4 then 2
  else if c.toNat = 0x17D8 then 3
  else if zeroWidth.contains c then 0
  else if wide.contains c then 2
  else 1

/-- The columns that a character takes in a line of source text: a tab takes four, other control
characters none. A character outside of the Basic Multilingual Plane takes one more than it shows,
because it is counted as a pair of code units. -/
def columns (c : Char) : Nat :=
  if c = '\t' then 4
  else if isControl c then 0
  else if c.toNat < 0x10000 then ownWidth c
  else ownWidth c + 1

/-! ## Characters that act on others -/

/-- Joins the characters around it. -/
def joiner : Char := Char.ofNat 0x200D

/-- Encloses the character before it in a keycap. -/
def keycap : Char := Char.ofNat 0x20E3

/-- A skin tone. -/
def isSkinTone (c : Char) : Bool :=
  0x1F3FB ≤ c.toNat && c.toNat ≤ 0x1F3FF

/-- Half of a flag. -/
def isFlagHalf (c : Char) : Bool :=
  0x1F1E6 ≤ c.toNat && c.toNat ≤ 0x1F1FF

/-- The flag that tags behind it make the flag of a region. -/
def isTaggedFlag (c : Char) : Bool :=
  c.toNat = 0x1F3F4

/-- The end of a sequence of tags. -/
def isTagEnd (c : Char) : Bool :=
  c.toNat = 0xE007F

/-- A letter in a sequence of tags. -/
def isTagLetter (c : Char) : Bool :=
  0xE0061 ≤ c.toNat && c.toNat ≤ 0xE007A

/-- A digit in a sequence of tags. -/
def isTagDigit (c : Char) : Bool :=
  0xE0030 ≤ c.toNat && c.toNat ≤ 0xE0039

/-- Marks that ligatures look through. -/
def isTransparentMark (c : Char) : Bool :=
  c.toNat = 0x34F || (0x17B4 ≤ c.toNat && c.toNat ≤ 0x17B5) ||
    (0x180B ≤ c.toNat && c.toNat ≤ 0x180D) || c.toNat = 0x180F ||
    (0xFE00 ≤ c.toNat && c.toNat ≤ 0xFE0F) || (0xE0100 ≤ c.toNat && c.toNat ≤ 0xE01EF)

/-- A letter that Tifinagh joins. -/
def isTifinaghConsonant (c : Char) : Bool :=
  (0x2D31 ≤ c.toNat && c.toNat ≤ 0x2D65) || c.toNat = 0x2D6F

/-- The sign that joins the Tifinagh letters around it. -/
def isTifinaghJoiner (c : Char) : Bool :=
  c.toNat = 0x2D7F

/-- A letter that is written below another one after the Khmer sign coeng. -/
def isKhmerSubjoined (c : Char) : Bool :=
  [(0x1780, 0x1782), (0x1784, 0x1787), (0x1789, 0x178C), (0x178E, 0x1793), (0x1795, 0x1798),
    (0x179B, 0x179D), (0x17A0, 0x17A0), (0x17A2, 0x17A2), (0x17A7, 0x17A7), (0x17AB, 0x17AC),
    (0x17AF, 0x17AF)].any fun range => range.1 ≤ c.toNat && c.toNat ≤ range.2

/-- A curly quotation mark. -/
def isCurlyQuote (c : Char) : Bool :=
  c.toNat = 0x2018 || c.toNat = 0x2019 || c.toNat = 0x201C || c.toNat = 0x201D

/-- Whether a picture, asked for as text, takes a single column. -/
def hasNarrowText (c : Char) : Bool :=
  pictureSequenceBase.contains c && emojiPresentation.contains c &&
    !(0x1F200 ≤ c.toNat && c.toNat ≤ 0x1F2FF)

/-! ## Sequences -/

/-- How the character before a selector is to be drawn. -/
inductive Selector where
  | picture
  | text
  | fullWidth
  | other
  deriving DecidableEq

/-- The selector that a character is. -/
def Selector.ofChar? (c : Char) : Option Selector :=
  if c.toNat = 0xFE0F then some .picture
  else if c.toNat = 0xFE0E then some .text
  else if c.toNat = 0xFE01 then some .fullWidth
  else if c.toNat = 0xFE00 || c.toNat = 0xFE02 then some .other
  else none

/-- The end of a ligature. -/
inductive LigatureEnd where
  | alef
  | lamed
  | buginese
  /-- The vowel sign before the last letter of the Buginese ligature. -/
  | bugineseVowel
  | tifinagh
  /-- The joiner before a Tifinagh letter. -/
  | tifinaghJoined
  | lisu
  | orkhon
  | khmer
  deriving DecidableEq

/-- What stands behind a character, as far as it can change the width of the character. -/
inductive Sequel where
  | plain
  | lineFeed
  | picture
  | skinTone
  | flagHalves (count : Nat)
  /-- A joiner with a picture behind it. -/
  | joinedPicture
  /-- A keycap before such a joiner. -/
  | joinedKeycap
  /-- Halves of flags before such a joiner. -/
  | joinedFlagHalves (count : Nat)
  /-- Tags up to their end before such a joiner. -/
  | joinedTags (letters digits : Nat)
  | kiratRaiVowel (isDouble : Bool)
  | ligature (last : LigatureEnd) (hasJoiner : Bool)
  deriving DecidableEq

/-- What stands behind a character, selectors told apart. -/
structure WidthContext where
  selector? : Option Selector
  sequel : Sequel
  deriving DecidableEq

namespace WidthContext

/-- Nothing that changes a width. -/
def plain : WidthContext := ⟨none, .plain⟩

/-- The context before a selector: all but a ligature and, for a picture, what a joiner joins is
lost. -/
def select (selector : Selector) (behind : WidthContext) : WidthContext :=
  match behind.selector?, behind.sequel, selector with
  | _, .ligature last hasJoiner, _ => ⟨some selector, .ligature last hasJoiner⟩
  | none, .joinedPicture, .picture => ⟨some selector, .joinedPicture⟩
  | none, .joinedKeycap, .picture => ⟨some selector, .joinedKeycap⟩
  | _, _, _ => ⟨some selector, .plain⟩

/-- The context without its selector, which has no effect on the character before it. -/
def unselected (behind : WidthContext) : Sequel :=
  match behind.selector?, behind.sequel with
  | none, sequel => sequel
  | some _, .ligature last hasJoiner => .ligature last hasJoiner
  | some _, _ => .plain

end WidthContext

/-- The context of a character that nothing behind it has an effect on. -/
def Sequel.ofChar (c : Char) : Sequel :=
  if alefShapes.contains c then .ligature .alef false
  else if c.toNat = 0x5DC then .ligature .lamed false
  else if isKhmerSubjoined c then .ligature .khmer false
  else if c.toNat = 0x1A10 then .ligature .buginese false
  else if isTifinaghConsonant c then .ligature .tifinagh false
  else if c.toNat = 0xA4FC || c.toNat = 0xA4FD then .ligature .lisu false
  else if c.toNat = 0x10C03 then .ligature .orkhon false
  else if c.toNat = 0x16D67 then .kiratRaiVowel false
  else if c.toNat = 0x16D68 then .kiratRaiVowel true
  else if isFlagHalf c then .flagHalves 1
  else if isSkinTone c then .skinTone
  else if emojiPresentation.contains c then .picture
  else .plain

/-- The columns of a character that nothing behind it has an effect on, and the context before
it. -/
def ownStep (c : Char) : Int × WidthContext :=
  match Selector.ofChar? c with
  | some selector => (0, ⟨some selector, .plain⟩)
  | none => (ownWidth c, ⟨none, .ofChar c⟩)

/-- The columns that a character adds before the end of a ligature, and what stands behind the next
character then; none when it does not belong to the ligature. -/
def ligatureStep? (last : LigatureEnd) (hasJoiner : Bool) (c : Char) : Option (Int × Sequel) :=
  if c = joiner then some (0, .ligature last true)
  else if isTransparentMark c then some (0, .ligature last hasJoiner)
  else match last with
    | .alef =>
      if hasJoiner then none
      else if lamShapes.contains c then some (0, .plain)
      else if joiningTransparent.contains c then some (0, .ligature .alef false)
      else none
    | .lamed => if hasJoiner && c.toNat = 0x5D0 then some (0, .plain) else none
    | .khmer => if c.toNat = 0x17D2 then some (-1, .plain) else none
    | .buginese =>
      if hasJoiner && c.toNat = 0x1A17 then some (0, .ligature .bugineseVowel true) else none
    | .bugineseVowel => if c.toNat = 0x1A15 then some (0, .plain) else none
    | .tifinagh =>
      if isTifinaghJoiner c then some (1, .ligature .tifinaghJoined true)
      else if hasJoiner && isTifinaghConsonant c then some (0, .plain)
      else none
    | .tifinaghJoined => if isTifinaghConsonant c then some (-1, .plain) else none
    | .lisu => if 0xA4F8 ≤ c.toNat && c.toNat ≤ 0xA4FB then some (0, .plain) else none
    | .orkhon => if hasJoiner && c.toNat = 0x10C32 then some (0, .plain) else none

/-- The columns that a character adds before what a joiner joins to it. -/
def joinedStep? (c : Char) : Option (Int × Sequel) :=
  if c = keycap then some (0, .joinedKeycap)
  else if isFlagHalf c then some (1, .joinedFlagHalves 1)
  else if isSkinTone c then some (0, .skinTone)
  else if isTagEnd c then some (0, .joinedTags 0 0)
  else if emojiPresentation.contains c then some (0, .picture)
  else none

/-- The columns that a character adds before tags. Up to six letters make a region, or three digits
behind at most four letters. -/
def tagStep? (letters digits : Nat) (c : Char) : Option (Int × Sequel) :=
  if isTagLetter c && digits = 0 && letters < 6 then some (0, .joinedTags (letters + 1) 0)
  else if isTagDigit c && (if digits = 0 then letters ≤ 4 else digits < 3) then
    some (0, .joinedTags letters (digits + 1))
  else if isTaggedFlag c && (if digits = 0 then 3 ≤ letters else digits = 3) then some (0, .picture)
  else none

/-- The columns that a character adds before a Kirat Rai vowel sign: signs that make up one sign
take one column. -/
def kiratRaiStep? (isDouble : Bool) (c : Char) : Option (Int × Sequel) :=
  if c.toNat = 0x16D63 then some (0, .plain)
  else if isDouble then none
  else if c.toNat = 0x16D67 then some (0, .kiratRaiVowel true)
  else if c.toNat = 0x16D68 then some (1, .kiratRaiVowel false)
  else if c.toNat = 0x16D69 then some (0, .plain)
  else none

/-- The columns that a character adds to what stands behind it, none when nothing there has an
effect on it. -/
def sequelStep? (sequel : Sequel) (c : Char) : Option (Int × Sequel) :=
  match sequel with
  | .plain => none
  | .lineFeed => if c = '\r' then some (0, .plain) else none
  | .picture => if c = joiner then some (0, .joinedPicture) else none
  | .skinTone =>
    if modifierBase.contains c then some (0, .picture)
    else if c = joiner then some (0, .joinedPicture)
    else none
  | .flagHalves count =>
    if isFlagHalf c then some (1, .flagHalves (count + 1))
    else if c = joiner && 1 < count then some (0, .joinedPicture)
    else none
  | .joinedPicture => joinedStep? c
  | .joinedKeycap => none
  | .joinedFlagHalves count =>
    if isFlagHalf c then some (if count % 2 = 1 then -1 else 3, .joinedFlagHalves (count + 1))
    else if c = joiner && 1 < count then some (0, .joinedPicture)
    else none
  | .joinedTags letters digits => tagStep? letters digits c
  | .kiratRaiVowel isDouble => kiratRaiStep? isDouble c
  | .ligature last hasJoiner => ligatureStep? last hasJoiner c

/-- The columns that a character adds to a text behind it, and the context for the character before
it. A control character takes one, as does a line end. -/
def widthStep (behind : WidthContext) (c : Char) : Int × WidthContext :=
  if behind.selector? = some .picture && pictureSequenceBase.contains c then
    let isJoined := behind.sequel = .joinedPicture || behind.sequel = .joinedKeycap
    (if isJoined then 0 else 2, ⟨none, .picture⟩)
  else if c = '\n' then (1, ⟨none, .lineFeed⟩)
  else if c.toNat ≤ 0xA0 then
    if c = '\r' && behind.sequel = .lineFeed then (0, .plain) else (1, .plain)
  else match Selector.ofChar? c with
    | some selector => (0, behind.select selector)
    | none =>
      if behind.selector? = some .text && hasNarrowText c then (1, .plain)
      else if behind.selector? = some .fullWidth && isCurlyQuote c then (2, .plain)
      else match sequelStep? behind.unselected c with
        | some (width, sequel) => (width, ⟨none, sequel⟩)
        | none => ownStep c

/-- The columns of a text, and the context for a character before it. -/
def measure (text : List Char) : Int × WidthContext :=
  text.foldr (fun c (width, behind) =>
    let (added, context) := widthStep behind c
    (width + added, context)) (0, .plain)

/-- The columns that a text takes. -/
def width (text : List Char) : Nat :=
  (measure text).1.toNat

end ClassRegistry.Text
