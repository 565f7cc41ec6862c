import FramedSerial.Text.Unicode.Combining
import FramedSerial.Text.Unicode.Emoji
import FramedSerial.Text.Unicode.Parting
import FramedSerial.Text.Unicode.Unprintable
import FramedSerial.Text.Unicode.Wide

/-!
# Properties of characters

The tables hold ranges of code points; a character has a property if its code point lies in
one of the property's ranges.
-/

namespace FramedSerial.Unicode

/-- The code point of a character lies in one of the ranges. -/
def within (ranges : Array (Nat × Nat)) (c : Char) : Bool :=
  ranges.any fun (first, last) => first ≤ c.toNat && c.toNat ≤ last

/-- A character that combines with the one before it. -/
def isCombining (c : Char) : Bool := within combining c

/-- A character that would not be seen if it were printed. -/
def isUnprintable (c : Char) : Bool := c.toNat < 0x20 || within unprintable c

/-- A control character. -/
def isControl (c : Char) : Bool := c.toNat < 0x20 || (0x7F ≤ c.toNat && c.toNat ≤ 0x9F)

/-- The number of places a character takes in a column of fixed pitch, when nothing beside it
changes that. A joiner that is seen takes one, though it combines, and two signs that are
written as several letters take as many places as those. -/
def columns (c : Char) : Nat :=
  if c.toNat < 0x7F || c.toNat == 0x2D7F then 1
  else if c.toNat == 0x17A4 then 2
  else if c.toNat == 0x17D8 then 3
  else if isCombining c || within invisible c then 0
  else if within wide c then 2
  else 1

/-! ## Emoji -/

/-- A character that is drawn as a picture unless text is asked for. -/
def isPicture (c : Char) : Bool := within pictures c

/-- A character that has both a picture and a text style. -/
def isRestylable (c : Char) : Bool := within restylable c

/-- A picture that is one place wide in its text style. Ideographs in a square keep their
width. -/
def isNarrowAsText (c : Char) : Bool :=
  isRestylable c && isPicture c && !(0x1F200 ≤ c.toNat && c.toNat ≤ 0x1F2FF)

/-- A character that can wear a skin tone. -/
def isToneBase (c : Char) : Bool := within toneBases c

/-- A skin tone. -/
def isTone (c : Char) : Bool := 0x1F3FB ≤ c.toNat && c.toNat ≤ 0x1F3FF

/-- A letter of which two make a flag. -/
def isRegional (c : Char) : Bool := 0x1F1E6 ≤ c.toNat && c.toNat ≤ 0x1F1FF

/-- A letter of the tag that says which flag a black flag is. -/
def isTagLetter (c : Char) : Bool := 0xE0061 ≤ c.toNat && c.toNat ≤ 0xE007A

/-- A digit of such a tag. -/
def isTagDigit (c : Char) : Bool := 0xE0030 ≤ c.toNat && c.toNat ≤ 0xE0039

/-! ## Letters that run together -/

/-- An Arabic letter of the shape of lam. -/
def isLam (c : Char) : Bool :=
  [0x644, 0x6B5, 0x6B6, 0x6B7, 0x6B8, 0x76A, 0x8A6, 0x8C7].contains c.toNat

/-- An Arabic letter of the shape of alef. -/
def isAlef (c : Char) : Bool :=
  [0x622, 0x623, 0x625, 0x627, 0x671, 0x672, 0x673, 0x675, 0x773, 0x774].contains c.toNat
    || (0x870 ≤ c.toNat && c.toNat ≤ 0x882)

/-- A character without width that leaves the letters on either side of it joined. -/
def isTransparent (c : Char) : Bool := columns c == 0 && !within parting c

/-- A mark that is ignored inside a ligature. -/
def isIgnoredMark (c : Char) : Bool :=
  within #[(0x34F, 0x34F), (0x17B4, 0x17B5), (0x180B, 0x180D), (0x180F, 0x180F),
    (0xFE00, 0xFE0F), (0xE0100, 0xE01EF)] c

/-- A Khmer letter that is written below another after a coeng. -/
def isKhmerSubscript (c : Char) : Bool :=
  within #[(0x1780, 0x1782), (0x1784, 0x1787), (0x1789, 0x178C), (0x178E, 0x1793),
    (0x1795, 0x1798), (0x179B, 0x179D), (0x17A0, 0x17A0), (0x17A2, 0x17A2), (0x17A7, 0x17A7),
    (0x17AB, 0x17AC), (0x17AF, 0x17AF)] c

/-- A Tifinagh letter that can be joined to another. -/
def isTifinagh (c : Char) : Bool :=
  (0x2D31 ≤ c.toNat && c.toNat ≤ 0x2D65) || c.toNat == 0x2D6F

/-- A quotation mark that has a form of full width. -/
def isCurlyQuote (c : Char) : Bool := [0x2018, 0x2019, 0x201C, 0x201D].contains c.toNat

end FramedSerial.Unicode
