import FramedSerial.Text.Unicode.Ranges

/-!
# The width of a text

In a column of fixed pitch a text is mostly as wide as its characters together, but not
always: a selector asks for another style of the character before it, a joiner makes one
picture of several, two letters of a flag or a lam and an alef share their places. What is
written as one is measured as one.

Each of these is recognised by its last character, so the width is added up from the end of
the text. `Sequel` is what the part already measured means for the character before it, and
`place` measures that character. It may give back places that its sequel has taken, which is
why widths are integers on the way.
-/

namespace FramedSerial

/-- The last part of a ligature. -/
inductive LigatureEnd where
  /-- An Arabic alef, which a lam before it takes in. -/
  | alef
  /-- A Hebrew lamed, which a joiner ties to an alef. -/
  | lamed
  /-- A Buginese ya, which a joiner ties to a vowel sign. -/
  | ya
  /-- A Buginese vowel sign tied to a ya. -/
  | signAndYa
  /-- A Tifinagh letter, which either joiner ties to another. -/
  | tifinagh
  /-- A Tifinagh letter and the joiner before it. -/
  | joinedTifinagh
  /-- A Lisu tone letter that follows another in its place. -/
  | lisuTone
  /-- An Old Turkic letter, which a joiner ties to one before it. -/
  | orkhonI
  /-- A Khmer letter, which a coeng puts below the one before. -/
  | khmer
deriving DecidableEq

/-- What stands after a character, as far as it can change the character's width. -/
inductive SequelKind where
  /-- Nothing that matters. -/
  | plain
  | lineFeed
  /-- A skin tone. -/
  | tone
  /-- One letter of a flag. -/
  | regional
  /-- Several letters of flags. -/
  | regionals
  /-- A picture. -/
  | picture
  /-- A joiner before a picture. -/
  | joinedPicture
  /-- A keycap before a joined picture. -/
  | joinedKeycap
  /-- One letter of a flag before a joined picture. -/
  | joinedRegional
  /-- Pairs of such letters. -/
  | joinedPairs
  /-- Pairs of such letters, and one more. -/
  | joinedPairsAndOne
  /-- The end of a flag's tag before a joined picture, and so many letters before it. -/
  | tagLetters (count : Nat)
  /-- The same, and so many digits before it. -/
  | tagDigits (count : Nat)
  /-- A Kirat Rai vowel sign e. -/
  | kiratE
  /-- A Kirat Rai vowel sign ai, or two signs e, which make one. -/
  | kiratAI
  /-- The last part of a ligature, and whether a joiner stands before it. -/
  | ligature (part : LigatureEnd) (joined : Bool)
deriving DecidableEq

/-- What stands after a character, and the styles that selectors between the two ask for. A
selector holds for one character, and is spent on it even if that has no such style. Only
before the end of a ligature can more than one be waiting. -/
structure Sequel where
  kind : SequelKind
  /-- Drawn as a picture. -/
  asPicture : Bool
  /-- Written as text. -/
  asText : Bool
  /-- Of full width. -/
  asFull : Bool

namespace SequelKind

/-- A selector before this leaves it in sight. -/
def outlastsSelector : SequelKind → Bool
  | .ligature _ _ => true
  | _ => false

/-- A joiner or a keycap that waits for the picture before it. -/
def awaitsPicture : SequelKind → Bool
  | .joinedPicture | .joinedKeycap => true
  | _ => false

/-- What a character is to the one before it when it stands by itself. -/
def ofChar (c : Char) : SequelKind :=
  if c == '\n' then .lineFeed
  else if c.toNat ≤ 0xA0 then .plain
  else if c.toNat == 0x5DC then .ligature .lamed false
  else if Unicode.isAlef c then .ligature .alef false
  else if Unicode.isKhmerSubscript c then .ligature .khmer false
  else if c.toNat == 0x1A10 then .ligature .ya false
  else if Unicode.isTifinagh c then .ligature .tifinagh false
  else if c.toNat == 0xA4FC || c.toNat == 0xA4FD then .ligature .lisuTone false
  else if c.toNat == 0x10C03 then .ligature .orkhonI false
  else if c.toNat == 0x16D67 then .kiratE
  else if c.toNat == 0x16D68 then .kiratAI
  else if Unicode.isRegional c then .regional
  else if Unicode.isTone c then .tone
  else if Unicode.isPicture c then .picture
  else .plain

/-- The places a character takes before the end of a ligature, if it belongs to the ligature,
and what the two are together. -/
def meldLigature (c : Char) (joined : Bool) : LigatureEnd → Option (Int × SequelKind)
  | .alef =>
    if Unicode.isLam c then some (0, .plain)
    else if Unicode.isTransparent c then some (0, .ligature .alef joined)
    else none
  | .lamed => if joined && c.toNat == 0x5D0 then some (0, .plain) else none
  | .ya => if joined && c.toNat == 0x1A17 then some (0, .ligature .signAndYa true) else none
  | .signAndYa => if c.toNat == 0x1A15 then some (0, .plain) else none
  | .tifinagh =>
    if c.toNat == 0x2D7F then some (1, .ligature .joinedTifinagh true)
    else if joined && Unicode.isTifinagh c then some (0, .plain)
    else none
  | .joinedTifinagh => if Unicode.isTifinagh c then some (-1, .plain) else none
  | .lisuTone => if 0xA4F8 ≤ c.toNat && c.toNat ≤ 0xA4FB then some (0, .plain) else none
  | .orkhonI => if joined && c.toNat == 0x10C32 then some (0, .plain) else none
  | .khmer => if c.toNat == 0x17D2 then some (-1, .plain) else none

/-- The places of a character before a joined picture, if it is a part of that picture. -/
def meldPicture (c : Char) : Option (Int × SequelKind) :=
  if c.toNat == 0x20E3 then some (0, .joinedKeycap)
  else if Unicode.isRegional c then some (1, .joinedRegional)
  else if Unicode.isTone c then some (0, .tone)
  else if c.toNat == 0xE007F then some (0, .tagLetters 0)
  else if Unicode.isPicture c then some (0, .picture)
  else none

/-- The places of a character before the letters of a flag's tag: a tag has up to six of
them, or up to four and then three digits, or digits alone, and a black flag stands before
it. -/
def meldTag (c : Char) : SequelKind → Option (Int × SequelKind)
  | .tagLetters n =>
    if Unicode.isTagLetter c && n < 6 then some (0, .tagLetters (n + 1))
    else if Unicode.isTagDigit c && n ≤ 4 then some (0, .tagDigits 1)
    else if c.toNat == 0x1F3F4 && 3 ≤ n then some (0, .picture)
    else none
  | .tagDigits n =>
    if Unicode.isTagDigit c && n < 3 then some (0, .tagDigits (n + 1))
    else if c.toNat == 0x1F3F4 && n == 3 then some (0, .picture)
    else none
  | _ => none

/-- The places a character takes if it makes one with its sequel, and what the two are
together. The odd letter of a flag beside joined pairs takes back the place that the pairs
gave up. -/
def meld (c : Char) : SequelKind → Option (Int × SequelKind)
  | .plain | .lineFeed | .joinedKeycap => none
  | .tone =>
    if Unicode.isToneBase c then some (0, .picture)
    else if c.toNat == 0x200D then some (0, .joinedPicture)
    else none
  | .regional => if Unicode.isRegional c then some (1, .regionals) else none
  | .regionals =>
    if Unicode.isRegional c then some (1, .regionals)
    else if c.toNat == 0x200D then some (0, .joinedPicture)
    else none
  | .picture => if c.toNat == 0x200D then some (0, .joinedPicture) else none
  | .joinedPicture => meldPicture c
  | .joinedRegional => if Unicode.isRegional c then some (-1, .joinedPairs) else none
  | .joinedPairs =>
    if Unicode.isRegional c then some (3, .joinedPairsAndOne)
    else if c.toNat == 0x200D then some (0, .joinedPicture)
    else none
  | .joinedPairsAndOne =>
    if Unicode.isRegional c then some (-1, .joinedPairs)
    else if c.toNat == 0x200D then some (0, .joinedPicture)
    else none
  | .tagLetters n => meldTag c (.tagLetters n)
  | .tagDigits n => meldTag c (.tagDigits n)
  | .kiratE =>
    if c.toNat == 0x16D63 || c.toNat == 0x16D69 then some (0, .plain)
    else if c.toNat == 0x16D67 then some (0, .kiratAI)
    else if c.toNat == 0x16D68 then some (1, .kiratE)
    else none
  | .kiratAI => if c.toNat == 0x16D63 then some (0, .plain) else none
  | .ligature part joined => meldLigature c joined part

/-- What stands after a character without width that a ligature ignores. The joiner is
noted. -/
def past? (c : Char) : SequelKind → Option SequelKind
  | .ligature .alef _ => none
  | .ligature part joined =>
    if c.toNat == 0x200D then some (.ligature part true)
    else if Unicode.isIgnoredMark c then some (.ligature part joined)
    else none
  | _ => none

/-- The places of a character beyond U+00A0 that no selector concerns, and what it is with its
sequel to the character before it. -/
def place (c : Char) (kind : SequelKind) : Int × SequelKind :=
  match kind.past? c with
  | some kind => (0, kind)
  | none => (kind.meld c).getD (Unicode.columns c, .ofChar c)

end SequelKind

namespace Sequel

/-- A sequel without a selector before it. -/
def of (kind : SequelKind) : Sequel := ⟨kind, false, false, false⟩

/-- Put a selector for a picture before a sequel. -/
def withPicture (s : Sequel) : Sequel :=
  if s.kind.outlastsSelector || s.kind.awaitsPicture then { s with asPicture := true }
  else { of .plain with asPicture := true }

/-- Put a selector for text before a sequel. -/
def withText (s : Sequel) : Sequel :=
  if s.kind.outlastsSelector then { s with asText := true }
  else { of .plain with asText := true }

/-- Put a selector for full width before a sequel. -/
def withFull (s : Sequel) : Sequel :=
  if s.kind.outlastsSelector then { s with asFull := true }
  else { of .plain with asFull := true }

/-- Spend a selector for a picture on a character that has no such style. -/
def withoutPicture (s : Sequel) : Sequel :=
  if s.asPicture && !s.kind.outlastsSelector then of .plain else { s with asPicture := false }

/-- The places of a character, and what it is with its sequel to the character before it. -/
def place (c : Char) (s : Sequel) : Int × Sequel :=
  if s.asPicture && Unicode.isRestylable c then
    (if s.kind.awaitsPicture then 0 else 2, of .picture)
  else
    let s := s.withoutPicture
    if c.toNat ≤ 0xA0 then
      (if c == '\r' && s.kind == .lineFeed then 0 else 1, of (.ofChar c))
    else if c.toNat == 0xFE0F then (0, s.withPicture)
    else if c.toNat == 0xFE0E then (0, s.withText)
    else if c.toNat == 0xFE01 then (0, s.withFull)
    else if s.asText && Unicode.isNarrowAsText c then (1, of .plain)
    else if s.asFull && Unicode.isCurlyQuote c then (2, of .plain)
    else
      let (width, kind) := s.kind.place c
      (width, of kind)

end Sequel

/-- The places a text takes. -/
def columnsOf (s : String) : Nat :=
  (s.toList.foldr
    (fun c (sum, sequel) =>
      let (width, sequel) := sequel.place c
      (sum + width, sequel))
    ((0 : Int), Sequel.of .plain)).1.toNat

end FramedSerial
