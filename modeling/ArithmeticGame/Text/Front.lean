import ArithmeticGame.Text.CharWidth
import ArithmeticGame.Text.Emoji
/-!
# Joined characters

A text is measured from its end, and a character may be drawn together with what stands behind it:
the halves of a line break, letters that join, and emoji that combine into one picture. The front of
a text is as much of its start as decides how a character before it is drawn.
-/
namespace ArithmeticGame.Text

/-- What a text starts with, where a character before it may join that. -/
inductive Start where
  | other
  | lineFeed
  /-- An Arabic alef. -/
  | alef
  /-- A Hebrew lamed, `linked` if a joiner stands before it. -/
  | lamed (linked : Bool)
  /-- A Buginese ya. -/
  | ya (linked : Bool)
  /-- A Buginese vowel sign i with a linked ya. -/
  | signAndYa
  /-- A Tifinagh consonant. -/
  | consonant (linked : Bool)
  /-- The joiner of Tifinagh with a consonant. -/
  | joinedConsonant
  /-- A tone letter of Lisu that ends a pair. -/
  | finalTone
  /-- An Old Turkic letter i. -/
  | turkicI (linked : Bool)
  /-- A Khmer letter that can be stacked below another. -/
  | stackable
  | tone
  | regional
  /-- Two regional indicators or more. -/
  | regionals
  | picture
  /-- A picture with a joiner before it. -/
  | link
  /-- An enclosing key with a link behind it. -/
  | keyAndLink
  /-- Regional indicators with a link behind them: one, or an even or odd number. -/
  | regionalAndLink
  | evenAndLink
  | oddAndLink
  /-- The tags of a regional flag with a link behind them. -/
  | tagsAndLink (letters digits : Nat)
deriving DecidableEq

/-- The variation selectors that choose between text and picture. -/
inductive Selector where
  | text
  | picture
deriving DecidableEq

def Selector.ofChar? : Char → Option Selector
  | '\ufe0e' => some text
  | '\ufe0f' => some picture
  | _ => none

/-- The letters of the Arabic joining group Lam. -/
def isLam (c : Char) : Bool :=
  inRanges c.toNat
    [(0x0644, 0x0644), (0x06B5, 0x06B8), (0x076A, 0x076A), (0x08A6, 0x08A6), (0x08C7, 0x08C7)]

/-- The letters of the Arabic joining group Alef. -/
def isAlef (c : Char) : Bool :=
  inRanges c.toNat
    [(0x0622, 0x0623), (0x0625, 0x0625), (0x0627, 0x0627), (0x0671, 0x0673), (0x0675, 0x0675),
     (0x0773, 0x0774), (0x0870, 0x0882)]

/-- Characters without a column that keep the letters around them from joining in Arabic. -/
def partingRanges : List (Nat × Nat) :=
  [(0x0605, 0x0605), (0x0890, 0x0891), (0x08E2, 0x08E2), (0x09BE, 0x09BE), (0x09D7, 0x09D7),
   (0x0B3E, 0x0B3E), (0x0B57, 0x0B57), (0x0BBE, 0x0BBE), (0x0BD7, 0x0BD7), (0x0CC0, 0x0CC0),
   (0x0CC2, 0x0CC2), (0x0CC7, 0x0CC8), (0x0CCA, 0x0CCB), (0x0CD5, 0x0CD6), (0x0D3E, 0x0D3E),
   (0x0D4E, 0x0D4E), (0x0D57, 0x0D57), (0x0DCF, 0x0DCF), (0x0DDF, 0x0DDF), (0x1160, 0x11FF),
   (0x180E, 0x180E), (0x1B35, 0x1B35), (0x1B3B, 0x1B3B), (0x1B3D, 0x1B3D), (0x1B43, 0x1B43),
   (0x200C, 0x200D), (0x2065, 0x2069), (0x302E, 0x302F), (0x3164, 0x3164), (0xA8FA, 0xA8FA),
   (0xD7B0, 0xD7C6), (0xD7CB, 0xD7FB), (0xFF9E, 0xFFA0), (0xFFF0, 0xFFF8), (0x111C2, 0x111C3),
   (0x1133E, 0x1133E), (0x11357, 0x11357), (0x114B0, 0x114B0), (0x114BD, 0x114BD),
   (0x115AF, 0x115AF), (0x11930, 0x11930), (0x1193F, 0x1193F), (0x11941, 0x11941),
   (0x11A3A, 0x11A3A), (0x11A84, 0x11A89), (0x11D46, 0x11D46), (0x11F02, 0x11F02),
   (0x1D165, 0x1D165), (0x1D16E, 0x1D172), (0xE0000, 0xE0000), (0xE0002, 0xE001F),
   (0xE0080, 0xE00FF), (0xE01F0, 0xE0FFF)]

/-- Whether Arabic letters join across a character. -/
def isTransparent (c : Char) : Bool := charWidth c == 0 && !inRanges c.toNat partingRanges

def isJoiner (c : Char) : Bool := c = '\u200d'

/-- Marks that are ignorable, so that they may stand anywhere between joined letters. -/
def isIgnorableMark (c : Char) : Bool :=
  inRanges c.toNat
    [(0x034F, 0x034F), (0x17B4, 0x17B5), (0x180B, 0x180D), (0x180F, 0x180F), (0xFE00, 0xFE0F),
     (0xE0100, 0xE01EF)]

def isTifinaghConsonant (c : Char) : Bool := inRanges c.toNat [(0x2D31, 0x2D65), (0x2D6F, 0x2D6F)]

def isStackable (c : Char) : Bool :=
  inRanges c.toNat
    [(0x1780, 0x1782), (0x1784, 0x1787), (0x1789, 0x178C), (0x178E, 0x1793), (0x1795, 0x1798),
     (0x179B, 0x179D), (0x17A0, 0x17A0), (0x17A2, 0x17A2), (0x17A7, 0x17A7), (0x17AB, 0x17AC),
     (0x17AF, 0x17AF)]

namespace Start

/-- The start of a text whose first character joins nothing behind it. -/
def ofChar (c : Char) : Start :=
  if c = '\n' then lineFeed
  else if isAlef c then alef
  else if c = '\u05dc' then lamed false
  else if c = '\u1a10' then ya false
  else if isTifinaghConsonant c then consonant false
  else if c = '\ua4fc' || c = '\ua4fd' then finalTone
  else if c.toNat = 0x10C03 then turkicI false
  else if isStackable c then stackable
  else if isTone c then tone
  else if isRegional c then regional
  else if isPicture c then picture
  else other

/-- Whether letters start the text; a variation selector has no effect on them. -/
def isLetter : Start → Bool
  | alef | lamed _ | ya _ | signAndYa | consonant _ | joinedConsonant | finalTone | turkicI _
  | stackable => true
  | _ => false

/-- The start after a joiner is put before letters that join across it. -/
def link? : Start → Option Start
  | lamed _ => some (lamed true)
  | ya _ => some (ya true)
  | signAndYa => some signAndYa
  | consonant _ => some (consonant true)
  | joinedConsonant => some joinedConsonant
  | finalTone => some finalTone
  | turkicI _ => some (turkicI true)
  | stackable => some stackable
  | picture | regionals | evenAndLink | oddAndLink | tone => some link
  | _ => none

/-- The start after a mark is put before letters that join across it. -/
def mark? (start : Start) : Option Start :=
  if start.isLetter && start != alef then some start else none

/-- What a letter adds to the columns of letters that it joins, and the start with it. -/
def joinLetter? (c : Char) : Start → Option (Int × Start)
  | lineFeed => if c = '\r' then some (0, other) else none
  | alef => if isLam c then some (0, other) else if isTransparent c then some (0, alef) else none
  | lamed true => if c = '\u05d0' then some (0, other) else none
  | ya true => if c = '\u1a17' then some (0, signAndYa) else none
  | signAndYa => if c = '\u1a15' then some (0, other) else none
  | consonant linked =>
    if c = '\u2d7f' then some (1, joinedConsonant)
    else if linked && isTifinaghConsonant c then some (0, other)
    else none
  | joinedConsonant => if isTifinaghConsonant c then some (-1, other) else none
  | finalTone => if inRanges c.toNat [(0xA4F8, 0xA4FB)] then some (0, other) else none
  | turkicI true => if c.toNat = 0x10C32 then some (0, other) else none
  | stackable => if c = '\u17d2' then some (-1, other) else none
  | _ => none

/-- What a character adds to the columns of emoji that it joins, and the start with it. -/
def joinEmoji? (c : Char) : Start → Option (Int × Start)
  | tone => if takesTone c then some (0, picture) else none
  | regional | regionals => if isRegional c then some (1, regionals) else none
  | link =>
    if c = '\u20e3' then some (0, keyAndLink)
    else if isRegional c then some (1, regionalAndLink)
    else if isTone c then some (0, tone)
    else if c.toNat = 0xE007F then some (0, tagsAndLink 0 0)
    else if isPicture c then some (0, picture)
    else none
  | regionalAndLink | oddAndLink => if isRegional c then some (-1, evenAndLink) else none
  | evenAndLink => if isRegional c then some (3, oddAndLink) else none
  | tagsAndLink letters digits =>
    if inRanges c.toNat [(0xE0061, 0xE007A)] && digits = 0 && letters < 6 then
      some (0, tagsAndLink (letters + 1) 0)
    else if inRanges c.toNat [(0xE0030, 0xE0039)] && letters ≤ 4 && digits < 3 then
      some (0, tagsAndLink letters (digits + 1))
    else if c.toNat = 0x1F3F4 && (digits = 3 || (digits = 0 && 3 ≤ letters)) then some (0, picture)
    else none
  | _ => none

/-- What a character adds to the columns of what it joins, and the start with it. -/
def join? (c : Char) (start : Start) : Option (Int × Start) :=
  if isJoiner c && start.link?.isSome then start.link?.map fun start => (0, start)
  else if isIgnorableMark c && start.mark?.isSome then start.mark?.map fun start => (0, start)
  else (start.joinLetter? c).or (start.joinEmoji? c)

/-- What a character adds to the columns of a text that starts so, and the start with it. -/
def put (c : Char) (start : Start) : Int × Start :=
  (start.join? c).getD (charWidth c, ofChar c)

end Start

/-- The start of a text, and the variation selector before it if there is one. -/
structure Front where
  start : Start
  selector : Option Selector
deriving DecidableEq

namespace Front

def empty : Front := ⟨.other, none⟩

/-- The start without the selector; it joins nothing across one, letters apart. -/
def unselected (front : Front) : Start :=
  if front.selector.isNone || front.start.isLetter then front.start else .other

/-- The front after a selector is put before it. The one for pictures may be part of a link. -/
def select (selector : Selector) (front : Front) : Front :=
  let start := front.unselected
  let kept := start.isLetter || (selector = .picture && (start = .link || start = .keyAndLink))
  ⟨if kept then start else .other, some selector⟩

/-- What a character adds to the columns of a text with this front, and the front with it. -/
def put (c : Char) (front : Front) : Int × Front :=
  if front.selector = some .picture && hasPictureStyle c then
    (if front.start = .link || front.start = .keyAndLink then 0 else 2, ⟨.picture, none⟩)
  else match Selector.ofChar? c with
    | some selector => (0, front.select selector)
    | none =>
      if front.selector = some .text && hasTextStyle c then (1, empty)
      else
        let (added, start) := front.unselected.put c
        (added, ⟨start, none⟩)

end Front

end ArithmeticGame.Text
