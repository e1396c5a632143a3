import BuilderGen.Unicode.Emoji
import BuilderGen.Unicode.Wide
import BuilderGen.Unicode.ZeroWidth

/-!
# The width of text

How many columns a text takes on a page. Most characters take columns of their own, whatever stands
around them. Some sequences are drawn as one shape: a picture with its selector and skin tone,
pictures bound by joiners, and the ligatures of some scripts. So a text is measured from its end,
and what a character adds depends on a `Follower`, the start of what was measured before.
-/

namespace BuilderGen.Unicode

/-- U+200D, which binds the two shapes at its sides. -/
def joiner : Char := '\u200D'

/-- The end of a ligature: the sign, or the signs, that the start of a ligature merges with. -/
inductive LigatureEnd where
  /-- A Hebrew lamed, which a joiner binds to an alef. -/
  | lamed
  /-- A Buginese ya, which a joiner binds to the vowel sign i on a letter a. -/
  | ya
  /-- A Buginese vowel sign i, bound to a ya. -/
  | boundVowel
  /-- A Tifinagh consonant, which a joiner or a consonant joiner binds to another one. -/
  | consonant
  /-- A Tifinagh consonant with the consonant joiner before it. -/
  | boundConsonant
  /-- A Lisu tone letter that stands second in a pair. -/
  | tone
  /-- The Old Turkic letter that a joiner binds to the sign before it. -/
  | orkhon
  /-- A Khmer letter that has a form below the line. -/
  | subscript
  deriving DecidableEq

/-- The start of a group of pictures with a joiner before it. -/
inductive Joined where
  /-- A picture. -/
  | picture
  /-- The frame of a key. -/
  | key
  /-- One half of a flag. -/
  | flagHalf
  /-- Whole flags: an even number of halves. -/
  | flags
  /-- Whole flags with one half before them. -/
  | flagsAndHalf
  /-- The end of the tags that name the flag of a region, with the letters and digits so far. -/
  | tags (letters digits : Nat)
  deriving DecidableEq

/-- The start of a text, as far as the width of the character before it depends on it. -/
inductive Follower where
  /-- Nothing that a character could merge with. -/
  | other
  /-- A picture. -/
  | picture
  /-- A skin tone. -/
  | skinTone
  /-- One half of a flag. -/
  | flagHalf
  /-- Several halves of flags. -/
  | flags
  /-- A joiner, then pictures. -/
  | joined (start : Joined)
  /-- An Arabic alef, which merges with a lam before it. -/
  | alef
  /-- The end of a ligature, with a joiner before it or not. -/
  | ligature (ending : LigatureEnd) (bound : Bool)
  /-- A Kirat Rai vowel sign e. -/
  | vowelE
  /-- A Kirat Rai vowel sign ai. -/
  | vowelAi
  deriving DecidableEq

/-- How a variation selector asks for the character before it to be drawn. -/
inductive Selector where
  /-- As a plain sign. -/
  | plain
  /-- As a picture. -/
  | picture
  /-- As a quotation mark of full width. -/
  | full
  deriving DecidableEq

/-- What a character is measured against. -/
structure Context where
  /-- What follows, selectors set aside. -/
  follower : Follower := .other
  /-- The selector between the character and the follower. -/
  selector : Option Selector := none

/-- The number of columns that a character takes by itself. -/
def charWidth (c : Char) : Nat :=
  if c.toNat ≤ 0xA0 then 1
  else if c = '\u17D8' then 3
  else if isZeroWidth c then 0
  else if isWide c then 2
  else 1

/-- Whether a Khmer letter has a form below the line. -/
def hasSubscript (c : Char) : Bool :=
  inRanges c.toNat [(0x1780, 0x1782), (0x1784, 0x1787), (0x1789, 0x178C), (0x178E, 0x1793),
    (0x1795, 0x1798), (0x179B, 0x179D), (0x17A0, 0x17A0), (0x17A2, 0x17A2), (0x17A7, 0x17A7),
    (0x17AB, 0x17AC), (0x17AF, 0x17AF)]

/-- Whether a character is an Arabic alef of any form. -/
def isAlef (c : Char) : Bool :=
  inRanges c.toNat [(0x622, 0x623), (0x625, 0x625), (0x627, 0x627), (0x671, 0x673), (0x675, 0x675),
    (0x773, 0x774), (0x870, 0x882)]

/-- Whether a character is an Arabic lam of any form. -/
def isLam (c : Char) : Bool :=
  inRanges c.toNat [(0x644, 0x644), (0x6B5, 0x6B8), (0x76A, 0x76A), (0x8A6, 0x8A6), (0x8C7, 0x8C7)]

/-- Whether a character is a Tifinagh consonant. -/
def isConsonant (c : Char) : Bool := inRanges c.toNat [(0x2D31, 0x2D65), (0x2D6F, 0x2D6F)]

/-- Whether a character is a letter of a tag. -/
def isTagLetter (c : Char) : Bool := inRanges c.toNat [(0xE0061, 0xE007A)]

/-- Whether a character is a digit of a tag. -/
def isTagDigit (c : Char) : Bool := inRanges c.toNat [(0xE0030, 0xE0039)]

/-- Whether a ligature forms across a character as if it were not there. -/
def isLigatureTransparent (c : Char) : Bool :=
  inRanges c.toNat [(0x34F, 0x34F), (0x17B4, 0x17B5), (0x180B, 0x180D), (0x180F, 0x180F),
    (0x200D, 0x200D), (0xFE00, 0xFE0F), (0xE0100, 0xE01EF)]

/-- The follower that a character is to the one before it. -/
def Follower.ofChar (c : Char) : Follower :=
  if c.toNat ≤ 0xA0 then .other
  else if isAlef c then .alef
  else if isPicture c then .picture
  else if isSkinTone c then .skinTone
  else if isFlagHalf c then .flagHalf
  else if hasSubscript c then .ligature .subscript false
  else if isConsonant c then .ligature .consonant false
  else match c.toNat with
    | 0x5DC => .ligature .lamed false
    | 0x1A10 => .ligature .ya false
    | 0xA4FC | 0xA4FD => .ligature .tone false
    | 0x10C03 => .ligature .orkhon false
    | 0x16D67 => .vowelE
    | 0x16D68 => .vowelAi
    | _ => .other

/-- The selector that a character is. -/
def Selector.ofChar? : Char → Option Selector
  | '\uFE0E' => some .plain
  | '\uFE0F' => some .picture
  | '\uFE01' => some .full
  | _ => none

/-- What a character adds to the end of a ligature that it merges with, and what it then is to the
character before it. Nothing when the two are drawn apart. -/
def LigatureEnd.before? (c : Char) : LigatureEnd → Bool → Option (Int × Follower)
  | .lamed, true => if c = '\u05D0' then some (0, .other) else none
  | .ya, true => if c = '\u1A17' then some (0, .ligature .boundVowel true) else none
  | .boundVowel, _ => if c = '\u1A15' then some (0, .other) else none
  | .consonant, bound =>
    if c = '\u2D7F' then some (1, .ligature .boundConsonant true)
    else if bound && isConsonant c then some (0, .other)
    else none
  | .boundConsonant, _ => if isConsonant c then some (-1, .other) else none
  | .tone, _ => if inRanges c.toNat [(0xA4F8, 0xA4FB)] then some (0, .other) else none
  | .orkhon, true => if c.toNat = 0x10C32 then some (0, .other) else none
  | .subscript, _ => if c = '\u17D2' then some (-1, .other) else none
  | _, _ => none

/-- What a character adds to joined pictures, and what it then is to the character before it.
Nothing when it starts a shape of its own. A flag half that ends a pair takes back the column of
the other half, so that any number of halves after a joiner costs no more than an emoji. -/
def Joined.before? (c : Char) : Joined → Option (Int × Follower)
  | .picture =>
    if c = '\u20E3' then some (0, .joined .key)
    else if isFlagHalf c then some (1, .joined .flagHalf)
    else if isSkinTone c then some (0, .skinTone)
    else if c.toNat = 0xE007F then some (0, .joined (.tags 0 0))
    else if isPicture c then some (0, .picture)
    else none
  | .key => none
  | .flagHalf => if isFlagHalf c then some (-1, .joined .flags) else none
  | .flags =>
    if c = joiner then some (0, .joined .picture)
    else if isFlagHalf c then some (3, .joined .flagsAndHalf)
    else none
  | .flagsAndHalf =>
    if c = joiner then some (0, .joined .picture)
    else if isFlagHalf c then some (-1, .joined .flags)
    else none
  | .tags letters digits =>
    if digits = 0 && letters < 6 && isTagLetter c then some (0, .joined (.tags (letters + 1) 0))
    else if digits < 3 && letters ≤ 4 && isTagDigit c then
      some (0, .joined (.tags letters (digits + 1)))
    else if c.toNat = 0x1F3F4 && (digits = 3 || digits = 0 && 3 ≤ letters) then some (0, .picture)
    else none

/-- What a character adds to a follower that it is drawn together with, and what it then is to the
character before it. Nothing when the two are drawn apart. -/
def Follower.before? (c : Char) : Follower → Option (Int × Follower)
  | .picture => if c = joiner then some (0, .joined .picture) else none
  | .skinTone =>
    if c = joiner then some (0, .joined .picture)
    else if takesSkinTone c then some (0, .picture)
    else none
  | .flagHalf => if isFlagHalf c then some (1, .flags) else none
  | .flags =>
    if c = joiner then some (0, .joined .picture)
    else if isFlagHalf c then some (1, .flags)
    else none
  | .joined start => start.before? c
  | .alef =>
    if isLam c then some (0, .other) else if isTransparent c then some (0, .alef) else none
  | .ligature ending bound =>
    if c = joiner then some (0, .ligature ending true)
    else if isLigatureTransparent c then some (0, .ligature ending bound)
    else ending.before? c bound
  | .vowelE =>
    match c.toNat with
    | 0x16D63 | 0x16D69 => some (0, .other)
    | 0x16D67 => some (0, .vowelAi)
    | 0x16D68 => some (1, .vowelE)
    | _ => none
  | .vowelAi => if c.toNat = 0x16D63 then some (0, .other) else none
  | .other => none

/-- The context of the character before a selector. A selector hides what follows it, unless a
ligature forms across it or it asks for one of the joined pictures. -/
def Follower.select (f : Follower) (s : Selector) : Context :=
  match f, s with
  | .alef, _ | .ligature .., _ | .joined .picture, .picture | .joined .key, .picture =>
    { follower := f, selector := some s }
  | _, _ => { selector := some s }

/-- What follows, when the selector asked in vain: for a picture, it parts the joined pictures from
the character. -/
def Context.unselected (x : Context) : Follower :=
  match x.selector, x.follower with
  | some .picture, .joined _ => .other
  | _, f => f

/-- What a character adds to the width of the text after it, by the selector that follows. -/
def Context.selected? (c : Char) (x : Context) : Option (Int × Context) :=
  match x.selector with
  | some .picture =>
    if hasPicture c then
      some (if x.follower matches .joined _ then 0 else 2, { follower := .picture })
    else none
  | some .plain => if hasPlainSign c then some (1, {}) else none
  | some .full =>
    if c = '\u2018' || c = '\u2019' || c = '\u201C' || c = '\u201D' then some (2, {}) else none
  | none => none

/-- What a character adds to the width of the text after it, and the context of the character
before it. -/
def Context.before (c : Char) (x : Context) : Int × Context :=
  match x.selected? c with
  | some r => r
  | none =>
    if c.toNat ≤ 0xA0 then (1, {})
    else match Selector.ofChar? c with
      | some s => (0, x.unselected.select s)
      | none =>
        match x.unselected.before? c with
        | some (n, f) => (n, { follower := f })
        | none => (charWidth c, { follower := .ofChar c })

/-- The number of columns that a text takes. -/
def width (s : String) : Nat :=
  (s.toList.foldr (fun c (n, x) => let (m, y) := x.before c; (n + m, y))
    ((0, {}) : Int × Context)).1.toNat

end BuilderGen.Unicode
