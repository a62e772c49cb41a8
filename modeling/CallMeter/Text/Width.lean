import CallMeter.Text.CaseTable
import CallMeter.Text.WidthTable

/-!
# Width of a text on a terminal

East Asian wide and fullwidth characters take two columns, combining marks and characters that do
not show none, all others one. Some characters join: emoji with what follows them, and letters
of a few scripts with their neighbours. A text is therefore read from its end, and what was read
tells how a character in front of it counts.

## Main definitions

* `charWidth`: columns taken by a character on its own
* `Follower`, `Surround`: what stands to the right of a character
* `Surround.step`: a character with what stands to its right
* `width`: columns taken by a text

## Main results

* `charWidth_le`: no character takes more than three columns
-/

namespace CallMeter.Text

/-- Columns taken by one character on its own. -/
def charWidth (c : Char) : Nat :=
  let n := c.toNat
  if n ≤ 0xA0 then 1
  else if n == 0x17D8 then 3
  else if inRanges zeroWidthRanges n then 0
  else if inRanges wideRanges n then 2
  else 1

theorem charWidth_le (c : Char) : charWidth c ≤ 3 := by
  simp only [charWidth]; split <;> (try split) <;> (try split) <;> (try split) <;> omega

/-- A character between two others. -/
def isBetween (first last : Nat) (c : Char) : Bool :=
  first ≤ c.toNat && c.toNat ≤ last

/-- A character that shows as an emoji on its own. -/
def isEmoji (c : Char) : Bool :=
  inRanges emojiRanges c.toNat

/-- An emoji form can be selected for the character. -/
def hasEmojiForm (c : Char) : Bool :=
  inRanges selectableRanges c.toNat

/-- A narrow text form can be selected for the emoji. Ideographs stay wide. -/
def hasTextForm (c : Char) : Bool :=
  hasEmojiForm c && isEmoji c && !isBetween 0x1F200 0x1F2FF c

/-- One of the letters for a flag. -/
def isFlagLetter (c : Char) : Bool :=
  isBetween 0x1F1E6 0x1F1FF c

/-- A quotation mark that has a fullwidth form. -/
def isQuote (c : Char) : Bool :=
  c == '\u2018' || c == '\u2019' || c == '\u201C' || c == '\u201D'

/-- A letter that an Arabic lam joins. -/
def isAlef (c : Char) : Bool :=
  inRanges [(0x622, 0x623), (0x625, 0x625), (0x627, 0x627), (0x671, 0x673), (0x675, 0x675),
    (0x773, 0x774), (0x870, 0x882)] c.toNat

/-- A letter that joins an Arabic alef. -/
def isLam (c : Char) : Bool :=
  inRanges [(0x644, 0x644), (0x6B5, 0x6B8), (0x76A, 0x76A), (0x8A6, 0x8A6), (0x8C7, 0x8C7)] c.toNat

/-- A character that does not part a lam from its alef. -/
def isTransparent (c : Char) : Bool :=
  charWidth c == 0 && !inRanges opaqueRanges c.toNat

/-- A character that does not part the letters of other scripts. -/
def isIgnorable (c : Char) : Bool :=
  inRanges [(0x34F, 0x34F), (0x17B4, 0x17B5), (0x180B, 0x180D), (0x180F, 0x180F),
    (0x200D, 0x200D), (0xFE00, 0xFE0F), (0xE0100, 0xE01EF)] c.toNat

/-- A Khmer letter that goes below the one before it. -/
def isSubscriptLetter (c : Char) : Bool :=
  inRanges [(0x1780, 0x1782), (0x1784, 0x1787), (0x1789, 0x178C), (0x178E, 0x1793),
    (0x1795, 0x1798), (0x179B, 0x179D), (0x17A0, 0x17A0), (0x17A2, 0x17A2), (0x17A7, 0x17A7),
    (0x17AB, 0x17AC), (0x17AF, 0x17AF)] c.toNat

/-- A Tifinagh consonant. -/
def isConsonant (c : Char) : Bool :=
  isBetween 0x2D31 0x2D65 c || c == '\u2D6F'

/-- **What follows**, as far as it changes how a character counts. A flag tells whether a joiner
stands in between. -/
inductive Follower
  | plain
  | lineFeed
  /-- A skin tone. -/
  | tone
  /-- One letter for a flag, or more of them. -/
  | flagLetter
  | flagLetters
  | emoji
  /-- A joiner and an emoji, with a keycap or with letters for flags in front of them. -/
  | joined
  | joinedKeycap
  | joinedFlagLetter
  | joinedFlag
  | joinedFlagAndLetter
  /-- Tags and a joined emoji: their end, with digits or with letters in front. -/
  | tagEnd
  | tagDigits (count : Nat)
  | tagLetters (count : Nat)
  /-- Letters that join. -/
  | alef
  | lamed (isJoined : Bool)
  | ya (isJoined : Bool)
  | vowelAndYa
  | consonant (isJoined : Bool)
  | consonantJoiner
  | toneLetter
  | orkhonI (isJoined : Bool)
  | subscriptLetter
  /-- Kirat Rai vowels that join. -/
  | vowelE
  | vowelAi
  deriving DecidableEq

namespace Follower

/-- Letters that selectors do not part from those before them. -/
def isLetter : Follower → Bool
  | alef | lamed _ | ya _ | vowelAndYa | consonant _ | consonantJoiner | toneLetter | orkhonI _
  | subscriptLetter => true
  | _ => false

/-- What follows a joiner in front of a letter. -/
def join : Follower → Follower
  | lamed _ => lamed true
  | ya _ => ya true
  | consonant _ => consonant true
  | orkhonI _ => orkhonI true
  | f => f

/-- A character on its own, and what it is to those before it. -/
def ofChar (c : Char) : Follower :=
  if c == '\u05DC' then lamed false
  else if isAlef c then alef
  else if isSubscriptLetter c then subscriptLetter
  else if c == '\u1A10' then ya false
  else if isConsonant c then consonant false
  else if c == '\uA4FC' || c == '\uA4FD' then toneLetter
  else if c.toNat == 0x10C03 then orkhonI false
  else if c.toNat == 0x16D67 then vowelE
  else if isFlagLetter c then flagLetter
  else if isBetween 0x1F3FB 0x1F3FF c then tone
  else if isEmoji c then emoji
  else plain

/-- A character that joins what follows: the columns that it adds, and what both are to those
before them. -/
def joining? (c : Char) : Follower → Option (Int × Follower)
  | alef =>
    if isLam c then some (0, plain) else if isTransparent c then some (0, alef) else none
  | lamed true => if c == '\u05D0' then some (0, plain) else none
  -- the sign takes back the column of the letter that it puts below
  | subscriptLetter => if c == '\u17D2' then some (-1, plain) else none
  | ya true => if c == '\u1A17' then some (0, vowelAndYa) else none
  | vowelAndYa => if c == '\u1A15' then some (0, plain) else none
  | consonant isJoined =>
    if c == '\u2D7F' then some (1, consonantJoiner)
    else if isJoined && isConsonant c then some (0, plain)
    else none
  | consonantJoiner => if isConsonant c then some (-1, plain) else none
  | toneLetter => if isBetween 0xA4F8 0xA4FB c then some (0, plain) else none
  | orkhonI true => if c.toNat == 0x10C32 then some (0, plain) else none
  | vowelE =>
    match c.toNat with
    | 0x16D63 => some (0, plain)
    | 0x16D67 => some (0, vowelAi)
    | 0x16D68 => some (1, vowelE)
    | 0x16D69 => some (0, plain)
    | _ => none
  | vowelAi => if c.toNat == 0x16D63 then some (0, plain) else none
  | tone =>
    if inRanges modifiableRanges c.toNat then some (0, emoji)
    else if c == '\u200D' then some (0, joined)
    else none
  | emoji => if c == '\u200D' then some (0, joined) else none
  | flagLetter => if isFlagLetter c then some (1, flagLetters) else none
  | flagLetters =>
    if isFlagLetter c then some (1, flagLetters)
    else if c == '\u200D' then some (0, joined)
    else none
  | joined =>
    if c == '\u20E3' then some (0, joinedKeycap)
    else if isFlagLetter c then some (1, joinedFlagLetter)
    else if isBetween 0x1F3FB 0x1F3FF c then some (0, tone)
    else if c.toNat == 0xE007F then some (0, tagEnd)
    else if isEmoji c then some (0, emoji)
    else none
  -- the second letter of a flag takes back the column of the first
  | joinedFlagLetter => if isFlagLetter c then some (-1, joinedFlag) else none
  | joinedFlag =>
    if isFlagLetter c then some (3, joinedFlagAndLetter)
    else if c == '\u200D' then some (0, joined)
    else none
  | joinedFlagAndLetter =>
    if isFlagLetter c then some (-1, joinedFlag)
    else if c == '\u200D' then some (0, joined)
    else none
  | tagEnd => tag? 0 false
  | tagDigits n => if n < 3 then (if isTagDigit c then some (0, tagDigits (n + 1)) else none)
    else flag?
  | tagLetters n => tag? n (3 ≤ n)
  | _ => none
where
  isTagDigit (c : Char) : Bool := isBetween 0xE0030 0xE0039 c
  flag? : Option (Int × Follower) := if c.toNat == 0x1F3F4 then some (0, emoji) else none
  tag? (letters : Nat) (isFull : Bool) : Option (Int × Follower) :=
    if letters < 6 && isBetween 0xE0061 0xE007A c then some (0, tagLetters (letters + 1))
    else if letters < 5 && isTagDigit c then some (0, tagDigits 1)
    else if isFull then flag?
    else none

end Follower

/-- **Surround**: what follows, and the forms that selectors in between ask for. -/
structure Surround where
  follower : Follower
  emojiForm : Bool := false
  textForm : Bool := false
  wideForm : Bool := false
  deriving DecidableEq

namespace Surround

/-- Nothing that matters. -/
def none : Surround :=
  ⟨.plain, false, false, false⟩

/-- A selector for the emoji form. -/
def selectEmoji (s : Surround) : Surround :=
  if s.follower.isLetter || s.follower == .joined || s.follower == .joinedKeycap then
    { s with emojiForm := true }
  else ⟨.plain, true, false, false⟩

/-- A selector for the text form. -/
def selectText (s : Surround) : Surround :=
  if s.follower.isLetter then { s with textForm := true } else ⟨.plain, false, true, false⟩

/-- A selector for the fullwidth form. -/
def selectWide (s : Surround) : Surround :=
  if s.follower.isLetter then { s with wideForm := true } else ⟨.plain, false, false, true⟩

/-- What follows when a character has no emoji form to select. -/
def dropEmoji (s : Surround) : Surround :=
  if s.emojiForm then (if s.follower.isLetter then { s with emojiForm := false } else .none) else s

/-- A character that is no control character and has no emoji form to select. -/
def joinStep (c : Char) (s : Surround) : Int × Surround :=
  let onItsOwn : Int × Surround := (charWidth c, { follower := .ofChar c })
  if c == '\uFE0F' then (0, s.selectEmoji)
  else if c == '\uFE0E' then (0, s.selectText)
  else if s.textForm && hasTextForm c then (1, .none)
  else if s.wideForm && isQuote c then (2, .none)
  else if c == '\uFE01' then (0, s.selectWide)
  else
    let f := s.follower
    if f.isLetter && f != .alef && isIgnorable c then
      (0, { follower := if c == '\u200D' then f.join else f })
    else
      match f.joining? c with
      | some (columns, next) => (columns, { follower := next })
      | Option.none => onItsOwn

/-- **One step** to the left: the columns that a character adds, and what it is to those before
it. -/
def step (c : Char) (s : Surround) : Int × Surround :=
  if s.emojiForm && hasEmojiForm c then
    (if s.follower == .joined || s.follower == .joinedKeycap then 0 else 2, { follower := .emoji })
  else
    let s := s.dropEmoji
    if c == '\n' then (1, { follower := .lineFeed })
    else if c == '\r' && s.follower == .lineFeed then (0, .none)
    else if c.toNat ≤ 0xA0 then (1, .none)
    else joinStep c s

end Surround

/-- The columns of characters, and what they are to those before them. -/
def measure : List Char → Int × Surround
  | [] => (0, .none)
  | c :: r =>
    let (columns, s) := measure r
    let (more, s) := s.step c
    (columns + more, s)

/-- **Width** of a text in columns. -/
def width (s : String) : Nat :=
  (measure s.toList).1.toNat

end CallMeter.Text
