import HostDaemon.Text.Column
import HostDaemon.Text.Emoji
import HostDaemon.Text.Joining

/-! # Width of text in columns

How many columns of a terminal a text takes. Mostly that is the sum over its characters, but some
sequences are shown as one: emoji with a selector or a skin tone, emoji held together by joiners,
and ligatures of some scripts.

A text is measured from its end. `Sequel` says what a character has after it, as far as its width
can depend on it; `measure` gives what a character adds and what it is for the one before it. -/

namespace HostDaemon.Text.Width

/-- What follows a character. -/
inductive Sequel where
  /-- Nothing that goes together with it. -/
  | plain
  /-- A line feed. -/
  | lineFeed
  /-- A skin tone. -/
  | skinTone
  /-- One letter of a flag. -/
  | flagLetter
  /-- Several letters of flags. -/
  | flagLetters
  /-- An emoji. -/
  | emoji
  /-- A joiner and an emoji. -/
  | joinedEmoji
  /-- A keycap, a joiner and an emoji. -/
  | joinedKeycap
  /-- One letter of a flag, a joiner and an emoji. -/
  | joinedLetter
  /-- An even number of letters of flags, a joiner and an emoji. -/
  | joinedLetterPairs
  /-- An odd number of letters of flags, at least three, a joiner and an emoji. -/
  | joinedOddLetters
  /-- Digits and, after them, letters of a tag up to its end, a joiner and an emoji. -/
  | joinedTag (digits letters : Nat)
  /-- The Arabic letter alef. -/
  | alef
  /-- The Hebrew letter lamed, after a joiner or not. -/
  | lamed (joined : Bool)
  /-- The Buginese letter ya, after a joiner or not. -/
  | ya (joined : Bool)
  /-- The Buginese vowel sign i, a joiner and the letter ya. -/
  | vowelYa
  /-- A Khmer letter that can stand below another. -/
  | khmerLetter
  /-- A Tifinagh consonant, after a joiner or not. -/
  | tifinagh (joined : Bool)
  /-- The Tifinagh joiner and a consonant. -/
  | tifinaghPair
  /-- A second tone letter of Lisu. -/
  | lisuTone
  /-- The Old Turkic letter i, after a joiner or not. -/
  | orkhonI (joined : Bool)
  /-- The Kirat Rai vowel sign e. -/
  | kiratE
  /-- The Kirat Rai vowel sign ai in two characters. -/
  | kiratAi
deriving Repr, DecidableEq

/-- What follows a character, with the selectors between the two. -/
structure After where
  /-- What follows. -/
  sequel : Sequel
  /-- Is there a selector that asks for an emoji? -/
  asEmoji : Bool
  /-- Is there a selector that asks for plain text? -/
  asText : Bool
deriving Repr, DecidableEq

/-- Nothing but the sequel follows. -/
def After.only (sequel : Sequel) : After := ⟨sequel, false, false⟩

/-- Can marks and joiners that are not shown stand between a character and the sequel of its
    ligature? -/
def Sequel.isLoose : Sequel → Bool
  | .lamed _ | .ya _ | .vowelYa | .khmerLetter | .tifinagh _ | .tifinaghPair | .lisuTone
  | .orkhonI _ => true
  | _ => false

/-- Can a selector stand between a character and the sequel of its ligature? -/
def Sequel.isLigature (s : Sequel) : Bool := s.isLoose || s == .alef

/-- Is the sequel part of an emoji that the character may begin? -/
def Sequel.isJoined (s : Sequel) : Bool := s == .joinedEmoji || s == .joinedKeycap

/-- The sequel with a joiner before it. -/
def Sequel.join : Sequel → Sequel
  | .lamed _ => .lamed true
  | .ya _ => .ya true
  | .tifinagh _ => .tifinagh true
  | .orkhonI _ => .orkhonI true
  | s => s

/-- What follows where a selector that asks for an emoji has come before it. -/
def After.withEmojiSelector (a : After) : After :=
  if a.sequel.isLigature then { a with asEmoji := true }
  else ⟨if a.sequel.isJoined then a.sequel else .plain, true, false⟩

/-- What follows where a selector that asks for plain text has come before it. -/
def After.withTextSelector (a : After) : After :=
  if a.sequel.isLigature then { a with asText := true } else ⟨.plain, false, true⟩

/-- What follows where a selector that asks for an emoji has had no effect. -/
def After.withoutEmojiSelector (a : After) : After :=
  if !a.asEmoji then a
  else if a.sequel.isLigature then { a with asEmoji := false }
  else .only .plain

/-! ### Characters that go together with others -/

/-- The joiner that is not shown. -/
def joiner : Char := '\u200D'

/-- The mark of a keycap. -/
def keycap : Char := '\u20E3'

/-- The end of a tag. -/
def tagEnd : Char := Char.ofNat 0xE007F

/-- The black flag, with which a tag begins. -/
def blackFlag : Char := Char.ofNat 0x1F3F4

/-- Is the character a letter of a tag? -/
def isTagLetter (c : Char) : Bool := 0xE0061 ≤ c.toNat && c.toNat ≤ 0xE007A

/-- Is the character a digit of a tag? -/
def isTagDigit (c : Char) : Bool := 0xE0030 ≤ c.toNat && c.toNat ≤ 0xE0039

/-- The marks that are not shown and do not break a ligature. -/
def seamless : CodeRanges := [
  (0x34F, 0x34F), (0x17B4, 0x17B5), (0x180B, 0x180D), (0x180F, 0x180F), (0x200D, 0x200D),
  (0xFE00, 0xFE0F), (0xE0100, 0xE01EF)]

/-- The Arabic letters of the shape of lam. -/
def lamLetters : CodeRanges :=
  [(0x644, 0x644), (0x6B5, 0x6B8), (0x76A, 0x76A), (0x8A6, 0x8A6), (0x8C7, 0x8C7)]

/-- The Arabic letters of the shape of alef. -/
def alefLetters : CodeRanges := [
  (0x622, 0x623), (0x625, 0x625), (0x627, 0x627), (0x671, 0x673), (0x675, 0x675),
  (0x773, 0x774), (0x870, 0x882)]

/-- The Khmer letters that can stand below another. -/
def khmerLetters : CodeRanges := [
  (0x1780, 0x1782), (0x1784, 0x1787), (0x1789, 0x178C), (0x178E, 0x1793), (0x1795, 0x1798),
  (0x179B, 0x179D), (0x17A0, 0x17A0), (0x17A2, 0x17A2), (0x17A7, 0x17A7), (0x17AB, 0x17AC),
  (0x17AF, 0x17AF)]

/-- The Tifinagh consonants. -/
def tifinaghConsonants : CodeRanges := [(0x2D31, 0x2D65), (0x2D6F, 0x2D6F)]

/-- The tone letters of Lisu that come first. -/
def lisuFirstTones : CodeRanges := [(0xA4F8, 0xA4FB)]

/-- The tone letters of Lisu that come second. -/
def lisuSecondTones : CodeRanges := [(0xA4FC, 0xA4FD)]

/-- What a character is for the one before it where it goes together with nothing after it. -/
def Sequel.ofChar (c : Char) : Sequel :=
  if c.toNat ≤ 0xA0 then .plain
  else if isFlagLetter c then .flagLetter
  else if isSkinTone c then .skinTone
  else if isEmoji c then .emoji
  else if alefLetters.holdsChar c then .alef
  else if c.toNat = 0x5DC then .lamed false
  else if c.toNat = 0x1A10 then .ya false
  else if khmerLetters.holdsChar c then .khmerLetter
  else if tifinaghConsonants.holdsChar c then .tifinagh false
  else if lisuSecondTones.holdsChar c then .lisuTone
  else if c.toNat = 0x10C03 then .orkhonI false
  else if c.toNat = 0x16D67 then .kiratE
  else if c.toNat = 0x16D68 then .kiratAi
  else .plain

/-! ### Sequences -/

/-- What a character adds before a sequel with which it goes together, and what the two are for the
    character before them. -/
def Sequel.attach? (s : Sequel) (c : Char) : Option (Int × Sequel) :=
  let here := fun (p : Bool) (w : Int) (s : Sequel) => if p then some (w, s) else none
  match s with
  | .alef =>
    (here (lamLetters.holdsChar c) 0 .plain).or
      (here (charWidth c = 0 && isTransparent c) 0 .alef)
  | .lamed true => here (c.toNat = 0x5D0) 0 .plain
  | .khmerLetter => here (c.toNat = 0x17D2) (-1) .plain
  | .ya true => here (c.toNat = 0x1A17) 0 .vowelYa
  | .vowelYa => here (c.toNat = 0x1A15) 0 .plain
  | .tifinagh joined =>
    (here (c.toNat = 0x2D7F) 1 .tifinaghPair).or
      (here (joined && tifinaghConsonants.holdsChar c) 0 .plain)
  | .tifinaghPair => here (tifinaghConsonants.holdsChar c) (-1) .plain
  | .lisuTone => here (lisuFirstTones.holdsChar c) 0 .plain
  | .orkhonI true => here (c.toNat = 0x10C32) 0 .plain
  | .skinTone => (here (toneBases.holdsChar c) 0 .emoji).or (here (c = joiner) 0 .joinedEmoji)
  | .flagLetter => here (isFlagLetter c) 1 .flagLetters
  | .flagLetters =>
    (here (isFlagLetter c) 1 .flagLetters).or (here (c = joiner) 0 .joinedEmoji)
  | .emoji => here (c = joiner) 0 .joinedEmoji
  | .joinedEmoji =>
    if c = keycap then some (0, .joinedKeycap)
    else if isFlagLetter c then some (1, .joinedLetter)
    else if isSkinTone c then some (0, .skinTone)
    else if c = tagEnd then some (0, .joinedTag 0 0)
    else here (isEmoji c) 0 .emoji
  | .joinedLetter => here (isFlagLetter c) (-1) .joinedLetterPairs
  | .joinedOddLetters =>
    (here (isFlagLetter c) (-1) .joinedLetterPairs).or (here (c = joiner) 0 .joinedEmoji)
  | .joinedLetterPairs =>
    (here (isFlagLetter c) 3 .joinedOddLetters).or (here (c = joiner) 0 .joinedEmoji)
  | .joinedTag digits letters =>
    if isTagLetter c then here (digits = 0 && letters < 6) 0 (.joinedTag 0 (letters + 1))
    else if isTagDigit c then
      here (digits < 3 && letters < 5) 0 (.joinedTag (digits + 1) letters)
    else
      here (c = blackFlag && (digits = 3 || (digits = 0 && 3 ≤ letters))) 0 .emoji
  | .kiratE =>
    if c.toNat = 0x16D63 || c.toNat = 0x16D69 then some (0, .plain)
    else if c.toNat = 0x16D67 then some (0, .kiratAi)
    else here (c.toNat = 0x16D68) 1 .kiratE
  | .kiratAi => here (c.toNat = 0x16D63) 0 .plain
  | _ => none

/-- What a character that is not ASCII adds before a sequel without selectors, and what the two are
    for the character before them. -/
def Sequel.measure (s : Sequel) (c : Char) : Int × Sequel :=
  if s.isLoose && seamless.holdsChar c then (0, if c = joiner then s.join else s)
  else (s.attach? c).getD (charWidth c, .ofChar c)

/-- What a character adds before what follows it, and what the two are for the character before
    them. -/
def measure (c : Char) (after : After) : Int × After :=
  if after.asEmoji && variationBases.holdsChar c then
    (if after.sequel.isJoined then 0 else 2, .only .emoji)
  else
    let after := after.withoutEmojiSelector
    if c.toNat ≤ 0xA0 then
      if c = '\n' then (1, .only .lineFeed)
      else if c = '\r' ∧ after.sequel = .lineFeed then (0, .only .plain)
      else (1, .only .plain)
    else if c = '\uFE0F' then (0, after.withEmojiSelector)
    else if c = '\uFE0E' then (0, after.withTextSelector)
    else if after.asText && isTextualEmoji c then (1, .only .plain)
    else
      let (columns, sequel) := after.sequel.measure c
      (columns, .only sequel)

/-- What a text adds, and what it is for a character before it. -/
def measureAll (cs : List Char) : Int × After :=
  cs.foldr (fun c (sum, after) =>
    let (columns, after) := measure c after
    (columns + sum, after)) (0, .only .plain)

end Width

/-- The number of columns of a text. -/
def width (s : String) : Nat := (Width.measureAll s.toList).1.toNat

end HostDaemon.Text
