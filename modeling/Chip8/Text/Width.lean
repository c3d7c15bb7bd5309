import Chip8.Text.WidthClasses

/-!
# Widths

How many columns a text takes. A character by itself takes none, one or two, and a single one takes
three. What follows it can change that: a selector, a colour of skin, a joiner before a picture, or
a letter with which it is written as one shape. So a text is measured from its end, and at each
character the sequel tells what of the text to the right still matters.
-/

namespace Chip8.Text

/-! ## Characters -/

/-- How many columns a character takes by itself. Controls take one. The signs that hold the place
of a leading consonant or of a vowel take room although they show nothing. -/
def charWidth (c : Char) : Nat :=
  if c.toNat ≤ 0xA0 then 1
  else if c.toNat = 0x115F ∨ c.toNat = 0x17A4 then 2
  else if c.toNat = 0x17D8 then 3
  else if CharacterClass.weightless.contains c then 0
  else if CharacterClass.wide.contains c then 2
  else 1

/-- Asks for the picture, where the character before has two forms. -/
def pictureSelector : Char := '\uFE0F'

/-- Asks for the plain sign, where the character before has two forms. -/
def plainSelector : Char := '\uFE0E'

/-- Ties the characters around it. -/
def tie : Char := '\u200D'

/-- A letter of a flag. -/
def isFlagLetter : Char → Bool := isBetween 0x1F1E6 0x1F1FF

/-- A colour of skin. -/
def isSkinTone : Char → Bool := isBetween 0x1F3FB 0x1F3FF

/-- A letter in the name of a region, which is written without being shown. -/
def isTagLetter : Char → Bool := isBetween 0xE0061 0xE007A

/-- A digit in the name of a region. -/
def isTagDigit : Char → Bool := isBetween 0xE0030 0xE0039

/-- Ends the name of a region. -/
def tagEnd : Char := Char.ofNat 0xE007F

/-- The flag before the name of its region. -/
def blackFlag : Char := Char.ofNat 0x1F3F4

/-- The frame of a key, around the character before it. -/
def keycap : Char := '\u20E3'

/-- Arabic letters of the shape of an alef. -/
def isAlef (c : Char) : Bool :=
  [0x627, 0x622, 0x623, 0x625, 0x671, 0x672, 0x673, 0x675, 0x773, 0x774].contains c.toNat ||
    isBetween 0x870 0x882 c

/-- Arabic letters of the shape of a lam. -/
def isLam (c : Char) : Bool :=
  [0x644, 0x6B5, 0x6B6, 0x6B7, 0x6B8, 0x76A, 0x8A6, 0x8C7].contains c.toNat

/-- Khmer letters that can be written below the letter before them. -/
def hasSubscript (c : Char) : Bool :=
  isBetween 0x1780 0x1782 c || isBetween 0x1784 0x1787 c || isBetween 0x1789 0x178C c ||
    isBetween 0x178E 0x1793 c || isBetween 0x1795 0x1798 c || isBetween 0x179B 0x179D c ||
    [0x17A0, 0x17A2, 0x17A7, 0x17AB, 0x17AC, 0x17AF].contains c.toNat

/-- Tifinagh consonants, two of which can be written as one shape. -/
def isBiconsonant (c : Char) : Bool := isBetween 0x2D31 0x2D65 c || c.toNat = 0x2D6F

/-- Marks that show nothing and do not come between two letters of one shape. -/
def isHiddenMark (c : Char) : Bool :=
  c.toNat = 0x34F || isBetween 0x17B4 0x17B5 c || isBetween 0x180B 0x180D c || c.toNat = 0x180F ||
    isBetween 0xFE00 0xFE0F c || isBetween 0xE0100 0xE01EF c

/-! ## Sequels -/

/-- The last part of a shape that stands for more than one letter. -/
inductive ShapeEnd
  /-- Hebrew lamed, after a tied alef. -/
  | lamed
  /-- Buginese ya, after a tied a and i. -/
  | ya
  /-- Buginese i and a tied ya. -/
  | tiedYa
  /-- A Tifinagh consonant. -/
  | consonant
  /-- A Tifinagh consonant and the sign that joins it to the one before. -/
  | joinedConsonant
  /-- A second Lisu tone. -/
  | tone
  /-- Old Turkic i, after a tied letter. -/
  | turkicI
  /-- A Khmer letter that can be written below. -/
  | subscript
deriving DecidableEq

/-- What follows a character, as far as its width depends on it. -/
inductive Sequel
  | nothing
  | lineFeed
  /-- An Arabic alef, with marks on the letter before it. -/
  | alef
  /-- The end of a shape; `tied` if a tie stands before it. -/
  | shape (part : ShapeEnd) (tied : Bool)
  | skinTone
  /-- One letter of a flag, and several. -/
  | flagLetter
  | flagLetters
  | picture
  /-- A tie and a picture. -/
  | tiedPicture
  /-- A keycap before a tie and a picture. -/
  | tiedKeycap
  /-- One letter of a flag before a tie and a picture. -/
  | tiedFlagLetter
  /-- Several letters of flags before a tie and a picture. -/
  | tiedFlagLetters (even : Bool)
  /-- The last letters of the name of a region before a tie and a picture. -/
  | tiedTagLetters (count : Nat)
  /-- The last digits of the name of a region before a tie and a picture, and letters. -/
  | tiedTagDigits (count : Nat)
deriving DecidableEq

namespace Sequel

/-- Letters of one shape may have marks and selectors between them. -/
def isShape : Sequel → Bool
  | alef | shape _ _ => true
  | _ => false

/-- A picture may be tied to a sign that needs a selector to be a picture. -/
def isTied : Sequel → Bool
  | tiedPicture | tiedKeycap => true
  | _ => false

/-- What a character adds before a part of a shape, and what follows the next character then. -/
def ofShape (c : Char) : ShapeEnd → (tied : Bool) → Option (Int × Sequel)
  | .lamed, true => if c.toNat = 0x5D0 then some (0, nothing) else none
  | .ya, true => if c.toNat = 0x1A17 then some (0, shape .tiedYa true) else none
  | .tiedYa, _ => if c.toNat = 0x1A15 then some (0, nothing) else none
  | .consonant, tied =>
    if c.toNat = 0x2D7F then some (1, shape .joinedConsonant true)
    else if tied ∧ isBiconsonant c then some (0, nothing)
    else none
  | .joinedConsonant, _ => if isBiconsonant c then some (-1, nothing) else none
  | .tone, _ => if isBetween 0xA4F8 0xA4FB c then some (0, nothing) else none
  | .turkicI, true => if c.toNat = 0x10C32 then some (0, nothing) else none
  | .subscript, _ => if c.toNat = 0x17D2 then some (-1, nothing) else none
  | _, _ => none

/-- What a character adds that goes together with its sequel, and the sequel that it makes. What it
adds is negative where the columns of the sequel have been counted too high. -/
def together (c : Char) : Sequel → Option (Int × Sequel)
  | nothing | lineFeed => none
  | alef =>
    if isLam c then some (0, nothing)
    else if CharacterClass.weightless.contains c && !CharacterClass.separating.contains c then
      some (0, alef)
    else none
  | shape part tied =>
    if c = tie then some (0, shape part true)
    else if isHiddenMark c then some (0, shape part tied)
    else ofShape c part tied
  | skinTone =>
    if CharacterClass.tintable.contains c then some (0, picture)
    else if c = tie then some (0, tiedPicture)
    else none
  | flagLetter => if isFlagLetter c then some (1, flagLetters) else none
  | flagLetters =>
    if isFlagLetter c then some (1, flagLetters)
    else if c = tie then some (0, tiedPicture)
    else none
  | picture => if c = tie then some (0, tiedPicture) else none
  | tiedPicture =>
    if c = keycap then some (0, tiedKeycap)
    else if isFlagLetter c then some (1, tiedFlagLetter)
    else if isSkinTone c then some (0, skinTone)
    else if c = tagEnd then some (0, tiedTagLetters 0)
    else if CharacterClass.pictures.contains c then some (0, picture)
    else none
  | tiedKeycap => none
  | tiedFlagLetter => if isFlagLetter c then some (-1, tiedFlagLetters true) else none
  | tiedFlagLetters even =>
    if isFlagLetter c then some (if even then (3, tiedFlagLetters false)
      else (-1, tiedFlagLetters true))
    else if c = tie then some (0, tiedPicture)
    else none
  | tiedTagLetters count =>
    if isTagLetter c ∧ count < 6 then some (0, tiedTagLetters (count + 1))
    else if isTagDigit c ∧ count ≤ 4 then some (0, tiedTagDigits 1)
    else if c = blackFlag ∧ 3 ≤ count then some (0, picture)
    else none
  | tiedTagDigits count =>
    if isTagDigit c ∧ count < 3 then some (0, tiedTagDigits (count + 1))
    else if c = blackFlag ∧ count = 3 then some (0, picture)
    else none

/-- The sequel that a character makes by itself. -/
def ofChar (c : Char) : Sequel :=
  if c.toNat ≤ 0xA0 then if c = '\n' then lineFeed else nothing
  else if isAlef c then alef
  else if c.toNat = 0x5DC then shape .lamed false
  else if c.toNat = 0x1A10 then shape .ya false
  else if isBiconsonant c then shape .consonant false
  else if isBetween 0xA4FC 0xA4FD c then shape .tone true
  else if c.toNat = 0x10C03 then shape .turkicI false
  else if hasSubscript c then shape .subscript true
  else if isFlagLetter c then flagLetter
  else if isSkinTone c then skinTone
  else if CharacterClass.pictures.contains c then picture
  else nothing

end Sequel

/-! ## Selectors -/

/-- The two forms of a sign, as a selector asks for them. -/
inductive SignForm
  | picture
  | plain
deriving DecidableEq

/-- What follows a character: a selector, if there is one next to it, and a sequel. -/
structure Context where
  form : Option SignForm := none
  sequel : Sequel := .nothing
deriving DecidableEq

namespace Context

/-- The context before a selector. A selector comes between the character before it and most
sequels. -/
def select (form : SignForm) (sequel : Sequel) : Context :=
  { form := some form
    sequel := if sequel.isShape || form = .picture && sequel.isTied then sequel else .nothing }

/-- What remains of a context for a character that has no two forms. -/
def unselected (context : Context) : Sequel :=
  match context.form with
  | none => context.sequel
  | some _ => if context.sequel.isShape then context.sequel else .nothing

/-- What a character adds that has no two forms, or of which no selector asks for one. -/
def addSign (c : Char) (sequel : Sequel) : Int × Context :=
  if c.toNat ≤ 0xA0 then
    (if c = '\r' ∧ sequel = .lineFeed then 0 else 1, { sequel := Sequel.ofChar c })
  else if c = pictureSelector then (0, select .picture sequel)
  else if c = plainSelector then (0, select .plain sequel)
  else
    match Sequel.together c sequel with
    | some (columns, next) => (columns, { sequel := next })
    | none => (charWidth c, { sequel := Sequel.ofChar c })

/-- Whether the plain form of a character is narrower than the picture. Those of the enclosed
ideographs are not. -/
def isNarrowed (c : Char) : Bool :=
  CharacterClass.twofold.contains c && CharacterClass.pictures.contains c &&
    !isBetween 0x1F200 0x1F2FF c

/-- How many columns a character adds to a text that follows it, and the context that it makes. -/
def add (c : Char) (context : Context) : Int × Context :=
  match context.form with
  | some .picture =>
    if CharacterClass.twofold.contains c then
      (if context.sequel.isTied then 0 else 2, { sequel := .picture })
    else addSign c context.unselected
  | some .plain => if isNarrowed c then (1, {}) else addSign c context.unselected
  | none => addSign c context.sequel

end Context

/-! ## Texts -/

/-- Measures a text before another one, of which the columns and the context are given. -/
def measure (text : List Char) (after : Int × Context) : Int × Context :=
  text.foldr (fun c after =>
    let added := Context.add c after.2
    (added.1 + after.1, added.2)) after

/-- How many columns a text takes. -/
def width (text : List Char) : Nat := (measure text (0, {})).1.toNat

end Chip8.Text
