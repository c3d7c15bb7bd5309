import Chip8.Text.JoiningClasses

/-!
# Clusters

What a reader takes for one character may be several: a letter with its accents, the parts of a
Hangul syllable, Indic letters tied into one sign, two letters of a flag, pictographs tied together.
A text is cut into such clusters, each as long as the rules for neighbours allow.
-/

namespace Chip8.Text

/-- How a character gets on with its neighbours. -/
inductive Joining
  | carriageReturn
  | lineFeed
  | control
  | extending
  /-- A mark that ties two Indic letters. -/
  | linker
  | joiner
  | nonJoiner
  | spacing
  | prepended
  | regional
  | pictograph
  /-- An Indic letter that can be tied to another. -/
  | linkable
  /-- A leading consonant of a Hangul syllable. -/
  | lead
  /-- A vowel of a Hangul syllable, or a letter that is put together in the same way. -/
  | vowel
  /-- A trailing consonant of a Hangul syllable. -/
  | trail
  /-- A Hangul syllable that ends with its vowel. -/
  | openSyllable
  /-- A Hangul syllable that ends with a consonant. -/
  | closedSyllable
  | other
deriving DecidableEq

namespace Joining

/-- The first of the composed Hangul syllables. -/
def firstSyllable : Nat := 0xAC00

/-- How many of them there are. -/
def syllableCount : Nat := 11172

/-- How many syllables begin with the same consonant and vowel. -/
def trailCount : Nat := 28

/-- How a character beyond the Latin letters joins its neighbours. -/
def ofForeign (c : Char) : Joining :=
  if c.toNat = 0x200D then joiner
  else if c.toNat = 0x200C then nonJoiner
  else if CharacterClass.controlling.contains c then control
  else if CharacterClass.extending.contains c then extending
  else if CharacterClass.linkers.contains c then linker
  else if CharacterClass.spacingMarks.contains c then spacing
  else if CharacterClass.prepended.contains c then prepended
  else if CharacterClass.linkable.contains c then linkable
  else if isBetween 0x1F1E6 0x1F1FF c then regional
  else if CharacterClass.pictographs.contains c then pictograph
  else if isBetween 0x1100 0x115F c || isBetween 0xA960 0xA97C c then lead
  else if isBetween 0x1160 0x11A7 c || isBetween 0xD7B0 0xD7C6 c || c.toNat = 0x16D63 ||
    isBetween 0x16D67 0x16D6A c then vowel
  else if isBetween 0x11A8 0x11FF c || isBetween 0xD7CB 0xD7FB c then trail
  else if isBetween firstSyllable (firstSyllable + syllableCount - 1) c then
    if (c.toNat - firstSyllable) % trailCount = 0 then openSyllable else closedSyllable
  else other

/-- How a character joins its neighbours. -/
def ofChar (c : Char) : Joining :=
  if c = '\r' then carriageReturn
  else if c = '\n' then lineFeed
  else if isBetween 0x20 0x7E c then other
  else ofForeign c

/-- Whether a character ends the cluster before it and begins none. -/
def isBreak : Joining → Bool
  | carriageReturn | lineFeed | control => true
  | _ => false

/-- Whether a character is a mark on the one before it. -/
def isMark : Joining → Bool
  | extending | linker | nonJoiner => true
  | _ => false

/-- Whether a cluster, which is read backwards, ends in a pictograph and marks on it. -/
def endsInPictograph : List Joining → Bool
  | [] => false
  | last :: before => last = pictograph || last.isMark && endsInPictograph before

/-- Whether a cluster, which is read backwards, ends in a letter and marks on it that tie it to the
next. `linked` says that one of the marks read so far does so. -/
def endsLinked (linked : Bool) : List Joining → Bool
  | linker :: before => endsLinked true before
  | extending :: before | joiner :: before => endsLinked linked before
  | linkable :: _ => linked
  | _ => false

/-- Whether a cluster, of which the characters are given backwards, goes on with a further one. -/
def continues : List Joining → Joining → Bool
  | [], _ => true
  | carriageReturn :: _, next => next = lineFeed
  | last :: before, next =>
    if last.isBreak || next.isBreak then false
    else if next.isMark then true
    else
      match last, next with
      | _, joiner | _, spacing => true
      | prepended, _ => true
      | _, linkable => endsLinked false (last :: before)
      | lead, lead | lead, vowel | lead, openSyllable | lead, closedSyllable => true
      | openSyllable, vowel | openSyllable, trail | vowel, vowel | vowel, trail => true
      | closedSyllable, trail | trail, trail => true
      | joiner, pictograph => endsInPictograph before
      | regional, regional => (before.takeWhile (· = regional)).length % 2 = 0
      | _, _ => false

end Joining

/-- The clusters of a text, the first of which has been seen in part: the characters of that part
and how they join are given backwards. -/
def clustersFrom (part : List Char) (joinings : List Joining) : List Char → List (List Char)
  | [] => if part.isEmpty then [] else [part.reverse]
  | c :: rest =>
    if Joining.continues joinings (Joining.ofChar c) then
      clustersFrom (c :: part) (Joining.ofChar c :: joinings) rest
    else part.reverse :: clustersFrom [c] [Joining.ofChar c] rest

/-- The clusters of a text. -/
def clusters (text : List Char) : List (List Char) := clustersFrom [] [] text

end Chip8.Text
