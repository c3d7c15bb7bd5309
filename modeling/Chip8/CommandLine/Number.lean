/-!
# Numbers on the command line

Which texts are numbers. Digits are decimal and nothing else may stand between them; a plus sign may
lead. A 32-bit number may even lead with a minus sign, which only zero survives.
-/

namespace Chip8.CommandLine

/-- The number that decimal digits stand for, continuing `acc`. -/
def digitsFrom (acc : Nat) : List Char → Option Nat
  | [] => some acc
  | c :: rest => if c.isDigit then digitsFrom (acc * 10 + (c.toNat - 48)) rest else none

/-- The number that a text of digits stands for; there must be at least one. -/
def digits? : List Char → Option Nat
  | [] => none
  | c :: rest => digitsFrom 0 (c :: rest)

/-- A number below 2^32. -/
def word32? (text : String) : Option UInt32 := do
  let n ← match text.toList with
    | '+' :: rest => digits? rest
    | '-' :: rest => (digits? rest).filter (· == 0)
    | cs => digits? cs
  if n < UInt32.size then some (UInt32.ofNat n) else none

/-- A number below 2^64. -/
def word64? (text : String) : Option UInt64 := do
  let n ← match text.toList with
    | '+' :: rest => digits? rest
    | cs => digits? cs
  if n < UInt64.size then some (UInt64.ofNat n) else none

/-! ## Frequencies -/

/-- A frequency as it was written. It is rounded to what the sound device understands only there. -/
inductive Frequency
  | notANumber
  | infinite (negative : Bool)
  /-- The number `digits * 10 ^ exponent`. -/
  | decimal (negative : Bool) (digits : Nat) (exponent : Int)
deriving DecidableEq

/-- The number after the `e` of an exponent: digits after at most one sign. -/
def exponent? : List Char → Option Int
  | '+' :: rest => (digits? rest).map Int.ofNat
  | '-' :: rest => (digits? rest).map fun n => -Int.ofNat n
  | cs => (digits? cs).map Int.ofNat

/-- The exponent that stands at the end of a number, zero if nothing stands there. -/
def scale? : List Char → Option Int
  | [] => some 0
  | c :: rest => if c = 'e' ∨ c = 'E' then exponent? rest else none

/-- The digits at the beginning of a text, and the rest. -/
def spanDigits (cs : List Char) : List Char × List Char :=
  (cs.takeWhile Char.isDigit, cs.dropWhile Char.isDigit)

/-- A number with an optional fraction and an optional exponent, without a sign. At least one digit
stands before or after the point. -/
def decimal? (negative : Bool) (cs : List Char) : Option Frequency := do
  let (whole, rest) := spanDigits cs
  let (fraction, rest) := match rest with
    | '.' :: tail => spanDigits tail
    | _ => ([], rest)
  let n ← digits? (whole ++ fraction)
  let scale ← scale? rest
  some (.decimal negative n (scale - fraction.length))

/-- A frequency without its sign: a number, or one of the words for infinity and for no number in
any case of their letters. -/
def unsignedFrequency? (negative : Bool) (cs : List Char) : Option Frequency :=
  let lower := cs.map Char.toLower
  if lower = "inf".toList ∨ lower = "infinity".toList then some (.infinite negative)
  else if lower = "nan".toList then some .notANumber
  else decimal? negative cs

def frequency? (text : String) : Option Frequency :=
  match text.toList with
  | '+' :: rest => unsignedFrequency? false rest
  | '-' :: rest => unsignedFrequency? true rest
  | cs => unsignedFrequency? false cs

end Chip8.CommandLine
