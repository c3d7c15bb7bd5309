/-!
# Numbers rounded to a whole

The whole number nearest to a quotient or to a floating-point number; a half goes to the even
neighbour.

Results:
* `isDigit_of_mem_repr`: a number is written with digits only.
-/

namespace Chip8.Text

/-- The whole number nearest to `num / den`, of two the even one. -/
def roundQuotient (num den : Nat) : Nat :=
  let whole := num / den
  let rest := num % den
  if 2 * rest < den then whole
  else if den < 2 * rest then whole + 1
  else whole + whole % 2

/-- The whole number nearest to a finite number that is not negative. The number is read from its
bits: 52 bits of fraction below 11 bits of exponent. -/
def roundFloat (x : Float) : Nat :=
  let bits := x.toBits.toNat
  let unit := 1 <<< 52
  let exponent := bits / unit % 2048
  let fraction := bits % unit
  let significand := if exponent = 0 then fraction else unit + fraction
  if 1075 ≤ exponent then significand <<< (exponent - 1075)
  else roundQuotient significand (1 <<< (1075 - max exponent 1))

/-- All digits of the nearest whole number. -/
def rounded (x : Float) : String := toString (roundFloat x)

theorem isDigit_of_mem_repr {n : Nat} {c : Char} (h : c ∈ n.repr.toList) : c.isDigit = true := by
  rw [Nat.toList_repr] at h
  exact Nat.isDigit_of_mem_toDigits (by decide) (by decide) h

end Chip8.Text
