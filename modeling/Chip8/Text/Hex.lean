/-!
# Hexadecimal text

Numbers written in base 16 with upper-case digits, as addresses and instruction words are shown.

Results:
* `length_hexFixed`: a fixed-width number has exactly that many digits.
* `hexDigit_injective`: each digit stands for one value.
-/

namespace Chip8.Text

/-- The digit of a value below 16: `0` to `9`, then `A` to `F`. -/
def hexDigit (d : Nat) : Char :=
  if d < 10 then Char.ofNat (48 + d) else Char.ofNat (55 + d)

/-- The last `width` digits of `n`, the most significant one first. -/
def hexFixed : (width : Nat) → (n : Nat) → List Char
  | 0, _ => []
  | width + 1, n => hexFixed width (n / 16) ++ [hexDigit (n % 16)]

/-- The number of digits that `n` needs; zero is written with one. -/
def hexCount (n : Nat) : Nat := n.log2 / 4 + 1

/-- All digits of `n`, filled up with zeros to at least `width` of them. -/
def hex (width n : Nat) : String := String.ofList (hexFixed (max width (hexCount n)) n)

/-! ## The digits determine the number -/

@[simp] theorem length_hexFixed (width n : Nat) : (hexFixed width n).length = width := by
  induction width generalizing n with
  | zero => rfl
  | succ width ih => simp [hexFixed, ih]

theorem hexDigit_injective {a b : Nat} (ha : a < 16) (hb : b < 16)
    (h : hexDigit a = hexDigit b) : a = b := by
  have key : ∀ a b : Fin 16, hexDigit a = hexDigit b → a = b := by decide
  exact congrArg Fin.val (key ⟨a, ha⟩ ⟨b, hb⟩ h)

end Chip8.Text
