import Chip8.Text.Hex
import Mathlib.Tactic.Common

/-!
# Hexadecimal text read back

What the digits of a number say: each digit has a value, and the text of a number has the number as
its value. A text is as wide as asked for, or wider if the number needs that, and then it begins
with the first digit that counts.

Results:
* `hexValue_hexFixed`: a number that fits the width is read back from its digits.
* `not_mem_hexFixed`: the digits are the only characters.
* `hex_of_lt`: a number that fits is written with just the width asked for.
* `shows_hex`: what `hex` writes shows its number.
-/

namespace Chip8.Text

/-! ## Values -/

/-- The value of a digit. -/
def digitValue (c : Char) : Nat := if c.toNat < 65 then c.toNat - 48 else c.toNat - 55

/-- The value of a row of digits, the most significant one first. -/
def hexValue (digits : List Char) : Nat :=
  digits.foldl (fun value c => 16 * value + digitValue c) 0

theorem digitValue_hexDigit {d : Nat} (h : d < 16) : digitValue (hexDigit d) = d := by
  have key : ∀ d : Fin 16, digitValue (hexDigit d) = d := by decide
  exact key ⟨d, h⟩

theorem hexValue_concat (digits : List Char) (c : Char) :
    hexValue (digits ++ [c]) = 16 * hexValue digits + digitValue c := by
  simp [hexValue]

theorem hexValue_hexFixed {width n : Nat} (h : n < Nat.pow 16 width) :
    hexValue (hexFixed width n) = n := by
  induction width generalizing n with
  | zero =>
    have hone : Nat.pow 16 0 = 1 := rfl
    have hzero : n = 0 := by omega
    rw [hzero]
    rfl
  | succ width ih =>
    have hpow : Nat.pow 16 (width + 1) = Nat.pow 16 width * 16 := rfl
    rw [hexFixed, hexValue_concat, ih (by omega), digitValue_hexDigit (Nat.mod_lt _ (by decide))]
    omega

/-! ## Characters -/

theorem not_mem_hexFixed {c : Char} (h : ∀ d : Fin 16, hexDigit d ≠ c) (width n : Nat) :
    c ∉ hexFixed width n := by
  induction width generalizing n with
  | zero => simp [hexFixed]
  | succ width ih =>
    have hlast := h ⟨n % 16, Nat.mod_lt n (by decide)⟩
    simp [hexFixed, ih, Ne.symm hlast]

theorem head?_hexFixed (width n : Nat) :
    (hexFixed (width + 1) n).head? = some (hexDigit (n / Nat.pow 16 width % 16)) := by
  induction width generalizing n with
  | zero =>
    have hone : Nat.pow 16 0 = 1 := rfl
    rw [hone, Nat.div_one]
    rfl
  | succ width ih =>
    have hpow : Nat.pow 16 (width + 1) = 16 * Nat.pow 16 width := Nat.mul_comm _ _
    rw [hexFixed, List.head?_append, ih, Nat.div_div_eq_div_mul, ← hpow]
    rfl

/-! ## Widths -/

theorem pow_sixteen (k : Nat) : Nat.pow 16 k = Nat.pow 2 (4 * k) := (Nat.pow_mul 2 4 k).symm

theorem lt_pow_hexCount (n : Nat) : n < Nat.pow 16 (hexCount n) := by
  have hlog : n < Nat.pow 2 (n.log2 + 1) := Nat.lt_log2_self
  rw [pow_sixteen]
  refine Nat.lt_of_lt_of_le hlog (Nat.pow_le_pow_right (by decide) ?_)
  unfold hexCount
  omega

/-- A number that needs a second digit reaches the value of its first one. -/
theorem pow_le_of_lt_hexCount {width n : Nat} (hpos : 0 < width) (h : width < hexCount n) :
    Nat.pow 16 (hexCount n - 1) ≤ n := by
  have hne : n ≠ 0 := by
    rintro rfl
    rw [show hexCount 0 = 1 from rfl] at h
    omega
  have hlog : Nat.pow 2 n.log2 ≤ n := Nat.log2_self_le hne
  rw [pow_sixteen]
  refine Nat.le_trans (Nat.pow_le_pow_right (by decide) ?_) hlog
  unfold hexCount
  omega

theorem hexCount_le_of_lt {width n : Nat} (hpos : 0 < width) (h : n < Nat.pow 16 width) :
    hexCount n ≤ width := by
  by_contra hlt
  have hle := pow_le_of_lt_hexCount hpos (Nat.lt_of_not_le hlt)
  have hwider : Nat.pow 16 width ≤ Nat.pow 16 (hexCount n - 1) :=
    Nat.pow_le_pow_right (by decide) (by omega)
  omega

theorem hex_of_lt {width n : Nat} (hpos : 0 < width) (h : n < Nat.pow 16 width) :
    hex width n = String.ofList (hexFixed width n) := by
  rw [hex, Nat.max_eq_left (hexCount_le_of_lt hpos h)]

/-- The first digit of a number that is written without need of a zero in front. -/
theorem head?_hexFixed_hexCount {n : Nat} (h : 1 < hexCount n) :
    ∃ d, 0 < d ∧ d < 16 ∧ (hexFixed (hexCount n) n).head? = some (hexDigit d) := by
  have hle := pow_le_of_lt_hexCount Nat.one_pos h
  have hlt := lt_pow_hexCount n
  obtain ⟨k, hk⟩ : ∃ k, hexCount n = k + 1 := ⟨hexCount n - 1, by omega⟩
  rw [hk, Nat.add_sub_cancel] at hle
  have hpow : Nat.pow 16 (k + 1) = Nat.pow 16 k * 16 := rfl
  rw [hk, hpow] at hlt
  -- what is left of the number when the other digits are cut off is from 1 to 15
  have hpos : 0 < n / Nat.pow 16 k := Nat.div_pos hle (Nat.pow_pos (by decide))
  have hsmall : n / Nat.pow 16 k < 16 := Nat.div_lt_of_lt_mul hlt
  refine ⟨n / Nat.pow 16 k, hpos, hsmall, ?_⟩
  rw [hk, head?_hexFixed, Nat.mod_eq_of_lt hsmall]

/-! ## Numbers shown -/

/-- The text shows `n` in base 16 with upper-case digits, at least `width` of them, and with more
only if the first one counts. -/
structure Shows (width n : Nat) (s : String) : Prop where
  isDigit : ∀ c ∈ s.toList, c ∈ "0123456789ABCDEF".toList
  value_eq : hexValue s.toList = n
  width_le : width ≤ s.toList.length
  head_ne : width < s.toList.length → s.toList.head? ≠ some '0'

theorem shows_hex {width : Nat} (hpos : 0 < width) (n : Nat) : Shows width n (hex width n) := by
  have hfits : n < Nat.pow 16 (max width (hexCount n)) :=
    Nat.lt_of_lt_of_le (lt_pow_hexCount n)
      (Nat.pow_le_pow_right (by decide) (Nat.le_max_right _ _))
  have hlist : (hex width n).toList = hexFixed (max width (hexCount n)) n := String.toList_ofList
  have hdigits : ∀ d : Fin 16, hexDigit d ∈ "0123456789ABCDEF".toList := by decide
  refine ⟨?_, ?_, ?_, ?_⟩
  · intro c hc
    by_contra hother
    have hne : ∀ d : Fin 16, hexDigit d ≠ c := fun d hd => hother (hd ▸ hdigits d)
    rw [hlist] at hc
    exact not_mem_hexFixed hne _ _ hc
  · rw [hlist, hexValue_hexFixed hfits]
  · rw [hlist, length_hexFixed]
    exact Nat.le_max_left _ _
  · intro hwider
    rw [hlist, length_hexFixed] at hwider
    have hneeds : width < hexCount n := by omega
    obtain ⟨d, hd, hsmall, hfirst⟩ := head?_hexFixed_hexCount (n := n) (by omega)
    rw [hlist, Nat.max_eq_right (Nat.le_of_lt hneeds), hfirst]
    intro hzero
    have := hexDigit_injective hsmall (by decide) (Option.some.inj hzero : hexDigit d = hexDigit 0)
    omega

end Chip8.Text
