import Chip8.Text.Hex

/-!
# The general registers

Sixteen byte registers V0 to VF. VF doubles as the flag of arithmetic and drawing.

Results:
* `read_write`: what a write does to every register.
* `mem_upTo`: `upTo x` lists V0 to Vx.
-/

namespace Chip8

/-- A general register, by its number: `Register` with `Register::index`. -/
abbrev Register := Fin 16

namespace Register

/-- The flag register VF. -/
def flag : Register := Fin.last 15

/-- The register that the low four bits of a byte select (`Register::from_nibble`). -/
def ofByte (value : UInt8) : Register := ⟨value.toNat % 16, Nat.mod_lt _ (by decide)⟩

/-- The register V0. -/
def first : Register := ofByte 0

/-- The name of the register: `V` and its number as one hexadecimal digit, as `Register` is
formatted. -/
def name (x : Register) : String := String.ofList ['V', Text.hexDigit x.val]

/-- The registers from V0 to `x` in order (`Register::up_to`). -/
def upTo (x : Register) : List Register := (List.finRange 16).take (x.val + 1)

theorem mem_upTo {x y : Register} : y ∈ upTo x ↔ y ≤ x := by
  revert x y; decide

theorem length_upTo (x : Register) : (upTo x).length = x.val + 1 := by
  revert x; decide

theorem getElem?_upTo (x : Register) (i : Fin 16) :
    (upTo x)[i.val]? = if i ≤ x then some i else none := by
  revert x i; decide

end Register

/-- The values of the general registers: `RegisterBank`. -/
structure Registers where
  values : Vector UInt8 16
deriving DecidableEq

namespace Registers

/-- All registers hold zero. -/
def initial : Registers := { values := Vector.replicate 16 0 }

/-- Model of `RegisterBank::read`. -/
def read (r : Registers) (x : Register) : UInt8 := r.values.get x

/-- Model of `RegisterBank::write`. -/
def write (r : Registers) (x : Register) (value : UInt8) : Registers :=
  { values := r.values.set x value }

/-- Puts 1 or 0 into the flag register (`RegisterBank::set_flag`). -/
def setFlag (r : Registers) (flag : Bool) : Registers := r.write Register.flag flag.toUInt8

theorem read_write (r : Registers) (x y : Register) (value : UInt8) :
    (r.write x value).read y = if y = x then value else r.read y := by
  show (r.values.set x.val value)[y.val] = if y = x then value else r.values[y.val]
  rw [Vector.getElem_set]
  by_cases h : y = x
  · simp [h]
  · rw [if_neg (fun hv => h (Fin.ext hv.symm)), if_neg h]

/-- Banks with the same contents are equal. -/
theorem ext_read {r r' : Registers} (h : ∀ x, r.read x = r'.read x) : r = r' := by
  obtain ⟨values⟩ := r
  obtain ⟨values'⟩ := r'
  congr 1
  refine Vector.ext fun i hi => ?_
  exact h ⟨i, hi⟩

end Registers

end Chip8
