/-!
# The return stack

Twelve slots of return addresses and the number of slots in use. A push onto a full stack and a pop
from an empty one change nothing.

Results:
* `toList_push`, `toList_pop`: on the view `toList`, the addresses still to be returned to, the
  operations are those of a list that holds at most twelve elements.
-/

namespace Chip8

/-- Model of `CallStack`. The slots below `depth` are in use; what the others hold is left over
from earlier calls. -/
structure ReturnStack where
  slots : Vector UInt16 12
  depth : Nat
  depth_le : depth ≤ 12
deriving DecidableEq

namespace ReturnStack

/-- How many calls can be open at once (`STACK_CAPACITY`). -/
def capacity : Nat := 12

def empty : ReturnStack := { slots := Vector.replicate 12 0, depth := 0, depth_le := by decide }

/-- The stack with `address` on top, or nothing when every slot is in use and `CallStack::push`
gives `false`. -/
def push? (s : ReturnStack) (address : UInt16) : Option ReturnStack :=
  if h : s.depth < 12 then
    some { slots := s.slots.set s.depth address, depth := s.depth + 1, depth_le := h }
  else none

/-- The address on top and the stack below it, or nothing when no slot is in use
(`CallStack::pop`). -/
def pop? (s : ReturnStack) : Option (UInt16 × ReturnStack) :=
  if h : 0 < s.depth then
    have hd := s.depth_le
    some (s.slots[s.depth - 1], { s with depth := s.depth - 1, depth_le := by omega })
  else none

/-! ## The view -/

/-- The addresses in use, the most recent one first. -/
def toList (s : ReturnStack) : List UInt16 := (s.slots.toList.take s.depth).reverse

@[simp] theorem length_toList (s : ReturnStack) : s.toList.length = s.depth := by
  simp [toList, s.depth_le]

@[simp] theorem toList_empty : empty.toList = [] := rfl

/-- A push is accepted exactly below the capacity, and puts its address in front. -/
theorem toList_push (s : ReturnStack) (address : UInt16) :
    (s.push? address).map toList =
      if s.toList.length < capacity then some (address :: s.toList) else none := by
  simp only [length_toList, capacity]
  unfold push?
  split
  · next h =>
    simp only [Option.map_some, Option.some.injEq, toList, Vector.toList_set]
    rw [List.take_add_one, List.take_set_of_le (Nat.le_refl _)]
    simp [h]
  · rfl

/-- A pop takes the front of the list, and fails exactly on the empty list. -/
theorem toList_pop (s : ReturnStack) :
    s.pop?.map (fun r => (r.1, r.2.toList)) =
      match s.toList with
      | [] => none
      | address :: rest => some (address, rest) := by
  have hle := s.depth_le
  unfold pop?
  split
  · next h =>
    obtain ⟨d, hd⟩ : ∃ d, s.depth = d + 1 := ⟨s.depth - 1, by omega⟩
    have hl : s.toList = s.slots[d] :: (s.slots.toList.take d).reverse := by
      rw [toList, hd, List.take_add_one]
      simp [show d < 12 by omega]
    rw [hl]
    simp [toList, hd]
  · next h =>
    have : s.toList = [] := List.eq_nil_of_length_eq_zero (by rw [length_toList]; omega)
    rw [this]
    rfl

end ReturnStack

end Chip8
