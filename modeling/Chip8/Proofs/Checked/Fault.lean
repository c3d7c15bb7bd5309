/-!
# Faults

Operations that can fail: to read or change an array outside of it, to cut a piece out of a list
that has no such piece, to copy between pieces of different lengths, to divide by zero, to leave the
bits of a number. Each gives its result or the fault. Numbers are natural numbers here, and a sum or
a product is told the bound that it has to stay below.

Results:
* `add_of_lt`, `subtract_of_le`, `remainder_of_ne`, `get_of_lt`, `slice_of_le` and so on: where each
  operation has a result, and which.
-/

namespace Chip8.Checked

/-- What keeps an operation from having a result. -/
inductive Fault
  /-- A place outside an array. -/
  | outside (place length : Nat)
  /-- A piece that a list does not have. -/
  | noPiece (start stop length : Nat)
  /-- A copy into a piece of another length. -/
  | misfit (source target : Nat)
  /-- A number that its bits cannot hold. -/
  | overflow
  | zeroDivisor
deriving DecidableEq

/-- A result or a fault. -/
abbrev Outcome (α : Type) := Except Fault α

variable {α : Type}

theorem ok_bind {β : Type} (a : α) (next : α → Outcome β) : (Except.ok a >>= next) = next a := rfl

/-! ## Numbers -/

def add (bound a b : Nat) : Outcome Nat := if a + b < bound then .ok (a + b) else .error .overflow

def subtract (a b : Nat) : Outcome Nat := if b ≤ a then .ok (a - b) else .error .overflow

def multiply (bound a b : Nat) : Outcome Nat :=
  if a * b < bound then .ok (a * b) else .error .overflow

def remainder (a b : Nat) : Outcome Nat := if b = 0 then .error .zeroDivisor else .ok (a % b)

/-- Shifts a byte to the right, by less than its eight bits. -/
def shiftRight (byte : UInt8) (amount : Nat) : Outcome UInt8 :=
  if amount < 8 then .ok (byte >>> UInt8.ofNat amount) else .error .overflow

theorem add_of_lt {bound a b : Nat} (h : a + b < bound) : add bound a b = .ok (a + b) := if_pos h

theorem subtract_of_le {a b : Nat} (h : b ≤ a) : subtract a b = .ok (a - b) := if_pos h

theorem multiply_of_lt {bound a b : Nat} (h : a * b < bound) : multiply bound a b = .ok (a * b) :=
  if_pos h

/-- Sums and products that fit 32 bits are far from the end of 64 bits. -/
theorem add_of_small {a b : Nat} (h : a + b < 4294967296) : add UInt64.size a b = .ok (a + b) :=
  add_of_lt (Nat.lt_trans h (by decide))

theorem multiply_of_small {a b : Nat} (h : a * b < 4294967296) :
    multiply UInt64.size a b = .ok (a * b) :=
  multiply_of_lt (Nat.lt_trans h (by decide))

theorem remainder_of_ne {a b : Nat} (h : b ≠ 0) : remainder a b = .ok (a % b) := if_neg h

theorem shiftRight_of_lt (byte : UInt8) {amount : Nat} (h : amount < 8) :
    shiftRight byte amount = .ok (byte >>> UInt8.ofNat amount) := if_pos h

/-! ## Arrays and lists -/

def get {n : Nat} (xs : Vector α n) (place : Nat) : Outcome α :=
  if h : place < n then .ok xs[place] else .error (.outside place n)

def set {n : Nat} (xs : Vector α n) (place : Nat) (x : α) : Outcome (Vector α n) :=
  if h : place < n then .ok (xs.set place x) else .error (.outside place n)

/-- The elements from place `start` on and before place `stop`. -/
def slice (xs : List α) (start stop : Nat) : Outcome (List α) :=
  if start ≤ stop ∧ stop ≤ xs.length then .ok ((xs.drop start).take (stop - start))
  else .error (.noPiece start stop xs.length)

/-- The array with the elements of `source` from place `start` on. -/
def overwritten {n : Nat} (xs : Vector α n) (start : Nat) (source : List α) : Vector α n :=
  Vector.ofFn fun i =>
    if start ≤ i.val then source.getD (i.val - start) (xs.get i) else xs.get i

/-- Copies a list into the piece of an array from place `start` on and before place `stop`, which
has to be as long as the list. -/
def copyInto {n : Nat} (xs : Vector α n) (start stop : Nat) (source : List α) :
    Outcome (Vector α n) :=
  if start ≤ stop ∧ stop ≤ n then
    if source.length = stop - start then .ok (overwritten xs start source)
    else .error (.misfit source.length (stop - start))
  else .error (.noPiece start stop n)

theorem get_of_lt {n : Nat} (xs : Vector α n) {place : Nat} (h : place < n) :
    get xs place = .ok xs[place] := dif_pos h

theorem set_of_lt {n : Nat} (xs : Vector α n) {place : Nat} (h : place < n) (x : α) :
    set xs place x = .ok (xs.set place x) := dif_pos h

theorem slice_of_le (xs : List α) {start stop : Nat} (h : start ≤ stop) (hstop : stop ≤ xs.length) :
    slice xs start stop = .ok ((xs.drop start).take (stop - start)) := if_pos ⟨h, hstop⟩

theorem copyInto_of_le {n : Nat} (xs : Vector α n) {start stop : Nat} {source : List α}
    (h : start ≤ stop) (hstop : stop ≤ n) (hlength : source.length = stop - start) :
    copyInto xs start stop source = .ok (overwritten xs start source) := by
  rw [copyInto, if_pos ⟨h, hstop⟩, if_pos hlength]

theorem getElem?_overwritten {n : Nat} (xs : Vector α n) (start : Nat) (source : List α)
    (place : Nat) :
    (overwritten xs start source)[place]? =
      if start ≤ place ∧ place < start + source.length ∧ place < n
      then source[place - start]? else xs[place]? := by
  simp only [overwritten, Vector.getElem?_ofFn]
  by_cases hn : place < n
  · rw [dif_pos hn]
    by_cases hstart : start ≤ place
    · by_cases hsource : place < start + source.length
      · rw [if_pos hstart, if_pos ⟨hstart, hsource, hn⟩, List.getD_eq_getElem?_getD,
          List.getElem?_eq_getElem (by omega), Option.getD_some]
      · rw [if_pos hstart, if_neg (by omega), List.getD_eq_getElem?_getD,
          List.getElem?_eq_none (by omega), Option.getD_none, Vector.getElem?_eq_getElem hn]
        rfl
    · rw [if_neg hstart, if_neg (by omega), Vector.getElem?_eq_getElem hn]
      rfl
  · rw [dif_neg hn, if_neg (by omega), Vector.getElem?_eq_none (by omega)]

end Chip8.Checked
