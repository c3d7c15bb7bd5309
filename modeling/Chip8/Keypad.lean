/-!
# The keypad

The machine sees the latest snapshot of sixteen keys, each up or down. It never changes the snapshot
itself.

Results:
* `firstPressed_eq_some_iff`: the key found is down and no lower one is.
-/

namespace Chip8

/-- Which of the sixteen keys are down: `Keypad`. -/
structure Keypad where
  keys : Vector Bool 16
deriving DecidableEq

namespace Keypad

/-- No key is down. -/
def released : Keypad := { keys := Vector.replicate 16 false }

/-- A snapshot is taken only if it speaks of exactly sixteen keys (`Keypad::set_state`). -/
def ofSnapshot? (snapshot : List Bool) : Option Keypad :=
  if h : snapshot.length = 16 then some { keys := ⟨snapshot.toArray, by simpa using h⟩ } else none

/-- Whether a key is down (`Keypad::is_key_pressed`). No value above 15 names a key, so those are
up. -/
def isPressed (k : Keypad) (key : UInt8) : Bool := k.keys[key.toNat]?.getD false

/-- The lowest key that is down (`Keypad::first_pressed`). -/
def firstPressed (k : Keypad) : Option (Fin 16) := (List.finRange 16).find? k.keys.get

theorem firstPressed_eq_none_iff (k : Keypad) :
    k.firstPressed = none ↔ ∀ key : Fin 16, k.keys.get key = false := by
  simp [firstPressed]

theorem firstPressed_eq_some_iff (k : Keypad) (key : Fin 16) :
    k.firstPressed = some key ↔ k.keys.get key = true ∧ ∀ j < key, k.keys.get j = false := by
  simp only [firstPressed, List.find?_eq_some_iff_getElem, List.getElem_finRange]
  constructor
  · rintro ⟨hk, i, hi, hik, hlow⟩
    refine ⟨hk, fun j hj => ?_⟩
    have hj' : j.val < i := by
      have := congrArg Fin.val hik
      simp at this
      omega
    simpa using hlow j.val hj'
  · rintro ⟨hk, hlow⟩
    refine ⟨hk, key.val, by simp, by simp, fun j hj => ?_⟩
    simpa using hlow ⟨j, by omega⟩ hj

end Keypad

end Chip8
