/-!
# Keys of the keyboard

What the player makes of a key. The left side of the keyboard stands for the sixteen keys of the
keypad, and three more keys control the player; no key does both.

    1 2 3 4        1 2 3 C
    Q W E R        4 5 6 D
    A S D F        7 8 9 E
    Z X C V        A 0 B F

Results:
* `keypad?_eq_none_of_control?`: a key that controls the player is no key of the keypad.
-/

namespace Chip8.Play

/-- A key, as far as the player tells them apart. -/
inductive KeyCode
  | char (c : Char)
  | escape
  /-- A key that the player has no use for. -/
  | other
deriving DecidableEq

/-- What was done to a key. -/
inductive KeyAction
  | press
  /-- The key is still down and repeats itself. -/
  | again
  | release
deriving DecidableEq

/-- What the terminal reports. -/
inductive Event
  | key (code : KeyCode) (action : KeyAction)
  /-- Anything that is not about a key. -/
  | other
deriving DecidableEq

/-- What the player can be told to do: `Control`. -/
inductive Control
  | quit
  | pause
  | reboot
deriving DecidableEq

namespace KeyCode

/-- The key of the keypad that a lower-case character stands for. -/
def keypadOfChar? : Char → Option (Fin 16)
  | '1' => some 0x1
  | '2' => some 0x2
  | '3' => some 0x3
  | '4' => some 0xC
  | 'q' => some 0x4
  | 'w' => some 0x5
  | 'e' => some 0x6
  | 'r' => some 0xD
  | 'a' => some 0x7
  | 's' => some 0x8
  | 'd' => some 0x9
  | 'f' => some 0xE
  | 'z' => some 0xA
  | 'x' => some 0x0
  | 'c' => some 0xB
  | 'v' => some 0xF
  | _ => none

/-- The key of the keypad that a key stands for, in either case of the letter (`keypad_index`). -/
def keypad? : KeyCode → Option (Fin 16)
  | char c => keypadOfChar? c.toLower
  | _ => none

/-- What a key tells the player to do (`control_for`). -/
def control? : KeyCode → Option Control
  | escape => some .quit
  | char c =>
    match c.toLower with
    | 'p' => some .pause
    | 'b' => some .reboot
    | _ => none
  | other => none

theorem keypad?_eq_none_of_control? {code : KeyCode} {control : Control}
    (h : code.control? = some control) : code.keypad? = none := by
  cases code with
  | escape => rfl
  | other => rfl
  | char c =>
    simp only [control?] at h
    simp only [keypad?]
    split at h
    · next hp => rw [hp]; rfl
    · next hb => rw [hb]; rfl
    · cases h

end KeyCode

end Chip8.Play
