import Chip8.Instruction
import Mathlib.Tactic.Common

/-!
# Patterns of words

The words of an instruction share a pattern of four characters: a hexadecimal digit stands for
itself, and X, Y and N stand for any digit. Every word fits the pattern of the instruction that it
means.

Results:
* `fits_pattern`: a word fits the pattern of its instruction.
* `fieldX_of_register?`: the register X of an instruction is the second digit of its word.
* `ofWord_of_fits_system`, `ofWord_of_fits_pointGlyph`, `ofWord_of_fits_awaitKey`,
  `ofWord_of_fits_store`, `ofWord_of_fits_fetch`, `ofWord_of_fits_combine`, `ofWord_of_fits_draw`:
  what the words of a pattern mean.
-/

namespace Chip8

/-! ## Fitting -/

/-- Whether digits fit the characters of a pattern. -/
def fitsDigits : List Char → List Nat → Bool
  | [], [] => true
  | c :: pattern, d :: digits =>
    (c ∈ ['X', 'Y', 'N'] || Text.hexDigit d == c) && fitsDigits pattern digits
  | _, _ => false

/-- Whether a word fits a pattern. -/
def fits (pattern : String) (word : UInt16) : Bool :=
  fitsDigits pattern.toList
    [word.toNat / 4096, word.toNat / 256 % 16, word.toNat / 16 % 16, word.toNat % 16]

/-- Whether a word fits one of some patterns. -/
def fitsAny (patterns : List String) (word : UInt16) : Bool := patterns.any fun p => fits p word

/-- The pattern of the words 8XY_ of an operation. -/
def Operation.pattern : Operation → String
  | copy => "8XY0"
  | or => "8XY1"
  | and => "8XY2"
  | xor => "8XY3"
  | add => "8XY4"
  | subtract => "8XY5"
  | halve => "8XY6"
  | subtractFrom => "8XY7"
  | double => "8XYE"

/-- The pattern of the words of a skip. -/
def Condition.pattern : Condition → String
  | isByte _ _ => "3XNN"
  | isNotByte _ _ => "4XNN"
  | same _ _ => "5XY0"
  | differ _ _ => "9XY0"
  | pressed _ => "EX9E"
  | released _ => "EXA1"

namespace Instruction

/-- The pattern of an instruction. -/
def pattern : Instruction → String
  | clear => "00E0"
  | ret => "00EE"
  | system _ => "0NNN"
  | jump _ => "1NNN"
  | call _ => "2NNN"
  | skipIf condition => condition.pattern
  | setByte _ _ => "6XNN"
  | addByte _ _ => "7XNN"
  | combine op _ _ => op.pattern
  | setIndex _ => "ANNN"
  | jumpPlus _ => "BNNN"
  | random _ _ => "CXNN"
  | draw _ _ _ => "DXYN"
  | readDelay _ => "FX07"
  | awaitKey _ => "FX0A"
  | setDelay _ => "FX15"
  | setSound _ => "FX18"
  | addIndex _ => "FX1E"
  | pointGlyph _ => "FX29"
  | storeDecimal _ => "FX33"
  | store _ => "FX55"
  | fetch _ => "FX65"
  | undefined _ => "NNNN"

/-- The patterns of the words that do something. -/
def meaningful : List String :=
  ["00E0", "00EE", "1NNN", "2NNN", "3XNN", "4XNN", "5XY0", "6XNN", "7XNN", "8XY0", "8XY1", "8XY2",
    "8XY3", "8XY4", "8XY5", "8XY6", "8XY7", "8XYE", "9XY0", "ANNN", "BNNN", "CXNN", "DXYN", "EX9E",
    "EXA1", "FX07", "FX0A", "FX15", "FX18", "FX1E", "FX29", "FX33", "FX55", "FX65"]

/-- The register that an instruction has for X. -/
def register? : Instruction → Option Register
  | skipIf (.isByte x _) | skipIf (.isNotByte x _) | skipIf (.same x _) | skipIf (.differ x _)
  | skipIf (.pressed x) | skipIf (.released x) => some x
  | setByte x _ | addByte x _ | combine _ x _ | random x _ | draw x _ _ => some x
  | readDelay x | awaitKey x | setDelay x | setSound x | addIndex x => some x
  | pointGlyph x | storeDecimal x | store x | fetch x => some x
  | clear | ret | system _ | jump _ | call _ | setIndex _ | jumpPlus _ | undefined _ => none

/-! ## Words and their patterns -/

theorem fits_pattern_ofWordF {word : UInt16} (h : word.toNat / 4096 = 0xF) :
    fits (ofWordF word).pattern word = true := by
  unfold ofWordF
  dsimp only
  split
  case h_10 => simp only [pattern]; rfl
  all_goals
    next hlast =>
      have hthird : word.toNat / 16 % 16 = word.toNat % 256 / 16 := by omega
      have hfourth : word.toNat % 16 = word.toNat % 256 % 16 := by omega
      rw [hlast] at hthird hfourth
      simp only [fits, pattern, h, hthird, hfourth]
      rfl

/-- A word fits the pattern of its instruction. -/
theorem fits_pattern (word : UInt16) : fits (ofWord word).pattern word = true := by
  have hlt := word.toNat_lt
  unfold ofWord
  dsimp only
  split
  case h_1 h =>
    split
    · next hword => simp only [fits, pattern, hword]; rfl
    · next hword => simp only [fits, pattern, hword]; rfl
    · simp only [fits, pattern, h]; rfl
  case h_6 h | h_10 h =>
    split
    · next hlast => simp only [fits, pattern, Condition.pattern, h, hlast]; rfl
    · simp only [pattern]; rfl
  case h_9 h =>
    split
    · next op hop =>
      have hcode := Operation.code_of_ofCode? hop
      cases op <;>
      · simp only [fits, pattern, Operation.pattern, h, ← hcode]
        rfl
    · simp only [pattern]; rfl
  case h_15 h =>
    split
    · next hlast =>
      have hthird : word.toNat / 16 % 16 = 0x9 := by omega
      have hfourth : word.toNat % 16 = 0xE := by omega
      simp only [fits, pattern, Condition.pattern, h, hthird, hfourth]
      rfl
    · next hlast =>
      have hthird : word.toNat / 16 % 16 = 0xA := by omega
      have hfourth : word.toNat % 16 = 0x1 := by omega
      simp only [fits, pattern, Condition.pattern, h, hthird, hfourth]
      rfl
    · simp only [pattern]; rfl
  case h_16 h => exact fits_pattern_ofWordF h
  case h_17 => simp only [pattern]; rfl
  all_goals
    next h =>
      simp only [fits, pattern, Condition.pattern, h]
      rfl

example : (ofWord 0x8AB7).pattern = "8XY7" ∧ fits "8XY7" 0x8AB7 = true ∧
    fits "8XY7" 0x8AB8 = false := by
  decide

theorem fieldX_of_register? {word : UInt16} {x : Register} (h : (ofWord word).register? = some x) :
    fieldX word = x := by
  unfold ofWord at h
  dsimp only at h
  split at h
  -- some first digits leave the meaning to the later ones
  case h_1 | h_6 | h_9 | h_10 | h_15 => split at h <;> cases h <;> rfl
  case h_16 =>
    unfold ofWordF at h
    dsimp only at h
    split at h <;> cases h <;> rfl
  all_goals
    cases h <;> rfl

/-- The words 0NNN that neither clear the screen nor return call for a routine of the host. -/
theorem ofWord_of_fits_system {word : UInt16} (h : fits "0NNN" word = true)
    (hclear : word ≠ 0x00E0) (hret : word ≠ 0x00EE) : ofWord word = system (fieldNNN word) := by
  have hlt := word.toNat_lt
  have hdigit : Text.hexDigit (word.toNat / 4096) = '0' := by simpa [fits, fitsDigits] using h
  have hfirst : word.toNat / 4096 = 0 :=
    Text.hexDigit_injective (by omega) (by decide) hdigit
  simp only [ofWord, hfirst]
  split
  · next hword => exact absurd (UInt16.toNat_inj.1 hword) hclear
  · next hword => exact absurd (UInt16.toNat_inj.1 hword) hret
  · rfl

/-- A digit in a pattern stands for itself. -/
theorem fitsDigits_hexDigit {digit d : Nat} (hdigit : digit < 16) (hd : d < 16)
    (pattern : List Char) (digits : List Nat) :
    fitsDigits (Text.hexDigit digit :: pattern) (d :: digits) = true ↔
      d = digit ∧ fitsDigits pattern digits = true := by
  have hplain : ∀ digit < 16, Text.hexDigit digit ∉ ['X', 'Y', 'N'] := by decide
  have hsame : (Text.hexDigit d == Text.hexDigit digit) = true ↔ d = digit := by
    rw [beq_iff_eq]
    exact ⟨Text.hexDigit_injective hd hdigit, fun h => by rw [h]⟩
  rw [fitsDigits, Bool.and_eq_true, Bool.or_eq_true, decide_eq_true_eq, hsame,
    or_iff_right (hplain digit hdigit)]

/-- A letter in a pattern stands for any digit. -/
theorem fitsDigits_letter {c : Char} (hc : c ∈ ['X', 'Y', 'N']) (d : Nat) (pattern : List Char)
    (digits : List Nat) :
    fitsDigits (c :: pattern) (d :: digits) = fitsDigits pattern digits := by
  rw [fitsDigits, decide_eq_true hc, Bool.true_or, Bool.true_and]

/-- The words FX__ of a pattern share their last two digits. -/
theorem digits_of_fits_wordF {word : UInt16} (third fourth : Nat) (hthird : third < 16)
    (hfourth : fourth < 16)
    (h : fits (String.ofList ['F', 'X', Text.hexDigit third, Text.hexDigit fourth]) word = true) :
    word.toNat / 4096 = 0xF ∧ word.toNat % 256 = third * 16 + fourth := by
  have hlt := word.toNat_lt
  have hF : 'F' = Text.hexDigit 0xF := rfl
  rw [fits, String.toList_ofList, hF, fitsDigits_hexDigit (by omega) (by omega),
    fitsDigits_letter (by decide), fitsDigits_hexDigit hthird (by omega),
    fitsDigits_hexDigit hfourth (by omega)] at h
  omega

theorem ofWord_of_fits_pointGlyph {word : UInt16} (h : fits "FX29" word = true) :
    ofWord word = pointGlyph (fieldX word) := by
  obtain ⟨hfirst, hlast⟩ := digits_of_fits_wordF 2 9 (by decide) (by decide) h
  simp only [ofWord, hfirst, ofWordF, hlast]

theorem ofWord_of_fits_awaitKey {word : UInt16} (h : fits "FX0A" word = true) :
    ofWord word = awaitKey (fieldX word) := by
  obtain ⟨hfirst, hlast⟩ := digits_of_fits_wordF 0 0xA (by decide) (by decide) h
  simp only [ofWord, hfirst, ofWordF, hlast]

theorem ofWord_of_fits_store {word : UInt16} (h : fits "FX55" word = true) :
    ofWord word = store (fieldX word) := by
  obtain ⟨hfirst, hlast⟩ := digits_of_fits_wordF 5 5 (by decide) (by decide) h
  simp only [ofWord, hfirst, ofWordF, hlast]

theorem ofWord_of_fits_fetch {word : UInt16} (h : fits "FX65" word = true) :
    ofWord word = fetch (fieldX word) := by
  obtain ⟨hfirst, hlast⟩ := digits_of_fits_wordF 6 5 (by decide) (by decide) h
  simp only [ofWord, hfirst, ofWordF, hlast]

theorem ofWord_of_fits_combine {word : UInt16} {op : Operation} (h : fits op.pattern word = true) :
    ofWord word = combine op (fieldX word) (fieldY word) := by
  have hlt := word.toNat_lt
  have hcode : op.code < 16 := by cases op <;> decide
  have hpattern : op.pattern.toList = [Text.hexDigit 8, 'X', 'Y', Text.hexDigit op.code] := by
    cases op <;> decide
  rw [fits, hpattern, fitsDigits_hexDigit (by omega) (by omega), fitsDigits_letter (by decide),
    fitsDigits_letter (by decide), fitsDigits_hexDigit hcode (by omega)] at h
  obtain ⟨hfirst, hlast, -⟩ := h
  simp only [ofWord, hfirst, hlast, Operation.ofCode?_code]

theorem ofWord_of_fits_draw {word : UInt16} (h : fits "DXYN" word = true) :
    ofWord word = draw (fieldX word) (fieldY word) (fieldN word) := by
  have hlt := word.toNat_lt
  have hd : Text.hexDigit (word.toNat / 4096) = 'D' := by simpa [fits, fitsDigits] using h
  have hfirst : word.toNat / 4096 = 0xD := Text.hexDigit_injective (by omega) (by decide) hd
  simp only [ofWord, hfirst]

end Instruction

end Chip8
