import Chip8.Instruction

/-!
# Words and instructions

The word of an instruction is the inverse of reading a word: no word is lost when it is read, not
even one that means nothing. So what is asked of an instruction can be asked of its word.

Results:
* `toWord_ofWord`: the instruction of a word has that word.
* `ofWord_setDelay_iff`, `ofWord_setSound_iff`, `ofWord_random_iff`: the words of patterns FX15, FX18
  and CXNN.
* `draws_ofWord`: the words that touch the screen are 00E0 and those of pattern DXYN.
-/

namespace Chip8.Instruction

/-! ## The round trip -/

theorem wordOf_eq {word : UInt16} {first second third fourth : Nat}
    (h : first * 4096 + second * 256 + third * 16 + fourth = word.toNat) :
    wordOf first second third fourth = word := by
  rw [wordOf, h, UInt16.ofNat_toNat]

theorem toNat_fieldNN (word : UInt16) : (fieldNN word).toNat = word.toNat % 256 := by
  simp [fieldNN]

theorem toWord_ofWordF {word : UInt16} (h : word.toNat / 4096 = 0xF) :
    (ofWordF word).toWord = word := by
  unfold ofWordF
  dsimp only
  split
  case h_10 => rfl
  all_goals
    simp only [toWord, fieldX]
    apply wordOf_eq
    omega

/-- Reading a word loses nothing of it. -/
theorem toWord_ofWord (word : UInt16) : (ofWord word).toWord = word := by
  have hlt := word.toNat_lt
  unfold ofWord
  dsimp only
  split
  case h_1 h =>
    split
    · next hword => rw [toWord, ← UInt16.toNat_inj, hword]; rfl
    · next hword => rw [toWord, ← UInt16.toNat_inj, hword]; rfl
    · simp only [toWord, fieldNNN]
      apply wordOf_eq
      omega
  case h_6 h | h_10 h =>
    split
    · simp only [toWord, fieldX, fieldY]
      apply wordOf_eq
      omega
    · rfl
  case h_9 h =>
    split
    · next op hop =>
      have hcode := Operation.code_of_ofCode? hop
      simp only [toWord, fieldX, fieldY, hcode]
      apply wordOf_eq
      omega
    · rfl
  case h_15 h =>
    split
    · simp only [toWord, fieldX]
      apply wordOf_eq
      omega
    · simp only [toWord, fieldX]
      apply wordOf_eq
      omega
    · rfl
  case h_16 h => exact toWord_ofWordF h
  case h_17 => rfl
  all_goals
    simp only [toWord, fieldX, fieldY, fieldN, fieldNNN, toNat_fieldNN]
    apply wordOf_eq
    omega

/-! ## Single patterns -/

/-- The digits of a word can be read off it again. -/
theorem fields_wordOf {first third fourth : Nat} (x : Register) (hfirst : first < 16)
    (hlast : third * 16 + fourth < 256) :
    (wordOf first x.val third fourth).toNat / 4096 = first ∧
    (wordOf first x.val third fourth).toNat % 256 = third * 16 + fourth ∧
    fieldX (wordOf first x.val third fourth) = x := by
  have hx := x.isLt
  have hword : (wordOf first x.val third fourth).toNat =
      first * 4096 + x.val * 256 + (third * 16 + fourth) := by
    rw [wordOf, UInt16.toNat_ofNat']
    omega
  refine ⟨by omega, by omega, Fin.ext ?_⟩
  simp only [fieldX, hword]
  omega

theorem ofWord_call {word : UInt16} (h : word.toNat / 4096 = 2) :
    ofWord word = call (fieldNNN word) := by
  simp only [ofWord, h]

theorem ofWord_ret : ofWord 0x00EE = ret := by decide

theorem ofWord_setDelay_iff {word : UInt16} {x : Register} :
    ofWord word = setDelay x ↔
      word.toNat / 4096 = 0xF ∧ word.toNat % 256 = 0x15 ∧ fieldX word = x := by
  constructor
  · intro h
    rw [← toWord_ofWord word, h]
    exact fields_wordOf x (by omega) (by omega)
  · rintro ⟨hfirst, hlast, rfl⟩
    simp only [ofWord, hfirst, ofWordF, hlast]

theorem ofWord_setSound_iff {word : UInt16} {x : Register} :
    ofWord word = setSound x ↔
      word.toNat / 4096 = 0xF ∧ word.toNat % 256 = 0x18 ∧ fieldX word = x := by
  constructor
  · intro h
    rw [← toWord_ofWord word, h]
    exact fields_wordOf x (by omega) (by omega)
  · rintro ⟨hfirst, hlast, rfl⟩
    simp only [ofWord, hfirst, ofWordF, hlast]

theorem ofWord_random_iff {word : UInt16} {x : Register} {nn : UInt8} :
    ofWord word = random x nn ↔
      word.toNat / 4096 = 0xC ∧ fieldX word = x ∧ fieldNN word = nn := by
  constructor
  · intro h
    have hnn := nn.toNat_lt
    obtain ⟨hfirst, hlast, hx⟩ :=
      fields_wordOf x (show 0xC < 16 by omega) (show 0 * 16 + nn.toNat < 256 by omega)
    rw [← toWord_ofWord word, h]
    refine ⟨hfirst, hx, UInt8.toNat_inj.1 ?_⟩
    rw [toNat_fieldNN, toWord, hlast, Nat.zero_mul, Nat.zero_add]
  · rintro ⟨hfirst, rfl, rfl⟩
    simp only [ofWord, hfirst]

/-- Whether an instruction touches the screen. -/
def draws : Instruction → Bool
  | clear | draw _ _ _ => true
  | _ => false

/-- The words that touch the screen. -/
theorem draws_ofWord (word : UInt16) :
    (ofWord word).draws = true ↔ word = 0x00E0 ∨ word.toNat / 4096 = 0xD := by
  constructor
  · intro h
    have hword := toWord_ofWord word
    cases hi : ofWord word with
    | clear =>
      rw [hi] at hword
      exact .inl hword.symm
    | draw x y n =>
      rw [hi] at hword
      right
      have hx := x.isLt
      have hy := y.isLt
      have hn := n.isLt
      rw [← hword]
      simp only [toWord, wordOf, UInt16.toNat_ofNat']
      omega
    | _ =>
      rw [hi] at h
      cases h
  · rintro (rfl | h)
    · rfl
    · simp only [ofWord, h, draws]

end Chip8.Instruction
