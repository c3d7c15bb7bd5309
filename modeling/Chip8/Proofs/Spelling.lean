import Chip8.Proofs.Encoding
import Chip8.Proofs.HexValue
import Chip8.Proofs.ListingText

/-!
# Mnemonics read back

A mnemonic is a verb and its operands. Many instructions share a verb, and an operand may be a
register, a name or a number, but the two together tell the instruction: a register begins with V, a
number in base 16 says by its width whether it is a byte, an address or a whole word, and a count is
written in base 10. So instructions are read back from their mnemonics, words from their
instructions and the bytes of an image from its words.

Results:
* `ofText?_text`: an operand is read back from its text.
* `ofSpelling?_spelling`: an instruction is read back from its verb and operands.
* `ofMnemonic?_mnemonic`: an instruction is read back from its mnemonic.
* `bytesOf_wordsOf`: an image is read back from its words, up to a zero that makes its length even.
* `mnemonics_lose_nothing`: an image is determined by the mnemonics of its words.
-/

namespace Chip8

/-- What is read back from every entry of a list is read back from the list. -/
theorem mapM_map_of_eq_some {α β γ : Type} {write : α → β} {read? : β → Option γ} {meaning : α → γ}
    (h : ∀ a, read? (write a) = some (meaning a)) (l : List α) :
    (l.map write).mapM read? = some (l.map meaning) := by
  rw [List.mapM_map, show read? ∘ write = fun a => pure (meaning a) from funext h]
  exact List.mapM_pure

/-! ## Verbs -/

/-- What the mnemonic of an instruction begins with. -/
inductive Verb
  | cls | ret | sys | jp | call | se | sne | ld | add | or | and | xor | sub | subn | shr | shl
  | rnd | drw | skp | sknp | dw
deriving DecidableEq

namespace Verb

def text : Verb → String
  | cls => "CLS"
  | ret => "RET"
  | sys => "SYS"
  | jp => "JP"
  | call => "CALL"
  | se => "SE"
  | sne => "SNE"
  | ld => "LD"
  | add => "ADD"
  | or => "OR"
  | and => "AND"
  | xor => "XOR"
  | sub => "SUB"
  | subn => "SUBN"
  | shr => "SHR"
  | shl => "SHL"
  | rnd => "RND"
  | drw => "DRW"
  | skp => "SKP"
  | sknp => "SKNP"
  | dw => "DW"

def all : List Verb :=
  [cls, ret, sys, jp, call, se, sne, ld, add, or, and, xor, sub, subn, shr, shl, rnd, drw, skp,
    sknp, dw]

/-- The verb with the given characters. -/
def ofText? (chars : List Char) : Option Verb := all.find? fun v => v.text.toList == chars

theorem ofText?_text (v : Verb) : ofText? v.text.toList = some v := by
  cases v <;> decide

end Verb

/-! ## Operands -/

/-- What the operands of a mnemonic are. -/
inductive Operand
  | register (x : Register)
  | address (t : Target)
  | byte (nn : UInt8)
  | word (w : UInt16)
  /-- The number of rows of a drawing. -/
  | count (n : Fin 16)
  | index
  /-- The bytes from the index register on. -/
  | memory
  | delay
  | sound
  | key
  /-- The picture of a digit. -/
  | glyph
  /-- The decimal digits of a value. -/
  | decimal
deriving DecidableEq

namespace Operand

def text : Operand → String
  | register x => x.name
  | address t => t.text
  | byte nn => byteText nn
  | word w => "0x" ++ Text.hex 4 w.toNat
  | count n => toString n.val
  | index => "I"
  | memory => "[I]"
  | delay => "DT"
  | sound => "ST"
  | key => "K"
  | glyph => "F"
  | decimal => "B"

/-- The operands that are not written in base 16. -/
def plain : List Operand :=
  (List.finRange 16).map register ++ (List.finRange 16).map count ++
    [index, memory, delay, sound, key, glyph, decimal]

/-- A number in base 16 by the width that it is written with. -/
def ofDigits? (digits : List Char) : Option Operand :=
  match digits.length with
  | 2 => some (byte (UInt8.ofNat (Text.hexValue digits)))
  | 3 => some (address (Fin.ofNat 4096 (Text.hexValue digits)))
  | 4 => some (word (UInt16.ofNat (Text.hexValue digits)))
  | _ => none

/-- The operand with the given characters. -/
def ofText? : List Char → Option Operand
  | '0' :: 'x' :: digits => ofDigits? digits
  | chars => plain.find? fun o => o.text.toList == chars

theorem ofText?_hex {width n : Nat} (hpos : 0 < width) (h : n < Nat.pow 16 width) :
    ofText? ("0x" ++ Text.hex width n).toList = ofDigits? (Text.hexFixed width n) := by
  rw [Text.hex_of_lt hpos h]
  simp only [String.toList_append, String.toList_ofList]
  rfl

theorem ofText?_of_mem_plain : ∀ o ∈ plain, ofText? o.text.toList = some o := by decide +kernel

theorem register_mem_plain (x : Register) : register x ∈ plain := by
  revert x
  decide

theorem count_mem_plain (n : Fin 16) : count n ∈ plain := by
  revert n
  decide

/-- An operand is read back from its text. -/
theorem ofText?_text (o : Operand) : ofText? o.text.toList = some o := by
  cases o with
  | register x => exact ofText?_of_mem_plain _ (register_mem_plain x)
  | count n => exact ofText?_of_mem_plain _ (count_mem_plain n)
  | address t =>
    have hvalue : Text.hexValue (Text.hexFixed 3 t.val) = t.val := Text.hexValue_hexFixed t.isLt
    rw [text, Target.text, ofText?_hex (by decide) t.isLt]
    simp [ofDigits?, hvalue]
  | byte nn =>
    have hvalue : Text.hexValue (Text.hexFixed 2 nn.toNat) = nn.toNat :=
      Text.hexValue_hexFixed nn.toNat_lt
    rw [text, byteText, ofText?_hex (by decide) nn.toNat_lt]
    simp [ofDigits?, hvalue]
  | word w =>
    have hvalue : Text.hexValue (Text.hexFixed 4 w.toNat) = w.toNat :=
      Text.hexValue_hexFixed w.toNat_lt
    rw [text, ofText?_hex (by decide) w.toNat_lt]
    simp [ofDigits?, hvalue]
  | index | memory | delay | sound | key | glyph | decimal =>
    exact ofText?_of_mem_plain _ (by decide)

/-- No operand has a character that would part it from others. -/
theorem not_mem_text (o : Operand) : ' ' ∉ o.text.toList ∧ ',' ∉ o.text.toList := by
  have hplain : ∀ o ∈ plain, ' ' ∉ o.text.toList ∧ ',' ∉ o.text.toList := by decide +kernel
  have hhex (width n : Nat) : ' ' ∉ (Text.hex width n).toList ∧
      ',' ∉ (Text.hex width n).toList := by
    rw [Text.hex, String.toList_ofList]
    exact ⟨Text.not_mem_hexFixed (by decide) _ _, Text.not_mem_hexFixed (by decide) _ _⟩
  cases o with
  | register x => exact hplain _ (register_mem_plain x)
  | count n => exact hplain _ (count_mem_plain n)
  | address t => simp [text, Target.text, hhex]
  | byte nn => simp [text, byteText, hhex]
  | word w => simp [text, hhex]
  | index | memory | delay | sound | key | glyph | decimal => exact hplain _ (by decide)

end Operand

/-! ## Instructions -/

namespace Instruction

/-- The verb and the operands of an instruction. -/
def spelling : Instruction → Verb × List Operand
  | clear => (.cls, [])
  | ret => (.ret, [])
  | system t => (.sys, [.address t])
  | jump t => (.jp, [.address t])
  | call t => (.call, [.address t])
  | skipIf (.isByte x nn) => (.se, [.register x, .byte nn])
  | skipIf (.isNotByte x nn) => (.sne, [.register x, .byte nn])
  | skipIf (.same x y) => (.se, [.register x, .register y])
  | skipIf (.differ x y) => (.sne, [.register x, .register y])
  | skipIf (.pressed x) => (.skp, [.register x])
  | skipIf (.released x) => (.sknp, [.register x])
  | setByte x nn => (.ld, [.register x, .byte nn])
  | addByte x nn => (.add, [.register x, .byte nn])
  | combine .copy x y => (.ld, [.register x, .register y])
  | combine .or x y => (.or, [.register x, .register y])
  | combine .and x y => (.and, [.register x, .register y])
  | combine .xor x y => (.xor, [.register x, .register y])
  | combine .add x y => (.add, [.register x, .register y])
  | combine .subtract x y => (.sub, [.register x, .register y])
  | combine .halve x y => (.shr, [.register x, .register y])
  | combine .subtractFrom x y => (.subn, [.register x, .register y])
  | combine .double x y => (.shl, [.register x, .register y])
  | setIndex t => (.ld, [.index, .address t])
  | jumpPlus t => (.jp, [.register .first, .address t])
  | random x nn => (.rnd, [.register x, .byte nn])
  | draw x y n => (.drw, [.register x, .register y, .count n])
  | readDelay x => (.ld, [.register x, .delay])
  | awaitKey x => (.ld, [.register x, .key])
  | setDelay x => (.ld, [.delay, .register x])
  | setSound x => (.ld, [.sound, .register x])
  | addIndex x => (.add, [.index, .register x])
  | pointGlyph x => (.ld, [.glyph, .register x])
  | storeDecimal x => (.ld, [.decimal, .register x])
  | store x => (.ld, [.memory, .register x])
  | fetch x => (.ld, [.register x, .memory])
  | undefined w => (.dw, [.word w])

/-- The instruction with the given verb and operands. -/
def ofSpelling? : Verb → List Operand → Option Instruction
  | .cls, [] => some clear
  | .ret, [] => some ret
  | .sys, [.address t] => some (system t)
  | .jp, [.address t] => some (jump t)
  | .jp, [.register _, .address t] => some (jumpPlus t)
  | .call, [.address t] => some (call t)
  | .se, [.register x, .byte nn] => some (skipIf (.isByte x nn))
  | .se, [.register x, .register y] => some (skipIf (.same x y))
  | .sne, [.register x, .byte nn] => some (skipIf (.isNotByte x nn))
  | .sne, [.register x, .register y] => some (skipIf (.differ x y))
  | .skp, [.register x] => some (skipIf (.pressed x))
  | .sknp, [.register x] => some (skipIf (.released x))
  | .ld, [.register x, .byte nn] => some (setByte x nn)
  | .ld, [.register x, .register y] => some (combine .copy x y)
  | .ld, [.register x, .delay] => some (readDelay x)
  | .ld, [.register x, .key] => some (awaitKey x)
  | .ld, [.register x, .memory] => some (fetch x)
  | .ld, [.index, .address t] => some (setIndex t)
  | .ld, [.delay, .register x] => some (setDelay x)
  | .ld, [.sound, .register x] => some (setSound x)
  | .ld, [.glyph, .register x] => some (pointGlyph x)
  | .ld, [.decimal, .register x] => some (storeDecimal x)
  | .ld, [.memory, .register x] => some (store x)
  | .add, [.register x, .byte nn] => some (addByte x nn)
  | .add, [.register x, .register y] => some (combine .add x y)
  | .add, [.index, .register x] => some (addIndex x)
  | .or, [.register x, .register y] => some (combine .or x y)
  | .and, [.register x, .register y] => some (combine .and x y)
  | .xor, [.register x, .register y] => some (combine .xor x y)
  | .sub, [.register x, .register y] => some (combine .subtract x y)
  | .subn, [.register x, .register y] => some (combine .subtractFrom x y)
  | .shr, [.register x, .register y] => some (combine .halve x y)
  | .shl, [.register x, .register y] => some (combine .double x y)
  | .rnd, [.register x, .byte nn] => some (random x nn)
  | .drw, [.register x, .register y, .count n] => some (draw x y n)
  | .dw, [.word w] => some (undefined w)
  | _, _ => none

/-- An instruction is read back from its verb and operands. -/
theorem ofSpelling?_spelling (i : Instruction) :
    ofSpelling? i.spelling.1 i.spelling.2 = some i := by
  cases i with
  | skipIf condition => cases condition <;> rfl
  | combine op x y => cases op <;> rfl
  | _ => rfl

/-- The texts of the verb and the operands. -/
def tokens (i : Instruction) : List (List Char) :=
  i.spelling.1.text.toList :: i.spelling.2.map fun o => o.text.toList

theorem not_mem_tokens (i : Instruction) : ∀ token ∈ i.tokens, ' ' ∉ token := by
  intro token h
  rcases List.mem_cons.1 h with rfl | hoperand
  · generalize i.spelling.1 = v
    cases v <;> decide
  · obtain ⟨o, -, rfl⟩ := List.mem_map.1 hoperand
    exact (Operand.not_mem_text o).1

/-- The characters of a text without its commas. -/
def bare (s : String) : List Char := s.toList.filter (· ≠ ',')

theorem bare_append (s t : String) : bare (s ++ t) = bare s ++ bare t := by
  simp [bare]

theorem bare_text (o : Operand) : bare o.text = o.text.toList := by
  refine List.filter_eq_self.2 fun c hc => ?_
  have hne : c ≠ ',' := fun he => (Operand.not_mem_text o).2 (he ▸ hc)
  simpa using hne

/-- Without its commas, a mnemonic is its verb and operands with spaces between them. -/
theorem bare_mnemonic (i : Instruction) : bare i.mnemonic = [' '].intercalate i.tokens := by
  have hname (x : Register) : bare x.name = x.name.toList := bare_text (.register x)
  have haddress (t : Target) : bare t.text = t.text.toList := bare_text (.address t)
  have hbyte (nn : UInt8) : bare (byteText nn) = (byteText nn).toList := bare_text (.byte nn)
  have hcount (n : Fin 16) : bare (toString n.val) = (toString n.val).toList :=
    bare_text (.count n)
  cases i with
  | skipIf condition =>
    cases condition <;>
    · simp only [mnemonic, Condition.mnemonic, bare_append, hname, hbyte]
      simp [bare, tokens, spelling, Operand.text, Verb.text]
  | combine op x y =>
    cases op <;>
    · simp only [mnemonic, Operation.mnemonic, bare_append, hname]
      simp [bare, tokens, spelling, Operand.text, Verb.text]
  | jumpPlus t =>
    have hzero : Register.first.name.toList = ['V', '0'] := by decide
    simp only [mnemonic, bare_append, haddress]
    simp [bare, tokens, spelling, Operand.text, Verb.text, hzero]
  | undefined w =>
    have hword : bare ("0x" ++ Text.hex 4 w.toNat) = ("0x" ++ Text.hex 4 w.toNat).toList :=
      bare_text (.word w)
    have hprefix : "DW 0x" = "DW " ++ "0x" := by decide
    rw [mnemonic, hprefix, String.append_assoc, bare_append, hword]
    simp [bare, tokens, spelling, Operand.text, Verb.text]
  | _ =>
    simp only [mnemonic, bare_append, hname, haddress, hbyte, hcount]
    simp [bare, tokens, spelling, Operand.text, Verb.text]

/-- The instruction with the given mnemonic. -/
def ofMnemonic? (s : String) : Option Instruction :=
  match (bare s).splitOn ' ' with
  | verb :: operands => do
    let verb ← Verb.ofText? verb
    let operands ← operands.mapM Operand.ofText?
    ofSpelling? verb operands
  | [] => none

/-- An instruction is read back from its mnemonic. -/
theorem ofMnemonic?_mnemonic (i : Instruction) : ofMnemonic? i.mnemonic = some i := by
  have hsplit : (bare i.mnemonic).splitOn ' ' = i.tokens := by
    rw [bare_mnemonic]
    exact List.splitOn_intercalate ' ' i.not_mem_tokens (List.cons_ne_nil _ _)
  have hoperands (operands : List Operand) :
      (operands.map fun o => o.text.toList).mapM Operand.ofText? = some operands := by
    rw [mapM_map_of_eq_some Operand.ofText?_text, List.map_id']
  simp only [ofMnemonic?, hsplit, tokens, Verb.ofText?_text, hoperands, Option.bind_eq_bind,
    Option.bind_some, ofSpelling?_spelling]

/-- No two words share a mnemonic. -/
theorem mnemonic_ofWord_injective {w w' : UInt16}
    (h : (ofWord w).mnemonic = (ofWord w').mnemonic) : w = w' := by
  have hread := congrArg ofMnemonic? h
  rw [ofMnemonic?_mnemonic, ofMnemonic?_mnemonic] at hread
  rw [← toWord_ofWord w, ← toWord_ofWord w', Option.some.inj hread]

end Instruction

/-! ## Images -/

/-- The words of an image, an odd byte at the end making one with a zero. -/
def wordsOf (image : List UInt8) : List UInt16 :=
  (List.range ((image.length + 1) / 2)).map (imageWord image)

/-- The bytes of words, the high one of each word first. -/
def bytesOf (words : List UInt16) : List UInt8 :=
  words.flatMap fun w => [UInt8.ofNat (w.toNat / 256), UInt8.ofNat (w.toNat % 256)]

/-- The image with a zero at the end if its length is odd. -/
def padded (image : List UInt8) : List UInt8 := image ++ List.replicate (image.length % 2) 0

/-- The mnemonics of the words of an image. -/
def mnemonicsOf (image : List UInt8) : List String :=
  (wordsOf image).map fun w => (Instruction.ofWord w).mnemonic

/-- The words that some mnemonics stand for. -/
def ofMnemonics? (mnemonics : List String) : Option (List UInt16) :=
  (mnemonics.mapM Instruction.ofMnemonic?).map fun is => is.map Instruction.toWord

theorem wordsOf_cons_cons (b c : UInt8) (rest : List UInt8) :
    wordsOf (b :: c :: rest) = UInt16.ofNat (256 * b.toNat + c.toNat) :: wordsOf rest := by
  have hcount : ((b :: c :: rest).length + 1) / 2 = (rest.length + 1) / 2 + 1 := by
    simp only [List.length_cons]
    omega
  have hnext (k : Nat) : imageWord (b :: c :: rest) (k + 1) = imageWord rest k := rfl
  rw [wordsOf, hcount, List.range_succ_eq_map, List.map_cons, List.map_map]
  simp only [Function.comp_def, hnext]
  rfl

theorem bytesOf_cons (b c : UInt8) (words : List UInt16) :
    bytesOf (UInt16.ofNat (256 * b.toNat + c.toNat) :: words) = b :: c :: bytesOf words := by
  have hb := b.toNat_lt
  have hc := c.toNat_lt
  have hword : (UInt16.ofNat (256 * b.toNat + c.toNat)).toNat = 256 * b.toNat + c.toNat := by
    rw [UInt16.toNat_ofNat']
    omega
  have hhigh : UInt8.ofNat ((256 * b.toNat + c.toNat) / 256) = b := by
    rw [show (256 * b.toNat + c.toNat) / 256 = b.toNat by omega, UInt8.ofNat_toNat]
  have hlow : UInt8.ofNat ((256 * b.toNat + c.toNat) % 256) = c := by
    rw [show (256 * b.toNat + c.toNat) % 256 = c.toNat by omega, UInt8.ofNat_toNat]
  simp only [bytesOf, List.flatMap_cons, hword, hhigh, hlow, List.cons_append, List.nil_append]

/-- An image is read back from its words. -/
theorem bytesOf_wordsOf : ∀ image : List UInt8, bytesOf (wordsOf image) = padded image
  | [] => rfl
  | [b] => by
    have hword : wordsOf [b] = [UInt16.ofNat (256 * b.toNat + (0 : UInt8).toNat)] := by
      simp [wordsOf, imageWord]
    rw [hword, bytesOf_cons]
    rfl
  | b :: c :: rest => by
    have hlength : (b :: c :: rest).length % 2 = rest.length % 2 := by
      simp only [List.length_cons]
      omega
    rw [wordsOf_cons_cons, bytesOf_cons, bytesOf_wordsOf rest, padded, padded, hlength,
      List.cons_append, List.cons_append]

/-- Words are read back from their mnemonics. -/
theorem ofMnemonics?_mnemonics (words : List UInt16) :
    ofMnemonics? (words.map fun w => (Instruction.ofWord w).mnemonic) = some words := by
  have hwords : (words.map Instruction.ofWord).map Instruction.toWord = words := by
    simp only [List.map_map, Function.comp_def, Instruction.toWord_ofWord, List.map_id']
  rw [ofMnemonics?, mapM_map_of_eq_some fun w => Instruction.ofMnemonic?_mnemonic (.ofWord w),
    Option.map_some, hwords]

/-- The mnemonics tell the words: reading them back gives the words that they were made from, so no
two words share one. And images of any lengths whose words have the same mnemonics have the same
bytes, once a zero is put after an odd one. -/
theorem mnemonics_lose_nothing :
    (∀ words : List UInt16,
      ofMnemonics? (words.map fun w => (Instruction.ofWord w).mnemonic) = some words) ∧
    (∀ w w' : UInt16,
      (Instruction.ofWord w).mnemonic = (Instruction.ofWord w').mnemonic → w = w') ∧
    (∀ image image' : List UInt8,
      mnemonicsOf image = mnemonicsOf image' → padded image = padded image') := by
  refine ⟨ofMnemonics?_mnemonics, fun w w' h => Instruction.mnemonic_ofWord_injective h, ?_⟩
  intro image image' h
  have hread := congrArg ofMnemonics? h
  rw [mnemonicsOf, mnemonicsOf, ofMnemonics?_mnemonics, ofMnemonics?_mnemonics] at hread
  rw [← bytesOf_wordsOf, ← bytesOf_wordsOf, Option.some.inj hread]

/-- Three bytes and the four that they are padded to. Both of their words load VA. -/
theorem mnemonics_lose_nothing_odd :
    let image : List UInt8 := [0x6A, 0x02, 0x8A]
    let image' : List UInt8 := [0x6A, 0x02, 0x8A, 0x00]
    mnemonicsOf image = ["LD VA, 0x02", "LD VA, V0"] ∧ mnemonicsOf image' = mnemonicsOf image ∧
    padded image' = padded image ∧
    ofMnemonics? ["LD VA, 0x02", "LD VA, V0"] = some [0x6A02, 0x8A00] := by
  intro image image'
  obtain ⟨hread, -, himages⟩ := mnemonics_lose_nothing
  have htexts : [0x6A02, 0x8A00].map (fun w => (Instruction.ofWord w).mnemonic) =
        ["LD VA, 0x02", "LD VA, V0"] ∧
      mnemonicsOf image = ["LD VA, 0x02", "LD VA, V0"] ∧
      mnemonicsOf image' = mnemonicsOf image := by
    decide +kernel
  obtain ⟨hwords, htexts, hsame⟩ := htexts
  refine ⟨htexts, hsame, himages image' image hsame, ?_⟩
  rw [← hwords]
  exact hread [0x6A02, 0x8A00]

end Chip8
