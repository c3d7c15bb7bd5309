import Chip8.CommandLine.Run
import Chip8.Machine.Cycle
import Chip8.Proofs.Flags
import Chip8.Proofs.HexValue
import Chip8.Text.Lines
import Chip8.Text.Rounded

/-!
# The text of a listing

What is printed for an image when its listing is asked for: a line for every two bytes that fit into
memory, made from these bytes alone. Memory above the image is still zero, so an odd byte at the end
makes a word with a zero, and no option but the flag itself has a say.

Results:
* `lines_unlines`: a text printed line by line is read line by line.
* `isOneLine_mnemonic`: no mnemonic breaks its line.
* `listing_load`: the listing of a machine that has just been loaded, by the bytes of the image.
* `nextWord_load_at`: the words that the program counter finds there are the same.
* `listing_shows_image`: what a command line with the flag prints.
-/

namespace Chip8

/-! ## Texts of several lines -/

namespace Text

/-- The text has no line feed, and no carriage return that a line would lose at its end. -/
def IsOneLine (s : String) : Prop := '\n' ∉ s.toList ∧ '\r' ∉ s.toList

instance (s : String) : Decidable (IsOneLine s) := inferInstanceAs (Decidable (_ ∧ _))

@[simp] theorem isOneLine_append (s t : String) :
    IsOneLine (s ++ t) ↔ IsOneLine s ∧ IsOneLine t := by
  simp only [IsOneLine, String.toList_append, List.mem_append, not_or]
  exact and_and_and_comm

theorem dropReturn_of_not_mem {line : List Char} (h : '\r' ∉ line) : dropReturn line = line :=
  if_neg fun hlast => h (List.mem_of_getLast? hlast)

theorem linesFrom_append {line : List Char} (hn : '\n' ∉ line) (current rest : List Char) :
    linesFrom current (line ++ '\n' :: rest) =
      dropReturn (current.reverse ++ line) :: linesFrom [] rest := by
  induction line generalizing current with
  | nil => simp [linesFrom]
  | cons c line ih =>
    have hc : c ≠ '\n' := fun he => hn (by simp [he])
    have hline : '\n' ∉ line := fun hmem => hn (List.mem_cons_of_mem c hmem)
    simp [linesFrom, hc, ih hline]

theorem lines_unlines {ls : List String} (h : ∀ s ∈ ls, IsOneLine s) :
    lines (CommandLine.unlines ls).toList = ls.map String.toList := by
  have htext : (CommandLine.unlines ls).toList = ls.flatMap fun s => s.toList ++ ['\n'] := by
    simp [CommandLine.unlines, String.toList_join, List.flatMap_map]
  rw [htext, lines]
  clear htext
  induction ls with
  | nil => rfl
  | cons s rest ih =>
    obtain ⟨hn, hr⟩ := h s List.mem_cons_self
    have hrest : ∀ t ∈ rest, IsOneLine t := fun t ht => h t (List.mem_cons_of_mem s ht)
    rw [List.flatMap_cons, List.append_assoc, List.singleton_append, linesFrom_append hn,
      ih hrest, List.reverse_nil, List.nil_append, dropReturn_of_not_mem hr]
    rfl

end Text

/-! ## Mnemonics -/

section OneLine

open Text (IsOneLine isOneLine_append)

theorem isOneLine_hex (width n : Nat) : IsOneLine (Text.hex width n) := by
  have hdigit : ∀ d : Fin 16, Text.hexDigit d ≠ '\n' ∧ Text.hexDigit d ≠ '\r' := by decide
  simp only [IsOneLine, Text.hex, String.toList_ofList]
  exact ⟨Text.not_mem_hexFixed (fun d => (hdigit d).1) _ _,
    Text.not_mem_hexFixed (fun d => (hdigit d).2) _ _⟩

theorem isOneLine_decimal (n : Nat) : IsOneLine n.repr :=
  ⟨fun h => absurd (Text.isDigit_of_mem_repr h) (by decide),
    fun h => absurd (Text.isDigit_of_mem_repr h) (by decide)⟩

theorem isOneLine_name (x : Register) : IsOneLine x.name := by
  revert x
  decide +kernel

theorem isOneLine_mnemonic (i : Instruction) : IsOneLine i.mnemonic := by
  cases i with
  | clear | ret => decide
  | skipIf condition =>
    cases condition <;>
    · simp only [Instruction.mnemonic, Condition.mnemonic, byteText, isOneLine_append,
        isOneLine_name, isOneLine_hex, and_true]
      decide
  | combine op x y =>
    cases op <;>
    · simp only [Instruction.mnemonic, Operation.mnemonic, isOneLine_append, isOneLine_name,
        and_true]
      decide
  | _ =>
    simp only [Instruction.mnemonic, Target.text, byteText, isOneLine_append, isOneLine_name,
      isOneLine_hex, Nat.toString_eq_repr, isOneLine_decimal, and_true]
    decide

end OneLine

/-! ## The words of an image -/

/-- Word `k` of an image, the high byte first. Bytes that are not there count as zero. -/
def imageWord (image : List UInt8) (k : Nat) : UInt16 :=
  UInt16.ofNat (256 * (image.getD (2 * k) 0).toNat + (image.getD (2 * k + 1) 0).toNat)

/-- What a listing shows for word `k` of an image: its address, its digits and its mnemonic. -/
def imageLine (image : List UInt8) (k : Nat) : String :=
  Text.hex 3 (0x200 + 2 * k) ++ ": " ++ Text.hex 4 (imageWord image k).toNat ++ "  " ++
    (Instruction.ofWord (imageWord image k)).mnemonic

/-- The number of words of an image that have room in memory, an odd byte being one of its own. -/
def imageWords (image : List UInt8) : Nat := (min image.length 3584 + 1) / 2

theorem isOneLine_imageLine (image : List UInt8) (k : Nat) :
    Text.IsOneLine (imageLine image k) := by
  simp only [imageLine, Text.isOneLine_append, isOneLine_hex, isOneLine_mnemonic, and_true,
    true_and]
  decide

theorem imageWords_take (image : List UInt8) : imageWords (image.take 3584) = imageWords image := by
  rw [imageWords, List.length_take, imageWords]
  omega

theorem imageWord_take (image : List UInt8) {k : Nat} (h : k < 1792) :
    imageWord (image.take 3584) k = imageWord image k := by
  have hbyte {i : Nat} (hi : i < 3584) : (image.take 3584).getD i 0 = image.getD i 0 := by
    simp [List.getD_eq_getElem?_getD, List.getElem?_take_of_lt hi]
  rw [imageWord, hbyte (by omega), hbyte (by omega), imageWord]

theorem lt_of_lt_imageWords {image : List UInt8} {k : Nat} (h : k < imageWords image) :
    k < 1792 := by
  unfold imageWords at h
  omega

theorem imageLines_congr {image image' : List UInt8}
    (h : image'.take 3584 = image.take 3584) :
    (List.range (imageWords image')).map (imageLine image') =
      (List.range (imageWords image)).map (imageLine image) := by
  rw [← imageWords_take image', h, imageWords_take]
  refine List.map_congr_left fun k hk => ?_
  have hk : k < 1792 := lt_of_lt_imageWords (List.mem_range.1 hk)
  rw [imageLine, ← imageWord_take image' hk, h, imageWord_take image hk, imageLine]

/-! ## The loaded machine -/

/-- Of memory that has just been loaded with an image, everything from the program start on is the
image or zero. -/
theorem byteAt_load_initial (image : List UInt8) {i : Nat} (h : i < 3584) :
    (Memory.initial.load image).byteAt (0x200 + i) = image.getD i 0 := by
  have hroom : Memory.programStart ≤ 0x200 + i ∧
      0x200 + i < Memory.programStart + Memory.capacityFor image.length ↔ i < image.length := by
    simp only [Memory.programStart, Memory.capacityFor, Memory.size]
    omega
  rw [Memory.byteAt_load, Memory.byteAt_initial]
  by_cases hi : i < image.length
  · rw [if_pos (hroom.2 hi), Memory.programStart, Nat.add_sub_cancel_left]
  · rw [if_neg (mt hroom.1 hi), if_neg (by omega), List.getD_eq_getElem?_getD,
      List.getElem?_eq_none (by omega), Option.getD_none]

theorem readWord_load_initial (image : List UInt8) {k : Nat} (h : k < 1792) :
    (Memory.initial.load image).readWord (UInt64.ofNat (0x200 + 2 * k)) = imageWord image k := by
  have hhigh : (UInt64.ofNat (0x200 + 2 * k)).toNat = 0x200 + 2 * k := by
    rw [UInt64.toNat_ofNat']
    omega
  have hlow : (UInt64.ofNat (0x200 + 2 * k) + 1).toNat = 0x200 + (2 * k + 1) := by
    rw [UInt64.toNat_add, hhigh, Nat.mod_eq_of_lt (by rw [UInt64.toNat_one]; omega)]
    rfl
  rw [← UInt16.toNat_inj, Memory.toNat_readWord, Memory.read_eq_byteAt, Memory.read_eq_byteAt,
    hhigh, hlow, byteAt_load_initial image (by omega), byteAt_load_initial image (by omega),
    imageWord, UInt16.toNat_ofNat']
  have hb := (image.getD (2 * k) 0).toNat_lt
  have hb' := (image.getD (2 * k + 1) 0).toNat_lt
  omega

theorem listing_load (setup : Setup) (image : List UInt8) :
    ((Machine.powerOn setup).load image).listing (Memory.capacityFor image.length) =
      (List.range (imageWords image)).map (imageLine image) := by
  refine List.map_congr_left fun k hk => ?_
  have hk : k < 1792 := lt_of_lt_imageWords (List.mem_range.1 hk)
  have hword : ((Machine.powerOn setup).load image).memory.readWord
      (UInt64.ofNat (Memory.programStart + 2 * k)) = imageWord image k :=
    readWord_load_initial image hk
  rw [Machine.listingLine, hword]
  rfl

/-- The program counter finds the words that a listing shows. -/
theorem nextWord_load_at (setup : Setup) (image : List UInt8) {k : Nat} (h : k < 1792) :
    Machine.nextWord
      { (Machine.powerOn setup).load image with pc := UInt16.ofNat (0x200 + 2 * k) } =
        imageWord image k := by
  have haddress : (UInt16.ofNat (0x200 + 2 * k)).toUInt64 = UInt64.ofNat (0x200 + 2 * k) := by
    rw [← UInt64.toNat_inj, UInt16.toNat_toUInt64, UInt16.toNat_ofNat', UInt64.toNat_ofNat']
    omega
  show (Memory.initial.load image).readWord (UInt16.ofNat (0x200 + 2 * k)).toUInt64 = _
  rw [haddress, readWord_load_initial image h]

/-! ## What is printed -/

namespace CommandLine

/-- A command line that the flag for it makes a request for a listing prints a line for every two
bytes of the image that have room in memory: the address, the word there, and what it means. The
machine that is loaded with the image comes to the same words. Nothing else enters the listing: not
the bytes that have no room, and no other option. -/
theorem listing_shows_image {words : List String} {o : Options}
    (hparse : parse words = .ok (.run o)) (hflag : "--disassemble" ∈ beforeTerminator words)
    (fileAt : String → ProgramFile) {image : List UInt8}
    (hfile : fileAt o.program = .contents image) :
    let shown := (List.range (imageWords image)).map (imageLine image)
    (∃ ending, run words fileAt = .finished ending ∧
      ending.output = { code := 0, stdout := unlines shown, stderr := "" } ∧
      Text.lines ending.output.stdout.toList = shown.map String.toList) ∧
    (∀ k < imageWords image,
      let m := { (Machine.powerOn o.setup).load image with pc := UInt16.ofNat (0x200 + 2 * k) }
      m.nextWord = imageWord image k ∧
        m.nextInstruction = Instruction.ofWord (imageWord image k)) ∧
    ∀ (words' : List String) (o' : Options) (fileAt' : String → ProgramFile)
      (image' : List UInt8), parse words' = .ok (.run o') →
      "--disassemble" ∈ beforeTerminator words' → fileAt' o'.program = .contents image' →
      image'.take 3584 = image.take 3584 → run words' fileAt' = run words fileAt := by
  intro shown
  have hrun {words : List String} {o : Options} (hparse : parse words = .ok (.run o))
      (hflag : "--disassemble" ∈ beforeTerminator words) (fileAt : String → ProgramFile)
      {image : List UInt8} (hfile : fileAt o.program = .contents image) :
      run words fileAt = .finished (.printed
        (unlines ((List.range (imageWords image)).map (imageLine image)))) := by
    have hset : o.disassemble = true := (flag_iff_of_parse hparse .disassemble).2 hflag
    rw [run_listing hparse hset fileAt hfile, listing_load]
  refine ⟨⟨_, hrun hparse hflag fileAt hfile, rfl, ?_⟩, ?_, ?_⟩
  · refine Text.lines_unlines fun s hs => ?_
    obtain ⟨k, -, rfl⟩ := List.mem_map.1 hs
    exact isOneLine_imageLine image k
  · intro k hk m
    have hword : m.nextWord = imageWord image k :=
      nextWord_load_at o.setup image (lt_of_lt_imageWords hk)
    exact ⟨hword, by rw [Machine.nextInstruction, hword]⟩
  · intro words' o' fileAt' image' hparse' hflag' hfile' hsame
    rw [hrun hparse' hflag' fileAt' hfile', hrun hparse hflag fileAt hfile, imageLines_congr hsame]

/-- The listing of three bytes, and the same one with other options. -/
theorem listing_shows_image_odd :
    let options : Options :=
      { program := "odd.ch8", instructionRate := 600, frameRate := 60, timerRate := 60,
        seed := some 7, tone := .decimal false 440 0, disassemble := true, trace := false }
    let words := ["--seed", "7", "--disassemble", "--", "odd.ch8"]
    let words' := ["--trace", "odd.ch8", "--ips=1000", "--disassemble"]
    let fileAt : String → ProgramFile := fun _ => .contents [0x00, 0xE0, 0x12]
    parse words = .ok (.run options) ∧
    parse words' =
      .ok (.run { options with instructionRate := 1000, seed := none, trace := true }) ∧
    "--disassemble" ∈ beforeTerminator words ∧ "--disassemble" ∈ beforeTerminator words' ∧
    (∃ ending, run words fileAt = .finished ending ∧
      ending.output =
        { code := 0, stdout := "200: 00E0  CLS\n202: 1200  JP 0x200\n", stderr := "" }) ∧
    run words' fileAt = run words fileAt := by
  intro options words words' fileAt
  have hparse : parse words = .ok (.run options) := by rfl
  have hparse' : parse words' =
      .ok (.run { options with instructionRate := 1000, seed := none, trace := true }) := by
    rfl
  have hflag : "--disassemble" ∈ beforeTerminator words := by decide +kernel
  have hflag' : "--disassemble" ∈ beforeTerminator words' := by decide +kernel
  have hfile : fileAt options.program = .contents [0x00, 0xE0, 0x12] := rfl
  obtain ⟨⟨ending, hrun, houtput, -⟩, -, hsame⟩ := listing_shows_image hparse hflag fileAt hfile
  refine ⟨hparse, hparse', hflag, hflag', ⟨ending, hrun, houtput.trans ?_⟩,
    hsame words' _ fileAt _ hparse' hflag' rfl rfl⟩
  decide +kernel

end CommandLine

end Chip8
