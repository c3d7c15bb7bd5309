import Chip8.Instruction

/-!
# Mnemonics

The conventional spelling of instructions. Addresses are written with three hexadecimal digits and
immediate bytes with two; the row count of a drawing is decimal; a word that is no instruction is
shown as data with all four digits.
-/

namespace Chip8

/-- An address as three hexadecimal digits after `0x`. -/
def Target.text (t : Target) : String := "0x" ++ Text.hex 3 t.val

/-- A byte as two hexadecimal digits after `0x`. -/
def byteText (nn : UInt8) : String := "0x" ++ Text.hex 2 nn.toNat

/-- The name of a two-register operation. -/
def Operation.mnemonic : Operation → String
  | copy => "LD"
  | or => "OR"
  | and => "AND"
  | xor => "XOR"
  | add => "ADD"
  | subtract => "SUB"
  | halve => "SHR"
  | subtractFrom => "SUBN"
  | double => "SHL"

/-- A skip instruction with its operands. -/
def Condition.mnemonic : Condition → String
  | isByte x nn => "SE " ++ x.name ++ ", " ++ byteText nn
  | isNotByte x nn => "SNE " ++ x.name ++ ", " ++ byteText nn
  | same x y => "SE " ++ x.name ++ ", " ++ y.name
  | differ x y => "SNE " ++ x.name ++ ", " ++ y.name
  | pressed x => "SKP " ++ x.name
  | released x => "SKNP " ++ x.name

namespace Instruction

/-- An instruction with its operands, as `Instruction` is formatted. -/
def mnemonic : Instruction → String
  | clear => "CLS"
  | ret => "RET"
  | system t => "SYS " ++ t.text
  | jump t => "JP " ++ t.text
  | call t => "CALL " ++ t.text
  | skipIf condition => condition.mnemonic
  | setByte x nn => "LD " ++ x.name ++ ", " ++ byteText nn
  | addByte x nn => "ADD " ++ x.name ++ ", " ++ byteText nn
  | combine op x y => op.mnemonic ++ " " ++ x.name ++ ", " ++ y.name
  | setIndex t => "LD I, " ++ t.text
  | jumpPlus t => "JP V0, " ++ t.text
  | random x nn => "RND " ++ x.name ++ ", " ++ byteText nn
  | draw x y n => "DRW " ++ x.name ++ ", " ++ y.name ++ ", " ++ toString n.val
  | readDelay x => "LD " ++ x.name ++ ", DT"
  | awaitKey x => "LD " ++ x.name ++ ", K"
  | setDelay x => "LD DT, " ++ x.name
  | setSound x => "LD ST, " ++ x.name
  | addIndex x => "ADD I, " ++ x.name
  | pointGlyph x => "LD F, " ++ x.name
  | storeDecimal x => "LD B, " ++ x.name
  | store x => "LD [I], " ++ x.name
  | fetch x => "LD " ++ x.name ++ ", [I]"
  | undefined w => "DW 0x" ++ Text.hex 4 w.toNat

end Instruction

end Chip8
