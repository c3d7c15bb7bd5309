/-!
# The built-in digits

Sixteen pictures of the hexadecimal digits, five rows of eight pixels each, of which only the left
four columns are lit. The table lies directly below the program area.

Results:
* `length_table`: the table has five bytes a digit.
* `getElem?_table`: byte `row` of digit `d` stands at offset `5 * d + row` of the table.
-/

namespace Chip8.Glyph

/-- Rows of one digit (`GLYPH_HEIGHT`). -/
def height : Nat := 5

/-- The address of digit 0 (`FONT_ADDR`): the table of sixteen digits ends where programs begin, at
0x200. -/
def base : Nat := 0x1B0

/-- The sixteen pictures in the order of their digits (`FontSprite::ALL`). -/
def pictures : Vector (List UInt8) 16 := #v[
  [0xF0, 0x90, 0x90, 0x90, 0xF0],
  [0x20, 0x60, 0x20, 0x20, 0x70],
  [0xF0, 0x10, 0xF0, 0x80, 0xF0],
  [0xF0, 0x10, 0xF0, 0x10, 0xF0],
  [0x90, 0x90, 0xF0, 0x10, 0x10],
  [0xF0, 0x80, 0xF0, 0x10, 0xF0],
  [0xF0, 0x80, 0xF0, 0x90, 0xF0],
  [0xF0, 0x10, 0x20, 0x40, 0x40],
  [0xF0, 0x90, 0xF0, 0x90, 0xF0],
  [0xF0, 0x90, 0xF0, 0x10, 0xF0],
  [0xF0, 0x90, 0xF0, 0x90, 0x90],
  [0xE0, 0x90, 0xE0, 0x90, 0xE0],
  [0xF0, 0x80, 0x80, 0x80, 0xF0],
  [0xE0, 0x90, 0x90, 0x90, 0xE0],
  [0xF0, 0x80, 0xF0, 0x80, 0xF0],
  [0xF0, 0x80, 0xF0, 0x80, 0x80]]

/-- The five rows of a digit, the leftmost pixel in the most significant bit. -/
def rows (digit : Fin 16) : List UInt8 := pictures.get digit

/-- All digits one after the other, as they lie in memory (`font_bytes`). -/
def table : List UInt8 := (List.finRange 16).flatMap rows

/-- Where the picture of a digit starts (`glyph_addr`). A value above 15 is not reduced, so its
address lies past the table, in the program area. -/
def address (digit : UInt8) : Nat := base + digit.toNat * height

theorem length_table : table.length = 80 := by decide

theorem base_add_length_table : base + table.length = 0x200 := by decide

theorem getElem?_table (d : Fin 16) (row : Fin 5) :
    table[5 * d.val + row.val]? = (rows d)[row.val]? := by
  revert d row; decide

/-- Every address fits the 16-bit index register. -/
theorem address_lt (digit : UInt8) : address digit < 65536 := by
  have := digit.toNat_lt
  simp only [address, base, height]
  omega

end Chip8.Glyph
