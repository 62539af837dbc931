/-
Blank characters: the White_Space property of Unicode.
-/
import PacketWatch.Text.Ranges

namespace PacketWatch.Text

/-- The characters that are blank. -/
def blanks : Ranges :=
  [(0x0009, 0x000d), (0x0020, 0x0020), (0x0085, 0x0085), (0x00a0, 0x00a0), (0x1680, 0x1680),
    (0x2000, 0x200a), (0x2028, 0x2029), (0x202f, 0x202f), (0x205f, 0x205f), (0x3000, 0x3000)]

/-- Whether a character is blank. -/
def isBlank (c : Char) : Bool := blanks.contain c

example : blanks.isAscending = true := by decide

end PacketWatch.Text
