/-
The first line of a payload, as the text protocols show it.

A line ends before the first carriage return or line feed, and is cut to its
first 120 bytes before it is read, so a character at the cut may be broken and
then reads as U+FFFD.
-/
import PacketWatch.Text.Utf8

namespace PacketWatch.TextLine

/-- How many bytes of a line are kept. -/
def maxLength : Nat := 120

/-- Whether a byte ends a line. -/
def isBreak (b : UInt8) : Bool := b == 13 || b == 10

/-- The bytes of the first line that are kept. -/
def firstBytes (payload : Bytes) : Bytes := (payload.takeWhile fun b => !isBreak b).take maxLength

/-- The first line as text. -/
def first (payload : Bytes) : String := Text.Utf8.decodeLossy (firstBytes payload)

end PacketWatch.TextLine
