/-
Byte strings, as they are captured and as they are built.

Multi-byte fields are read and written high byte first.  Reading is total: a
position past the end reads as zero, so a caller that has to tell a short
buffer from a zero field compares the length first.  Fixed-size groups of
octets (hardware and network addresses) carry their length in the type.
Nothing here knows a protocol.
-/
import PacketWatch.Text.Number

namespace PacketWatch

/-- Captured or built bytes, first byte first. -/
abbrev Bytes := List UInt8

/-! ## Words -/

/-- The 16-bit word of two bytes, high byte first. -/
def word16 (hi lo : UInt8) : UInt16 :=
  UInt16.ofNat (256 * hi.toNat + lo.toNat)

/-- The 32-bit word of four bytes, highest byte first. -/
def word32 (a b c d : UInt8) : UInt32 :=
  UInt32.ofNat (((a.toNat * 256 + b.toNat) * 256 + c.toNat) * 256 + d.toNat)

/-- The two bytes of a word, high byte first. -/
def bytes16 (w : UInt16) : Bytes :=
  [UInt8.ofNat (w.toNat / 256), UInt8.ofNat w.toNat]

/-- The four bytes of a word, highest byte first. -/
def bytes32 (w : UInt32) : Bytes :=
  [UInt8.ofNat (w.toNat / 16777216), UInt8.ofNat (w.toNat / 65536),
    UInt8.ofNat (w.toNat / 256), UInt8.ofNat w.toNat]

/-- The eight bytes of a word, highest byte first. -/
def bytes64 (w : UInt64) : Bytes :=
  bytes32 (UInt32.ofNat (w.toNat / 4294967296)) ++ bytes32 (UInt32.ofNat w.toNat)

theorem toNat_word16 (hi lo : UInt8) : (word16 hi lo).toNat = 256 * hi.toNat + lo.toNat := by
  have := hi.toNat_lt
  have := lo.toNat_lt
  simp only [word16, UInt16.toNat_ofNat']
  omega

theorem toNat_word32 (a b c d : UInt8) :
    (word32 a b c d).toNat
      = ((a.toNat * 256 + b.toNat) * 256 + c.toNat) * 256 + d.toNat := by
  have := a.toNat_lt
  have := b.toNat_lt
  have := c.toNat_lt
  have := d.toNat_lt
  simp only [word32, UInt32.toNat_ofNat']
  omega

/-- A word is read back from its two bytes. -/
theorem word16_bytes16 (w : UInt16) :
    word16 (UInt8.ofNat (w.toNat / 256)) (UInt8.ofNat w.toNat) = w := by
  have := w.toNat_lt
  apply UInt16.toNat_inj.1
  simp only [toNat_word16, UInt8.toNat_ofNat']
  omega

/-- A word is read back from its four bytes. -/
theorem word32_bytes32 (w : UInt32) :
    word32 (UInt8.ofNat (w.toNat / 16777216)) (UInt8.ofNat (w.toNat / 65536))
      (UInt8.ofNat (w.toNat / 256)) (UInt8.ofNat w.toNat) = w := by
  have := w.toNat_lt
  apply UInt32.toNat_inj.1
  simp only [toNat_word32, UInt8.toNat_ofNat']
  omega

@[simp] theorem length_bytes16 (w : UInt16) : (bytes16 w).length = 2 := rfl

@[simp] theorem length_bytes32 (w : UInt32) : (bytes32 w).length = 4 := rfl

@[simp] theorem length_bytes64 (w : UInt64) : (bytes64 w).length = 8 := rfl

/-! ## Octet groups -/

/-- Exactly `n` octets. -/
structure Octets (n : Nat) where
  toList : Bytes
  length_toList : toList.length = n
deriving DecidableEq

/-- A hardware address. -/
abbrev Mac := Octets 6

/-- An IPv4 address. -/
abbrev Ip4 := Octets 4

/-- An IPv6 address. -/
abbrev Ip6 := Octets 16

namespace Octets

/-- The octets of a list of the right length. -/
def ofList? (n : Nat) (bytes : Bytes) : Option (Octets n) :=
  if h : bytes.length = n then some ⟨bytes, h⟩ else none

/-- The first `n` octets of a list, filled up with zeros. -/
def ofPrefix (n : Nat) (bytes : Bytes) : Octets n :=
  ⟨(bytes ++ List.replicate n 0).take n, by simp⟩

instance {n : Nat} : Inhabited (Octets n) := ⟨ofPrefix n []⟩

end Octets

namespace Bytes

/-! ## Fields at an offset -/

/-- The byte at an offset. -/
def byteAt (d : Bytes) (i : Nat) : UInt8 := d.getD i 0

/-- The big-endian 16-bit word at an offset. -/
def word16At (d : Bytes) (i : Nat) : UInt16 := word16 (d.byteAt i) (d.byteAt (i + 1))

/-- The big-endian 32-bit word at an offset. -/
def word32At (d : Bytes) (i : Nat) : UInt32 :=
  word32 (d.byteAt i) (d.byteAt (i + 1)) (d.byteAt (i + 2)) (d.byteAt (i + 3))

/-- The `n` octets from an offset on. -/
def octetsAt (d : Bytes) (n i : Nat) : Octets n := Octets.ofPrefix n (d.drop i)

/-- The bytes from an offset up to, and without, an end. -/
def span (d : Bytes) (start stop : Nat) : Bytes := (d.take stop).drop start

/-- Whether the bytes begin with the given ones. -/
def startsWith (d start : Bytes) : Bool := start.isPrefixOf d

/-! ## Text -/

/-- The UTF-8 bytes of a text. -/
def ofText (s : String) : Bytes := s.toUTF8.data.toList

/-- The digit of a value below 16. -/
def hexDigit (n : Nat) : Char := Nat.digitChar n

/-- Two lower-case digits. -/
def hexByte (b : UInt8) : String :=
  String.ofList [hexDigit (b.toNat / 16), hexDigit (b.toNat % 16)]

/-- Two lower-case digits a byte, nothing between them. -/
def hex (d : Bytes) : String := String.join (d.map hexByte)

/-- Two lower-case digits a byte, colons between the bytes. -/
def colonHex (d : Bytes) : String := String.intercalate ":" (d.map hexByte)

/-- Reads an even number of hexadecimal digits. -/
def ofHexChars? : List Char → Option Bytes
  | [] => some []
  | [_] => none
  | hi :: lo :: rest => do
    let h ← Text.hexValue? hi
    let l ← Text.hexValue? lo
    let more ← ofHexChars? rest
    return UInt8.ofNat (16 * h + l) :: more

/-- Reads hexadecimal text, two digits a byte. -/
def ofHex? (s : String) : Option Bytes := ofHexChars? s.toList

end Bytes

end PacketWatch
