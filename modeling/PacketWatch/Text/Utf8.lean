/-
Reading UTF-8.

`lead` reads one character from a lead byte and what follows it, or says how
long the broken sequence is: the longest start that some character also has,
and at least one byte.  Two readers are built on it: `decode?` refuses broken
input, `decodeLossy` writes U+FFFD once for each broken sequence.
-/
import PacketWatch.Bytes

namespace PacketWatch.Text.Utf8

/-- The character that stands for a broken sequence. -/
def replacement : Char := '\uFFFD'

/-- What starts at a lead byte. -/
inductive Unit where
  /-- A character, and how many bytes after the lead byte belong to it. -/
  | scalar (c : Char) (extra : Nat)
  /-- A broken sequence, and how many bytes after the lead byte belong to it. -/
  | broken (extra : Nat)
deriving DecidableEq

namespace Unit

/-- How many bytes after the lead byte belong to the unit. -/
def extra : Unit → Nat
  | .scalar _ n => n
  | .broken n => n

end Unit

/-- Whether the byte at an offset lies in a range. -/
def within (lo hi : UInt8) (rest : Bytes) (i : Nat) : Bool :=
  match rest[i]? with
  | some b => lo ≤ b && b ≤ hi
  | none => false

/-- The six payload bits of a continuation byte. -/
def low6 (rest : Bytes) (i : Nat) : Nat := (rest.byteAt i).toNat % 64

/-- A character of two bytes. -/
def two (b : UInt8) (rest : Bytes) : Unit :=
  if within 0x80 0xBF rest 0 then
    .scalar (Char.ofNat ((b.toNat - 0xC0) * 64 + low6 rest 0)) 1
  else .broken 0

/-- A character of three bytes whose second byte lies in the given range. -/
def three (lo hi : UInt8) (b : UInt8) (rest : Bytes) : Unit :=
  if !within lo hi rest 0 then .broken 0
  else if !within 0x80 0xBF rest 1 then .broken 1
  else .scalar (Char.ofNat (((b.toNat - 0xE0) * 64 + low6 rest 0) * 64 + low6 rest 1)) 2

/-- A character of four bytes whose second byte lies in the given range. -/
def four (lo hi : UInt8) (b : UInt8) (rest : Bytes) : Unit :=
  if !within lo hi rest 0 then .broken 0
  else if !within 0x80 0xBF rest 1 then .broken 1
  else if !within 0x80 0xBF rest 2 then .broken 2
  else
    .scalar (Char.ofNat
      ((((b.toNat - 0xF0) * 64 + low6 rest 0) * 64 + low6 rest 1) * 64 + low6 rest 2)) 3

/-- What starts at a lead byte, given the bytes behind it.  The range of the
second byte excludes overlong forms, surrogates and values past U+10FFFF. -/
def lead (b : UInt8) (rest : Bytes) : Unit :=
  if b < 0x80 then .scalar (Char.ofNat b.toNat) 0
  else if b < 0xC2 then .broken 0
  else if b < 0xE0 then two b rest
  else if b = 0xE0 then three 0xA0 0xBF b rest
  else if b = 0xED then three 0x80 0x9F b rest
  else if b < 0xF0 then three 0x80 0xBF b rest
  else if b = 0xF0 then four 0x90 0xBF b rest
  else if b < 0xF4 then four 0x80 0xBF b rest
  else if b = 0xF4 then four 0x80 0x8F b rest
  else .broken 0

/-- The units of a byte string, in order. -/
def units : Bytes → List Unit
  | [] => []
  | b :: rest => lead b rest :: units (rest.drop (lead b rest).extra)
termination_by d => d.length
decreasing_by simp only [List.length_drop, List.length_cons]; omega

/-- The character that a lossy reading writes for a unit. -/
def Unit.lossy : Unit → Char
  | .scalar c _ => c
  | .broken _ => replacement

/-- The character of a unit, if it is one. -/
def Unit.scalar? : Unit → Option Char
  | .scalar c _ => some c
  | .broken _ => none

/-- Reads every byte string; a broken sequence becomes one U+FFFD. -/
def decodeLossy (d : Bytes) : String := String.ofList ((units d).map Unit.lossy)

/-- Reads well-formed UTF-8 only. -/
def decode? (d : Bytes) : Option String := ((units d).mapM Unit.scalar?).map String.ofList

end PacketWatch.Text.Utf8
