/-
Time messages.  The first byte holds two bits that are not reported, three of
version and three of mode.
-/
import PacketWatch.Bytes

namespace PacketWatch

/-- The reported fields of a message. -/
structure Ntp where
  version : UInt8
  mode : UInt8
deriving DecidableEq

namespace Ntp

/-- Least length of a message. -/
def messageLength : Nat := 48

/-- The version of a first byte. -/
def versionOf (b : UInt8) : UInt8 := UInt8.ofNat (b.toNat / 8 % 8)

/-- The mode of a first byte. -/
def modeOf (b : UInt8) : UInt8 := UInt8.ofNat (b.toNat % 8)

/-- The message of a payload that is long enough and of version 1 to 4. -/
def read? (d : Bytes) : Option Ntp :=
  if messageLength ≤ d.length && 1 ≤ versionOf (d.byteAt 0) && versionOf (d.byteAt 0) ≤ 4 then
    some ⟨versionOf (d.byteAt 0), modeOf (d.byteAt 0)⟩
  else none

def modeName (mode : UInt8) : String :=
  match mode.toNat with
  | 1 => "symmetric active"
  | 2 => "symmetric passive"
  | 3 => "client"
  | 4 => "server"
  | 5 => "broadcast"
  | _ => "other"

def summary (h : Ntp) : String :=
  "NTP Layer, Version: " ++ toString h.version.toNat ++ ", Mode: " ++ modeName h.mode

end Ntp

end PacketWatch
