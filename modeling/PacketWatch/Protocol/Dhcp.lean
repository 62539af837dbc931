/-
Host configuration messages, known by the magic cookie behind their fixed
fields.
-/
import PacketWatch.Bytes
import PacketWatch.Text.Number

namespace PacketWatch

/-- The reported fields of a message. -/
structure Dhcp where
  op : UInt8
  transactionId : UInt32
deriving DecidableEq

namespace Dhcp

/-- Where the magic cookie stands. -/
def cookieOffset : Nat := 236

/-- The magic cookie. -/
def magicCookie : UInt32 := 0x63825363

/-- The message of a payload that holds the cookie and is a request or a reply. -/
def read? (d : Bytes) : Option Dhcp :=
  if cookieOffset + 4 ≤ d.length && d.word32At cookieOffset == magicCookie
      && (d.byteAt 0 == 1 || d.byteAt 0 == 2) then
    some ⟨d.byteAt 0, d.word32At 4⟩
  else none

def summary (h : Dhcp) : String :=
  "DHCP Layer, " ++ (if h.op = 1 then "Boot request" else "Boot reply")
    ++ ", Transaction ID: 0x" ++ Text.hexPadded 8 h.transactionId.toNat

end Dhcp

end PacketWatch
