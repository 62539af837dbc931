/-
Control messages of IPv4 and of IPv6.  Type and code are reported; the rest of
a message belongs to it and is not looked into.
-/
import PacketWatch.Protocol.Checksum

namespace PacketWatch

/-- The head of a control message. -/
structure Icmp where
  kind : UInt8
  code : UInt8
deriving DecidableEq

namespace Icmp

/-- The least length of a message. -/
def headerLength : Nat := 4

/-- The head of a message. -/
def read? (d : Bytes) : Option Icmp :=
  if d.length < headerLength then none else some ⟨d.byteAt 0, d.byteAt 1⟩

/-- An echo message with the given checksum. -/
def echoWith (checksum : UInt16) (kind : UInt8) (identifier sequence : UInt16)
    (payload : Bytes) : Bytes :=
  [kind, 0] ++ bytes16 checksum ++ bytes16 identifier ++ bytes16 sequence ++ payload

theorem length_echoWith (checksum : UInt16) (kind : UInt8) (identifier sequence : UInt16)
    (payload : Bytes) :
    (echoWith checksum kind identifier sequence payload).length = 8 + payload.length := by
  simp only [echoWith, List.length_append, List.length_cons, List.length_nil, length_bytes16]

/-- An echo request of IPv4, its checksum over the whole message.  A payload can be too long for
the sum of its words. -/
def echoRequest (identifier sequence : UInt16) (payload : Bytes) :
    Except Checksum.Overflow Bytes := do
  let checksum ← Checksum.internet (echoWith 0 8 identifier sequence payload)
  return echoWith checksum 8 identifier sequence payload

/-- An echo request with a short payload. -/
def shortEchoRequest (identifier sequence : UInt16) (payload : Bytes)
    (short : payload.length ≤ 131066) : Bytes :=
  echoWith (Checksum.ofShort (echoWith 0 8 identifier sequence payload)
    (by rw [length_echoWith]; omega)) 8 identifier sequence payload

theorem echoRequest_short (identifier sequence : UInt16) {payload : Bytes}
    (short : payload.length ≤ 131066) :
    echoRequest identifier sequence payload =
      .ok (shortEchoRequest identifier sequence payload short) := by
  rw [echoRequest, Checksum.internet_ofShort]
  rfl

/-- An echo request of IPv6, its checksum left out. -/
def echoRequest6 (identifier sequence : UInt16) (payload : Bytes) : Bytes :=
  echoWith 0 128 identifier sequence payload

/-- What a type number means in IPv4. -/
def kindName (kind : UInt8) : String :=
  match kind.toNat with
  | 0 => "Echo reply"
  | 3 => "Destination unreachable"
  | 5 => "Redirect"
  | 8 => "Echo request"
  | 11 => "Time exceeded"
  | _ => "Other"

/-- What a type number means in IPv6. -/
def kindName6 (kind : UInt8) : String :=
  match kind.toNat with
  | 1 => "Destination unreachable"
  | 3 => "Time exceeded"
  | 128 => "Echo request"
  | 129 => "Echo reply"
  | 133 => "Router solicitation"
  | 134 => "Router advertisement"
  | 135 => "Neighbor solicitation"
  | 136 => "Neighbor advertisement"
  | _ => "Other"

/-- Type and code behind a name. -/
def numbered (name : String) (h : Icmp) : String :=
  name ++ " (type " ++ toString h.kind.toNat ++ ", code " ++ toString h.code.toNat ++ ")"

def summary (h : Icmp) : String := "ICMP Layer, " ++ numbered (kindName h.kind) h

def summary6 (h : Icmp) : String := "ICMPv6 Layer, " ++ numbered (kindName6 h.kind) h

end Icmp

end PacketWatch
