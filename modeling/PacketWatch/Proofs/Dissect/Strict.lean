/-
# `PacketWatch.Proofs.Dissect.Strict` — dissecting where a read past the end is a fault

The readers of the protocols are total: a byte that is not there reads as zero, and a
length that is too large takes what there is.  Here the same stages are written once
more over operations that are not.

    index, slice    fault outside of the bytes
    clamp           faults if its lower bound is above its upper bound
    add, mul        fault where the result does not fit into a length
    sub             faults below zero

Each stage asks first what the program asks first, and then reads, slices and adds
without asking again; so whether it can fault is whether its questions are enough.
That they are is proved in `PacketWatch.Proofs.Dissect.Stages`, together with the
equality to the stages that run.

Five headers are read by a library.  It is a parameter (`Parsers`): what it answers to
the bytes of a stage is a header and the bytes of that header.
-/
import PacketWatch.Decode
import PacketWatch.Proofs.Bytes

namespace PacketWatch

/-- Why a strict reading is cut off. -/
inductive Fault where
  | index (place length : Nat)
  | slice (start stop length : Nat)
  | clamp (low high : Nat)
  | overflow
  | underflow
deriving DecidableEq

/-- A reading that may be cut off. -/
abbrev Strict (α : Type) := Except Fault α

/-- A header as the library reads it, and the bytes of the header. -/
abbrev Parser (α : Type) := Bytes → Option (α × Bytes)

/-- The headers that the library reads. -/
structure Parsers where
  ethernet : Parser Ethernet
  ipv4 : Parser Ipv4
  ipv6 : Parser Ipv6
  tcp : Parser Tcp
  udp : Parser Udp

namespace Parser

variable {α : Type} (parse : Parser α) (read? : Bytes → Option α) (length : Bytes → Nat)

/-- A header is answered only if the documented checks of lengths and version pass, and
its bytes are as many as the header has.  What its fields say is left open. -/
def Documented : Prop :=
  ∀ d h taken, parse d = some (h, taken) →
    (read? d).isSome ∧ taken = d.take (length d)

/-- Whenever those checks pass, the header is answered with the fields of its bytes. -/
def Complete : Prop :=
  ∀ d h, read? d = some h → ∃ taken, parse d = some (h, taken)

end Parser

namespace Parsers

structure Documented (parsers : Parsers) : Prop where
  ethernet : parsers.ethernet.Documented Ethernet.read? fun _ => Ethernet.headerLength
  ipv4 : parsers.ipv4.Documented Ipv4.read? Ipv4.headerLength
  ipv6 : parsers.ipv6.Documented Ipv6.read? fun _ => Ipv6.headerLength
  tcp : parsers.tcp.Documented Tcp.read? Tcp.headerLength
  udp : parsers.udp.Documented Udp.read? fun _ => Udp.headerLength

structure Complete (parsers : Parsers) : Prop where
  ethernet : parsers.ethernet.Complete Ethernet.read?
  ipv4 : parsers.ipv4.Complete Ipv4.read?
  ipv6 : parsers.ipv6.Complete Ipv6.read?
  tcp : parsers.tcp.Complete Tcp.read?
  udp : parsers.udp.Complete Udp.read?

end Parsers

namespace Strict

open Bytes (length_span byteAt_span)

/-! ## Operations that fault -/

/-- What a length is below.  A length has 32 bits at least, and a sum that fits into them
fits into more. -/
def lengthLimit : Nat := 0x100000000

def add (m n : Nat) : Strict Nat := if m + n < lengthLimit then .ok (m + n) else .error .overflow

def mul (m n : Nat) : Strict Nat := if m * n < lengthLimit then .ok (m * n) else .error .overflow

def sub (m n : Nat) : Strict Nat := if n ≤ m then .ok (m - n) else .error .underflow

def clamp (n low high : Nat) : Strict Nat :=
  if low ≤ high then .ok (max low (min n high)) else .error (.clamp low high)

def index (d : Bytes) (i : Nat) : Strict UInt8 :=
  if i < d.length then .ok (d.byteAt i) else .error (.index i d.length)

def slice (d : Bytes) (start stop : Nat) : Strict Bytes :=
  if start ≤ stop ∧ stop ≤ d.length then .ok (d.span start stop)
  else .error (.slice start stop d.length)

def sliceFrom (d : Bytes) (start : Nat) : Strict Bytes := slice d start d.length

/-- The bytes of a range, if they are there. -/
def get? (d : Bytes) (start stop : Nat) : Option Bytes :=
  if start ≤ stop ∧ stop ≤ d.length then some (d.span start stop) else none

/-- The big-endian 16-bit word at an offset, if it is there. -/
def word16? (d : Bytes) (offset : Nat) : Strict (Option UInt16) := do
  let stop ← add offset 2
  match get? d offset stop with
  | none => return none
  | some b => return some (word16 (← index b 0) (← index b 1))

/-- The big-endian 32-bit word at an offset, if it is there. -/
def word32? (d : Bytes) (offset : Nat) : Strict (Option UInt32) := do
  let stop ← add offset 4
  match get? d offset stop with
  | none => return none
  | some b =>
    return some (word32 (← index b 0) (← index b 1) (← index b 2) (← index b 3))

/-! ## When they do not fault -/

@[simp] theorem ok_bind {α β : Type} (a : α) (f : α → Strict β) :
    ((Except.ok a : Strict α) >>= f) = f a := rfl

@[simp] theorem pure_eq_ok {α : Type} (a : α) : (pure a : Strict α) = .ok a := rfl

theorem add_eq {m n : Nat} (fits : m + n < 0x100000000) : add m n = .ok (m + n) := if_pos fits

theorem mul_eq {m n : Nat} (fits : m * n < 0x100000000) : mul m n = .ok (m * n) := if_pos fits

theorem sub_eq {m n : Nat} (below : n ≤ m) : sub m n = .ok (m - n) := if_pos below

theorem clamp_eq {n low high : Nat} (ordered : low ≤ high) :
    clamp n low high = .ok (max low (min n high)) := if_pos ordered

theorem index_eq {d : Bytes} {i : Nat} (inside : i < d.length) : index d i = .ok (d.byteAt i) :=
  if_pos inside

theorem slice_eq {d : Bytes} {start stop : Nat} (ordered : start ≤ stop)
    (inside : stop ≤ d.length) : slice d start stop = .ok (d.span start stop) :=
  if_pos ⟨ordered, inside⟩

theorem sliceFrom_eq {d : Bytes} {start : Nat} (inside : start ≤ d.length) :
    sliceFrom d start = .ok (d.drop start) := by
  rw [sliceFrom, slice_eq inside (Nat.le_refl _), Bytes.span, List.take_length]

theorem get?_eq {d : Bytes} {start stop : Nat} (ordered : start ≤ stop)
    (inside : stop ≤ d.length) : get? d start stop = some (d.span start stop) :=
  if_pos ⟨ordered, inside⟩

theorem get?_eq_none {d : Bytes} {start stop : Nat} (outside : d.length < stop) :
    get? d start stop = none := if_neg fun ⟨_, inside⟩ => absurd inside (by omega)

theorem getElem?_eq {d : Bytes} {i : Nat} (inside : i < d.length) : d[i]? = some (d.byteAt i) := by
  rw [Bytes.byteAt, List.getD_eq_getElem?_getD, List.getElem?_eq_getElem inside]
  rfl

theorem head?_eq {d : Bytes} (inside : 0 < d.length) : d.head? = some (d.byteAt 0) := by
  rw [List.head?_eq_getElem?, getElem?_eq inside]

/-- Reading a word faults nowhere, and says whether the word is there. -/
theorem word16?_eq {d : Bytes} {offset : Nat} (fits : offset + 2 < 0x100000000) :
    word16? d offset = .ok (if offset + 2 ≤ d.length then some (d.word16At offset) else none) := by
  rw [word16?, add_eq fits, ok_bind]
  by_cases inside : offset + 2 ≤ d.length
  · have length : (d.span offset (offset + 2)).length = 2 := by rw [length_span]; omega
    rw [get?_eq (by omega) inside, if_pos inside]
    simp (disch := omega) only [index_eq, ok_bind, pure_eq_ok, byteAt_span]
    rfl
  · rw [get?_eq_none (by omega), if_neg inside]
    rfl

theorem word32?_eq {d : Bytes} {offset : Nat} (fits : offset + 4 < 0x100000000) :
    word32? d offset = .ok (if offset + 4 ≤ d.length then some (d.word32At offset) else none) := by
  rw [word32?, add_eq fits, ok_bind]
  by_cases inside : offset + 4 ≤ d.length
  · have length : (d.span offset (offset + 4)).length = 4 := by rw [length_span]; omega
    rw [get?_eq (by omega) inside, if_pos inside]
    simp (disch := omega) only [index_eq, ok_bind, pure_eq_ok, byteAt_span]
    rfl
  · rw [get?_eq_none (by omega), if_neg inside]
    rfl

/-! ## Asking the library -/

/-- A stage that asks the library for its header, and goes on behind it. -/
def parsed {α : Type} (parse : Parser α) (behind : α → Bytes → Bytes → Strict Stage) (d : Bytes) :
    Strict Stage :=
  match parse d with
  | none => return .unread d
  | some (h, taken) => behind h taken d

/-! ## Link headers -/

def ethernetBehind (h : Ethernet) (taken d : Bytes) : Strict Stage := do
  let rest ← sliceFrom d taken.length
  return .header ⟨.ethernet h, taken.length, 0⟩ (.etherType h.etherType rest)

def ethernet (parsers : Parsers) : Bytes → Strict Stage := parsed parsers.ethernet ethernetBehind

def cooked (d : Bytes) : Strict Stage :=
  if d.length < CookedCapture.headerLength then return .unread d
  else do
    let packetType := word16 (← index d 0) (← index d 1)
    let addressLength := min (word16 (← index d 4) (← index d 5)).toNat 8
    let protocol := word16 (← index d 14) (← index d 15)
    let linkAddr ← slice d 6 (← add 6 addressLength)
    let rest ← sliceFrom d CookedCapture.headerLength
    return .header ⟨.cooked ⟨packetType, linkAddr, protocol⟩, CookedCapture.headerLength, 0⟩
      (.etherType protocol rest)

def loopback (d : Bytes) : Strict Stage :=
  match get? d 0 Loopback.headerLength with
  | none => return .unread d
  | some b => do
    let h : Loopback :=
      ⟨Loopback.familyOf (← index b 0) (← index b 1) (← index b 2) (← index b 3)⟩
    let rest ← sliceFrom d Loopback.headerLength
    return .header ⟨.loopback h, Loopback.headerLength, 0⟩
      (match h.etherType? with
        | some type => .etherType type rest
        | none => .unread rest)

def vlan (d : Bytes) : Strict Stage := do
  match ← word16? d 0, ← word16? d 2 with
  | some control, some type =>
    let rest ← sliceFrom d Vlan.headerLength
    let h : Vlan :=
      { vlanId := UInt16.ofNat (control.toNat % 4096)
        priority := UInt8.ofNat (control.toNat / 8192)
        etherType := type }
    return .header ⟨.vlan h, Vlan.headerLength, 0⟩ (.etherType type rest)
  | _, _ => return .unread d

/-! ## Network headers -/

/-- The network address at an offset of an address resolution message that has such. -/
def ip4At? (resolvesIpv4 : Bool) (d : Bytes) (offset : Nat) : Strict (Option Ip4) :=
  if resolvesIpv4 then do
    let b ← slice d offset (← add offset 4)
    return some (.ofPrefix 4 [← index b 0, ← index b 1, ← index b 2, ← index b 3])
  else return none

def arp (d : Bytes) : Strict Stage := do
  match ← word16? d 0, ← word16? d 2, ← word16? d 6 with
  | some hardwareType, some protocolType, some operation =>
    let hardwareSize := (← index d 4).toNat
    let protocolSize := (← index d 5).toNat
    let length ← add 8 (← mul 2 (← add hardwareSize protocolSize))
    if d.length < length then return .unread d
    else
      let resolvesIpv4 :=
        hardwareType == 1 && protocolType == EtherType.ipv4 && protocolSize == 4
      let senderIp ← ip4At? resolvesIpv4 d (← add 8 hardwareSize)
      let targetIp ← ip4At? resolvesIpv4 d (← add (← add 8 (← mul 2 hardwareSize)) protocolSize)
      let rest ← sliceFrom d length
      return .header ⟨.arp ⟨operation, senderIp, targetIp⟩, length, 0⟩ (.unread rest)
  | _, _, _ => return .unread d

/-- Where the datagram of an IPv4 header ends among the captured bytes. -/
def ipv4End (h : Ipv4) (headerLength captured : Nat) : Strict Nat :=
  if h.totalLength = 0 then return captured
  else clamp h.totalLength.toNat headerLength captured

def ipv4Behind (h : Ipv4) (taken d : Bytes) : Strict Stage := do
  let stop ← ipv4End h taken.length d.length
  let trailer ← sub d.length stop
  let payload ← slice d taken.length stop
  let fragment := (← word16? taken 6).getD 0
  return .header ⟨.ipv4 h, taken.length, trailer⟩
    (if fragment.toNat % 8192 = 0 then .ipProtocol h.protocol payload else .unread payload)

def ipv4 (parsers : Parsers) : Bytes → Strict Stage := parsed parsers.ipv4 ipv4Behind

/-- Passes over the extension header at the front: the number of the next one and what
follows, unless the walk ends here. -/
def passExtension (kind : UInt8) (d : Bytes) : Strict (Option (UInt8 × Bytes)) :=
  if kind = Ipv6.Extension.fragment then do
    match d.head?, ← word16? d 2 with
    | some next, some offset =>
      if offset.toNat / 8 ≠ 0 ∨ d.length < 8 then return none
      else return some (next, ← sliceFrom d 8)
    | _, _ => return none
  else
    match d[1]? with
    | none => return none
    | some units => do
      let length ← mul (← add units.toNat 1) 8
      if d.length < length then return none
      else return some (← index d 0, ← sliceFrom d length)

/-- It faults nowhere, and passes what a header is found for. -/
theorem passExtension_eq (kind : UInt8) (d : Bytes) :
    passExtension kind d =
      .ok ((Ipv6.Extension.length? kind d).map fun n => (d.byteAt 0, d.drop n)) := by
  unfold passExtension Ipv6.Extension.length?
  split
  · rw [word16?_eq (by omega), ok_bind]
    by_cases whole : 8 ≤ d.length
    · rw [if_pos (by omega), head?_eq (by omega), sliceFrom_eq whole]
      by_cases later : 8 ≤ (d.word16At 2).toNat
      · rw [if_pos (.inr later)]
        exact if_pos (.inl (by omega))
      · rw [if_neg (by omega)]
        exact if_neg (by omega)
    · have cut : (if d.length < 8 ∨ 8 ≤ (d.word16At 2).toNat then none else some 8) = none :=
        if_pos (.inl (by omega))
      rw [cut]
      split
      · exact if_pos (.inr (by omega))
      · rfl
  · by_cases there : 1 < d.length
    · rw [getElem?_eq there]
      have units := (d.byteAt 1).toNat_lt
      simp (disch := omega) only [add_eq, mul_eq, ok_bind]
      by_cases whole : d.length < ((d.byteAt 1).toNat + 1) * 8
      · rw [if_pos whole, if_pos (.inl (by omega))]
        rfl
      · rw [if_neg whole, if_neg (by omega), index_eq (by omega), sliceFrom_eq (by omega),
          Nat.mul_comm]
        rfl
    · rw [List.getElem?_eq_none (by omega), if_pos (.inr (by omega))]
      rfl

/-- Passes over the extension headers in front of an upper protocol. -/
def skip (kind : UInt8) (d : Bytes) : Strict Ipv6.Extension.Walk :=
  if Ipv6.Extension.isExtension kind then
    match _h : passExtension kind d with
    | .error fault => .error fault
    | .ok none => .ok ⟨none, d⟩
    | .ok (some (next, rest)) => skip next rest
  else .ok ⟨some kind, d⟩
termination_by d.length
decreasing_by
  rw [passExtension_eq] at _h
  obtain ⟨n, length, passed⟩ := Option.map_eq_some_iff.mp (Except.ok.inj _h)
  obtain ⟨rfl, rfl⟩ := Prod.mk.inj passed
  have := Ipv6.Extension.length?_bounds length
  simp only [List.length_drop]
  omega

/-- Where the datagram of an IPv6 header ends among the captured bytes. -/
def ipv6End (h : Ipv6) (headerLength captured : Nat) : Strict Nat :=
  if h.payloadLength = 0 then return captured
  else return min (← add headerLength h.payloadLength.toNat) captured

def ipv6Behind (h : Ipv6) (taken d : Bytes) : Strict Stage := do
  let stop ← ipv6End h taken.length d.length
  let trailer ← sub d.length stop
  let payload ← slice d taken.length stop
  let walk ← skip h.nextHeader payload
  -- the span counts the extension headers in; no length of the program
  return .header ⟨.ipv6 h, taken.length + (payload.length - walk.rest.length), trailer⟩
    (match walk.upper? with
      | some protocol => .ipProtocol protocol walk.rest
      | none => .unread walk.rest)

def ipv6 (parsers : Parsers) : Bytes → Strict Stage := parsed parsers.ipv6 ipv6Behind

/-! ## Transport headers and control messages -/

def tcpBehind (h : Tcp) (taken d : Bytes) : Strict Stage := do
  let payload ← sliceFrom d taken.length
  return .header ⟨.tcp h, taken.length, 0⟩ (.application .tcp h.srcPort h.dstPort payload)

def tcp (parsers : Parsers) : Bytes → Strict Stage := parsed parsers.tcp tcpBehind

def udpBehind (h : Udp) (taken d : Bytes) : Strict Stage := do
  let stop ← clamp h.length.toNat taken.length d.length
  let payload ← slice d taken.length stop
  return .header ⟨.udp h, taken.length, 0⟩ (.application .udp h.srcPort h.dstPort payload)

def udp (parsers : Parsers) : Bytes → Strict Stage := parsed parsers.udp udpBehind

/-- A control message, of which the layer is one of the two kinds. -/
def icmp (layer : Icmp → Layer) (d : Bytes) : Strict Stage :=
  if d.length < Icmp.headerLength then return .unread d
  else return .header ⟨layer ⟨← index d 0, ← index d 1⟩, d.length, 0⟩ (.unread [])

/-! ## Application messages -/

def dns (d : Bytes) : Strict (Option Dns) :=
  if d.length < Dns.headerLength then return none
  else do
    let some flags ← word16? d 2 | return none
    if 6 < Dns.opcode flags then return none
    else
      let some transactionId ← word16? d 0 | return none
      let some questions ← word16? d 4 | return none
      let some answers ← word16? d 6 | return none
      return some ⟨transactionId, 0x8000 ≤ flags.toNat, questions, answers⟩

/-- A message behind its length of two bytes. -/
def dnsOverTcp (d : Bytes) : Strict (Option Dns) :=
  match get? d 2 d.length with
  | none => return none
  | some rest => dns rest

/-- The text up to the first line break, cut to the bytes that are kept. -/
def firstLine (d : Bytes) : Strict String := do
  let kept ← slice d 0 (min (d.findIdx TextLine.isBreak) TextLine.maxLength)
  return Text.Utf8.decodeLossy kept

def http (d : Bytes) : Strict (Option Http) :=
  if Http.openings.any fun o => d.startsWith (Bytes.ofText o) then
    return some ⟨← firstLine d⟩
  else return none

def tls (d : Bytes) : Strict (Option Tls) := do
  let some contentType := d.head? | return none
  let some version ← word16? d 1 | return none
  if Tls.isContentType contentType && Tls.isVersion version then
    return some ⟨contentType, version⟩
  else return none

def ssh (d : Bytes) : Strict Ssh :=
  if Ssh.hasBanner d then return ⟨some (← firstLine d)⟩ else return ⟨none⟩

def ftp (d : Bytes) : Strict (Option Ftp) := do
  let line ← firstLine d
  if !line.isEmpty && line.toList.all Ftp.isPrintable then return some ⟨line⟩ else return none

def dhcp (d : Bytes) : Strict (Option Dhcp) := do
  let some cookie ← word32? d Dhcp.cookieOffset | return none
  if cookie == Dhcp.magicCookie then
    let op ← index d 0
    if op == 1 || op == 2 then
      let some transactionId ← word32? d 4 | return none
      return some ⟨op, transactionId⟩
    else return none
  else return none

def ntp (d : Bytes) : Strict (Option Ntp) :=
  if d.length < Ntp.messageLength then return none
  else do
    let version := Ntp.versionOf (← index d 0)
    let mode := Ntp.modeOf (← index d 0)
    if 1 ≤ version && version ≤ 4 then return some ⟨version, mode⟩ else return none

/-! ## Choosing a stage -/

/-- The application layer of a payload, if the service that is responsible accepts it. -/
def detect? (t : Transport) (srcPort dstPort : UInt16) (d : Bytes) : Strict (Option Layer) :=
  match t with
  | .udp =>
    if Service.dns.onPort srcPort dstPort then return (← dns d).map .dns
    else if Service.dhcp.onPort srcPort dstPort then return (← dhcp d).map .dhcp
    else if Service.ntp.onPort srcPort dstPort then return (← ntp d).map .ntp
    else return none
  | .tcp =>
    if Service.dnsOverTcp.onPort srcPort dstPort then return (← dnsOverTcp d).map .dns
    else if Service.http.onPort srcPort dstPort then return (← http d).map .http
    else if Service.tls.onPort srcPort dstPort then return (← tls d).map .tls
    else if Service.ssh.onPort srcPort dstPort || Ssh.hasBanner d then
      return some (.ssh (← ssh d))
    else if Service.ftp.onPort srcPort dstPort then return (← ftp d).map .ftp
    else return none

def ofEtherType (parsers : Parsers) (type : UInt16) (d : Bytes) : Strict Stage :=
  if type = EtherType.ipv4 then ipv4 parsers d
  else if type = EtherType.ipv6 then ipv6 parsers d
  else if type = EtherType.arp then arp d
  else if type ∈ EtherType.vlanTags then vlan d
  else return .unread d

def ofIpProtocol (parsers : Parsers) (protocol : UInt8) (d : Bytes) : Strict Stage :=
  if protocol = IpProtocol.tcp then tcp parsers d
  else if protocol = IpProtocol.udp then udp parsers d
  else if protocol = IpProtocol.icmp then icmp .icmp d
  else if protocol = IpProtocol.icmpv6 then icmp .icmpv6 d
  else if protocol = IpProtocol.ipv4 then ipv4 parsers d
  else if protocol = IpProtocol.ipv6 then ipv6 parsers d
  else return .unread d

def ofApplication (t : Transport) (srcPort dstPort : UInt16) (d : Bytes) : Strict Stage :=
  if d.isEmpty then return .unread []
  else do
    match ← detect? t srcPort dstPort d with
    | some layer => return .header ⟨layer, d.length, 0⟩ (.unread [])
    | none => return .unread d

def stageOf (parsers : Parsers) : Next → Strict Stage
  | .etherType type rest => ofEtherType parsers type rest
  | .ipProtocol protocol rest => ofIpProtocol parsers protocol rest
  | .application t srcPort dstPort rest => ofApplication t srcPort dstPort rest
  | .unread rest => return .unread rest

/-! ## The walk -/

def andThen (onward : Next → Strict Dissection) : Stage → Strict Dissection
  | .header span next => return (← onward next).cons span
  | .unread rest => return ⟨[], rest.length⟩

def walk (parsers : Parsers) : Nat → Next → Strict Dissection
  | 0, next => return ⟨[], next.rest.length⟩
  | room + 1, next => do andThen (walk parsers room) (← stageOf parsers next)

def dissection (parsers : Parsers) (link : LinkType) (d : Bytes) : Strict Dissection :=
  match link with
  | .ethernet => do andThen (walk parsers (maxHeaders - 1)) (← ethernet parsers d)
  | .cooked => do andThen (walk parsers (maxHeaders - 1)) (← cooked d)
  | .loopback => do andThen (walk parsers (maxHeaders - 1)) (← loopback d)
  | .rawIp => walk parsers maxHeaders (rawIp d)
  | .other _ => walk parsers maxHeaders (.unread d)

/-- Decodes a frame.  A frame that is refused is an answer; a fault is none. -/
def decode (parsers : Parsers) (f : Frame) : Strict (Except Error Packet) :=
  if f.isWellFormed then
    return .ok (Packet.ofLayers f (← dissection parsers f.link f.data).layers)
  else return .error (.malformedFrame (.lengthMismatch f.capturedLength f.data.length))

end Strict

end PacketWatch
