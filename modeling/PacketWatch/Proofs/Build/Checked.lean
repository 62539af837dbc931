/-
# `PacketWatch.Proofs.Build.Checked` — building traffic where an overflow is a fault

The builders add lengths, the parts of an address and of a port, and the words of a checksum.
Here they are written once more over operations that fault (`PacketWatch.Proofs.Dissect.Strict`):

    add               a sum of lengths
    addIn             a sum in a word of so many bits
    slice, overwrite  a range of bytes that are written already
    index             the pattern that is in turn

Nothing of this faults for any pattern and any sequence number, and what is built is what the
builders make that run.  An address and a port have room for the remainders that they are made
of; a text with a number of 64 bits is short; and the words of a message of so many bytes fit
into the 32 bits in which the builders add them up (`PacketWatch.Checksum.accumulate`).
-/
import PacketWatch.Proofs.Build.PlainText
import PacketWatch.Proofs.Build.ReadBack
import PacketWatch.Proofs.Dissect.Strict
import PacketWatch.Traffic

namespace PacketWatch

namespace Strict

/-- A sum in a word of so many bits. -/
def addIn (bits m n : Nat) : Strict Nat :=
  if m + n < 2 ^ bits then .ok (m + n) else .error .overflow

/-- Writes over the bytes from an offset on. -/
def overwrite (d : Bytes) (start : Nat) (b : Bytes) : Strict Bytes := do
  let stop ← add start b.length
  let _ ← slice d start stop
  return d.take start ++ b ++ d.drop stop

theorem addIn_eq {bits m n : Nat} (fits : m + n < 2 ^ bits) : addIn bits m n = .ok (m + n) :=
  if_pos fits

theorem overwrite_eq {d b : Bytes} {start : Nat} (inside : start + b.length ≤ d.length)
    (short : d.length < 0x100000000) :
    overwrite d start b = .ok (d.take start ++ b ++ d.drop (start + b.length)) := by
  rw [overwrite, add_eq (Nat.lt_of_le_of_lt inside short), ok_bind,
    slice_eq (Nat.le_add_right _ _) inside]
  rfl

namespace Build

/-! ## The checksum -/

/-- The sum of the words is the checked one that the builders use. -/
def sum (words : List UInt16) : Strict UInt32 :=
  (Checksum.accumulate words).mapError fun | .addition => .overflow

def fold (sum : Nat) : Strict Nat :=
  if sum < 65536 then return sum
  else
    match _h : addIn 32 (sum % 65536) (sum / 65536) with
    | .error fault => .error fault
    | .ok less => fold less
termination_by sum
decreasing_by
  unfold addIn at _h
  split at _h
  · obtain rfl := Except.ok.inj _h
    omega
  · cases _h

def checksum (message : Bytes) : Strict UInt16 := do
  return ~~~ UInt16.ofNat (← fold (← sum (Checksum.words message)).toNat)

theorem fold_eq {sum : Nat} (fits : sum < 2 ^ 32) : fold sum = .ok (Checksum.fold sum) := by
  fun_induction Checksum.fold sum with
  | case1 sum folded =>
      unfold fold
      exact if_pos folded
  | case2 sum carries ih =>
      have less : sum % 65536 + sum / 65536 < 2 ^ 32 := by omega
      unfold fold
      rw [if_neg carries]
      split
      · rename_i fault
        cases fault.symm.trans (addIn_eq less)
      · rename_i same
        cases same.symm.trans (addIn_eq less)
        exact ih less

/-- Folding the sum faults nowhere, so only adding up can. -/
theorem checksum_eq (message : Bytes) :
    checksum message = (Checksum.internet message).mapError fun | .addition => .overflow := by
  rw [checksum, Checksum.internet, sum]
  cases Checksum.accumulate (Checksum.words message) with
  | error e => rfl
  | ok sum =>
      show (do return ~~~ UInt16.ofNat (← fold sum.toNat)) = _
      rw [fold_eq sum.toNat_lt]
      rfl

theorem checksum_short {message : Bytes} (short : message.length ≤ 131074) :
    checksum message = .ok (Checksum.ofShort message short) := by
  rw [checksum_eq, Checksum.internet_ofShort short]
  rfl

/-! ## Headers -/

def frame (src dst : Mac) (etherType : UInt16) (payload : Bytes) : Strict Bytes := do
  let _capacity ← add 14 payload.length
  return Ethernet.frame src dst etherType payload

/-- The checksum is written into the finished header. -/
def ipv4Header (src dst : Ip4) (protocol : UInt8) (total : UInt16) : Strict Bytes := do
  let written := Ipv4.headerWith 0 src dst protocol total
  let checksum ← checksum (← slice written 0 20)
  overwrite written 10 (bytes16 checksum)

def ipv4Packet (src dst : Ip4) (protocol : UInt8) (payload : Bytes) : Strict Bytes := do
  let length ← add 20 payload.length
  return (← ipv4Header src dst protocol (UInt16.ofNat (min length 65535))) ++ payload

def ipv6Packet (src dst : Ip6) (nextHeader : UInt8) (payload : Bytes) : Strict Bytes := do
  let _capacity ← add 40 payload.length
  return Ipv6.packet src dst nextHeader payload

def segment (srcPort dstPort : UInt16) (seq : UInt32) (flags : UInt8) (payload : Bytes) :
    Strict Bytes := do
  let _capacity ← add 20 payload.length
  return Tcp.segment srcPort dstPort seq flags payload

def datagram (srcPort dstPort : UInt16) (payload : Bytes) : Strict Bytes := do
  let length ← add 8 payload.length
  return bytes16 srcPort ++ bytes16 dstPort ++ bytes16 (UInt16.ofNat (min length 65535)) ++ [0, 0]
    ++ payload

def echoRequest (identifier sequence : UInt16) (payload : Bytes) : Strict Bytes := do
  let _capacity ← add 8 payload.length
  let written := Icmp.echoWith 0 8 identifier sequence payload
  overwrite written 2 (bytes16 (← checksum written))

/-- Labels behind their lengths, each cut to the longest one. -/
def labels : List Bytes → Strict Bytes
  | [] => return [0]
  | part :: parts => do
    let label ← slice part 0 (min part.length Dns.maxLabel)
    return UInt8.ofNat label.length :: label ++ (← labels parts)

def query (transactionId : UInt16) (name : String) : Strict Bytes := do
  let _capacity ← add (← add 12 name.utf8ByteSize) 6
  let parts := (name.toList.splitOn '.').filter fun part => !part.isEmpty
  let question ← labels (parts.map fun part => Bytes.ofText (String.ofList part))
  return bytes16 transactionId ++ [0x01, 0x00, 0x00, 0x01, 0, 0, 0, 0, 0, 0] ++ question
    ++ [0x00, 0x01, 0x00, 0x01]

theorem frame_eq (src dst : Mac) (etherType : UInt16) {payload : Bytes}
    (short : payload.length ≤ 65535) :
    frame src dst etherType payload = .ok (Ethernet.frame src dst etherType payload) := by
  rw [frame, add_eq (by omega)]
  rfl

theorem ipv4Header_eq (src dst : Ip4) (protocol : UInt8) (total : UInt16) :
    ipv4Header src dst protocol total = .ok (Ipv4.header src dst protocol total) := by
  have length := Ipv4.length_headerWith 0 src dst protocol total
  have whole : (Ipv4.headerWith 0 src dst protocol total).span 0 20 =
      Ipv4.headerWith 0 src dst protocol total := by
    rw [← length, Bytes.span_whole]
  unfold ipv4Header
  dsimp only
  rw [slice_eq (by decide) (Nat.le_of_eq length.symm), ok_bind, whole,
    checksum_short (Ipv4.short_headerWith ..), ok_bind,
    overwrite_eq (by rw [length_bytes16]; omega) (by omega)]
  rfl

theorem ipv4Packet_eq (src dst : Ip4) (protocol : UInt8) {payload : Bytes}
    (short : payload.length ≤ 65535) :
    ipv4Packet src dst protocol payload = .ok (Ipv4.packet src dst protocol payload) := by
  rw [ipv4Packet, add_eq (by omega), ok_bind, ipv4Header_eq]
  rfl

theorem ipv6Packet_eq (src dst : Ip6) (nextHeader : UInt8) {payload : Bytes}
    (short : payload.length ≤ 65535) :
    ipv6Packet src dst nextHeader payload = .ok (Ipv6.packet src dst nextHeader payload) := by
  rw [ipv6Packet, add_eq (by omega)]
  rfl

theorem segment_eq (srcPort dstPort : UInt16) (seq : UInt32) (flags : UInt8) {payload : Bytes}
    (short : payload.length ≤ 65535) :
    segment srcPort dstPort seq flags payload =
      .ok (Tcp.segment srcPort dstPort seq flags payload) := by
  rw [segment, add_eq (by omega)]
  rfl

theorem datagram_eq (srcPort dstPort : UInt16) {payload : Bytes}
    (short : payload.length ≤ 65535) :
    datagram srcPort dstPort payload = .ok (Udp.datagram srcPort dstPort payload) := by
  rw [datagram, add_eq (by omega)]
  rfl

theorem echoRequest_eq (identifier sequence : UInt16) {payload : Bytes}
    (short : payload.length ≤ 131066) :
    echoRequest identifier sequence payload =
      .ok (Icmp.shortEchoRequest identifier sequence payload short) := by
  have length := Icmp.length_echoWith 0 8 identifier sequence payload
  rw [echoRequest, add_eq (by omega), ok_bind]
  dsimp only
  rw [checksum_short (by omega), ok_bind, overwrite_eq (by rw [length_bytes16]; omega) (by omega)]
  rfl

theorem labels_eq (parts : List Bytes) :
    labels parts = .ok (Dns.writeLabels (parts.map (·.take Dns.maxLabel))) := by
  induction parts with
  | nil => rfl
  | cons part parts ih =>
      have kept : part.span 0 (min part.length Dns.maxLabel) = part.take Dns.maxLabel := by
        rw [Bytes.span, List.drop_zero, Nat.min_comm, ← List.take_take, List.take_length]
      rw [labels, slice_eq (Nat.zero_le _) (Nat.min_le_left _ _), ok_bind, kept, ih]
      rfl

theorem query_eq (transactionId : UInt16) {name : String} (short : name.utf8ByteSize ≤ 65535) :
    query transactionId name = .ok (Dns.query transactionId name) := by
  rw [query, add_eq (by omega), ok_bind, add_eq (by omega), ok_bind]
  dsimp only
  rw [labels_eq, List.map_map]
  rfl

end Build

end Strict

/-! ## What the traffic carries -/

namespace Traffic

open Bytes Text

variable (seq : UInt64)

/-- The first line of a request. -/
def requestLine : String := "GET /item/" ++ toString seq.toNat ++ " HTTP/1.1"

/-- The first label of a name. -/
def hostLabel : String := "host" ++ toString seq.toNat

theorem request_eq : request seq = requestLine seq ++ ("\r\n" ++ "Host: mock\r\n\r\n") := by
  have behind : " HTTP/1.1\r\nHost: mock\r\n\r\n" =
      " HTTP/1.1" ++ ("\r\n" ++ "Host: mock\r\n\r\n") := rfl
  rw [request, requestLine, behind, String.append_assoc, String.append_assoc, String.append_assoc]

theorem isPlain_requestLine : IsPlain (requestLine seq) :=
  ((by decide : IsPlain "GET /item/").append (isPlain_toString _)).append (by decide)

theorem isPlain_hostLabel : IsPlain (hostLabel seq) :=
  (by decide : IsPlain "host").append (isPlain_toString _)

theorem length_requestLine_le : (requestLine seq).length ≤ 39 := by
  have digits := length_toString_le seq
  rw [requestLine, String.length_append, String.length_append]
  change 10 + _ + 9 ≤ 39
  omega

theorem length_hostLabel_le : (hostLabel seq).length ≤ 24 := by
  have digits := length_toString_le seq
  rw [hostLabel, String.length_append]
  change 4 + _ ≤ 24
  omega

theorem length_request_le : (ofText (request seq)).length ≤ 55 := by
  have line := length_requestLine_le seq
  rw [request_eq, ofText_append, List.length_append, length_ofText (isPlain_requestLine seq)]
  change _ + 16 ≤ 55
  omega

theorem dot_not_mem_hostLabel : '.' ∉ (hostLabel seq).toList := by
  rw [hostLabel, String.toList_append, List.mem_append]
  rintro (letter | digit)
  · exact absurd letter (by decide)
  · exact absurd (digit_of_mem_toString _ _ digit).1 (by decide)

/-- A part of a name stands between its dots. -/
theorem not_dot_of_mem {part : List Char} (whole : '.' ∉ part) : ∀ c ∈ part, (c == '.') = false :=
  fun _ hc => beq_eq_false_iff_ne.mpr (ne_of_mem_of_not_mem hc whole)

/-- The labels of a name are those that it is written with, none of them cut. -/
theorem labels_hostName : Dns.labels (hostName seq) =
    [ofText (hostLabel seq), ofText "example", ofText "com"] := by
  have parts : (hostName seq).toList.splitOn '.' =
      [(hostLabel seq).toList, "example".toList, "com".toList] := by
    have name : (hostName seq).toList =
        (hostLabel seq).toList ++ '.' :: ("example".toList ++ '.' :: "com".toList) :=
      String.toList_append
    rw [name, List.splitOn,
      List.splitOnP_append_cons_of_forall_mem (not_dot_of_mem (dot_not_mem_hostLabel seq)) _ rfl,
      List.splitOnP_append_cons_of_forall_mem (not_dot_of_mem (by decide)) _ rfl,
      List.splitOnP_eq_singleton (not_dot_of_mem (by decide))]
  have some : (hostLabel seq).toList.isEmpty = false := by
    rw [hostLabel, String.toList_append]
    rfl
  have uncut : (ofText (hostLabel seq)).take Dns.maxLabel = ofText (hostLabel seq) := by
    refine List.take_of_length_le ?_
    rw [length_ofText (isPlain_hostLabel seq)]
    exact Nat.le_trans (length_hostLabel_le seq) (by decide)
  rw [Dns.labels, parts, List.filter_cons_of_pos (by rw [some]; rfl)]
  change [(ofText (String.ofList (hostLabel seq).toList)).take Dns.maxLabel, _, _] = _
  rw [String.ofList_toList, uncut]
  rfl

theorem length_query_le : (Dns.query (low16 seq) (hostName seq)).length ≤ 54 := by
  have host := length_hostLabel_le seq
  rw [← length_ofText (isPlain_hostLabel seq)] at host
  rw [Dns.query, labels_hostName]
  have second : (ofText "example").length = 7 := by decide
  have third : (ofText "com").length = 3 := by decide
  simp only [Dns.writeLabels, List.length_append, List.length_cons, List.length_nil,
    length_bytes16]
  omega

theorem utf8ByteSize_hostName_le : (hostName seq).utf8ByteSize ≤ 36 := by
  have host := length_hostLabel_le seq
  have name : hostName seq = hostLabel seq ++ ".example.com" := rfl
  have plain : IsPlain (hostName seq) := (isPlain_hostLabel seq).append (by decide)
  rw [← length_ofText_eq_utf8ByteSize, length_ofText plain, name, String.length_append]
  change _ + 12 ≤ 36
  omega

/-- The patterns that the mixed one takes in turn. -/
def cycle : List Traffic := [.tcp, .dns, .arp, .icmp, .ipv6, .garbage]

theorem cycle_inTurn : cycle[seq.toNat % 6]? = some (inTurn seq) := by
  have inside : seq.toNat % 6 < 6 := Nat.mod_lt _ (by decide)
  unfold inTurn
  generalize seq.toNat % 6 = i at inside
  match i, inside with
  | 0, _ | 1, _ | 2, _ | 3, _ | 4, _ | 5, _ => rfl

/-- The single pattern that a frame is of. -/
def taken : Traffic → Traffic
  | mixed => inTurn seq
  | t => t

theorem bytes_eq_single (t : Traffic) : t.bytes seq = single seq (t.taken seq) := by
  cases t with
  | mixed | tcp | dns | arp | icmp | ipv6 | garbage => rfl

end Traffic

/-! ## Traffic -/

namespace Strict.Build

/-- A single pattern, for a client with the given last byte of its address and the given port. -/
def single (seq : UInt64) (host : UInt8) (port : UInt16) : Traffic → Strict Bytes
  | .tcp => do
    let segment ← segment port 80 (UInt32.ofNat seq.toNat) 0x18 (Bytes.ofText (Traffic.request seq))
    overIpv4 IpProtocol.tcp segment
  | .dns => do
    let query ← query (Traffic.low16 seq) (Traffic.hostName seq)
    overIpv4 IpProtocol.udp (← datagram port 53 query)
  | .arp =>
    frame Traffic.clientMac Traffic.broadcastMac EtherType.arp
      (Arp.request Traffic.clientMac client Traffic.server)
  | .icmp => do
    let echo ← echoRequest 0x4d4b (Traffic.low16 seq) (Bytes.ofText "packetscope")
    overIpv4 IpProtocol.icmp echo
  | .ipv6 => do
    let datagram ← datagram port 9000 (bytes64 seq)
    frame Traffic.clientMac Traffic.serverMac EtherType.ipv6
      (← ipv6Packet client6 Traffic.server6 IpProtocol.udp datagram)
  | .garbage | .mixed => do
    let length ← add 1 (seq.toNat % 13)
    return Traffic.noise length ((seq * 0x9e3779b97f4a7c15) ||| 1)
where
  client : Ip4 := ⟨[192, 168, 0, host], rfl⟩
  client6 : Ip6 := ⟨[0xfd, 0, 0, 0, 0, 0, 0, 0, 0, 0, 0, 0, 0, 0, 0, host], rfl⟩
  overIpv4 (protocol : UInt8) (payload : Bytes) : Strict Bytes := do
    frame Traffic.clientMac Traffic.serverMac EtherType.ipv4
      (← ipv4Packet client Traffic.server protocol payload)

/-- The pattern that is taken; the mixed one looks it up. -/
def inTurn (seq : UInt64) : Traffic → Strict Traffic
  | .mixed =>
    match Traffic.cycle[seq.toNat % 6]? with
    | some t => return t
    | none => .error (.index (seq.toNat % 6) Traffic.cycle.length)
  | t => return t

def traffic (t : Traffic) (seq : UInt64) : Strict Bytes := do
  let host ← addIn 8 (seq.toNat % 250) 2
  let port ← addIn 16 49152 (seq.toNat % 16000)
  single seq (UInt8.ofNat host) (UInt16.ofNat port) (← inTurn seq t)

theorem overIpv4_eq (seq : UInt64) (protocol : UInt8) {payload : Bytes}
    (short : payload.length ≤ 65515) :
    single.overIpv4 (Traffic.host seq) protocol payload =
      .ok (Traffic.overIpv4 seq protocol payload) := by
  rw [single.overIpv4, ipv4Packet_eq _ _ _ (by omega), ok_bind, frame_eq]
  · rfl
  · rw [Ipv4.length_packet]
    omega

theorem single_eq (seq : UInt64) (t : Traffic) :
    single seq (Traffic.host seq) (Traffic.clientPort seq) t = .ok (Traffic.single seq t) := by
  cases t with
  | tcp =>
      have short := Traffic.length_request_le seq
      rw [single, segment_eq _ _ _ _ (by omega), ok_bind, overIpv4_eq]
      · rfl
      · rw [Tcp.length_segment]
        omega
  | dns =>
      have short := Traffic.length_query_le seq
      have name := Traffic.utf8ByteSize_hostName_le seq
      rw [single, query_eq _ (by omega), ok_bind, datagram_eq _ _ (by omega), ok_bind, overIpv4_eq]
      · rfl
      · rw [Udp.length_datagram]
        omega
  | arp => exact frame_eq _ _ _ (by rw [Arp.length_request]; omega)
  | icmp =>
      rw [single, echoRequest_eq _ _ (by decide), ok_bind, overIpv4_eq]
      · rfl
      · rw [Icmp.shortEchoRequest, Icmp.length_echoWith]
        decide
  | ipv6 =>
      rw [single, datagram_eq _ _ (by rw [length_bytes64]; decide), ok_bind, ipv6Packet_eq, ok_bind,
        frame_eq]
      · rfl
      · rw [Ipv6.length_packet, Udp.length_datagram, length_bytes64]
        omega
      · rw [Udp.length_datagram, length_bytes64]
        omega
  | garbage | mixed =>
      rw [single, add_eq (by omega)]
      rfl

theorem inTurn_eq (seq : UInt64) (t : Traffic) : inTurn seq t = .ok (t.taken seq) := by
  cases t with
  | mixed => rw [inTurn, Traffic.cycle_inTurn, Traffic.taken]; rfl
  | tcp | dns | arp | icmp | ipv6 | garbage => rfl

/-- **Building traffic overflows nowhere**, and what is built is what the builders make that
run. -/
theorem traffic_eq (t : Traffic) (seq : UInt64) : traffic t seq = .ok (t.bytes seq) := by
  rw [traffic, addIn_eq (by omega), ok_bind, addIn_eq (by omega), ok_bind, inTurn_eq, ok_bind,
    Traffic.bytes_eq_single]
  exact single_eq seq (t.taken seq)

end Strict.Build

end PacketWatch
