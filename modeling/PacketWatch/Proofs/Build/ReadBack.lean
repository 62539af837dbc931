/-
# `PacketWatch.Proofs.Build.ReadBack` — each builder is undone by its reader

A header that was built is read with the values that it was built from, and what follows
it is what it was built around: for a tag with identifier and priority cut to their
fields, for IP and UDP as long as the length fits its field.
-/
import PacketWatch.Proofs.Bytes
import PacketWatch.Layer
import Mathlib.Data.Nat.Bitwise

namespace PacketWatch

open Bytes

namespace Ethernet

theorem read?_frame (src dst : Mac) (type : UInt16) (payload : Bytes) :
    read? (frame src dst type payload) = some ⟨src, dst, type⟩ := by
  have apart : frame src dst type payload =
      dst.toList ++ (src.toList ++ (bytes16 type ++ payload)) := by
    simp only [frame, List.append_assoc]
  have long : ¬ (frame src dst type payload).length < headerLength := by
    simp only [apart, List.length_append, dst.length_toList, src.length_toList, length_bytes16,
      headerLength]
    omega
  have dst_eq : (frame src dst type payload).octetsAt 6 0 = dst := by
    rw [apart, octetsAt_toList]
  have src_eq : (frame src dst type payload).octetsAt 6 6 = src := by
    rw [apart, octetsAt_append dst.length_toList 6 0, octetsAt_toList]
  have type_eq : (frame src dst type payload).word16At 12 = type := by
    rw [apart, word16At_append dst.length_toList 6, word16At_append src.length_toList 0,
      word16At_bytes16]
  rw [read?, if_neg long, dst_eq, src_eq, type_eq]

theorem drop_frame (src dst : Mac) (type : UInt16) (payload : Bytes) :
    (frame src dst type payload).drop headerLength = payload := by
  refine List.drop_left' ?_
  simp [dst.length_toList, src.length_toList, headerLength]

end Ethernet

namespace Vlan

theorem toNat_controlWord (vlanId : UInt16) (priority : UInt8) :
    (controlWord vlanId priority).toNat = priority.toNat % 8 * 8192 + vlanId.toNat % 4096 := by
  rw [controlWord, UInt16.toNat_ofNat']
  omega

theorem read?_tag (vlanId : UInt16) (priority : UInt8) (type : UInt16) (payload : Bytes) :
    read? (tag vlanId priority type payload) = some ⟨vlanId % 4096, priority % 8, type⟩ := by
  have apart : tag vlanId priority type payload =
      bytes16 (controlWord vlanId priority) ++ (bytes16 type ++ payload) := by
    simp only [tag, List.append_assoc]
  have long : ¬ (tag vlanId priority type payload).length < headerLength := by
    simp only [apart, List.length_append, length_bytes16, headerLength]
    omega
  have control : (tag vlanId priority type payload).word16At 0 = controlWord vlanId priority := by
    rw [apart, word16At_bytes16]
  have type_eq : (tag vlanId priority type payload).word16At 2 = type := by
    rw [apart, word16At_append (length_bytes16 _) 0, word16At_bytes16]
  have vlanId_eq : UInt16.ofNat ((controlWord vlanId priority).toNat % 4096) = vlanId % 4096 := by
    apply UInt16.toNat_inj.mp
    rw [UInt16.toNat_ofNat', toNat_controlWord, UInt16.toNat_mod]
    change _ = vlanId.toNat % 4096
    omega
  have priority_eq : UInt8.ofNat ((controlWord vlanId priority).toNat / 8192) = priority % 8 := by
    apply UInt8.toNat_inj.mp
    rw [UInt8.toNat_ofNat', toNat_controlWord, UInt8.toNat_mod]
    change _ = priority.toNat % 8
    omega
  rw [read?, if_neg long, control, type_eq, vlanId_eq, priority_eq]

theorem drop_tag (vlanId : UInt16) (priority : UInt8) (type : UInt16) (payload : Bytes) :
    (tag vlanId priority type payload).drop headerLength = payload := rfl

end Vlan

namespace Arp

theorem length_request (senderMac : Mac) (senderIp targetIp : Ip4) :
    (request senderMac senderIp targetIp).length = 28 := by
  simp [request, senderMac.length_toList, senderIp.length_toList, targetIp.length_toList]

theorem messageLength_request (senderMac : Mac) (senderIp targetIp : Ip4) :
    messageLength (request senderMac senderIp targetIp) = 28 := rfl

theorem read?_request (senderMac : Mac) (senderIp targetIp : Ip4) :
    read? (request senderMac senderIp targetIp) = some ⟨1, some senderIp, some targetIp⟩ := by
  have apart : request senderMac senderIp targetIp =
      (bytes16 1 ++ bytes16 EtherType.ipv4 ++ [6, 4] ++ bytes16 1) ++ (senderMac.toList
        ++ (senderIp.toList ++ (List.replicate 6 0 ++ (targetIp.toList ++ [])))) := by
    simp only [request, List.append_assoc, List.append_nil]
  have resolves : resolvesIpv4 (request senderMac senderIp targetIp) := rfl
  have whole : ¬ ((request senderMac senderIp targetIp).length < 8 ∨
      (request senderMac senderIp targetIp).length
        < messageLength (request senderMac senderIp targetIp)) := by
    rw [length_request, messageLength_request]
    omega
  have sender : (request senderMac senderIp targetIp).octetsAt 4 14 = senderIp := by
    rw [apart, octetsAt_append (n := 8) rfl 4 6, octetsAt_append senderMac.length_toList 4 0,
      octetsAt_toList]
  have target : (request senderMac senderIp targetIp).octetsAt 4 24 = targetIp := by
    rw [apart, octetsAt_append (n := 8) rfl 4 16, octetsAt_append senderMac.length_toList 4 10,
      octetsAt_append senderIp.length_toList 4 6, octetsAt_append List.length_replicate 4 0,
      octetsAt_toList]
  have senderAt : ip4At? (request senderMac senderIp targetIp) 14 = some senderIp := by
    rw [ip4At?, if_pos resolves, sender]
  have targetAt : ip4At? (request senderMac senderIp targetIp) 24 = some targetIp := by
    rw [ip4At?, if_pos resolves, target]
  rw [read?, if_neg whole]
  change some (Arp.mk 1 (ip4At? _ 14) (ip4At? _ 24)) = _
  rw [senderAt, targetAt]

end Arp

/-! ## Headers that declare a length -/

/-- A length that fits its field is declared as it is. -/
theorem toNat_declared {n : Nat} (fits : n ≤ 65535) :
    (UInt16.ofNat (min n 65535)).toNat = n := by
  rw [UInt16.toNat_ofNat', Nat.min_eq_left fits]
  omega

namespace Ipv4

section
variable (checksum : UInt16) (src dst : Ip4) (protocol : UInt8) (total : UInt16)
  (payload : Bytes)

theorem byteAt_headerWith :
    byteAt (headerWith checksum src dst protocol total ++ payload) 0 = 0x45 := rfl

theorem headerLength_headerWith :
    headerLength (headerWith checksum src dst protocol total ++ payload) = 20 := by
  rw [headerLength, byteAt_headerWith]
  rfl

theorem fragmentOffset_headerWith :
    fragmentOffset (headerWith checksum src dst protocol total ++ payload) = 0 := by
  have word : word16At (headerWith checksum src dst protocol total ++ payload) 6 = 0x4000 := rfl
  rw [fragmentOffset, word]
  rfl

theorem totalLength_headerWith :
    (headerWith checksum src dst protocol total ++ payload).word16At 2 = total :=
  word16_bytes16 total

/-- Whatever its checksum is. -/
theorem read?_headerWith :
    read? (headerWith checksum src dst protocol total ++ payload) =
      some ⟨src, dst, protocol, 64, total⟩ := by
  have fixed : ([0x45, 0x00] ++ bytes16 total ++ [0x00, 0x00, 0x40, 0x00, 64, protocol]
      ++ bytes16 checksum).length = 12 := rfl
  have apart : headerWith checksum src dst protocol total ++ payload =
      ([0x45, 0x00] ++ bytes16 total ++ [0x00, 0x00, 0x40, 0x00, 64, protocol]
        ++ bytes16 checksum) ++ (src.toList ++ (dst.toList ++ payload)) := by
    simp only [headerWith, List.append_assoc]
  have whole : hasHeader (headerWith checksum src dst protocol total ++ payload) = true := by
    have length := length_headerWith checksum src dst protocol total
    rw [hasHeader, headerLength_headerWith, byteAt_headerWith, List.length_append, length]
    simp
  have src_eq : (headerWith checksum src dst protocol total ++ payload).octetsAt 4 12 = src := by
    rw [apart, octetsAt_append fixed 4 0, octetsAt_toList]
  have dst_eq : (headerWith checksum src dst protocol total ++ payload).octetsAt 4 16 = dst := by
    rw [apart, octetsAt_append fixed 4 4, octetsAt_append src.length_toList 4 0, octetsAt_toList]
  rw [read?, if_pos whole, src_eq, dst_eq, totalLength_headerWith]
  rfl

end

section
variable (src dst : Ip4) (protocol : UInt8) {payload : Bytes}

theorem length_packet (payload : Bytes) :
    (packet src dst protocol payload).length = 20 + payload.length := by
  rw [packet, header, List.length_append, length_headerWith]

theorem datagramEnd_packet (fits : 20 + payload.length ≤ 65535) :
    datagramEnd (packet src dst protocol payload) = 20 + payload.length := by
  have length := length_packet src dst protocol payload
  have declared := toNat_declared fits
  rw [packet, header] at length ⊢
  rw [datagramEnd, totalLength_headerWith, headerLength_headerWith, declared, length]
  rw [if_neg (by omega)]
  omega

theorem payload_packet (fits : 20 + payload.length ≤ 65535) :
    Ipv4.payload (packet src dst protocol payload) = payload := by
  have whole : datagramEnd _ = (packet src dst protocol payload).length :=
    (datagramEnd_packet src dst protocol fits).trans (length_packet src dst protocol payload).symm
  rw [Ipv4.payload, whole, ← drop_eq_span, packet, header, headerLength_headerWith]
  exact List.drop_left' (length_headerWith _ _ _ _ _)

theorem trailer_packet (fits : 20 + payload.length ≤ 65535) :
    trailer (packet src dst protocol payload) = 0 := by
  rw [trailer, datagramEnd_packet src dst protocol fits, length_packet, Nat.sub_self]

end

end Ipv4

namespace Ipv6

section
variable (src dst : Ip6) (nextHeader : UInt8) (payload : Bytes)

theorem packet_apart :
    packet src dst nextHeader payload =
      ([0x60, 0x00, 0x00, 0x00] ++ bytes16 (UInt16.ofNat (min payload.length 65535))
        ++ [nextHeader, 64]) ++ (src.toList ++ (dst.toList ++ payload)) := by
  simp only [packet, List.append_assoc]

theorem length_packet : (packet src dst nextHeader payload).length = 40 + payload.length := by
  simp only [packet, List.length_append, src.length_toList, dst.length_toList, length_bytes16,
    List.length_cons, List.length_nil]

theorem payloadLength_packet :
    word16At (packet src dst nextHeader payload) 4 = UInt16.ofNat (min payload.length 65535) :=
  word16_bytes16 _

theorem read?_packet :
    read? (packet src dst nextHeader payload) =
      some ⟨src, dst, nextHeader, 64, UInt16.ofNat (min payload.length 65535)⟩ := by
  have fixed : ([0x60, 0x00, 0x00, 0x00] ++ bytes16 (UInt16.ofNat (min payload.length 65535))
      ++ [nextHeader, 64]).length = 8 := rfl
  have version : byteAt (packet src dst nextHeader payload) 0 = 0x60 := rfl
  have whole : hasHeader (packet src dst nextHeader payload) = true := by
    rw [hasHeader, version, length_packet]
    simp [headerLength]
  have src_eq : (packet src dst nextHeader payload).octetsAt 16 8 = src := by
    rw [packet_apart, octetsAt_append fixed 16 0, octetsAt_toList]
  have dst_eq : (packet src dst nextHeader payload).octetsAt 16 24 = dst := by
    rw [packet_apart, octetsAt_append fixed 16 16, octetsAt_append src.length_toList 16 0,
      octetsAt_toList]
  rw [read?, if_pos whole, src_eq, dst_eq, payloadLength_packet]
  rfl

variable {payload}

/-- A datagram without content declares zero, and has then all there is, which is nothing. -/
theorem datagramEnd_packet (fits : payload.length ≤ 65535) :
    datagramEnd (packet src dst nextHeader payload) = 40 + payload.length := by
  rw [datagramEnd, payloadLength_packet, toNat_declared fits, length_packet]
  split
  · rfl
  · exact Nat.min_self _

theorem payload_packet (fits : payload.length ≤ 65535) :
    Ipv6.payload (packet src dst nextHeader payload) = payload := by
  have whole : datagramEnd _ = (packet src dst nextHeader payload).length :=
    (datagramEnd_packet src dst nextHeader fits).trans (length_packet src dst nextHeader _).symm
  rw [Ipv6.payload, whole, ← drop_eq_span, packet]
  refine List.drop_left' ?_
  simp only [List.length_append, src.length_toList, dst.length_toList]
  rfl

theorem trailer_packet (fits : payload.length ≤ 65535) :
    trailer (packet src dst nextHeader payload) = 0 := by
  rw [trailer, datagramEnd_packet src dst nextHeader fits, length_packet, Nat.sub_self]

end

/-- An upper protocol is reached at once. -/
theorem Extension.skip_upper {kind : UInt8} (upper : isExtension kind = false) (d : Bytes) :
    skip kind d = ⟨some kind, d⟩ := by
  rw [skip, if_neg (by simp [upper])]

end Ipv6

/-! ## Transport headers and control messages -/

theorem and_two_pow_ne (b : UInt8) {i : Nat} (small : i < 8) :
    (b &&& UInt8.ofNat (2 ^ i) != 0) = b.toNat.testBit i := by
  have bound : 2 ^ i < UInt8.size := Nat.pow_lt_pow_right (by decide) small
  rw [Bool.eq_iff_iff, bne_iff_ne, ne_eq, ← UInt8.toNat_inj, UInt8.toNat_and,
    UInt8.toNat_ofNat_of_lt' bound, Nat.and_two_pow]
  cases b.toNat.testBit i with
  | false => simp
  | true => simp

/-- The flags of a byte, each by its bit. -/
theorem TcpFlags.ofByte_eq (b : UInt8) :
    ofByte b =
      { fin := b &&& 0x01 != 0, syn := b &&& 0x02 != 0, rst := b &&& 0x04 != 0
        psh := b &&& 0x08 != 0, ack := b &&& 0x10 != 0, urg := b &&& 0x20 != 0 } := by
  have bit := @and_two_pow_ne b
  rw [ofByte, ← bit (show 0 < 8 by decide), ← bit (show 1 < 8 by decide),
    ← bit (show 2 < 8 by decide), ← bit (show 3 < 8 by decide), ← bit (show 4 < 8 by decide),
    ← bit (show 5 < 8 by decide)]
  rfl

/-- A built segment acknowledges one byte exactly if it says that it acknowledges. -/
theorem Tcp.ackNumber_eq (flags : UInt8) :
    ackNumber flags = if flags &&& 0x10 != 0 then 1 else 0 := by
  rw [ackNumber, ← and_two_pow_ne flags (show 4 < 8 by decide)]
  rfl

namespace Tcp

section
variable (srcPort dstPort : UInt16) (seq : UInt32) (flags : UInt8) (payload : Bytes)

theorem length_segment :
    (segment srcPort dstPort seq flags payload).length = 20 + payload.length := by
  simp [segment]
  omega

theorem headerLength_segment :
    headerLength (segment srcPort dstPort seq flags payload) = 20 := by
  have offset : byteAt (segment srcPort dstPort seq flags payload) 12 = 0x50 := rfl
  rw [headerLength, offset]
  rfl

theorem read?_segment :
    read? (segment srcPort dstPort seq flags payload) =
      some ⟨srcPort, dstPort, seq, ackNumber flags, .ofByte flags, 65535⟩ := by
  have whole : hasHeader (segment srcPort dstPort seq flags payload) = true := by
    rw [hasHeader, headerLength_segment, length_segment]
    simp
  have src_eq : word16At (segment srcPort dstPort seq flags payload) 0 = srcPort :=
    word16_bytes16 srcPort
  have dst_eq : word16At (segment srcPort dstPort seq flags payload) 2 = dstPort :=
    word16_bytes16 dstPort
  have seq_eq : word32At (segment srcPort dstPort seq flags payload) 4 = seq :=
    word32_bytes32 seq
  have ack_eq : word32At (segment srcPort dstPort seq flags payload) 8 = ackNumber flags :=
    word32_bytes32 _
  have window_eq : word16At (segment srcPort dstPort seq flags payload) 14 = 65535 :=
    word16_bytes16 65535
  rw [read?, if_pos whole, src_eq, dst_eq, seq_eq, ack_eq, window_eq]
  rfl

theorem drop_segment :
    (segment srcPort dstPort seq flags payload).drop
      (headerLength (segment srcPort dstPort seq flags payload)) = payload := by
  rw [headerLength_segment]
  rfl

end

end Tcp

namespace Udp

section
variable (srcPort dstPort : UInt16) (payload : Bytes)

theorem length_datagram :
    (datagram srcPort dstPort payload).length = 8 + payload.length := by
  simp [datagram]
  omega

theorem length_eq_datagram :
    word16At (datagram srcPort dstPort payload) 4 =
      UInt16.ofNat (min (8 + payload.length) 65535) :=
  word16_bytes16 _

theorem read?_datagram :
    read? (datagram srcPort dstPort payload) =
      some ⟨srcPort, dstPort, UInt16.ofNat (min (8 + payload.length) 65535)⟩ := by
  have whole : ¬ (datagram srcPort dstPort payload).length < headerLength := by
    rw [length_datagram, headerLength]
    omega
  have src_eq : word16At (datagram srcPort dstPort payload) 0 = srcPort := word16_bytes16 srcPort
  have dst_eq : word16At (datagram srcPort dstPort payload) 2 = dstPort := word16_bytes16 dstPort
  rw [read?, if_neg whole, src_eq, dst_eq, length_eq_datagram]

variable {payload}

theorem payload_datagram (fits : 8 + payload.length ≤ 65535) :
    Udp.payload (datagram srcPort dstPort payload) = payload := by
  have whole : payloadEnd (datagram srcPort dstPort payload) =
      (datagram srcPort dstPort payload).length := by
    rw [payloadEnd, length_eq_datagram, toNat_declared fits, length_datagram, headerLength]
    omega
  rw [Udp.payload, whole, ← drop_eq_span]
  rfl

end

end Udp

theorem Icmp.read?_echoWith (checksum : UInt16) (kind : UInt8) (identifier sequence : UInt16)
    (payload : Bytes) :
    read? (echoWith checksum kind identifier sequence payload) = some ⟨kind, 0⟩ := by
  have whole : ¬ (echoWith checksum kind identifier sequence payload).length < headerLength := by
    simp [echoWith, headerLength]
  rw [read?, if_neg whole]
  rfl

theorem Dns.read?_query (transactionId : UInt16) (name : String) :
    read? (query transactionId name) = some ⟨transactionId, false, 1, 0⟩ := by
  have id : word16At (query transactionId name) 0 = transactionId := word16_bytes16 transactionId
  have flags : word16At (query transactionId name) 2 = 0x0100 := rfl
  have questions : word16At (query transactionId name) 4 = 1 := rfl
  have answers : word16At (query transactionId name) 6 = 0 := rfl
  have whole : ¬ (query transactionId name).length < headerLength := by
    simp only [query, List.length_append, List.length_cons, length_bytes16, headerLength]
    omega
  rw [read?, id, flags, questions, answers, if_neg (not_or.mpr ⟨whole, by decide⟩)]
  rfl

end PacketWatch
