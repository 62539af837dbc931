/-
# `PacketWatch.Proofs.Dissect.Stages` — no stage faults

Behind a header whose documented checks pass, and in front of all bytes where the library
is not asked, each index and slice that a stage takes is inside its bytes, each clamp has
its bounds in order, and no length overflows or goes below zero.  What the fields of the
library's header say does not matter.

Where the library answers, with the fields of the bytes, whenever its checks pass, each
stage is the total stage of the same name.
-/
import PacketWatch.Proofs.Dissect.Strict
import PacketWatch.Proofs.Dissect.Headers

namespace PacketWatch.Strict

open Bytes (length_span byteAt_span word16At_take)

/-! ## Asking the library -/

section
variable {α : Type} {parse : Parser α} {read? : Bytes → Option α} {length : Bytes → Nat}
  {behind : α → Bytes → Bytes → Strict Stage} {d : Bytes}

/-- Such a stage faults nowhere if it does not behind a header whose checks pass. -/
theorem parsed_ok (documented : parse.Documented read? length)
    (ok : ∀ h, (read? d).isSome → ∃ stage, behind h (d.take (length d)) d = .ok stage) :
    ∃ stage, parsed parse behind d = .ok stage := by
  unfold parsed
  split
  · exact ⟨_, rfl⟩
  · rename_i h taken found
    obtain ⟨passed, rfl⟩ := documented d h taken found
    exact ok h passed

/-- If the library answers whenever its checks pass, it is the total stage. -/
theorem parsed_eq {stage : Stage} (documented : parse.Documented read? length)
    (complete : parse.Complete read?) (unread : read? d = none → stage = .unread d)
    (same : ∀ h, read? d = some h → behind h (d.take (length d)) d = .ok stage) :
    parsed parse behind d = .ok stage := by
  unfold parsed
  cases read : read? d with
  | none =>
      split
      · rw [unread read]
        rfl
      · rename_i h taken found
        have passed := (documented d h taken found).1
        rw [read] at passed
        cases passed
  | some h =>
      obtain ⟨taken, found⟩ := complete d h read
      obtain ⟨-, rfl⟩ := documented d h taken found
      rw [found]
      exact same h read

end

/-! ## Link headers -/

theorem ethernetBehind_eq {d : Bytes} (h : Ethernet) (long : Ethernet.headerLength ≤ d.length) :
    ethernetBehind h (d.take Ethernet.headerLength) d =
      .ok (.header ⟨.ethernet h, Ethernet.headerLength, 0⟩
        (.etherType h.etherType (d.drop Ethernet.headerLength))) := by
  rw [ethernetBehind, List.length_take_of_le long, sliceFrom_eq long]
  rfl

theorem ethernet_ok {parsers : Parsers} (documented : parsers.Documented) (d : Bytes) :
    ∃ stage, ethernet parsers d = .ok stage :=
  parsed_ok documented.ethernet fun h passed => ⟨_, ethernetBehind_eq h (Ethernet.whole passed)⟩

theorem ethernet_eq {parsers : Parsers} (documented : parsers.Documented)
    (complete : parsers.Complete) (d : Bytes) :
    ethernet parsers d = .ok (Stage.ethernet d) := by
  refine parsed_eq documented.ethernet complete.ethernet ?_ ?_
  · intro none
    rw [Stage.ethernet, none]
  · intro h read
    rw [ethernetBehind_eq h (Ethernet.whole (Option.isSome_of_eq_some read)), Stage.ethernet, read]

theorem cooked_eq (d : Bytes) : cooked d = .ok (Stage.cooked d) := by
  unfold cooked Stage.cooked CookedCapture.read?
  split
  · rfl
  · rename_i long
    have long : 16 ≤ d.length := Nat.le_of_not_lt long
    have address : d.span 6 (6 + CookedCapture.addressLength d) =
        (d.drop 6).take (CookedCapture.addressLength d) := by
      rw [Bytes.span, List.drop_take, Nat.add_sub_cancel_left]
    rw [← address]
    have rest : sliceFrom d CookedCapture.headerLength = _ := sliceFrom_eq long
    simp (disch := omega) only [index_eq, ok_bind, add_eq, slice_eq, pure_eq_ok]
    rw [rest]
    rfl

theorem loopback_eq (d : Bytes) : loopback d = .ok (Stage.loopback d) := by
  unfold loopback Stage.loopback Loopback.read?
  by_cases short : d.length < Loopback.headerLength
  · rw [get?_eq_none short, if_pos short]
    rfl
  · have long : 4 ≤ d.length := Nat.le_of_not_lt short
    have length : (d.span 0 4).length = 4 := by rw [length_span]; omega
    have header : get? d 0 Loopback.headerLength = some (d.span 0 4) := get?_eq (by omega) long
    have rest : sliceFrom d Loopback.headerLength = _ := sliceFrom_eq long
    rw [header, if_neg short]
    simp (disch := omega) only [index_eq, ok_bind, pure_eq_ok, byteAt_span, Nat.zero_add]
    rw [rest]
    rfl

theorem vlan_eq (d : Bytes) : vlan d = .ok (Stage.vlan d) := by
  unfold vlan Stage.vlan Vlan.read?
  simp (disch := omega) only [word16?_eq, ok_bind]
  by_cases short : d.length < Vlan.headerLength
  · have noType : ¬2 + 2 ≤ d.length := Nat.not_le_of_lt short
    rw [if_pos short, if_neg noType]
    split
    · rename_i here
      cases here
    · rfl
  · have long : 4 ≤ d.length := Nat.le_of_not_lt short
    rw [if_neg short, if_pos (by omega), if_pos long]
    have rest : sliceFrom d Vlan.headerLength = _ := sliceFrom_eq long
    rw [rest]
    rfl

/-! ## Network headers -/

/-- Four bytes one by one are the octets from the first of them on. -/
theorem ofPrefix_bytes {d : Bytes} {offset : Nat} (inside : offset + 4 ≤ d.length) :
    Octets.ofPrefix 4 [d.byteAt (offset + 0), d.byteAt (offset + 1), d.byteAt (offset + 2),
      d.byteAt (offset + 3)] = d.octetsAt 4 offset := by
  have there (k : Nat) : d.byteAt (offset + k) = Bytes.byteAt (d.drop offset) k := by
    simp [Bytes.byteAt]
  have length : 4 ≤ (d.drop offset).length := by rw [List.length_drop]; omega
  rw [there, there, there, there, Bytes.octetsAt]
  generalize d.drop offset = b at length
  rcases b with _ | ⟨_, _ | ⟨_, _ | ⟨_, _ | ⟨_, _⟩⟩⟩⟩
  case cons.cons.cons.cons => rfl
  all_goals simp at length

theorem ip4At?_eq {d : Bytes} {resolvesIpv4 : Bool} {offset : Nat} (fits : offset + 4 < 0x100000000)
    (inside : resolvesIpv4 = true → offset + 4 ≤ d.length) :
    ip4At? resolvesIpv4 d offset =
      .ok (if resolvesIpv4 then some (d.octetsAt 4 offset) else none) := by
  unfold ip4At?
  split
  · rename_i resolves
    have inside := inside resolves
    have length : (d.span offset (offset + 4)).length = 4 := by rw [length_span]; omega
    rw [add_eq fits, ok_bind, slice_eq (by omega) inside, ok_bind]
    simp (disch := omega) only [index_eq, ok_bind, pure_eq_ok, byteAt_span]
    rw [ofPrefix_bytes inside]
  · rfl

theorem arp_eq (d : Bytes) : arp d = .ok (Stage.arp d) := by
  unfold arp
  simp (disch := omega) only [word16?_eq, ok_bind]
  by_cases short : d.length < 8
  · have read : Arp.read? d = none := if_pos (.inl short)
    rw [if_neg (show ¬6 + 2 ≤ d.length by omega), Stage.arp, read]
    split
    · rename_i here
      cases here
    · rfl
  · have sizes : (d.byteAt 4).toNat + (d.byteAt 5).toNat < 512 := by
      have := (d.byteAt 4).toNat_lt
      have := (d.byteAt 5).toNat_lt
      omega
    rw [if_pos (by omega), if_pos (by omega), if_pos (by omega)]
    simp (disch := omega) only [index_eq, add_eq, mul_eq, ok_bind]
    by_cases cut : d.length < 8 + 2 * ((d.byteAt 4).toNat + (d.byteAt 5).toNat)
    · have read : Arp.read? d = none := if_pos (.inr cut)
      rw [if_pos cut, Stage.arp, read]
      rfl
    · -- an address is read only if its size was compared to four
      have ipv4Sized : Arp.resolvesIpv4 d = true → (d.byteAt 5).toNat = 4 :=
        fun resolves => beq_iff_eq.mp (Bool.and_eq_true_iff.mp resolves).2
      have sender : ip4At? (Arp.resolvesIpv4 d) d (8 + (d.byteAt 4).toNat) =
          .ok (Arp.ip4At? d (8 + Arp.hardwareSize d)) :=
        ip4At?_eq (by omega) fun resolves => by have := ipv4Sized resolves; omega
      have target : ip4At? (Arp.resolvesIpv4 d) d
          (8 + 2 * (d.byteAt 4).toNat + (d.byteAt 5).toNat) =
          .ok (Arp.ip4At? d (8 + 2 * Arp.hardwareSize d + Arp.protocolSize d)) :=
        ip4At?_eq (by omega) fun resolves => by have := ipv4Sized resolves; omega
      have read : Arp.read? d = some _ := if_neg (not_or.mpr ⟨short, cut⟩)
      unfold Arp.resolvesIpv4 Arp.protocolSize at sender target
      rw [if_neg cut, sender, ok_bind, target, ok_bind, sliceFrom_eq (by omega), Stage.arp, read]
      rfl

/-- Whatever length a header declares, the datagram ends behind the header and inside
the bytes. -/
theorem ipv4End_ok (h : Ipv4) {headerLength captured : Nat} (whole : headerLength ≤ captured) :
    ∃ stop, ipv4End h headerLength captured = .ok stop ∧ headerLength ≤ stop ∧
      stop ≤ captured := by
  unfold ipv4End
  split
  · exact ⟨captured, rfl, whole, Nat.le_refl _⟩
  · refine ⟨_, clamp_eq whole, ?_, ?_⟩ <;> omega

theorem ipv4End_eq {d : Bytes} {h : Ipv4} (read : Ipv4.read? d = some h)
    (whole : Ipv4.headerLength d ≤ d.length) :
    ipv4End h (Ipv4.headerLength d) d.length = .ok (Ipv4.datagramEnd d) := by
  have total : h.totalLength = d.word16At 2 := by
    unfold Ipv4.read? at read
    split at read
    · exact (Option.some.inj read) ▸ rfl
    · cases read
  rw [ipv4End, clamp_eq whole, Ipv4.datagramEnd, total]
  by_cases zero : d.word16At 2 = 0
  · simp [zero]
  · have declared : (d.word16At 2).toNat ≠ 0 := fun h => zero (UInt16.toNat_inj.mp h)
    simp only [zero, declared, if_false]
    -- raised to the header first and cut to the capture then, or the other way round
    refine congrArg Except.ok ?_
    omega

theorem ipv4Behind_eq {d : Bytes} {h : Ipv4} {stop : Nat}
    (least : 20 ≤ Ipv4.headerLength d) (whole : Ipv4.headerLength d ≤ d.length)
    (ends : ipv4End h (Ipv4.headerLength d) d.length = .ok stop) :
    ipv4Behind h (d.take (Ipv4.headerLength d)) d =
      .ok (.header ⟨.ipv4 h, Ipv4.headerLength d, d.length - stop⟩
        (if (d.word16At 6).toNat % 8192 = 0
          then .ipProtocol h.protocol (d.span (Ipv4.headerLength d) stop)
          else .unread (d.span (Ipv4.headerLength d) stop))) := by
  obtain ⟨stop', ends', fromHeader, toCaptured⟩ := ipv4End_ok h whole
  cases ends.symm.trans ends'
  have fragment : word16? (d.take (Ipv4.headerLength d)) 6 = .ok (some (d.word16At 6)) := by
    rw [word16?_eq (by omega), List.length_take_of_le whole, if_pos (by omega),
      word16At_take (by omega)]
  rw [ipv4Behind, List.length_take_of_le whole, ends, ok_bind, sub_eq toCaptured, ok_bind,
    slice_eq fromHeader toCaptured, ok_bind, fragment]
  rfl

theorem ipv4_ok {parsers : Parsers} (documented : parsers.Documented) (d : Bytes) :
    ∃ stage, ipv4 parsers d = .ok stage := by
  refine parsed_ok documented.ipv4 fun h passed => ?_
  obtain ⟨least, whole⟩ := Ipv4.whole passed
  obtain ⟨stop, ends, -, -⟩ := ipv4End_ok h whole
  exact ⟨_, ipv4Behind_eq least whole ends⟩

theorem ipv4_eq {parsers : Parsers} (documented : parsers.Documented)
    (complete : parsers.Complete) (d : Bytes) : ipv4 parsers d = .ok (Stage.ipv4 d) := by
  refine parsed_eq documented.ipv4 complete.ipv4 ?_ ?_
  · intro none
    rw [Stage.ipv4, none]
  · intro h read
    obtain ⟨least, whole⟩ := Ipv4.whole (Option.isSome_of_eq_some read)
    rw [ipv4Behind_eq least whole (ipv4End_eq read whole), Stage.ipv4, read]
    rfl

theorem skip_eq (kind : UInt8) (d : Bytes) : skip kind d = .ok (Ipv6.Extension.skip kind d) := by
  fun_induction Ipv6.Extension.skip kind d with
  | case1 kind d extension cut =>
      unfold skip
      rw [if_pos extension]
      split
      · rename_i fault
        rw [passExtension_eq] at fault
        cases fault
      · rfl
      · rename_i passed
        rw [passExtension_eq, cut] at passed
        cases passed
  | case2 kind d extension n length ih =>
      unfold skip
      rw [if_pos extension]
      split
      · rename_i fault
        rw [passExtension_eq] at fault
        cases fault
      · rename_i cut
        rw [passExtension_eq, length] at cut
        cases cut
      · rename_i passed
        rw [passExtension_eq, length] at passed
        cases passed
        exact ih
  | case3 kind d upper =>
      unfold skip
      exact if_neg upper

theorem ipv6End_ok (h : Ipv6) {captured : Nat} (whole : Ipv6.headerLength ≤ captured) :
    ∃ stop, ipv6End h Ipv6.headerLength captured = .ok stop ∧ Ipv6.headerLength ≤ stop ∧
      stop ≤ captured := by
  unfold ipv6End
  split
  · exact ⟨captured, rfl, whole, Nat.le_refl _⟩
  · have small := h.payloadLength.toNat_lt
    have fits : Ipv6.headerLength + h.payloadLength.toNat < 0x100000000 := by
      unfold Ipv6.headerLength
      omega
    rw [add_eq fits]
    refine ⟨_, rfl, ?_, ?_⟩ <;> omega

theorem ipv6End_eq {d : Bytes} {h : Ipv6} (read : Ipv6.read? d = some h) :
    ipv6End h Ipv6.headerLength d.length = .ok (Ipv6.datagramEnd d) := by
  have declared : h.payloadLength = d.word16At 4 := by
    unfold Ipv6.read? at read
    split at read
    · exact (Option.some.inj read) ▸ rfl
    · cases read
  have small := (d.word16At 4).toNat_lt
  have fits : Ipv6.headerLength + (d.word16At 4).toNat < 0x100000000 := by
    unfold Ipv6.headerLength
    omega
  rw [ipv6End, Ipv6.datagramEnd, declared, add_eq fits]
  by_cases zero : d.word16At 4 = 0
  · simp [zero]
  · have some : (d.word16At 4).toNat ≠ 0 := fun h => zero (UInt16.toNat_inj.mp h)
    simp only [zero, some, if_false]
    rfl

theorem ipv6Behind_eq {d : Bytes} {h : Ipv6} {stop : Nat} (whole : Ipv6.headerLength ≤ d.length)
    (ends : ipv6End h Ipv6.headerLength d.length = .ok stop) :
    ipv6Behind h (d.take Ipv6.headerLength) d =
      let walk := Ipv6.Extension.skip h.nextHeader (d.span Ipv6.headerLength stop)
      .ok (.header ⟨.ipv6 h, Ipv6.headerLength +
          ((d.span Ipv6.headerLength stop).length - walk.rest.length), d.length - stop⟩
        (match walk.upper? with
          | some protocol => .ipProtocol protocol walk.rest
          | none => .unread walk.rest)) := by
  obtain ⟨stop', ends', fromHeader, toCaptured⟩ := ipv6End_ok h whole
  cases ends.symm.trans ends'
  rw [ipv6Behind, List.length_take_of_le whole, ends, ok_bind, sub_eq toCaptured, ok_bind,
    slice_eq fromHeader toCaptured, ok_bind, skip_eq]
  rfl

theorem ipv6_ok {parsers : Parsers} (documented : parsers.Documented) (d : Bytes) :
    ∃ stage, ipv6 parsers d = .ok stage := by
  refine parsed_ok documented.ipv6 fun h passed => ?_
  obtain ⟨stop, ends, -, -⟩ := ipv6End_ok h (Ipv6.whole passed)
  exact ⟨_, ipv6Behind_eq (Ipv6.whole passed) ends⟩

theorem ipv6_eq {parsers : Parsers} (documented : parsers.Documented)
    (complete : parsers.Complete) (d : Bytes) : ipv6 parsers d = .ok (Stage.ipv6 d) := by
  refine parsed_eq documented.ipv6 complete.ipv6 ?_ ?_
  · intro none
    rw [Stage.ipv6, none]
  · intro h read
    have whole := Ipv6.whole (Option.isSome_of_eq_some read)
    rw [ipv6Behind_eq whole (ipv6End_eq read), Stage.ipv6, read]
    rfl

/-! ## Transport headers and control messages -/

theorem tcpBehind_eq {d : Bytes} (h : Tcp) (whole : Tcp.headerLength d ≤ d.length) :
    tcpBehind h (d.take (Tcp.headerLength d)) d =
      .ok (.header ⟨.tcp h, Tcp.headerLength d, 0⟩
        (.application .tcp h.srcPort h.dstPort (d.drop (Tcp.headerLength d)))) := by
  rw [tcpBehind, List.length_take_of_le whole, sliceFrom_eq whole]
  rfl

theorem tcp_ok {parsers : Parsers} (documented : parsers.Documented) (d : Bytes) :
    ∃ stage, tcp parsers d = .ok stage :=
  parsed_ok documented.tcp fun h passed => ⟨_, tcpBehind_eq h (Tcp.whole passed)⟩

theorem tcp_eq {parsers : Parsers} (documented : parsers.Documented)
    (complete : parsers.Complete) (d : Bytes) : tcp parsers d = .ok (Stage.tcp d) := by
  refine parsed_eq documented.tcp complete.tcp ?_ ?_
  · intro none
    rw [Stage.tcp, none]
  · intro h read
    rw [tcpBehind_eq h (Tcp.whole (Option.isSome_of_eq_some read)), Stage.tcp, read]

theorem udpBehind_eq {d : Bytes} (h : Udp) (whole : Udp.headerLength ≤ d.length) :
    udpBehind h (d.take Udp.headerLength) d =
      .ok (.header ⟨.udp h, Udp.headerLength, 0⟩ (.application .udp h.srcPort h.dstPort
        (d.span Udp.headerLength (max Udp.headerLength (min h.length.toNat d.length))))) := by
  rw [udpBehind, List.length_take_of_le whole, clamp_eq whole, ok_bind,
    slice_eq (by omega) (by omega)]
  rfl

theorem udp_ok {parsers : Parsers} (documented : parsers.Documented) (d : Bytes) :
    ∃ stage, udp parsers d = .ok stage :=
  parsed_ok documented.udp fun h passed => ⟨_, udpBehind_eq h (Udp.whole passed)⟩

theorem udp_eq {parsers : Parsers} (documented : parsers.Documented)
    (complete : parsers.Complete) (d : Bytes) : udp parsers d = .ok (Stage.udp d) := by
  refine parsed_eq documented.udp complete.udp ?_ ?_
  · intro none
    rw [Stage.udp, none]
  · intro h read
    have whole := Udp.whole (Option.isSome_of_eq_some read)
    have stop : max Udp.headerLength (min h.length.toNat d.length) = Udp.payloadEnd d := by
      rw [Udp.payloadEnd, Udp.length_of_read? read]
      omega
    rw [udpBehind_eq h whole, stop, Stage.udp, read]
    rfl

/-- A control message that is long enough, of either kind. -/
theorem icmp_eq (layer : Icmp → Layer) (d : Bytes) :
    icmp layer d = .ok (match Icmp.read? d with
      | some h => .header ⟨layer h, d.length, 0⟩ (.unread [])
      | none => .unread d) := by
  unfold icmp Icmp.read?
  by_cases short : d.length < Icmp.headerLength
  · rw [if_pos short, if_pos short]
    rfl
  · have long : 4 ≤ d.length := Nat.le_of_not_lt short
    rw [if_neg short, if_neg short, index_eq (by omega), index_eq (by omega)]
    rfl

/-! ## Application messages -/

theorem dns_eq (d : Bytes) : dns d = .ok (Dns.read? d) := by
  unfold dns
  by_cases short : d.length < Dns.headerLength
  · rw [if_pos short, Dns.read?, if_pos (.inl short)]
    rfl
  · have long : 12 ≤ d.length := Nat.le_of_not_lt short
    simp (disch := omega) only [word16?_eq, ok_bind, if_neg short, if_pos]
    by_cases unassigned : 6 < Dns.opcode (d.word16At 2)
    · rw [if_pos unassigned, Dns.read?, if_pos (.inr unassigned)]
      rfl
    · rw [if_neg unassigned, Dns.read?, if_neg (not_or.mpr ⟨short, unassigned⟩)]
      rfl

theorem dnsOverTcp_eq (d : Bytes) : dnsOverTcp d = .ok (Dns.read? (d.drop 2)) := by
  unfold dnsOverTcp
  by_cases whole : 2 ≤ d.length
  · rw [get?_eq whole (Nat.le_refl _), Bytes.span, List.take_length]
    exact dns_eq _
  · have nothing : d.drop 2 = [] := List.drop_eq_nil_of_le (by omega)
    have absent : get? d 2 d.length = none := if_neg fun ordered => whole ordered.1
    rw [absent, nothing]
    rfl

theorem firstLine_eq (d : Bytes) : firstLine d = .ok (TextLine.first d) := by
  have inside : min (d.findIdx TextLine.isBreak) TextLine.maxLength ≤ d.length :=
    Nat.le_trans (Nat.min_le_left _ _) List.findIdx_le_length
  have kept : d.span 0 (min (d.findIdx TextLine.isBreak) TextLine.maxLength) =
      TextLine.firstBytes d := by
    rw [Bytes.span, List.drop_zero, TextLine.firstBytes, List.takeWhile_eq_take_findIdx_not,
      List.take_take, Nat.min_comm]
    simp only [Bool.not_not]
  rw [firstLine, slice_eq (Nat.zero_le _) inside, kept]
  rfl

theorem http_eq (d : Bytes) : http d = .ok (Http.read? d) := by
  unfold http Http.read?
  split
  · rw [firstLine_eq]
    rfl
  · rfl

theorem ssh_eq (d : Bytes) : ssh d = .ok (Ssh.read d) := by
  unfold ssh Ssh.read
  split
  · rw [firstLine_eq]
    rfl
  · rfl

theorem ftp_eq (d : Bytes) : ftp d = .ok (Ftp.read? d) := by
  unfold ftp Ftp.read?
  rw [firstLine_eq, ok_bind]
  dsimp only
  split <;> rfl

theorem tls_eq (d : Bytes) : tls d = .ok (Tls.read? d) := by
  unfold tls Tls.read?
  simp (disch := omega) only [word16?_eq, ok_bind]
  by_cases whole : 3 ≤ d.length
  · rw [head?_eq (by omega), if_pos whole, decide_eq_true whole, Bool.true_and]
    dsimp only
    split <;> rfl
  · rw [if_neg whole, decide_eq_false whole, Bool.false_and]
    split <;> rfl

theorem dhcp_eq (d : Bytes) : dhcp d = .ok (Dhcp.read? d) := by
  unfold dhcp Dhcp.read?
  rw [word32?_eq (by decide), ok_bind]
  by_cases whole : Dhcp.cookieOffset + 4 ≤ d.length
  · have long : 240 ≤ d.length := whole
    rw [if_pos whole, decide_eq_true whole, Bool.true_and, index_eq (by omega)]
    simp (disch := omega) only [word32?_eq, ok_bind]
    have further : 4 + 4 ≤ d.length := by omega
    cases d.word32At Dhcp.cookieOffset == Dhcp.magicCookie with
    | false => rfl
    | true =>
        rw [Bool.true_and, if_pos rfl, if_pos further]
        split <;> rfl
  · rw [if_neg whole, decide_eq_false whole]
    rfl

theorem ntp_eq (d : Bytes) : ntp d = .ok (Ntp.read? d) := by
  unfold ntp Ntp.read?
  by_cases whole : Ntp.messageLength ≤ d.length
  · have long : 48 ≤ d.length := whole
    rw [if_neg (Nat.not_lt_of_le whole), decide_eq_true whole, Bool.true_and,
      index_eq (by omega)]
    simp only [ok_bind]
    split <;> rfl
  · rw [if_pos (Nat.lt_of_not_le whole), decide_eq_false whole]
    rfl

theorem find?_cons {α : Type} {p : α → Bool} (a : α) (l : List α) :
    (a :: l).find? p = if p a then some a else l.find? p := by
  rw [List.find?_cons]
  cases p a <;> rfl

/-- A service without a signature is responsible on its ports. -/
theorem isResponsible_eq {s : Service} {srcPort dstPort : UInt16} {d : Bytes}
    (noSignature : s.hasSignature d = false) :
    s.isResponsible srcPort dstPort d = s.onPort srcPort dstPort := by
  rw [Service.isResponsible, noSignature, Bool.or_false]

/-- The first service that is responsible decides, as in the list of services. -/
theorem detect?_eq (t : Transport) (srcPort dstPort : UInt16) (d : Bytes) :
    detect? t srcPort dstPort d = .ok (t.detect? srcPort dstPort d) := by
  cases t with
  | udp =>
      unfold detect? Transport.detect?
      simp only [dns_eq, dhcp_eq, ntp_eq, ok_bind, pure_eq_ok, Transport.services, find?_cons]
      rw [isResponsible_eq rfl, isResponsible_eq rfl, isResponsible_eq rfl]
      split
      · rfl
      split
      · rfl
      split <;> rfl
  | tcp =>
      unfold detect? Transport.detect?
      simp only [dnsOverTcp_eq, http_eq, tls_eq, ssh_eq, ftp_eq, ok_bind, pure_eq_ok,
        Transport.services, find?_cons]
      -- secure shell alone looks at the payload
      have ssh : Service.ssh.isResponsible srcPort dstPort d =
        (Service.ssh.onPort srcPort dstPort || Ssh.hasBanner d) := rfl
      rw [ssh, isResponsible_eq rfl, isResponsible_eq rfl, isResponsible_eq rfl,
        isResponsible_eq rfl]
      split
      · rfl
      split
      · rfl
      split
      · rfl
      split
      · rfl
      split <;> rfl

/-! ## Choosing a stage -/

theorem ofApplication_eq (t : Transport) (srcPort dstPort : UInt16) (d : Bytes) :
    ofApplication t srcPort dstPort d = .ok (Stage.ofApplication t srcPort dstPort d) := by
  unfold ofApplication Stage.ofApplication
  split
  · rfl
  · rw [detect?_eq, ok_bind]
    cases t.detect? srcPort dstPort d with
    | none => rfl
    | some layer => rfl

/-- A stage faults nowhere. -/
theorem stageOf_ok {parsers : Parsers} (documented : parsers.Documented) (next : Next) :
    ∃ stage, stageOf parsers next = .ok stage := by
  cases next with
  | etherType type rest =>
      rw [stageOf, ofEtherType]
      split
      · exact ipv4_ok documented rest
      split
      · exact ipv6_ok documented rest
      split
      · exact ⟨_, arp_eq rest⟩
      split
      · exact ⟨_, vlan_eq rest⟩
      · exact ⟨_, rfl⟩
  | ipProtocol protocol rest =>
      rw [stageOf, ofIpProtocol]
      split
      · exact tcp_ok documented rest
      split
      · exact udp_ok documented rest
      split
      · exact ⟨_, icmp_eq .icmp rest⟩
      split
      · exact ⟨_, icmp_eq .icmpv6 rest⟩
      split
      · exact ipv4_ok documented rest
      split
      · exact ipv6_ok documented rest
      · exact ⟨_, rfl⟩
  | application t srcPort dstPort rest => exact ⟨_, ofApplication_eq t srcPort dstPort rest⟩
  | unread rest => exact ⟨_, rfl⟩

/-- With a library that answers whenever its checks pass, it is the total stage. -/
theorem stageOf_eq {parsers : Parsers} (documented : parsers.Documented)
    (complete : parsers.Complete) (next : Next) : stageOf parsers next = .ok next.stage := by
  cases next with
  | etherType type rest =>
      simp only [stageOf, ofEtherType, ipv4_eq documented complete, ipv6_eq documented complete,
        arp_eq, vlan_eq, Next.stage, Stage.ofEtherType]
      repeat' split
      all_goals rfl
  | ipProtocol protocol rest =>
      have icmp (d : Bytes) : icmp .icmp d = .ok (Stage.icmp d) := icmp_eq .icmp d
      have icmpv6 (d : Bytes) : Strict.icmp .icmpv6 d = .ok (Stage.icmpv6 d) := icmp_eq .icmpv6 d
      simp only [stageOf, ofIpProtocol, tcp_eq documented complete, udp_eq documented complete,
        icmp, icmpv6, ipv4_eq documented complete, ipv6_eq documented complete, Next.stage,
        Stage.ofIpProtocol]
      repeat' split
      all_goals rfl
  | application t srcPort dstPort rest => exact ofApplication_eq t srcPort dstPort rest
  | unread rest => rfl

end PacketWatch.Strict
