/-
# `PacketWatch.Proofs.Dissect.Longer` — what is read stays read when bytes follow

A header is read from its own bytes and from no others, so what is read at the start of a
byte string is read at the start of every longer one, and the content that it delimits is
the start of the longer one's content.  An IP header that declares where its datagram ends
leaves the content as it is: only the trailer grows.

`Next.Longer` asks the same about more bytes.  A step stays a step, with the same layer
(`Next.Step.longer`), and what follows is the same about more bytes again, unless the
shorter walk ends there.  Nothing is said the other way round: with more bytes a header may
be read where there was none.
-/
import PacketWatch.Proofs.Dissect.Headers
import PacketWatch.Proofs.Dissect.Steps

namespace PacketWatch

open Bytes

section
variable {d e : Bytes}

/-! ## Link headers -/

theorem Ethernet.read?_longer {h : Ethernet} (start : d <+: e) (read : read? d = some h) :
    read? e = some h := by
  have whole := whole (Option.isSome_of_eq_some read)
  have inside : 14 ≤ d.length := whole
  have longer := Nat.le_trans whole start.length_le
  rw [← read, read?, read?, if_neg (Nat.not_lt.mpr whole), if_neg (Nat.not_lt.mpr longer),
    octetsAt_longer start (by omega), octetsAt_longer start (by omega),
    word16At_longer start (by omega)]

theorem CookedCapture.read?_longer {h : CookedCapture} (start : d <+: e)
    (read : read? d = some h) : read? e = some h := by
  have whole := whole (Option.isSome_of_eq_some read)
  have inside : 16 ≤ d.length := whole
  have longer := Nat.le_trans whole start.length_le
  have used : addressLength e = addressLength d := by
    rw [addressLength, addressLength, word16At_longer start (by omega)]
  have address : (e.drop 6).take (addressLength d) = (d.drop 6).take (addressLength d) := by
    have inside : addressLength d ≤ 8 := Nat.min_le_right _ _
    rw [List.take_drop, List.take_drop]
    exact span_longer start 6 (by omega)
  rw [← read, read?, read?, if_neg (Nat.not_lt.mpr whole), if_neg (Nat.not_lt.mpr longer),
    used, address, word16At_longer start (by omega), word16At_longer start (by omega)]

theorem Loopback.read?_longer {h : Loopback} (start : d <+: e) (read : read? d = some h) :
    read? e = some h := by
  have whole := whole (Option.isSome_of_eq_some read)
  have inside : 4 ≤ d.length := whole
  have longer := Nat.le_trans whole start.length_le
  rw [← read, read?, read?, if_neg (Nat.not_lt.mpr whole), if_neg (Nat.not_lt.mpr longer),
    byteAt_longer start (by omega), byteAt_longer start (by omega),
    byteAt_longer start (by omega), byteAt_longer start (by omega)]

theorem Vlan.read?_longer {h : Vlan} (start : d <+: e) (read : read? d = some h) :
    read? e = some h := by
  have whole := whole (Option.isSome_of_eq_some read)
  have inside : 4 ≤ d.length := whole
  have longer := Nat.le_trans whole start.length_le
  rw [← read, read?, read?, if_neg (Nat.not_lt.mpr whole), if_neg (Nat.not_lt.mpr longer),
    word16At_longer start (by omega), word16At_longer start (by omega)]

/-! ## Address resolution -/

namespace Arp

theorem messageLength_longer (start : d <+: e) (sizes : 8 ≤ d.length) :
    messageLength e = messageLength d := by
  rw [messageLength, messageLength, hardwareSize, hardwareSize, protocolSize, protocolSize,
    byteAt_longer start (by omega), byteAt_longer start (by omega)]

theorem resolvesIpv4_longer (start : d <+: e) (sizes : 8 ≤ d.length) :
    resolvesIpv4 e = resolvesIpv4 d := by
  rw [resolvesIpv4, resolvesIpv4, protocolSize, protocolSize, word16At_longer start (by omega),
    word16At_longer start (by omega), byteAt_longer start (by omega)]

/-- Addresses are read only where they have four bytes, so inside of the message. -/
theorem ip4At?_longer (start : d <+: e) {offset : Nat} (sizes : 8 ≤ d.length)
    (inside : protocolSize d = 4 → offset + 4 ≤ d.length) : ip4At? e offset = ip4At? d offset := by
  rw [ip4At?, ip4At?, resolvesIpv4_longer start sizes]
  split
  · rename_i resolves
    simp only [resolvesIpv4, Bool.and_eq_true, beq_iff_eq] at resolves
    rw [octetsAt_longer start (inside resolves.2)]
  · rfl

theorem read?_longer {h : Arp} (start : d <+: e) (read : read? d = some h) :
    read? e = some h := by
  have whole : messageLength d ≤ d.length := whole (Option.isSome_of_eq_some read)
  have sizes : 8 ≤ d.length := Nat.le_trans (Nat.le_add_right 8 _) whole
  have length := messageLength_longer start sizes
  have longer := start.length_le
  have hardware : hardwareSize e = hardwareSize d := by
    rw [hardwareSize, hardwareSize, byteAt_longer start (by omega)]
  have protocol : protocolSize e = protocolSize d := by
    rw [protocolSize, protocolSize, byteAt_longer start (by omega)]
  rw [← read, read?, read?, if_neg (by omega), if_neg (by omega), hardware, protocol,
    word16At_longer start (by omega), ip4At?_longer start sizes, ip4At?_longer start sizes]
  · unfold messageLength at whole
    omega
  · unfold messageLength at whole
    omega

end Arp

/-! ## IP headers and their datagrams -/

namespace Ipv4

theorem headerLength_longer (start : d <+: e) (some : 1 ≤ d.length) :
    headerLength e = headerLength d := by
  rw [headerLength, headerLength, byteAt_longer start some]

theorem read?_longer {h : Ipv4} (start : d <+: e) (read : read? d = some h) :
    read? e = some h := by
  obtain ⟨-, whole⟩ := whole (Option.isSome_of_eq_some read)
  have longer := start.length_le
  unfold read? at read ⊢
  split at read
  · rename_i header
    simp only [hasHeader, Bool.and_eq_true, decide_eq_true_eq] at header
    have header' : hasHeader e := by
      have length := headerLength_longer start (by omega)
      simp only [hasHeader, Bool.and_eq_true, decide_eq_true_eq, length,
        byteAt_longer start (show 0 < d.length by omega)]
      exact ⟨⟨⟨by omega, header.1.1.2⟩, header.1.2⟩, by omega⟩
    rw [if_pos header', ← read, octetsAt_longer start (by omega), octetsAt_longer start (by omega),
      byteAt_longer start (by omega), byteAt_longer start (by omega),
      word16At_longer start (by omega)]
  · cases read

theorem fragmentOffset_longer (start : d <+: e) (whole : 20 ≤ d.length) :
    fragmentOffset e = fragmentOffset d := by
  rw [fragmentOffset, fragmentOffset, word16At_longer start (by omega)]

/-- The captured content of a datagram is the start of its content in a longer capture. -/
theorem payload_longer (start : d <+: e) (whole : 20 ≤ d.length) : payload d <+: payload e := by
  have longer := start.length_le
  have further : datagramEnd d ≤ datagramEnd e := by
    unfold datagramEnd
    rw [word16At_longer start (by omega), headerLength_longer start (by omega)]
    dsimp only
    split
    · exact longer
    · omega
  rw [payload, payload, headerLength_longer start (by omega)]
  exact span_start start _ further

/-- Where the declared end was captured, nothing that follows belongs to the datagram. -/
theorem datagramEnd_longer (start : d <+: e) (whole : headerLength d ≤ d.length)
    (header : 20 ≤ d.length) (declared : d.word16At 2 ≠ 0)
    (inside : (d.word16At 2).toNat ≤ d.length) : datagramEnd e = datagramEnd d := by
  have longer := start.length_le
  have some : (d.word16At 2).toNat ≠ 0 := fun none => declared (UInt16.toNat_inj.mp none)
  unfold datagramEnd
  rw [word16At_longer start (by omega), headerLength_longer start (by omega)]
  dsimp only
  rw [if_neg some, if_neg some]
  omega

end Ipv4

namespace Ipv6

theorem read?_longer {h : Ipv6} (start : d <+: e) (read : read? d = some h) :
    read? e = some h := by
  have whole : 40 ≤ d.length := whole (Option.isSome_of_eq_some read)
  have longer : 40 ≤ e.length := Nat.le_trans whole start.length_le
  unfold read? at read ⊢
  split at read
  · rename_i header
    have header' : hasHeader e := by
      simp only [hasHeader, Bool.and_eq_true, decide_eq_true_eq,
        byteAt_longer start (show 0 < d.length by omega)] at header ⊢
      exact ⟨longer, header.2⟩
    rw [if_pos header', ← read, octetsAt_longer start (by omega), octetsAt_longer start (by omega),
      byteAt_longer start (by omega), byteAt_longer start (by omega),
      word16At_longer start (by omega)]
  · cases read

theorem payload_longer (start : d <+: e) (whole : 40 ≤ d.length) : payload d <+: payload e := by
  have longer := start.length_le
  have further : datagramEnd d ≤ datagramEnd e := by
    unfold datagramEnd
    rw [word16At_longer start (by omega)]
    dsimp only
    split
    · exact longer
    · omega
  exact span_start start _ further

theorem datagramEnd_longer (start : d <+: e) (whole : 40 ≤ d.length)
    (declared : d.word16At 4 ≠ 0) (inside : 40 + (d.word16At 4).toNat ≤ d.length) :
    datagramEnd e = datagramEnd d := by
  have longer := start.length_le
  have some : (d.word16At 4).toNat ≠ 0 := fun none => declared (UInt16.toNat_inj.mp none)
  unfold datagramEnd headerLength
  rw [word16At_longer start (by omega)]
  dsimp only
  rw [if_neg some, if_neg some]
  omega

namespace Extension

theorem length?_longer {kind : UInt8} {n : Nat} (start : d <+: e)
    (whole : length? kind d = some n) : length? kind e = some n := by
  have bounds := length?_bounds whole
  have longer := start.length_le
  unfold length? at whole ⊢
  rw [word16At_longer start (by omega), byteAt_longer start (by omega)]
  split at whole
  · rename_i fragment
    rw [if_pos fragment]
    split at whole
    · cases whole
    · rename_i first
      rw [if_neg (by omega)]
      exact whole
  · rename_i other
    rw [if_neg other]
    split at whole
    · cases whole
    · rename_i there
      rw [if_neg (by omega)]
      exact whole

/-- A walk over extension headers that reaches an upper protocol reaches it again.  One that
is cut short may go on. -/
theorem skip_longer {kind protocol : UInt8} (start : d <+: e)
    (reached : (skip kind d).upper? = some protocol) :
    (skip kind e).upper? = some protocol ∧ (skip kind d).rest <+: (skip kind e).rest := by
  fun_induction skip kind d generalizing e with
  | case1 kind d extension cut => cases reached
  | case2 kind d extension n length ih =>
      have bounds := length?_bounds length
      have length' := length?_longer start length
      have onward : skip kind e = skip (d.byteAt 0) (e.drop n) := by
        rw [skip_passed extension length', byteAt_longer start (by omega)]
      rw [onward]
      exact ih (start.drop n) reached
  | case3 kind d upper =>
      rw [skip, if_neg upper]
      exact ⟨reached, start⟩

end Extension

end Ipv6

/-! ## Transport headers and control messages -/

namespace Tcp

theorem headerLength_longer (start : d <+: e) (whole : 20 ≤ d.length) :
    headerLength e = headerLength d := by
  rw [headerLength, headerLength, byteAt_longer start (by omega)]

theorem read?_longer {h : Tcp} (start : d <+: e) (read : read? d = some h) :
    read? e = some h := by
  have longer := start.length_le
  unfold read? at read ⊢
  split at read
  · rename_i header
    simp only [hasHeader, Bool.and_eq_true, decide_eq_true_eq] at header
    have header' : hasHeader e := by
      have length := headerLength_longer start (by omega)
      simp only [hasHeader, Bool.and_eq_true, decide_eq_true_eq, length]
      omega
    rw [if_pos header', ← read, word16At_longer start (by omega),
      word16At_longer start (by omega), word32At_longer start (by omega),
      word32At_longer start (by omega), byteAt_longer start (by omega),
      word16At_longer start (by omega)]
  · cases read

end Tcp

namespace Udp

theorem read?_longer {h : Udp} (start : d <+: e) (read : read? d = some h) :
    read? e = some h := by
  have whole := whole (Option.isSome_of_eq_some read)
  have inside : 8 ≤ d.length := whole
  have longer := Nat.le_trans whole start.length_le
  rw [← read, read?, read?, if_neg (Nat.not_lt.mpr whole), if_neg (Nat.not_lt.mpr longer),
    word16At_longer start (by omega), word16At_longer start (by omega),
    word16At_longer start (by omega)]

theorem payload_longer (start : d <+: e) (whole : 8 ≤ d.length) : payload d <+: payload e := by
  have longer := start.length_le
  have further : payloadEnd d ≤ payloadEnd e := by
    unfold payloadEnd
    rw [word16At_longer start (by omega)]
    omega
  exact span_start start _ further

end Udp

theorem Icmp.read?_longer {h : Icmp} (start : d <+: e) (read : read? d = some h) :
    read? e = some h := by
  unfold read? headerLength at read ⊢
  split at read
  · cases read
  · have longer := start.length_le
    rw [if_neg (by omega), byteAt_longer start (by omega), byteAt_longer start (by omega)]
    exact read

end

/-! ## Steps -/

/-- The same is asked about bytes that begin alike and may go on. -/
inductive Next.Longer : Next → Next → Prop
  | etherType {type : UInt16} {d e : Bytes} :
      d <+: e → Longer (.etherType type d) (.etherType type e)
  | ipProtocol {protocol : UInt8} {d e : Bytes} :
      d <+: e → Longer (.ipProtocol protocol d) (.ipProtocol protocol e)
  | application {t : Transport} {srcPort dstPort : UInt16} {d e : Bytes} :
      d <+: e → Longer (.application t srcPort dstPort d) (.application t srcPort dstPort e)
  | unread {d e : Bytes} : d <+: e → Longer (.unread d) (.unread e)

theorem Next.Asks.longer {next next' : Next} {type : UInt16} {protocol : UInt8} {d : Bytes}
    (asks : next.Asks type protocol d) (longer : next.Longer next') :
    ∃ e, next'.Asks type protocol e ∧ d <+: e := by
  rcases asks with rfl | rfl
  · cases longer with | etherType start => exact ⟨_, .inl rfl, start⟩
  · cases longer with | ipProtocol start => exact ⟨_, .inr rfl, start⟩

theorem LinkStep.longer {link : LinkType} {d e : Bytes} {span : Span} {onward : Next}
    (step : LinkStep link d span onward) (start : d <+: e) :
    ∃ onward', LinkStep link e span onward' ∧ onward.Longer onward' := by
  cases step with
  | ethernet read => exact ⟨_, .ethernet (Ethernet.read?_longer start read), .etherType (start.drop _)⟩
  | cooked read =>
      exact ⟨_, .cooked (CookedCapture.read?_longer start read), .etherType (start.drop _)⟩
  | loopback read known =>
      exact ⟨_, .loopback (Loopback.read?_longer start read) known, .etherType (start.drop _)⟩
  | loopbackOther read unknown =>
      exact ⟨_, .loopbackOther (Loopback.read?_longer start read) unknown, .unread (start.drop _)⟩

/-- The version stands in the first byte. -/
theorem rawIp_longer {d e : Bytes} {type : UInt16} (start : d <+: e)
    (named : rawIp d = .etherType type d) : rawIp e = .etherType type e := by
  unfold rawIp at named ⊢
  split at named
  · cases named
  rename_i some
  have inside : 0 < d.length := List.length_pos_iff.mpr (mt List.isEmpty_iff.mpr some)
  have longer : e ≠ [] := List.length_pos_iff.mp (Nat.lt_of_lt_of_le inside start.length_le)
  rw [if_neg (mt List.isEmpty_iff.mp longer), byteAt_longer start inside]
  split at named
  · rename_i four
    cases named
    exact if_pos four
  rename_i notFour
  rw [if_neg notFour]
  split at named
  · rename_i six
    cases named
    exact if_pos six
  · cases named

/-- A header is found again, and what follows it goes on, unless the walk over the shorter
bytes ends here.  Only an application may be told from less and look different in more. -/
theorem Next.Step.longer {next next' onward : Next} {span : Span} (step : next.Step span onward)
    (longer : next.Longer next') :
    (∃ span' onward', next'.Step span' onward' ∧ span'.layer = span.layer ∧
      (onward.Longer onward' ∨ ∃ rest, onward = .unread rest)) ∨
    ∃ t srcPort dstPort d, next = .application t srcPort dstPort d := by
  cases step with
  | vlan tag read =>
      cases longer with
      | etherType start =>
          exact .inl ⟨_, _, .vlan tag (Vlan.read?_longer start read), rfl,
            .inl (.etherType (start.drop _))⟩
  | arp read =>
      cases longer with
      | etherType start => exact .inl ⟨_, _, .arp (Arp.read?_longer start read), rfl, .inr ⟨_, rfl⟩⟩
  | ipv4 asks read first =>
      obtain ⟨e, asks', start⟩ := asks.longer longer
      obtain ⟨header, fits⟩ := Ipv4.whole (Option.isSome_of_eq_some read)
      have whole := Nat.le_trans header fits
      exact .inl ⟨_, _, .ipv4 asks' (Ipv4.read?_longer start read)
        ((Ipv4.fragmentOffset_longer start whole).trans first), rfl,
        .inl (.ipProtocol (Ipv4.payload_longer start whole))⟩
  | ipv4Fragment asks read later =>
      obtain ⟨e, asks', start⟩ := asks.longer longer
      obtain ⟨header, fits⟩ := Ipv4.whole (Option.isSome_of_eq_some read)
      rw [← Ipv4.fragmentOffset_longer start (Nat.le_trans header fits)] at later
      exact .inl ⟨_, _, .ipv4Fragment asks' (Ipv4.read?_longer start read) later, rfl,
        .inr ⟨_, rfl⟩⟩
  | ipv6 asks read reached =>
      obtain ⟨e, asks', start⟩ := asks.longer longer
      have whole := Ipv6.whole (Option.isSome_of_eq_some read)
      obtain ⟨reached', rest⟩ :=
        Ipv6.Extension.skip_longer (Ipv6.payload_longer start whole) reached
      exact .inl ⟨_, _, .ipv6 asks' (Ipv6.read?_longer start read) reached', rfl,
        .inl (.ipProtocol rest)⟩
  | @ipv6Cut next d h asks read cut =>
      obtain ⟨e, asks', start⟩ := asks.longer longer
      have read' := Ipv6.read?_longer start read
      -- With more bytes the walk over the extension headers may come through.
      cases upper : (Ipv6.upper h e).upper? with
      | some protocol => exact .inl ⟨_, _, .ipv6 asks' read' upper, rfl, .inr ⟨_, rfl⟩⟩
      | none => exact .inl ⟨_, _, .ipv6Cut asks' read' upper, rfl, .inr ⟨_, rfl⟩⟩
  | @tcp d h read =>
      cases longer with
      | @ipProtocol _ _ e start =>
          have length := Tcp.headerLength_longer start (Tcp.fixed (Option.isSome_of_eq_some read))
          have rest : d.drop (Tcp.headerLength d) <+: e.drop (Tcp.headerLength e) :=
            length ▸ start.drop _
          exact .inl ⟨_, _, .tcp (Tcp.read?_longer start read), rfl, .inl (.application rest)⟩
  | udp read =>
      cases longer with
      | ipProtocol start =>
          have whole := Udp.whole (Option.isSome_of_eq_some read)
          exact .inl ⟨_, _, .udp (Udp.read?_longer start read), rfl,
            .inl (.application (Udp.payload_longer start whole))⟩
  | icmp read =>
      cases longer with
      | ipProtocol start =>
          exact .inl ⟨_, _, .icmp (Icmp.read?_longer start read), rfl, .inr ⟨_, rfl⟩⟩
  | icmpv6 read =>
      cases longer with
      | ipProtocol start =>
          exact .inl ⟨_, _, .icmpv6 (Icmp.read?_longer start read), rfl, .inr ⟨_, rfl⟩⟩
  | application => exact .inr ⟨_, _, _, _, rfl⟩

end PacketWatch
