/-
# `PacketWatch.Proofs.Dissect.LaterFragment` — a later fragment is not looked into

What a fragment carries that is not the first begins in the middle of a message.  An IP header
that says so is the last that is recognized, and what lies behind the place that says so can be
anything: no layer depends on it.

That place is the header itself for IPv4.  For IPv6 it is the fourth byte of a fragment header,
behind the extension headers in front of it.  A step from there leaves its rest unread, and it is
the same step for all frames that are alike up to that place (`Next.Step.laterFragment`); the
walk comes to it in all of them (`dissection_comesTo`).
-/
import PacketWatch.Proofs.Dissect.Reach

namespace PacketWatch

open Bytes

/-- The layer, read from the start of the given bytes, is the IP header of a later fragment, and
the first `known` of these bytes show it: the options of IPv4 are among them, and of IPv6 the
extension headers up to the offset of the fragment. -/
def Layer.IsLaterFragment (d : Bytes) (known : Nat) : Layer → Prop
  | ipv4 _ => Ipv4.fragmentOffset d ≠ 0 ∧ known = Ipv4.headerLength d
  | ipv6 h => ∃ headers upper rest,
      h.nextHeader = Ipv6.Extension.first upper headers ∧
        Ipv6.payload d = Ipv6.Extension.chain upper headers ++ rest ∧
        Ipv6.Extension.IsLaterFragment upper rest ∧
        known = Ipv6.headerLength + ((Ipv6.Extension.chain upper headers).length + 4)
  | _ => False

namespace Ipv6.Extension

theorem IsLaterFragment.blocked {kind : UInt8} {d : Bytes} (later : IsLaterFragment kind d) :
    IsBlocked kind d := by
  refine ⟨?_, .inr later⟩
  rw [later.1]
  rfl

/-- The first four bytes of a fragment header say that it is a later one. -/
theorem IsLaterFragment.again {kind : UInt8} {d e : Bytes} (later : IsLaterFragment kind d)
    (agree : Agree 4 d e) : IsLaterFragment kind e := by
  obtain ⟨fragment, present, offset⟩ := later
  refine ⟨fragment, agree.length ▸ present, ?_⟩
  rw [agree.word16At (by decide)]
  exact offset

/-- The chain in front of a later fragment is passed over, and the walk stands before it. -/
theorem skip_later {upper : UInt8} {rest : Bytes} (later : IsLaterFragment upper rest)
    (headers : List Header) :
    skip (first upper headers) (chain upper headers ++ rest) = ⟨none, rest⟩ := by
  rw [skip_chain, skip_blocked later.blocked]

end Ipv6.Extension

theorem Layer.IsLaterFragment.kind_ip {l : Layer} {d : Bytes} {known : Nat}
    (later : l.IsLaterFragment d known) : l.kind = .ip := by
  cases l with
  | ipv4 | ipv6 => rfl
  | ethernet | cooked | loopback | vlan | arp | icmp | icmpv6 | tcp | udp | dns | http | tls | ssh
  | ftp | dhcp | ntp | payload | trailer => cases later

theorem Layer.IsLaterFragment.known_pos {l : Layer} {d : Bytes} {known : Nat}
    (later : l.IsLaterFragment d known) (read : l.IsReadFrom d) : 0 < known := by
  cases l with
  | ipv4 =>
      obtain ⟨-, rfl⟩ := later
      have fixed := (Ipv4.whole (Option.isSome_of_eq_some read)).1
      omega
  | ipv6 =>
      obtain ⟨headers, upper, rest, -, -, -, rfl⟩ := later
      exact Nat.succ_pos _
  | ethernet | cooked | loopback | vlan | arp | icmp | icmpv6 | tcp | udp | dns | http | tls | ssh
  | ftp | dhcp | ntp | payload | trailer => cases later

/-- The extension headers of all these frames lead to the same place and no further. -/
theorem Ipv6.upper_of_laterFragment {d e : Bytes} {h : Ipv6} {known : Nat}
    (later : Layer.IsLaterFragment d known (.ipv6 h)) (agree : Agree known d e) :
    (upper h e).upper? = none ∧ (upper h e).rest.length = (upper h d).rest.length ∧
      size h e = size h d := by
  obtain ⟨headers, named, rest, leads, payload, later, rfl⟩ := later
  have fixed : 40 ≤ headerLength + ((Extension.chain named headers).length + 4) :=
    Nat.le_add_right 40 _
  have content := payload_agree agree fixed
  rw [Nat.add_sub_cancel_left, payload] at content
  obtain ⟨rest', payload', start⟩ := content.behind
  have stops : upper h d = ⟨none, rest⟩ := by
    rw [upper, leads, payload, Extension.skip_later later]
  have stops' : upper h e = ⟨none, rest'⟩ := by
    rw [upper, leads, payload', Extension.skip_later (later.again start)]
  refine ⟨congrArg (·.upper?) stops', ?_, ?_⟩
  · rw [stops, stops', start.length]
  · rw [size, size, stops, stops', payload, content.length, start.length]

/-- The step that recognizes a later fragment leaves the rest of its datagram unread.  It is a
step as well where other bytes stand behind the place that shows it. -/
theorem Next.Step.laterFragment {next onward : Next} {span : Span} (step : next.Step span onward)
    {known : Nat} (later : span.layer.IsLaterFragment next.rest known) {e : Bytes}
    (agree : Agree known next.rest e) :
    ∃ rest, (next.about e).Step span (.unread rest) ∧
      rest.length =
        span.layer.contentEnd next.rest - span.layer.headerSize next.rest := by
  cases step with
  | @ipv4 next d h asks read first =>
      rw [asks.rest] at later
      exact absurd first later.1
  | @ipv4Fragment next d h asks read _ =>
      rw [asks.rest] at later agree ⊢
      obtain ⟨offset, rfl⟩ := later
      obtain ⟨fixed, whole⟩ := Ipv4.whole (Option.isSome_of_eq_some read)
      have ends := (Ipv4.datagramEnd_bounds whole).2
      rw [← Ipv4.read?_agree agree fixed] at read
      rw [← Ipv4.fragmentOffset_agree agree fixed] at offset
      have again := Next.Step.ipv4Fragment (asks.about e) read offset
      rw [Ipv4.headerLength_agree agree fixed, Ipv4.trailer_agree agree fixed] at again
      refine ⟨Ipv4.payload e, again, ?_⟩
      rw [Ipv4.payload_agree agree fixed, length_span, agree.length, Nat.min_eq_left ends]
      rfl
  | @ipv6 next d h protocol asks read reached =>
      rw [asks.rest] at later
      cases reached.symm.trans (Ipv6.upper_of_laterFragment later (.refl _ d)).1
  | @ipv6Cut next d h asks read _ =>
      rw [asks.rest] at later agree ⊢
      obtain ⟨stops, length, size⟩ := Ipv6.upper_of_laterFragment later agree
      have fixed : 40 ≤ known := by
        obtain ⟨headers, upper, rest, -, -, -, rfl⟩ := later
        exact Nat.le_add_right 40 _
      have ends := (Ipv6.datagramEnd_bounds (Ipv6.whole (Option.isSome_of_eq_some read))).2
      have unread := congrArg List.length (Ipv6.splits read).rest
      rw [length_span, ← length] at unread
      rw [← Ipv6.read?_agree agree fixed] at read
      have again := Next.Step.ipv6Cut (asks.about e) read stops
      rw [size, Ipv6.trailer_agree agree fixed] at again
      exact ⟨_, again, unread.trans (congrArg (· - _) (Nat.min_eq_left ends))⟩
  | vlan | arp | tcp | udp | icmp | icmpv6 => cases later
  | application _ found => cases later.kind_ip.symm.trans (Transport.kind_of_detect? found)

/-- **A later fragment is not looked into.**  Where the walk comes to the IP header of a fragment
that is not the first, it is the last layer that is recognized: behind it come the rest of its
datagram as payload, if there is any, and the trailers.  And any bytes can stand behind the
header, or for IPv6 behind the fourth byte of the fragment header, without changing a layer. -/
theorem later_fragment_unread (link : LinkType) (d : Bytes) (r : Region) (known : Nat)
    (here : r ∈ regions link d) (later : r.layer.IsLaterFragment (r.bytes d) known) :
    let rest := r.layer.contentEnd (r.bytes d) - r.size d
    (∃ front trailers, dissect link d =
        front ++ r.layer :: ((if rest = 0 then [] else [.payload rest]) ++ trailers) ∧
      ∀ l ∈ trailers, ∃ n, l = .trailer n) ∧
    ∀ contents, contents.length = d.length - (r.start + known) →
      dissect link (d.take (r.start + known) ++ contents) = dissect link d := by
  intro rest
  have inner : r.layer.isInner := by
    rw [Layer.isInner, later.kind_ip]
    rfl
  have positive := later.known_pos (Region.sound here).read
  obtain ⟨front, room, target, comes⟩ :=
    dissection_comesTo here inner (Nat.le_add_right r.start known) (by omega)
  obtain ⟨span, onward, step, layer⟩ := comes.step
  rw [← layer, ← comes.rest] at later
  -- what every such frame is split into
  have split {e : Bytes} (agree : Agree (r.start + known) d e) :
      dissection link e = Dissection.behind front ⟨[span], rest⟩ := by
    have agree' : Agree known target.rest (r.bytes e) := by
      have part := agree.span r.start r.stop
      rw [Nat.add_sub_cancel_left] at part
      exact comes.rest ▸ part
    obtain ⟨unread, again, length⟩ := step.laterFragment later agree'
    rw [comes.again e agree, walk_of_step again, (walked_walk room _).of_unread, length, layer,
      comes.rest]
    rfl
  have whole := split (.refl _ d)
  refine ⟨⟨front.map (·.layer), (dissection link d).trailers, ?_, fun l hl => ?_⟩, ?_⟩
  · have headers : (dissection link d).headers = front.map (·.layer) ++ [r.layer] := by
      rw [whole, ← layer]
      exact List.map_append
    have payload : (dissection link d).payload = if rest = 0 then [] else [.payload rest] := by
      rw [whole]
      rfl
    rw [dissect, Dissection.layers, headers, payload, List.append_assoc, List.append_assoc]
    rfl
  · obtain ⟨n, -, named⟩ := Dissection.mem_trailers hl
    exact ⟨n, named⟩
  · intro contents length
    rw [dissect, dissect, split (.replaced _ d length), whole]

/-- A datagram of IPv6 in one of IPv4, with options in front of the header of a later fragment.
What follows its offset looks like a segment with a request, and is payload like anything else. -/
theorem later_fragment_unread_tunnelled :
    let ip4 (b : UInt8) : Ip4 := ⟨[10, 0, 0, b], rfl⟩
    let ip6 (b : UInt8) : Ip6 := ⟨List.replicate 15 0 ++ [b], rfl⟩
    let options : Bytes := [44, 0, 1, 4, 0, 0, 0, 0]
    let shown : Bytes := [6, 0, 0, 8]
    let fragment (contents : Bytes) : Bytes :=
      Ipv4.packet (ip4 1) (ip4 2) 41 (Ipv6.packet (ip6 1) (ip6 2) 0 (options ++ shown ++ contents))
    let segment := Tcp.segment 40000 80 7 0x18 (Bytes.ofText "GET / HTTP/1.1")
    let d := fragment ([0, 0, 0, 9] ++ segment)
    let r : Region := ⟨.ipv6 ⟨ip6 1, ip6 2, 0, 64, 50⟩, 20, 110⟩
    r ∈ regions .rawIp d ∧ r.layer.IsLaterFragment (r.bytes d) 52 ∧
      dissect .rawIp (fragment (List.replicate 38 0xff)) = dissect .rawIp d := by
  intro ip4 ip6 options shown fragment segment d r
  have here : r ∈ regions .rawIp d := by decide +kernel
  have later : r.layer.IsLaterFragment (r.bytes d) 52 :=
    ⟨[.options .hopByHop 0 ⟨[1, 4, 0, 0, 0, 0], rfl⟩], 44, shown ++ [0, 0, 0, 9] ++ segment, rfl,
      by decide +kernel, ⟨rfl, by decide +kernel, by decide +kernel⟩, rfl⟩
  have other : fragment (List.replicate 38 0xff) =
      d.take (r.start + 52) ++ List.replicate 38 0xff := by decide +kernel
  refine ⟨here, later, ?_⟩
  rw [other]
  exact (later_fragment_unread .rawIp d r 52 here later).2 _ (by decide +kernel)

end PacketWatch
