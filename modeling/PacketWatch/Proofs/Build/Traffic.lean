/-
# `PacketWatch.Proofs.Build.Traffic` — what made-up traffic decodes to

A frame of a single pattern is built around what the pattern is named for, and is split into
what it was built from (`dissect_frame`).  What remains is the payload of a transport.

    the client's port     at least 49152, and no service is known by such a port
    the server's port     80, 53, or 9000, where there is no service
    the payload           a request, of which the first line is plain text, or a query

Garbage is shorter than a link header, whatever the sequence number is.  The mixed pattern takes
the others in turn.  Nothing that is added up in building overflows (`Strict.Build.traffic_eq`).
-/
import PacketWatch.Proofs.Build.Checked
import PacketWatch.Proofs.Build.Frames

namespace PacketWatch

open Bytes

namespace Traffic

variable (seq : UInt64)

/-! ## Client and server -/

theorem ip4Text_client : ip4Text (client seq) = "192.168.0." ++ toString (seq.toNat % 250 + 2) := by
  have last : (host seq).toNat = seq.toNat % 250 + 2 := by
    rw [host, UInt8.toNat_ofNat']
    omega
  have parts : ip4Text (client seq) =
      "192" ++ "." ++ "168" ++ "." ++ "0" ++ "." ++ toString (host seq).toNat := rfl
  have network : "192" ++ "." ++ "168" ++ "." ++ "0" ++ "." = "192.168.0." := rfl
  rw [parts, last, network]

theorem ip4Text_server : ip4Text server = "10.0.0.1" := by decide

theorem toNat_clientPort : (clientPort seq).toNat = 49152 + seq.toNat % 16000 := by
  rw [clientPort, UInt16.toNat_ofNat']
  omega

/-- A service is not responsible for a client that talks to a port of another one. -/
theorem not_isResponsible {s : Service} {port : UInt16} {d : Bytes}
    (low : s.ports.all (·.toNat < 49152)) (other : port ∉ s.ports)
    (plain : s.hasSignature d = false) : ¬ s.isResponsible (clientPort seq) port d := by
  have client : clientPort seq ∉ s.ports := by
    intro known
    have port := of_decide_eq_true (List.all_eq_true.mp low _ known)
    rw [toNat_clientPort] at port
    omega
  rw [Service.isResponsible, Service.onPort, plain, Bool.or_false, Bool.or_eq_true,
    List.contains_iff_mem, List.contains_iff_mem]
  exact not_or.mpr ⟨client, other⟩

/-! ## What services make of the payloads -/

/-- The service that is asked decides what is carried. -/
theorem carried_of_find? {t : Transport} {srcPort dstPort : UInt16} {payload : Bytes} {s : Service}
    {l : Layer} (nonempty : payload ≠ [])
    (asked : t.services.find? (·.isResponsible srcPort dstPort payload) = some s)
    (read : s.read? payload = some l) : carried t srcPort dstPort payload = [l] := by
  have found : t.detect? srcPort dstPort payload = some l := by
    change Option.bind (t.services.find? _) _ = some l
    rw [asked]
    exact read
  rw [carried, if_neg nonempty, found]

/-- A service is responsible for who talks to its port. -/
theorem isResponsible {s : Service} {port : UInt16} {d : Bytes} (own : port ∈ s.ports) :
    s.isResponsible (clientPort seq) port d := by
  rw [Service.isResponsible, Service.onPort, List.contains_iff_mem.mpr own, Bool.or_true,
    Bool.true_or]

theorem startsWith_request : (ofText (request seq)).startsWith (ofText "GET ") := by
  have line : request seq =
      "GET " ++ ("/item/" ++ toString seq.toNat ++ " HTTP/1.1\r\nHost: mock\r\n\r\n") := by
    have start : "GET /item/" = "GET " ++ "/item/" := rfl
    rw [request, start, String.append_assoc, String.append_assoc, String.append_assoc]
  rw [line, ofText_append]
  exact List.isPrefixOf_iff_prefix.mpr (List.prefix_append _ _)

theorem carried_request :
    carried .tcp (clientPort seq) 80 (ofText (request seq)) = [.http ⟨requestLine seq⟩] := by
  have starts := startsWith_request seq
  have line : TextLine.first (ofText (request seq)) = requestLine seq := by
    rw [request_eq]
    exact TextLine.first_ofText (isPlain_requestLine seq)
      (Nat.le_trans (length_requestLine_le seq) (by decide)) _
  have opens : Http.openings.any fun o => (ofText (request seq)).startsWith (ofText o) :=
    List.any_eq_true.mpr ⟨"GET ", List.mem_cons_self, starts⟩
  have read : Http.read? (ofText (request seq)) = some ⟨requestLine seq⟩ := by
    rw [Http.read?, if_pos opens, line]
  have nonempty : ofText (request seq) ≠ [] := by
    intro empty
    rw [empty] at starts
    cases starts
  have other : ¬ Service.dnsOverTcp.isResponsible (clientPort seq) 80 (ofText (request seq)) :=
    not_isResponsible seq rfl (by decide) rfl
  have own : Service.http.isResponsible (clientPort seq) 80 (ofText (request seq)) :=
    isResponsible seq (by decide)
  have asked : Transport.tcp.services.find?
      (·.isResponsible (clientPort seq) 80 (ofText (request seq))) = some .http := by
    simp only [Transport.services, List.find?_cons, other, own]
  exact carried_of_find? nonempty asked (congrArg (Option.map Layer.http) read)

theorem carried_query :
    carried .udp (clientPort seq) 53 (Dns.query (low16 seq) (hostName seq)) =
      [.dns ⟨low16 seq, false, 1, 0⟩] := by
  have read := Dns.read?_query (low16 seq) (hostName seq)
  exact carried_of_find? (s := .dns) (List.cons_ne_nil _ _)
    (List.find?_cons_of_pos (isResponsible seq (by decide))) (congrArg (Option.map Layer.dns) read)

/-- No service is known by the port, so the payload is one. -/
theorem carried_counter :
    carried .udp (clientPort seq) 9000 (bytes64 seq) = [.payload 8] := by
  have nothing : Transport.udp.detect? (clientPort seq) 9000 (bytes64 seq) = none := by
    have nobody : ∀ s ∈ Transport.udp.services,
        ¬ s.isResponsible (clientPort seq) 9000 (bytes64 seq) := by
      simp only [Transport.services, List.forall_mem_cons]
      exact ⟨not_isResponsible seq rfl (by decide) rfl,
        not_isResponsible seq rfl (by decide) rfl,
        not_isResponsible seq rfl (by decide) rfl, nofun⟩
    exact congrArg (Option.bind · _) (List.find?_eq_none.mpr nobody)
  have nonempty : bytes64 seq ≠ [] := List.cons_ne_nil _ _
  rw [carried, if_neg nonempty, nothing, length_bytes64]

/-! ## Layers -/

/-- The headers of a datagram from client to server, in front of what it carries. -/
theorem dissect_overIpv4 {c : Cargo} (fits : c.Fits) {d : Bytes} (built : c.bytes = .ok d)
    (short : c.size ≤ 65515) (few : c.headers ≤ 29) :
    dissect .ethernet (overIpv4 seq c.protocol d) =
      .ethernet ⟨clientMac, serverMac, 0x0800⟩ ::
        .ipv4 ⟨client seq, server, c.protocol, 64, UInt16.ofNat (20 + c.size)⟩ :: c.layers := by
  have short : 20 + c.size ≤ 65535 := by omega
  exact dissect_frame clientMac serverMac (c := .ipv4 (client seq) server c) ⟨short, fits⟩
    (bind_ok_iff.mpr ⟨d, built, rfl⟩) (Nat.succ_le_succ few)

theorem dissect_tcpFrame :
    dissect .ethernet (tcpFrame seq) =
      [.ethernet ⟨clientMac, serverMac, 0x0800⟩,
        .ipv4 ⟨client seq, server, 6, 64, UInt16.ofNat (40 + (ofText (request seq)).length)⟩,
        .tcp
          { srcPort := clientPort seq, dstPort := 80, seq := UInt32.ofNat seq.toNat, ack := 1
            flags :=
              { fin := false, syn := false, rst := false, psh := true, ack := true, urg := false }
            window := 65535 },
        .http ⟨requestLine seq⟩] := by
  have short := length_request_le seq
  have built := dissect_overIpv4 seq
    (c := .tcp (clientPort seq) 80 (UInt32.ofNat seq.toNat) 0x18 (ofText (request seq))) trivial
    rfl (by rw [Cargo.size]; omega) (by decide : 1 ≤ 29)
  rw [Cargo.layers, carried_request, Cargo.size, ← Nat.add_assoc] at built
  exact built

theorem dissect_dnsFrame :
    dissect .ethernet (dnsFrame seq) =
      [.ethernet ⟨clientMac, serverMac, 0x0800⟩,
        .ipv4 ⟨client seq, server, 17, 64,
          UInt16.ofNat (28 + (Dns.query (low16 seq) (hostName seq)).length)⟩,
        .udp ⟨clientPort seq, 53,
          UInt16.ofNat (8 + (Dns.query (low16 seq) (hostName seq)).length)⟩,
        .dns ⟨low16 seq, false, 1, 0⟩] := by
  have short := length_query_le seq
  have fits : 8 + (Dns.query (low16 seq) (hostName seq)).length ≤ 65535 := by omega
  have built := dissect_overIpv4 seq
    (c := .udp (clientPort seq) 53 (Dns.query (low16 seq) (hostName seq))) fits rfl
    (by rw [Cargo.size]; omega) (by decide : 1 ≤ 29)
  rw [Cargo.layers, carried_query, Cargo.size, ← Nat.add_assoc] at built
  exact built

theorem dissect_arpFrame :
    dissect .ethernet (arpFrame seq) =
      [.ethernet ⟨clientMac, broadcastMac, 0x0806⟩,
        .arp ⟨1, some (client seq), some server⟩] :=
  dissect_frame clientMac broadcastMac (c := .arp clientMac (client seq) server) trivial rfl
    (by decide : 1 ≤ 30)

theorem dissect_icmpFrame :
    dissect .ethernet (icmpFrame seq) =
      [.ethernet ⟨clientMac, serverMac, 0x0800⟩, .ipv4 ⟨client seq, server, 1, 64, 39⟩,
        .icmp ⟨8, 0⟩] := by
  have size : (Cargo.echo 0x4d4b (low16 seq) (ofText "packetscope")).size = 19 :=
    (by decide : 8 + (ofText "packetscope").length = 19)
  have built := dissect_overIpv4 seq
    (c := .echo 0x4d4b (low16 seq) (ofText "packetscope")) trivial
    (Icmp.echoRequest_short 0x4d4b (low16 seq) (by decide)) (by rw [size]; decide)
    (by decide : 1 ≤ 29)
  rw [Cargo.layers, size] at built
  exact built

theorem dissect_ipv6Frame :
    dissect .ethernet (ipv6Frame seq) =
      [.ethernet ⟨clientMac, serverMac, 0x86dd⟩, .ipv6 ⟨client6 seq, server6, 17, 64, 16⟩,
        .udp ⟨clientPort seq, 9000, 16⟩, .payload 8] := by
  have size : (Cargo.udp (clientPort seq) 9000 (bytes64 seq)).size = 16 := by
    rw [Cargo.size, length_bytes64]
  have fits : 8 + (bytes64 seq).length ≤ 65535 := by
    rw [length_bytes64]
    decide
  have short : (Cargo.udp (clientPort seq) 9000 (bytes64 seq)).size ≤ 65535 := by
    rw [size]
    decide
  have built := dissect_frame clientMac serverMac
    (c := .ipv6 (client6 seq) server6 (.udp (clientPort seq) 9000 (bytes64 seq)))
    ⟨short, (by decide : 17 ∉ Ipv6.Extension.kinds), fits⟩ rfl (by decide : 2 ≤ 30)
  rw [Content.layers, Cargo.layers, Cargo.layers, carried_counter, size, length_bytes64] at built
  exact built

theorem length_noise (n : Nat) (state : UInt64) : (noise n state).length = n := by
  induction n generalizing state with
  | zero => rfl
  | succ n ih => exact congrArg (· + 1) (ih _)

/-- One to thirteen bytes are no header. -/
theorem dissect_garbageFrame :
    dissect .ethernet (garbageFrame seq) = [.payload (1 + seq.toNat % 13)] := by
  have length : (garbageFrame seq).length = 1 + seq.toNat % 13 := length_noise _ _
  have none : Ethernet.read? (garbageFrame seq) = none := if_pos (by
    rw [length, Ethernet.headerLength]
    omega)
  rw [dissect, dissection, Stage.ethernet, none, Stage.andThen, length, Dissection.layers_unread,
    if_neg (by omega)]

/-! ## Packets -/

/-- The label of a single pattern. -/
def label? : Traffic → Option String
  | tcp => some "HTTP"
  | dns => some "DNS"
  | arp => some "ARP"
  | icmp => some "ICMP"
  | ipv6 => some "UDP"
  | garbage => some "Unknown"
  | mixed => none

/-- What is shown of a frame of a single pattern, of its layers and of the packet that they
make. -/
structure Shown (t : Traffic) (layers : List Layer) (p : Packet) : Prop where
  labelled : t.label? = some p.protocol
  /-- Client and server, wherever there is an IPv4 header. -/
  addressed : t ∈ [tcp, dns, icmp] →
    p.src = "192.168.0." ++ toString (seq.toNat % 250 + 2) ∧ p.dst = "10.0.0.1"
  /-- A request for the item with the sequence number. -/
  requested : t = tcp → ∀ h, .http h ∈ layers ↔
    h = ⟨"GET /item/" ++ toString seq.toNat ++ " HTTP/1.1"⟩
  /-- A query under the sequence number, as far as 16 bits go. -/
  queried : t = dns → ∀ h, .dns h ∈ layers ↔
    h = ⟨UInt16.ofNat (seq.toNat % 2 ^ 16), false, 1, 0⟩
  untrailed : ∀ n, .trailer n ∉ layers

theorem low16_eq : low16 seq = UInt16.ofNat (seq.toNat % 2 ^ 16) := by
  rw [← UInt16.toNat_inj, low16, UInt16.toNat_ofNat', UInt16.toNat_ofNat', Nat.mod_mod]

/-- Of the other patterns the label is all there is to show. -/
theorem Shown.of_other {t : Traffic} {layers : List Layer} {p : Packet}
    (labelled : t.label? = some p.protocol) (other : t ∉ [tcp, dns, icmp])
    (untrailed : ∀ n, .trailer n ∉ layers) : Shown seq t layers p where
  labelled := labelled
  addressed := fun here => absurd here other
  requested := fun same => absurd (same ▸ List.mem_cons_self) other
  queried := fun same => absurd (same ▸ List.mem_cons_of_mem _ List.mem_cons_self) other
  untrailed := untrailed

theorem shown_single (f : Frame) {t : Traffic} (alone : t ≠ mixed) :
    Shown seq t (dissect .ethernet (single seq t))
      (.ofLayers f (dissect .ethernet (single seq t))) := by
  have addresses := And.intro (ip4Text_client seq) ip4Text_server
  cases t with
  | tcp =>
      rw [single, dissect_tcpFrame]
      exact
        { labelled := rfl
          addressed := fun _ => addresses
          requested := by simp [requestLine]
          queried := fun same => absurd same (by decide)
          untrailed := by simp }
  | dns =>
      rw [single, dissect_dnsFrame]
      exact
        { labelled := rfl
          addressed := fun _ => addresses
          requested := fun same => absurd same (by decide)
          queried := by simp [low16_eq]
          untrailed := by simp }
  | icmp =>
      rw [single, dissect_icmpFrame]
      exact
        { labelled := rfl
          addressed := fun _ => addresses
          requested := fun same => absurd same (by decide)
          queried := fun same => absurd same (by decide)
          untrailed := by simp }
  | arp =>
      rw [single, dissect_arpFrame]
      exact .of_other seq rfl (by decide) (by simp)
  | ipv6 =>
      rw [single, dissect_ipv6Frame]
      exact .of_other seq rfl (by decide) (by simp)
  | garbage =>
      rw [single, dissect_garbageFrame]
      exact .of_other seq rfl (by decide) (by simp)
  | mixed => exact absurd rfl alone

theorem taken_ne_mixed (t : Traffic) : t.taken seq ≠ mixed := by
  cases t with
  | mixed =>
      have mem : inTurn seq ∈ cycle := List.mem_of_getElem? (cycle_inTurn seq)
      exact (by decide : ∀ t ∈ cycle, t ≠ mixed) _ mem
  | tcp | dns | arp | icmp | ipv6 | garbage => exact nofun

theorem taken_of_ne_mixed {t : Traffic} (alone : t ≠ mixed) : t.taken seq = t := by
  cases t with
  | mixed => exact absurd rfl alone
  | tcp | dns | arp | icmp | ipv6 | garbage => rfl

/-- **Made-up traffic decodes to its kind**, whatever the sequence number is: building it
overflows nowhere, and what the packet shows is what its pattern is named for.  The mixed
pattern makes the frame of the pattern whose turn it is. -/
theorem traffic_decodes (t : Traffic) :
    Strict.Build.traffic t seq = .ok (t.bytes seq) ∧
      (∃ p, decode (t.frame seq) = .ok p ∧
        Shown seq (t.taken seq) (dissect .ethernet (t.bytes seq)) p) ∧
      decode (t.frame seq) = decode ((t.taken seq).frame seq) ∧
      cycle[seq.toNat % 6]? = some (mixed.taken seq) := by
  have own := t.bytes_eq_single seq
  have alone := taken_ne_mixed seq t
  have again : (t.taken seq).bytes seq = t.bytes seq := by
    rw [own, bytes_eq_single, taken_of_ne_mixed seq alone]
  have shown := shown_single seq (t.frame seq) alone
  rw [← own] at shown
  refine ⟨Strict.Build.traffic_eq t seq, ⟨_, decode_wellFormed (beq_self_eq_true _), shown⟩, ?_,
    cycle_inTurn seq⟩
  rw [frame, frame, again]

end Traffic

end PacketWatch
