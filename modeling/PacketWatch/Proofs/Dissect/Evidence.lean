/-
# `PacketWatch.Proofs.Dissect.Evidence` — what the bytes show of an application message

A payload is named after an application only if it looks like one: its ports, its length, the
values that stand at fixed places of it and the text that it begins with.  `JustifiedBy` lists
what has to be there for each protocol, and where the fields of the layer come from.  It speaks
of the payload as numbers, high byte first (`Bytes.number`), and as text; how a message is read
does not occur in it.

Detection is one case for each service of the transport.  That such a message stands last,
right behind the transport header and in the bytes that this delimits (`Carries`), is an
induction on the walk with the offsets of what is to be looked at.
-/
import PacketWatch.Proofs.Dissect.Accounting

namespace PacketWatch

open Bytes

/-! ## Numbers in a payload -/

/-- The number that the `n` bytes from an offset on are, high byte first. -/
def Bytes.number (d : Bytes) (i n : Nat) : Nat :=
  ((d.drop i).take n).foldl (fun value b => 256 * value + b.toNat) 0

namespace Bytes

variable {d : Bytes} {i : Nat}

theorem toNat_byteAt (inside : i < d.length) : (d.byteAt i).toNat = d.number i 1 := by
  rw [number, drop_eq_cons inside]
  exact (Nat.zero_add _).symm

theorem toNat_word16At (inside : i + 2 ≤ d.length) : (d.word16At i).toNat = d.number i 2 := by
  rw [number, drop_eq_cons (by omega), drop_eq_cons (by omega), word16At, toNat_word16]
  simp

theorem toNat_word32At (inside : i + 4 ≤ d.length) : (d.word32At i).toNat = d.number i 4 := by
  rw [number, drop_eq_cons (by omega), drop_eq_cons (by omega), drop_eq_cons (by omega),
    drop_eq_cons (by omega), word32At, toNat_word32]
  simp [Nat.mul_comm]

/-- The bytes begin with a text. -/
theorem startsWith_iff {s : String} : d.startsWith (ofText s) ↔ ofText s <+: d :=
  List.isPrefixOf_iff_prefix

end Bytes

/-! ## What each protocol has to show -/

/-- A message of domain names: a whole header with an assigned operation code. -/
structure Dns.ShownBy (h : Dns) (message : Bytes) : Prop where
  whole : 12 ≤ message.length
  assigned : message.number 2 2 / 2048 % 16 ≤ 6
  transactionId : h.transactionId.toNat = message.number 0 2
  isResponse : h.isResponse ↔ message.number 2 2 / 32768 = 1
  questions : h.questions.toNat = message.number 4 2
  answers : h.answers.toNat = message.number 6 2

/-- The cookie behind the fixed fields of a request or a reply. -/
structure Dhcp.ShownBy (h : Dhcp) (message : Bytes) : Prop where
  whole : 240 ≤ message.length
  cookie : message.number 236 4 = 0x63825363
  direction : message.number 0 1 = 1 ∨ message.number 0 1 = 2
  op : h.op.toNat = message.number 0 1
  transactionId : h.transactionId.toNat = message.number 4 4

structure Ntp.ShownBy (h : Ntp) (message : Bytes) : Prop where
  whole : 48 ≤ message.length
  assigned : 1 ≤ message.number 0 1 / 8 % 8 ∧ message.number 0 1 / 8 % 8 ≤ 4
  version : h.version.toNat = message.number 0 1 / 8 % 8
  mode : h.mode.toNat = message.number 0 1 % 8

def Http.methods : List String :=
  ["GET", "POST", "PUT", "DELETE", "HEAD", "OPTIONS", "PATCH", "CONNECT", "TRACE"]

/-- A method and a blank, or the name of the protocol. -/
structure Http.ShownBy (h : Http) (message : Bytes) : Prop where
  opening : (∃ method ∈ methods, ofText (method ++ " ") <+: message) ∨
    ofText "HTTP/1." <+: message
  startLine : h.startLine = TextLine.first message

structure Tls.ShownBy (h : Tls) (message : Bytes) : Prop where
  whole : 3 ≤ message.length
  inUse : 20 ≤ message.number 0 1 ∧ message.number 0 1 ≤ 23
  known : 0x0300 ≤ message.number 1 2 ∧ message.number 1 2 ≤ 0x0304
  contentType : h.contentType.toNat = message.number 0 1
  version : h.version.toNat = message.number 1 2

/-- An identification line is shown exactly where there is one. -/
structure Ssh.ShownBy (h : Ssh) (message : Bytes) : Prop where
  banner : h.banner.isSome ↔ ofText "SSH-" <+: message
  line : ∀ line ∈ h.banner, line = TextLine.first message

structure Ftp.ShownBy (h : Ftp) (message : Bytes) : Prop where
  line : h.line = TextLine.first message
  some : h.line ≠ ""
  printable : ∀ c ∈ h.line.toList, 32 ≤ c.toNat ∧ c.toNat ≤ 126

/-- One of these ports is the source or the destination. -/
def Among (ports : List UInt16) (srcPort dstPort : UInt16) : Prop :=
  srcPort ∈ ports ∨ dstPort ∈ ports

/-- What an application layer needs: its transport, its ports and its payload.  Over TCP, a
message of domain names has its length in front. -/
def Layer.JustifiedBy (t : Transport) (srcPort dstPort : UInt16) (payload : Bytes) : Layer → Prop
  | dns h => Among [53, 5353] srcPort dstPort ∧
      (t = .udp ∧ h.ShownBy payload ∨ t = .tcp ∧ h.ShownBy (payload.drop 2))
  | dhcp h => t = .udp ∧ Among [67, 68] srcPort dstPort ∧ h.ShownBy payload
  | ntp h => t = .udp ∧ Among [123] srcPort dstPort ∧ h.ShownBy payload
  | http h => t = .tcp ∧ Among [80, 8000, 8008, 8080] srcPort dstPort ∧ h.ShownBy payload
  | tls h => t = .tcp ∧ Among [443, 465, 636, 853, 993, 995] srcPort dstPort ∧ h.ShownBy payload
  | ssh h => t = .tcp ∧ (Among [22] srcPort dstPort ∨ ofText "SSH-" <+: payload) ∧
      h.ShownBy payload
  | ftp h => t = .tcp ∧ Among [21] srcPort dstPort ∧ h.ShownBy payload
  | _ => False

/-! ## Reading shows it -/

theorem Dns.shownBy {h : Dns} {d : Bytes} (read : read? d = some h) : h.ShownBy d := by
  unfold read? at read
  split at read
  · cases read
  · rename_i passed
    rw [not_or, Nat.not_lt, Nat.not_lt, headerLength, opcode] at passed
    obtain ⟨whole, assigned⟩ := passed
    obtain rfl := Option.some.inj read
    have flags := toNat_word16At (d := d) (i := 2) (by omega)
    rw [flags] at assigned
    refine ⟨whole, assigned, toNat_word16At (by omega), ?_, toNat_word16At (by omega),
      toNat_word16At (by omega)⟩
    have small := (d.word16At 2).toNat_lt
    simp only [decide_eq_true_eq]
    omega

theorem Dhcp.shownBy {h : Dhcp} {d : Bytes} (read : read? d = some h) : h.ShownBy d := by
  unfold read? at read
  split at read
  · rename_i passed
    simp only [Bool.and_eq_true, Bool.or_eq_true, decide_eq_true_eq, beq_iff_eq] at passed
    obtain ⟨⟨whole, cookie⟩, direction⟩ := passed
    have whole : 240 ≤ d.length := whole
    obtain rfl := Option.some.inj read
    have op := toNat_byteAt (d := d) (i := 0) (by omega)
    refine ⟨whole, ?_, ?_, op, toNat_word32At (by omega)⟩
    · exact (toNat_word32At whole).symm.trans (congrArg UInt32.toNat cookie)
    · rw [← op]
      exact direction.imp (congrArg UInt8.toNat) (congrArg UInt8.toNat)
  · cases read

theorem Ntp.shownBy {h : Ntp} {d : Bytes} (read : read? d = some h) : h.ShownBy d := by
  unfold read? at read
  split at read
  · rename_i passed
    simp only [Bool.and_eq_true, decide_eq_true_eq] at passed
    obtain ⟨⟨whole, least⟩, most⟩ := passed
    have whole : 48 ≤ d.length := whole
    obtain rfl := Option.some.inj read
    have first := toNat_byteAt (d := d) (i := 0) (by omega)
    have version : (versionOf (d.byteAt 0)).toNat = d.number 0 1 / 8 % 8 := by
      rw [versionOf, UInt8.toNat_ofNat', first]
      omega
    have mode : (modeOf (d.byteAt 0)).toNat = d.number 0 1 % 8 := by
      rw [modeOf, UInt8.toNat_ofNat', first]
      omega
    rw [UInt8.le_iff_toNat_le, version] at least most
    exact ⟨whole, ⟨least, most⟩, version, mode⟩
  · cases read

theorem Http.openings_eq : openings = methods.map (· ++ " ") ++ ["HTTP/1."] := by decide

theorem Http.shownBy {h : Http} {d : Bytes} (read : read? d = some h) : h.ShownBy d := by
  unfold read? at read
  split at read
  · rename_i passed
    obtain rfl := Option.some.inj read
    refine ⟨?_, rfl⟩
    rw [openings_eq, List.any_append, Bool.or_eq_true, List.any_map] at passed
    rcases passed with request | status
    · obtain ⟨method, known, begins⟩ := List.any_eq_true.mp request
      exact .inl ⟨method, known, startsWith_iff.mp begins⟩
    · obtain ⟨name, only, begins⟩ := List.any_eq_true.mp status
      obtain rfl := List.mem_singleton.mp only
      exact .inr (startsWith_iff.mp begins)
  · cases read

theorem Tls.shownBy {h : Tls} {d : Bytes} (read : read? d = some h) : h.ShownBy d := by
  unfold read? at read
  split at read
  · rename_i passed
    simp only [Bool.and_eq_true, decide_eq_true_eq, isContentType, isVersion,
      UInt8.le_iff_toNat_le, UInt16.le_iff_toNat_le] at passed
    obtain ⟨⟨whole, inUse⟩, known⟩ := passed
    have whole : 3 ≤ d.length := whole
    obtain rfl := Option.some.inj read
    have contentType := toNat_byteAt (d := d) (i := 0) (by omega)
    have version := toNat_word16At (d := d) (i := 1) (by omega)
    rw [contentType] at inUse
    rw [version] at known
    exact ⟨whole, inUse, known, contentType, version⟩
  · cases read

theorem Ssh.shownBy (d : Bytes) : (read d).ShownBy d := by
  have shown := startsWith_iff (d := d) (s := "SSH-")
  unfold read hasBanner
  split
  · rename_i banner
    refine ⟨iff_of_true rfl (shown.mp banner), fun line here => ?_⟩
    exact (Option.some.inj here).symm
  · rename_i none
    refine ⟨iff_of_false nofun (mt shown.mpr none), nofun⟩

theorem Ftp.shownBy {h : Ftp} {d : Bytes} (read : read? d = some h) : h.ShownBy d := by
  unfold read? at read
  dsimp only at read
  split at read
  · rename_i passed
    simp only [Bool.and_eq_true, Bool.not_eq_true', List.all_eq_true, isPrintable,
      decide_eq_true_eq] at passed
    obtain ⟨some, printable⟩ := passed
    obtain rfl := Option.some.inj read
    refine ⟨rfl, fun empty => ?_, printable⟩
    exact Bool.eq_false_iff.mp some (String.isEmpty_iff.mpr empty)
  · cases read

theorem Service.among_of_onPort {s : Service} {srcPort dstPort : UInt16}
    (onPort : s.onPort srcPort dstPort) : Among s.ports srcPort dstPort := by
  rw [Service.onPort, Bool.or_eq_true, List.contains_iff_mem, List.contains_iff_mem] at onPort
  exact onPort

/-- A service without a signature is asked because of a port. -/
theorem Service.among {s : Service} {srcPort dstPort : UInt16} {d : Bytes}
    (responsible : s.isResponsible srcPort dstPort d) (plain : s.hasSignature d = false) :
    Among s.ports srcPort dstPort := by
  rw [isResponsible, plain, Bool.or_false] at responsible
  exact among_of_onPort responsible

/-- What a service reads on a port of its own, it justifies. -/
theorem Transport.justifiedBy {t : Transport} {srcPort dstPort : UInt16} {d : Bytes} {l : Layer}
    (found : t.detect? srcPort dstPort d = some l) : l.JustifiedBy t srcPort dstPort d := by
  obtain ⟨service, asked, read⟩ := Option.bind_eq_some_iff.mp found
  have listed := List.mem_of_find?_eq_some asked
  have responsible : service.isResponsible srcPort dstPort d := by
    simpa using List.find?_some asked
  cases t with
  | udp =>
      simp only [services, List.mem_cons, List.not_mem_nil, or_false] at listed
      rcases listed with rfl | rfl | rfl
      · obtain ⟨h, message, rfl⟩ := Option.map_eq_some_iff.mp read
        exact ⟨Service.among responsible rfl, .inl ⟨rfl, Dns.shownBy message⟩⟩
      · obtain ⟨h, message, rfl⟩ := Option.map_eq_some_iff.mp read
        exact ⟨rfl, Service.among responsible rfl, Dhcp.shownBy message⟩
      · obtain ⟨h, message, rfl⟩ := Option.map_eq_some_iff.mp read
        exact ⟨rfl, Service.among responsible rfl, Ntp.shownBy message⟩
  | tcp =>
      simp only [services, List.mem_cons, List.not_mem_nil, or_false] at listed
      rcases listed with rfl | rfl | rfl | rfl | rfl
      · obtain ⟨h, message, rfl⟩ := Option.map_eq_some_iff.mp read
        exact ⟨Service.among responsible rfl, .inr ⟨rfl, Dns.shownBy message⟩⟩
      · obtain ⟨h, message, rfl⟩ := Option.map_eq_some_iff.mp read
        exact ⟨rfl, Service.among responsible rfl, Http.shownBy message⟩
      · obtain ⟨h, message, rfl⟩ := Option.map_eq_some_iff.mp read
        exact ⟨rfl, Service.among responsible rfl, Tls.shownBy message⟩
      · obtain rfl := Option.some.inj read
        refine ⟨rfl, ?_, Ssh.shownBy d⟩
        rcases Bool.or_eq_true_iff.mp responsible with onPort | banner
        · exact .inl (Service.among_of_onPort onPort)
        · exact .inr (startsWith_iff.mp banner)
      · obtain ⟨h, message, rfl⟩ := Option.map_eq_some_iff.mp read
        exact ⟨rfl, Service.among responsible rfl, Ftp.shownBy message⟩

/-! ## Where a message lies -/

/-- The transport of a header, and its ports. -/
def Layer.ports? : Layer → Option (Transport × UInt16 × UInt16)
  | tcp h => some (.tcp, h.srcPort, h.dstPort)
  | udp h => some (.udp, h.srcPort, h.dstPort)
  | _ => none

/-- A transport header and, right behind it, a message in the bytes that it delimits. -/
structure Carries (d : Bytes) (header message : Region) : Prop where
  start : message.start = header.start + header.size d
  stop : message.stop = header.start + header.layer.contentEnd (header.bytes d)
  some : message.bytes d ≠ []
  justified : ∃ t srcPort dstPort, header.layer.ports? = Option.some (t, srcPort, dstPort) ∧
    message.layer.JustifiedBy t srcPort dstPort (message.bytes d)

/-- What a transport carries stands behind a header with its ports. -/
theorem Next.Step.ports {next : Next} {span : Span} {t : Transport} {srcPort dstPort : UInt16}
    {payload : Bytes} (step : next.Step span (.application t srcPort dstPort payload)) :
    span.layer.ports? = some (t, srcPort, dstPort) := by
  cases step with
  | tcp => rfl
  | udp => rfl

theorem Next.Step.some_of_application {t : Transport} {srcPort dstPort : UInt16} {d : Bytes}
    {span : Span} {onward : Next} (step : (Next.application t srcPort dstPort d).Step span onward) :
    d ≠ [] := by
  rintro rfl
  cases step.stage

/-- The recognized layers end with a message and the transport header in front of it, and
nothing is left unread. -/
def EndsWith (d : Bytes) (places : List Region) (l : Layer) (r : Dissection) : Prop :=
  r.unread = 0 ∧ ∃ front header message, places = front ++ [header, message] ∧
    message.layer = l ∧ Carries d header message

/-- Another header in front. -/
theorem EndsWith.cons {d : Bytes} {places : List Region} {l : Layer} {r : Dissection}
    (ends : EndsWith d places l r) (first : Region) (span : Span) :
    EndsWith d (first :: places) l (r.cons span) := by
  obtain ⟨complete, front, header, message, rfl, layer, carries⟩ := ends
  exact ⟨complete, first :: front, header, message, rfl, layer, carries⟩

/-- The bytes that a transport header delimits are a message. -/
theorem EndsWith.of_transport {d : Bytes} {start stop first last room : Nat} {span : Span}
    {t : Transport} {srcPort dstPort : UInt16} {payload : Bytes} {l : Layer} {r : Dissection}
    (ports : span.layer.ports? = some (t, srcPort, dstPort))
    (walked : Walked room (.application t srcPort dstPort payload) r) (here : l ∈ r.headers)
    (begins : first = start + span.layer.headerSize (d.span start stop))
    (ends : last = start + span.layer.contentEnd (d.span start stop))
    (content : payload = d.span first last) :
    EndsWith d (⟨span.layer, start, stop⟩ :: place d first last r.headers) l (r.cons span) := by
  subst content
  cases walked with
  | stop => cases here
  | step step further =>
      obtain ⟨layer, found, rfl, rfl⟩ := step.of_application
      rw [further.of_unread] at here ⊢
      obtain rfl : l = layer := List.mem_singleton.mp here
      have justified := Transport.justifiedBy found
      exact ⟨rfl, [], ⟨span.layer, start, stop⟩, ⟨l, first, last⟩, rfl, rfl, begins, ends,
        step.some_of_application, t, srcPort, dstPort, ports, justified⟩

/-- The induction is on the walk, with the offsets of what is to be looked at. -/
theorem Walked.endsWith {room : Nat} {next : Next} {r : Dissection} (walked : Walked room next r)
    {d : Bytes} {start stop : Nat} (within : start ≤ stop) (inside : stop ≤ d.length)
    (rest : next.rest = d.span start stop) {l : Layer} (here : l ∈ r.headers)
    (application : l.kind = .application)
    (before : ∀ t srcPort dstPort payload, next ≠ .application t srcPort dstPort payload) :
    EndsWith d (place d start stop r.headers) l r := by
  induction walked generalizing start stop with
  | stop => cases here
  | @step room next onward span r step walked ih =>
      obtain ⟨ordered, ends, content⟩ := (rest ▸ step.splits).content within inside
      rcases List.mem_cons.mp here with rfl | later
      · cases step with
        | application => exact absurd rfl (before _ _ _ _)
        | vlan | arp | ipv4 | ipv4Fragment | ipv6 | ipv6Cut | tcp | udp | icmp | icmpv6 =>
            cases application
      · cases onward with
        | etherType | ipProtocol =>
            exact (ih ordered (Nat.le_trans ends inside) content later nofun).cons _ _
        | application => exact .of_transport step.ports walked later rfl rfl content
        | unread =>
            rw [walked.nothing_behind] at later
            cases later

theorem LinkStep.not_application {link : LinkType} {d : Bytes} {span : Span} {onward : Next}
    (step : LinkStep link d span onward) :
    span.layer.kind ≠ .application ∧
      ∀ t srcPort dstPort payload, onward ≠ .application t srcPort dstPort payload := by
  cases step with
  | ethernet | cooked | loopback | loopbackOther => exact ⟨nofun, nofun⟩

theorem Dissected.endsWith {link : LinkType} {d : Bytes} {r : Dissection}
    (dissected : Dissected d link r) {l : Layer} (here : l ∈ r.headers)
    (application : l.kind = .application) :
    EndsWith d (place d 0 d.length r.headers) l r := by
  cases dissected with
  | unread => cases here
  | ip _ walked =>
      have all := (span_whole d).symm
      exact walked.endsWith (Nat.zero_le _) (Nat.le_refl _) all here application nofun
  | linked step walked =>
      obtain ⟨other, before⟩ := step.not_application
      obtain ⟨ordered, ends, content⟩ :=
        step.splits_frame.content (Nat.zero_le _) (Nat.le_refl _)
      rcases List.mem_cons.mp here with rfl | later
      · exact absurd application other
      · exact (walked.endsWith ordered ends content later application before).cons _ _

/-- **An application layer is justified by the bytes.**  It is the last recognized layer, right
behind a TCP or UDP header, and no payload follows.  The bytes that this header delimits are
there; with its ports they are what the protocol needs, and the fields of the layer stand
in them. -/
theorem application_justified (link : LinkType) (d : Bytes) (l : Layer) (here : l ∈ dissect link d)
    (application : l.kind = .application) :
    ∃ front header message trailers, regions link d = front ++ [header, message] ∧
      message.layer = l ∧
      dissect link d = front.map (·.layer) ++ header.layer :: l :: trailers ∧
      (∀ x ∈ trailers, ∃ n, x = .trailer n) ∧ Carries d header message := by
  have listed : l ∈ (dissection link d).headers := by
    rcases List.mem_append.mp here with shown | trailing
    · rcases List.mem_append.mp shown with header | unread
      · exact header
      · obtain ⟨n, -, rfl⟩ := Dissection.mem_payload unread
        cases application
    · obtain ⟨n, -, rfl⟩ := Dissection.mem_trailers trailing
      cases application
  obtain ⟨complete, front, header, message, places, rfl, carries⟩ :=
    (dissected_dissection link d).endsWith listed application
  have headers : (dissection link d).headers =
      front.map (·.layer) ++ [header.layer, message.layer] := by
    rw [← map_layer_place d 0 d.length (dissection link d).headers, places, List.map_append]
    rfl
  have payload : (dissection link d).payload = [] := if_pos complete
  refine ⟨front, header, message, (dissection link d).trailers, ?_, rfl, ?_, ?_, carries⟩
  · rw [regions_eq_place, places]
  · rw [dissect, Dissection.layers, headers, payload, List.append_nil, List.append_assoc]
    rfl
  · intro x hx
    obtain ⟨n, -, named⟩ := Dissection.mem_trailers hx
    exact ⟨n, named⟩

/-- A query over TCP: the length in front of it is no part of the message. -/
theorem application_justified_query :
    let ip4 (b : UInt8) : Ip4 := ⟨[10, 0, 0, b], rfl⟩
    let query : Bytes := bytes16 7 ++ bytes16 0x0100 ++ bytes16 1 ++ [0, 0, 0, 0, 0, 0]
    let d := Ipv4.packet (ip4 1) (ip4 2) 6 (Tcp.segment 53 40000 1 0x18 (bytes16 12 ++ query))
    let l : Layer := .dns ⟨7, false, 1, 0⟩
    l ∈ dissect .rawIp d ∧ l.kind = .application ∧
      ∃ header message, message.layer = l ∧ Carries d header message := by
  intro ip4 query d l
  have here : l ∈ dissect .rawIp d := by decide +kernel
  obtain ⟨-, header, message, -, -, layer, -, -, carries⟩ :=
    application_justified .rawIp d l here rfl
  exact ⟨here, rfl, header, message, layer, carries⟩

end PacketWatch
