/-
# `PacketWatch.Proofs.Dissect.Summaries` — what is printed of a packet stays on its lines

A summary is fixed words, numbers and addresses, which are printable ASCII, one case for each
constructor of a layer (`Layer.isPlain_summary`).  The rest is text that the packet has chosen:
a start line, an identification line or a line of a control channel (`Layer.text?`).  It is the
first line of what a transport header delimits, and that line is one whatever its bytes are
(`PacketWatch.Proofs.Text.SingleLine`).
-/
import PacketWatch.Decode
import PacketWatch.Proofs.Dissect.Evidence
import PacketWatch.Proofs.Text.SingleLine

namespace PacketWatch

open Text

/-! ## Numbers and addresses -/

namespace Text

@[simp] theorem isPlain_append_iff {s t : String} : IsPlain (s ++ t) ↔ IsPlain s ∧ IsPlain t := by
  refine ⟨fun whole => ⟨fun c hc => whole c ?_, fun c hc => whole c ?_⟩, fun ⟨s, t⟩ => s.append t⟩
  · rw [String.toList_append]
    exact List.mem_append_left _ hc
  · rw [String.toList_append]
    exact List.mem_append_right _ hc

theorem isPlain_intercalate {sep : String} {parts : List String} (between : IsPlain sep)
    (each : ∀ part ∈ parts, IsPlain part) : IsPlain (String.intercalate sep parts) := by
  induction parts with
  | nil => exact nofun
  | cons part parts ih =>
      obtain ⟨first, others⟩ := List.forall_mem_cons.mp each
      cases parts with
      | nil =>
          rw [String.intercalate_singleton]
          exact first
      | cons next parts =>
          rw [String.intercalate_cons_cons]
          exact (first.append between).append (ih others)

theorem printable_digitChar {n : Nat} (small : n < 16) :
    32 ≤ n.digitChar.toNat ∧ n.digitChar.toNat < 127 := by
  revert small
  revert n
  decide

/-- Hexadecimal digits are printable, by induction on the number of them. -/
theorem printable_of_mem_toDigits {n : Nat} {c : Char} (digit : c ∈ Nat.toDigits 16 n) :
    32 ≤ c.toNat ∧ c.toNat < 127 := by
  induction n using Nat.strongRecOn with
  | ind n ih =>
      rw [Nat.toDigits_eq_if (by decide)] at digit
      split at digit
      · obtain rfl := List.mem_singleton.mp digit
        exact printable_digitChar ‹n < 16›
      · rcases List.mem_append.mp digit with higher | last
        · exact ih (n / 16) (Nat.div_lt_self (by omega) (by decide)) higher
        · obtain rfl := List.mem_singleton.mp last
          exact printable_digitChar (Nat.mod_lt n (by decide))

@[simp] theorem isPlain_hexPadded (width n : Nat) : IsPlain (hexPadded width n) := by
  intro c hc
  rw [hexPadded, String.toList_ofList, List.mem_append] at hc
  rcases hc with zero | digit
  · obtain rfl := List.eq_of_mem_replicate zero
    decide
  · exact printable_of_mem_toDigits digit

end Text

@[simp] theorem isPlain_colonHex (d : Bytes) : IsPlain d.colonHex := by
  refine isPlain_intercalate (by decide) (List.forall_mem_map.mpr fun b _ => ?_)
  have high : b.toNat / 16 < 16 := Nat.div_lt_of_lt_mul b.toNat_lt
  have low : b.toNat % 16 < 16 := Nat.mod_lt _ (by decide)
  intro c hc
  rw [Bytes.hexByte, String.toList_ofList] at hc
  simp only [List.mem_cons, List.not_mem_nil, or_false] at hc
  rcases hc with rfl | rfl
  · exact printable_digitChar high
  · exact printable_digitChar low

@[simp] theorem isPlain_macText (a : Mac) : IsPlain (macText a) := isPlain_colonHex _

@[simp] theorem isPlain_ip4Text (a : Ip4) : IsPlain (ip4Text a) :=
  isPlain_intercalate (by decide) (List.forall_mem_map.mpr fun _ _ => isPlain_toString _)

theorem Ip6Text.isPlain_plain (groups : List UInt16) : IsPlain (plain groups) :=
  isPlain_intercalate (by decide) (List.forall_mem_map.mpr fun _ _ => isPlain_hexPadded 1 _)

@[simp] theorem isPlain_ip6Text (a : Ip6) : IsPlain (ip6Text a) := by
  unfold ip6Text
  dsimp only
  split
  · exact IsPlain.append (by decide) (isPlain_ip4Text _)
  · unfold Ip6Text.compressed
    dsimp only
    split
    · exact Ip6Text.isPlain_plain _
    · exact ((Ip6Text.isPlain_plain _).append (by decide)).append (Ip6Text.isPlain_plain _)

@[simp] theorem Text.isPlain_repr (n : Nat) : IsPlain n.repr := isPlain_toString n

/-! ## Headers and messages -/

theorem TcpFlags.isPlain_text (f : TcpFlags) : IsPlain f.text := by
  refine (IsPlain.append (by decide) (isPlain_intercalate (by decide) ?_)).append (by decide)
  have known : ∀ name ∈ ["SYN", "FIN", "RST", "PSH", "ACK", "URG"], IsPlain name := by decide
  intro name among
  rw [names] at among
  obtain ⟨flag, set, rfl⟩ := List.mem_map.mp among
  exact known _ (List.mem_map_of_mem (List.mem_of_mem_filter set))

theorem Icmp.isPlain_kindName (kind : UInt8) : IsPlain (kindName kind) := by
  unfold kindName
  split <;> decide

theorem Icmp.isPlain_kindName6 (kind : UInt8) : IsPlain (kindName6 kind) := by
  unfold kindName6
  split <;> decide

theorem Icmp.isPlain_numbered {name : String} (plain : IsPlain name) (h : Icmp) :
    IsPlain (numbered name h) := by
  unfold numbered
  simp +decide [plain]

theorem Tls.isPlain_contentTypeName (contentType : UInt8) :
    IsPlain (contentTypeName contentType) := by
  unfold contentTypeName
  split <;> decide

theorem Tls.isPlain_versionName (version : UInt16) : IsPlain (versionName version) := by
  unfold versionName
  split <;> decide

theorem Ntp.isPlain_modeName (mode : UInt8) : IsPlain (modeName mode) := by
  unfold modeName
  split <;> decide

theorem Ethernet.isPlain_summary (h : Ethernet) : IsPlain h.summary := by
  unfold summary
  simp +decide

theorem CookedCapture.isPlain_summary (h : CookedCapture) : IsPlain h.summary := by
  unfold summary
  simp +decide

theorem Loopback.isPlain_summary (h : Loopback) : IsPlain h.summary := by
  unfold summary
  simp +decide

theorem Vlan.isPlain_summary (h : Vlan) : IsPlain h.summary := by
  unfold summary
  simp +decide

theorem Arp.isPlain_summary (h : Arp) : IsPlain h.summary := by
  unfold summary
  refine IsPlain.append (by decide) ?_
  split
  · simp +decide
  · simp +decide
  · simp +decide

theorem Ipv4.isPlain_summary (h : Ipv4) : IsPlain h.summary := by
  unfold summary
  simp +decide

theorem Ipv6.isPlain_summary (h : Ipv6) : IsPlain h.summary := by
  unfold summary
  simp +decide

theorem Icmp.isPlain_summary (h : Icmp) : IsPlain h.summary :=
  IsPlain.append (by decide) (isPlain_numbered (isPlain_kindName _) h)

theorem Icmp.isPlain_summary6 (h : Icmp) : IsPlain h.summary6 :=
  IsPlain.append (by decide) (isPlain_numbered (isPlain_kindName6 _) h)

theorem Tcp.isPlain_summary (h : Tcp) : IsPlain h.summary := by
  unfold summary
  simp +decide [TcpFlags.isPlain_text]

theorem Udp.isPlain_summary (h : Udp) : IsPlain h.summary := by
  unfold summary
  simp +decide

theorem Dns.isPlain_summary (h : Dns) : IsPlain h.summary := by
  have kind : IsPlain (if h.isResponse then "response" else "query") := by split <;> decide
  unfold summary
  simp +decide [kind]

theorem Tls.isPlain_summary (h : Tls) : IsPlain h.summary := by
  unfold summary
  simp +decide [isPlain_contentTypeName, isPlain_versionName]

theorem Dhcp.isPlain_summary (h : Dhcp) : IsPlain h.summary := by
  have kind : IsPlain (if h.op = 1 then "Boot request" else "Boot reply") := by split <;> decide
  unfold summary
  simp +decide [kind]

theorem Ntp.isPlain_summary (h : Ntp) : IsPlain h.summary := by
  unfold summary
  simp +decide [isPlain_modeName]

/-- The text of a layer that was taken from its packet. -/
def Layer.text? : Layer → Option String
  | http h => some h.startLine
  | ssh h => h.banner
  | ftp h => some h.line
  | _ => none

/-- A summary is made of fixed words, numbers and addresses, and of the text from the packet. -/
theorem Layer.isPlain_summary {l : Layer} (own : l.text? = none) : IsPlain l.summary := by
  cases l with
  | ethernet h => exact h.isPlain_summary
  | cooked h => exact h.isPlain_summary
  | loopback h => exact h.isPlain_summary
  | vlan h => exact h.isPlain_summary
  | arp h => exact h.isPlain_summary
  | ipv4 h => exact h.isPlain_summary
  | ipv6 h => exact h.isPlain_summary
  | icmp h => exact h.isPlain_summary
  | icmpv6 h => exact h.isPlain_summary6
  | tcp h => exact h.isPlain_summary
  | udp h => exact h.isPlain_summary
  | dns h => exact h.isPlain_summary
  | tls h => exact h.isPlain_summary
  | dhcp h => exact h.isPlain_summary
  | ntp h => exact h.isPlain_summary
  | payload length =>
      show IsPlain ("Payload Layer, Data length: " ++ toString length ++ " [Bytes]")
      simp +decide
  | trailer length =>
      show IsPlain ("Packet Trailer, Length: " ++ toString length ++ " [Bytes]")
      simp +decide
  | ssh h =>
      have encrypted : h.banner = none := own
      show IsPlain h.summary
      rw [Ssh.summary, encrypted]
      decide
  | http | ftp => cases own

/-- A summary is a single line if the text in it is. -/
theorem Layer.singleLine_summary {l : Layer} (text : ∀ t ∈ l.text?, SingleLine t) :
    SingleLine l.summary := by
  cases own : l.text? with
  | none => exact (isPlain_summary own).singleLine
  | some t =>
      have line := text t own
      cases l with
      | http h =>
          obtain rfl := Option.some.inj own
          exact (IsPlain.singleLine (by decide)).append line
      | ssh h =>
          have banner : h.banner = some t := own
          show SingleLine (Ssh.summary h)
          rw [Ssh.summary, banner]
          exact (IsPlain.singleLine (by decide)).append line
      | ftp h =>
          obtain rfl := Option.some.inj own
          exact (IsPlain.singleLine (by decide)).append line
      | _ => cases own

/-! ## Text from the packet -/

theorem Layer.kind_of_text {l : Layer} {t : String} (own : l.text? = some t) :
    l.kind = .application := by
  cases l with
  | http | ssh | ftp => rfl
  | _ => cases own

/-- The text is the first line of the payload that the layer is named after. -/
theorem Layer.JustifiedBy.text {l : Layer} {t : Transport} {srcPort dstPort : UInt16}
    {payload : Bytes} (justified : l.JustifiedBy t srcPort dstPort payload) {text : String}
    (own : l.text? = some text) : text = TextLine.first payload := by
  cases l with
  | http h =>
      obtain ⟨-, -, shown⟩ := justified
      exact (Option.some.inj own).symm.trans shown.startLine
  | ssh h =>
      obtain ⟨-, -, shown⟩ := justified
      exact shown.line text own
  | ftp h =>
      obtain ⟨-, -, shown⟩ := justified
      exact (Option.some.inj own).symm.trans shown.line
  | _ => cases own

/-- A layer with text stands last, in the bytes that the header in front of it delimits. -/
theorem exists_carries {link : LinkType} {d : Bytes} {l : Layer} (here : l ∈ dissect link d)
    {t : String} (own : l.text? = some t) :
    ∃ front header message, regions link d = front ++ [header, message] ∧ message.layer = l ∧
      Carries d header message := by
  have application := Layer.kind_of_text own
  have recognized : l.isRecognized := by
    cases l with
    | http | ssh | ftp => rfl
    | _ => cases own
  have listed : l ∈ (dissection link d).headers := by
    have kept := List.mem_filter.mpr ⟨here, recognized⟩
    rw [dissect, Dissection.filter_isRecognized_layers (dissected_dissection link d).isHeader]
      at kept
    exact kept
  obtain ⟨-, front, header, message, places, layer, carries⟩ :=
    (dissected_dissection link d).endsWith listed application
  exact ⟨front, header, message, (regions_eq_place link d).trans places, layer, carries⟩

/-- The info is the summary of a layer, if there is any that was recognized. -/
theorem info_eq (layers : List Layer) :
    (heading layers).2 = "" ∨ ∃ l ∈ layers, (heading layers).2 = l.summary := by
  rw [heading]
  cases found : layers.reverse.find? (·.isRecognized) with
  | none => exact .inl rfl
  | some l => exact .inr ⟨l, List.mem_reverse.mp (List.mem_of_find?_eq_some found), rfl⟩

/-- **What is printed of a packet stays on its lines.**  No summary and no info has a line break
in it, whatever the packet holds.  Text that was taken from the packet has at most 120 characters,
and is what the bytes of the message read as up to the first line break, or the first 120 of
them. -/
theorem summaries_single_line {f : Frame} {p : Packet} (decoded : decode f = .ok p) :
    (∀ line ∈ p.summaries, SingleLine line) ∧ SingleLine p.info ∧
    ∀ l ∈ dissect f.link f.data, ∀ text ∈ l.text?, text.length ≤ 120 ∧
      ∃ front header message, regions f.link f.data = front ++ [header, message] ∧
        message.layer = l ∧ Carries f.data header message ∧
        let payload := message.bytes f.data
        text = Utf8.decodeLossy (payload.take (min 120 (payload.findIdx TextLine.isBreak))) := by
  have first (l : Layer) (here : l ∈ dissect f.link f.data) (text : String)
      (own : l.text? = some text) : ∃ front header message,
        regions f.link f.data = front ++ [header, message] ∧ message.layer = l ∧
          Carries f.data header message ∧ text = TextLine.first (message.bytes f.data) := by
    obtain ⟨front, header, message, places, rfl, carries⟩ := exists_carries here own
    obtain ⟨t, srcPort, dstPort, -, justified⟩ := carries.justified
    exact ⟨front, header, message, places, rfl, carries, justified.text own⟩
  have lines (l : Layer) (here : l ∈ dissect f.link f.data) : SingleLine l.summary := by
    refine Layer.singleLine_summary fun text own => ?_
    obtain ⟨-, -, message, -, -, -, rfl⟩ := first l here text own
    exact TextLine.singleLine_first _
  have packet : p = Packet.ofLayers f (dissect f.link f.data) := by
    rw [decode] at decoded
    split at decoded
    · exact (Except.ok.inj decoded).symm
    · cases decoded
  subst packet
  refine ⟨List.forall_mem_map.mpr lines, ?_, ?_⟩
  · show SingleLine (heading _).2
    rcases info_eq (dissect f.link f.data) with none | ⟨l, here, same⟩
    · rw [none]
      exact nofun
    · rw [same]
      exact lines l here
  · intro l here text own
    obtain ⟨front, header, message, places, layer, carries, rfl⟩ := first l here text own
    refine ⟨TextLine.length_first_le _, front, header, message, places, layer, carries, ?_⟩
    rw [TextLine.first, TextLine.firstBytes_eq]

/-- A request whose line is cut inside of a character. -/
theorem summaries_single_line_cut :
    let ip4 (b : UInt8) : Ip4 := ⟨[10, 0, 0, b], rfl⟩
    let line : Bytes := Bytes.ofText "GET /" ++ List.replicate 114 97 ++ [0xC3, 0xA9]
    let d := Ipv4.packet (ip4 1) (ip4 2) 6 (Tcp.segment 50000 80 1 0x18 (line ++ [13, 10, 72]))
    let f := Frame.whole d .rawIp
    let text := "GET /" ++ String.ofList (List.replicate 114 'a') ++ "\uFFFD"
    ∃ p, decode f = .ok p ∧ SingleLine p.info ∧ .http ⟨text⟩ ∈ dissect f.link f.data ∧
      text.length ≤ 120 ∧ ∃ front header message,
        regions f.link f.data = front ++ [header, message] ∧ Carries f.data header message := by
  intro ip4 line d f text
  have decoded : decode f = .ok (Packet.ofLayers f (dissect f.link f.data)) :=
    decode_wellFormed (beq_self_eq_true d.length)
  have here : .http ⟨text⟩ ∈ dissect f.link f.data := by decide +kernel
  obtain ⟨-, info, texts⟩ := summaries_single_line decoded
  obtain ⟨short, front, header, message, places, -, carries, -⟩ := texts _ here text rfl
  exact ⟨_, decoded, info, here, short, front, header, message, places, carries⟩

end PacketWatch
