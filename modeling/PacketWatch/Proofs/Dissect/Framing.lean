/-
# `PacketWatch.Proofs.Dissect.Framing` — what a link carries is decoded alike behind any framing

`contents type rest` is what is found in some bytes whose kind an Ethernet type names, with
the room of a whole frame.  `Framed` lists the frames that carry them, each with the layers of
its own header:

    Ethernet          any addresses
    cooked capture    any fields
    loopback          a family of the type, in either byte order
    raw IP            no header; the version in the first byte has to fit the type

A framing takes its header off and goes on with the type and the bytes alone (`Framed.dissect`),
and so does a tag.  The one thing that the headers in front leave behind is less room.  A walk
that ends before the room is used up does not notice (`walk_of_room`), and two headers in front
of thirty are no more than a frame has room for.
-/
import PacketWatch.Proofs.Build.ReadBack
import PacketWatch.Proofs.Dissect.Accounting

namespace PacketWatch

open Bytes

/-! ## Room -/

/-- A walk that does not use its room up is the same with any room that is enough for it. -/
theorem walk_of_room {m n : Nat} {next : Next} (ended : (walk m next).spans.length < m)
    (enough : (walk m next).spans.length ≤ n) : walk n next = walk m next := by
  induction m generalizing n next with
  | zero => exact absurd ended (Nat.not_lt_zero _)
  | succ m ih =>
      have allowed := next.allows_stage
      cases stage : next.stage with
      | unread rest =>
          rw [stage] at allowed
          cases allowed
          cases n with
          | zero => rw [walk, walk, stage, Stage.andThen]
          | succ n => rw [walk, walk, stage, Stage.andThen, Stage.andThen]
      | header span onward =>
          rw [walk_of_stage stage] at ended enough ⊢
          have one : ((walk m onward).cons span).spans.length =
            (walk m onward).spans.length + 1 := rfl
          cases n with
          | zero => omega
          | succ n => rw [walk_of_stage stage, ih (by omega) (by omega)]

/-- What is found in bytes whose kind an Ethernet type names. -/
def contents (type : UInt16) (rest : Bytes) : List Layer :=
  (walk maxHeaders (.etherType type rest)).layers

/-- Thirty headers leave room for two in front of them. -/
theorem contents_of_room {type : UInt16} {rest : Bytes}
    (few : (contents type rest).countP (·.isRecognized) ≤ 30) {room : Nat} (enough : 30 ≤ room) :
    (walk room (.etherType type rest)).layers = contents type rest := by
  have headers := (walked_walk maxHeaders (.etherType type rest)).forall_spans
    (P := Span.IsHeader) Next.Step.isHeader
  have recognized := Dissection.filter_isRecognized_layers headers
  rw [contents, List.countP_eq_length_filter, recognized, Dissection.headers, List.length_map]
    at few
  have whole : maxHeaders = 32 := rfl
  rw [contents, walk_of_room (by omega) (Nat.le_trans few enough)]

/-! ## Headers in front -/

namespace CookedCapture

/-- A header with the given fields, and what it carries. -/
def frame (packetType hardwareType addressLength : UInt16) (address : Octets 8) (protocol : UInt16)
    (payload : Bytes) : Bytes :=
  bytes16 packetType ++ bytes16 hardwareType ++ bytes16 addressLength ++ address.toList
    ++ bytes16 protocol ++ payload

variable (packetType hardwareType addressLength : UInt16) (address : Octets 8) (protocol : UInt16)
  (payload : Bytes)

theorem read?_frame :
    read? (frame packetType hardwareType addressLength address protocol payload) =
      some ⟨packetType, address.toList.take (min addressLength.toNat 8), protocol⟩ := by
  have apart : frame packetType hardwareType addressLength address protocol payload =
      bytes16 packetType ++ (bytes16 hardwareType ++ (bytes16 addressLength ++ (address.toList
        ++ (bytes16 protocol ++ payload)))) := by
    simp only [frame, List.append_assoc]
  generalize frame packetType hardwareType addressLength address protocol payload = d at apart
  have long : ¬ d.length < headerLength := by
    simp only [apart, List.length_append, length_bytes16, address.length_toList, headerLength]
    omega
  have packetType_eq : d.word16At 0 = packetType := by
    rw [apart, word16At_bytes16]
  have length_eq : addressLength = d.word16At 4 := by
    rw [apart, word16At_append (length_bytes16 _) 2, word16At_append (length_bytes16 _) 0,
      word16At_bytes16]
  have protocol_eq : d.word16At 14 = protocol := by
    rw [apart, word16At_append (length_bytes16 _) 12, word16At_append (length_bytes16 _) 10,
      word16At_append (length_bytes16 _) 8, word16At_append address.length_toList 0,
      word16At_bytes16]
  have address_eq : d.drop 6 = address.toList ++ (bytes16 protocol ++ payload) := by
    rw [apart]
    rfl
  have used : min addressLength.toNat 8 ≤ address.toList.length := by
    rw [address.length_toList]
    exact Nat.min_le_right _ _
  rw [read?, if_neg long, packetType_eq, protocol_eq, CookedCapture.addressLength, ← length_eq,
    address_eq, List.take_append_of_le_length used]

theorem drop_frame :
    (frame packetType hardwareType addressLength address protocol payload).drop headerLength =
      payload := by
  refine List.drop_left' ?_
  simp [address.length_toList, headerLength]

end CookedCapture

namespace Vlan

/-- A tag with the given control word, and what it carries. -/
def tagged (control etherType : UInt16) (payload : Bytes) : Bytes :=
  bytes16 control ++ bytes16 etherType ++ payload

/-- The tag of a control word. -/
def ofControl (control etherType : UInt16) : Vlan where
  vlanId := UInt16.ofNat (control.toNat % 4096)
  priority := UInt8.ofNat (control.toNat / 8192)
  etherType := etherType

theorem read?_tagged (control etherType : UInt16) (payload : Bytes) :
    read? (tagged control etherType payload) = some (ofControl control etherType) := by
  have apart : tagged control etherType payload =
      bytes16 control ++ (bytes16 etherType ++ payload) := List.append_assoc ..
  have long : ¬ (tagged control etherType payload).length < headerLength := by
    simp only [apart, List.length_append, length_bytes16, headerLength]
    omega
  have control_eq : (tagged control etherType payload).word16At 0 = control := by
    rw [apart, word16At_bytes16]
  have type_eq : (tagged control etherType payload).word16At 2 = etherType := by
    rw [apart, word16At_append (length_bytes16 _) 0, word16At_bytes16]
  rw [read?, if_neg long, control_eq, type_eq, ofControl]

theorem drop_tagged (control etherType : UInt16) (payload : Bytes) :
    (tagged control etherType payload).drop headerLength = payload := rfl

end Vlan

namespace Loopback

/-- A family stands for an Ethernet type. -/
def StandsFor (family : UInt32) (type : UInt16) : Prop :=
  type = EtherType.ipv4 ∧ family = 2 ∨ type = EtherType.ipv6 ∧ family ∈ [24, 28, 30]

theorem read?_cons (a b c e : UInt8) (rest : Bytes) :
    read? (a :: b :: c :: e :: rest) = some ⟨familyOf a b c e⟩ := by
  have long : ¬ (a :: b :: c :: e :: rest).length < headerLength := by
    simp only [List.length_cons, headerLength]
    omega
  rw [read?, if_neg long]
  rfl

/-- A small family is found in its bytes in either order. -/
theorem read?_family {family : UInt32} (positive : 0 < family.toNat)
    (small : family.toNat ≤ 0xFFFF) {start : Bytes}
    (order : start = bytes32 family ∨ start = (bytes32 family).reverse) (rest : Bytes) :
    read? (start ++ rest) = some ⟨family⟩ := by
  obtain rfl | rfl := order
  · refine (read?_cons _ _ _ _ rest).trans ?_
    -- low byte first it would be too large
    have large : (0xFFFF : UInt32) < word32 (UInt8.ofNat family.toNat)
        (UInt8.ofNat (family.toNat / 256)) (UInt8.ofNat (family.toNat / 65536))
        (UInt8.ofNat (family.toNat / 16777216)) := by
      have third : family.toNat / 65536 = 0 := by omega
      have fourth : family.toNat / 16777216 = 0 := by omega
      rw [UInt32.lt_iff_toNat_lt, toNat_word32, third, fourth]
      simp only [UInt8.toNat_ofNat', UInt32.reduceToNat]
      omega
    rw [familyOf, if_pos large, word32_bytes32]
  · refine (read?_cons _ _ _ _ rest).trans ?_
    have same := word32_bytes32 family
    have notLarge : ¬ (0xFFFF : UInt32) < family := by
      rw [UInt32.lt_iff_toNat_lt]
      exact Nat.not_lt.mpr small
    dsimp only [familyOf]
    rw [same, if_neg notLarge]

theorem StandsFor.read? {family : UInt32} {type : UInt16} (stands : StandsFor family type)
    {start : Bytes} (order : start = bytes32 family ∨ start = (bytes32 family).reverse)
    (rest : Bytes) :
    Loopback.read? (start ++ rest) = some ⟨family⟩ ∧ etherType? ⟨family⟩ = some type ∧
      (start ++ rest).drop headerLength = rest := by
  have length : start.length = headerLength := by
    obtain rfl | rfl := order
    · rfl
    · rfl
  have known : (0 < family.toNat ∧ family.toNat ≤ 0xFFFF) ∧ etherType? ⟨family⟩ = some type := by
    obtain ⟨rfl, rfl⟩ | ⟨rfl, listed⟩ := stands
    · decide
    · simp only [List.mem_cons, List.not_mem_nil, or_false] at listed
      obtain rfl | rfl | rfl := listed <;> decide
  obtain ⟨⟨positive, small⟩, named⟩ := known
  exact ⟨read?_family positive small order rest, named, List.drop_left' length⟩

end Loopback

/-- The version in the first byte of a packet is that of an Ethernet type. -/
def HasVersionOf (type : UInt16) (packet : Bytes) : Prop :=
  type = EtherType.ipv4 ∧ (packet.byteAt 0).toNat / 16 = 4 ∨
    type = EtherType.ipv6 ∧ (packet.byteAt 0).toNat / 16 = 6

theorem rawIp_of_version {type : UInt16} {packet : Bytes} (version : HasVersionOf type packet) :
    rawIp packet = .etherType type packet := by
  have some : ¬ packet.isEmpty = true := by
    intro empty
    rw [List.isEmpty_iff] at empty
    subst empty
    rcases version with ⟨-, zero⟩ | ⟨-, zero⟩ <;> exact absurd zero (by decide)
  rcases version with ⟨rfl, four⟩ | ⟨rfl, six⟩
  · rw [rawIp, if_neg some, if_pos four]
  · rw [rawIp, if_neg some, if_neg (by omega), if_pos six]

/-! ## Framings -/

/-- A frame that carries bytes of a kind: its link type, its bytes, and the layers of its own
header. -/
inductive Framed (type : UInt16) (rest : Bytes) : LinkType → Bytes → List Layer → Prop
  | ethernet (src dst : Mac) :
      Framed type rest .ethernet (Ethernet.frame src dst type rest) [.ethernet ⟨src, dst, type⟩]
  | cooked (packetType hardwareType addressLength : UInt16) (address : Octets 8) :
      Framed type rest .cooked
        (CookedCapture.frame packetType hardwareType addressLength address type rest)
        [.cooked ⟨packetType, address.toList.take (min addressLength.toNat 8), type⟩]
  | loopback {family : UInt32} {start : Bytes} :
      Loopback.StandsFor family type →
      start = bytes32 family ∨ start = (bytes32 family).reverse →
      Framed type rest .loopback (start ++ rest) [.loopback ⟨family⟩]
  | rawIp : HasVersionOf type rest → Framed type rest .rawIp rest []

/-- A framing takes its header off, and some of the room. -/
theorem Framed.dissect {type : UInt16} {rest : Bytes} {link : LinkType} {d : Bytes}
    {front : List Layer} (framed : Framed type rest link d front) :
    ∃ room, maxHeaders - 1 ≤ room ∧
      dissect link d = front ++ (walk room (.etherType type rest)).layers := by
  cases framed with
  | ethernet src dst =>
      have step := LinkStep.ethernet (Ethernet.read?_frame src dst type rest)
      rw [Ethernet.drop_frame] at step
      exact ⟨_, Nat.le_refl _, dissect_of_linkStep step⟩
  | cooked packetType hardwareType addressLength address =>
      have step := LinkStep.cooked
        (CookedCapture.read?_frame packetType hardwareType addressLength address type rest)
      rw [CookedCapture.drop_frame] at step
      exact ⟨_, Nat.le_refl _, dissect_of_linkStep step⟩
  | loopback stands order =>
      obtain ⟨read, known, behind⟩ := stands.read? order rest
      have step := LinkStep.loopback read known
      rw [behind] at step
      exact ⟨_, Nat.le_refl _, dissect_of_linkStep step⟩
  | rawIp version =>
      refine ⟨maxHeaders, Nat.sub_le _ _, ?_⟩
      rw [PacketWatch.dissect, dissection, rawIp_of_version version]
      rfl

/-- A tag is one header more, and nothing else. -/
theorem layers_walk_tagged {tag : UInt16} (isTag : tag ∈ EtherType.vlanTags) (room : Nat)
    (control type : UInt16) (rest : Bytes) :
    (walk (room + 1) (.etherType tag (Vlan.tagged control type rest))).layers =
      .vlan (Vlan.ofControl control type) :: (walk room (.etherType type rest)).layers := by
  have step := Next.Step.vlan isTag (Vlan.read?_tagged control type rest)
  rw [Vlan.drop_tagged] at step
  rw [walk_of_step step, Dissection.layers_cons]
  rfl

/-- **Decoding is independent of the framing.**  Bytes of a kind, valid or damaged, in which at
most thirty layers are recognized: whatever frame carries them, the layers behind its own
header are the same; and behind a tag, of any number and with any control word, they are the
same behind the layer of the tag. -/
theorem framing_changes_nothing {type : UInt16} {rest : Bytes}
    (few : (contents type rest).countP (·.isRecognized) ≤ 30) :
    (∀ link d front, Framed type rest link d front →
        dissect link d = front ++ contents type rest) ∧
      ∀ tag ∈ EtherType.vlanTags, ∀ control link d front,
        Framed tag (Vlan.tagged control type rest) link d front →
          dissect link d =
            front ++ .vlan (Vlan.ofControl control type) :: contents type rest := by
  have whole : maxHeaders = 32 := rfl
  constructor
  · intro link d front framed
    obtain ⟨room, enough, split⟩ := framed.dissect
    rw [split, contents_of_room few (by omega)]
  · intro tag isTag control link d front framed
    obtain ⟨room, enough, split⟩ := framed.dissect
    obtain ⟨less, rfl⟩ : ∃ less, room = less + 1 := ⟨room - 1, by omega⟩
    rw [split, layers_walk_tagged isTag, contents_of_room few (by omega)]

/-- A tunnel whose inner header is cut short and has no room to be read, with a byte behind the
outer datagram. -/
theorem framing_changes_nothing_tunnel :
    let mac (b : UInt8) : Mac := ⟨[2, 0, 0, 0, 0, b], rfl⟩
    let ip4 (b : UInt8) : Ip4 := ⟨[10, 0, 0, b], rfl⟩
    let packet := Ipv4.packet (ip4 1) (ip4 2) 41 [0x60, 1, 2] ++ [0xff]
    let found : List Layer := [.ipv4 ⟨ip4 1, ip4 2, 41, 64, 23⟩, .payload 3, .trailer 1]
    let cooked := CookedCapture.frame 4 1 9 ⟨[0xde, 0xad, 0, 0, 0, 1, 2, 3], rfl⟩ 0x9100
      (Vlan.tagged 0xf005 0x0800 packet)
    (contents 0x0800 packet).countP (·.isRecognized) ≤ 30 ∧ contents 0x0800 packet = found ∧
      dissect .ethernet (Ethernet.frame (mac 1) (mac 2) 0x0800 packet) =
        .ethernet ⟨mac 1, mac 2, 0x0800⟩ :: found ∧
      dissect .loopback ([2, 0, 0, 0] ++ packet) = .loopback ⟨2⟩ :: found ∧
      dissect .rawIp packet = found ∧
      dissect .cooked cooked =
        [.cooked ⟨4, [0xde, 0xad, 0, 0, 0, 1, 2, 3], 0x9100⟩, .vlan ⟨5, 7, 0x0800⟩] ++ found := by
  intro mac ip4 packet found cooked
  have same : contents 0x0800 packet = found := by decide +kernel
  have few : (contents 0x0800 packet).countP (·.isRecognized) ≤ 30 := by
    rw [same]
    decide
  obtain ⟨plain, tagged⟩ := framing_changes_nothing few
  rw [same] at plain tagged
  exact ⟨few, same, plain _ _ _ (.ethernet (mac 1) (mac 2)),
    plain _ _ _ (.loopback (.inl ⟨rfl, rfl⟩) (.inr rfl)), plain _ _ _ (.rawIp (.inl ⟨rfl, by decide⟩)),
    tagged _ (by decide) _ _ _ _ (.cooked 4 1 9 _)⟩

end PacketWatch
