/-
# `PacketWatch.Proofs.Dissect.NoFault` — a dissection faults nowhere

For every link type and all bytes, at every depth of the walk: each index and slice that a
stage takes is inside its bytes, each clamp has its bounds in order, and no length
overflows or goes below zero.  Of the library it is assumed that a header is answered only
if its documented checks pass, with as many bytes as the header has; its fields may say
anything.  The walk follows by induction on the room that is left.

If moreover the library answers, with the fields of the bytes, whenever its checks pass,
each strict stage is the total stage, and the strict decoding is the one that runs.
-/
import PacketWatch.Proofs.Dissect.Stages

namespace PacketWatch.Strict

/-! ## The walk -/

/-- However much room is left, a walk faults nowhere. -/
theorem walk_ok {parsers : Parsers} (documented : parsers.Documented) (room : Nat) (next : Next) :
    ∃ r, walk parsers room next = .ok r := by
  induction room generalizing next with
  | zero => exact ⟨_, rfl⟩
  | succ room ih =>
      obtain ⟨stage, here⟩ := stageOf_ok documented next
      rw [walk, here, ok_bind]
      cases stage with
      | header span onward =>
          obtain ⟨r, further⟩ := ih onward
          exact ⟨r.cons span, by rw [andThen, further]; rfl⟩
      | unread rest => exact ⟨_, rfl⟩

theorem andThen_eq {strict : Next → Strict Dissection} {total : Next → Dissection}
    (same : ∀ next, strict next = .ok (total next)) (stage : Stage) :
    andThen strict stage = .ok (stage.andThen total) := by
  cases stage with
  | header span next => rw [andThen, same]; rfl
  | unread rest => rfl

theorem walk_eq {parsers : Parsers} (documented : parsers.Documented) (complete : parsers.Complete)
    (room : Nat) (next : Next) : walk parsers room next = .ok (PacketWatch.walk room next) := by
  induction room generalizing next with
  | zero => rfl
  | succ room ih =>
      rw [walk, stageOf_eq documented complete, ok_bind]
      exact andThen_eq ih _

theorem dissection_ok {parsers : Parsers} (documented : parsers.Documented) (link : LinkType)
    (d : Bytes) : ∃ r, dissection parsers link d = .ok r := by
  have onward (stage : Stage) : ∃ r, andThen (walk parsers (maxHeaders - 1)) stage = .ok r := by
    cases stage with
    | header span next =>
        obtain ⟨r, further⟩ := walk_ok documented (maxHeaders - 1) next
        exact ⟨r.cons span, by rw [andThen, further]; rfl⟩
    | unread rest => exact ⟨_, rfl⟩
  cases link with
  | ethernet =>
      obtain ⟨stage, here⟩ := ethernet_ok documented d
      rw [dissection, here]
      exact onward stage
  | cooked => rw [dissection, cooked_eq, ok_bind]; exact onward _
  | loopback => rw [dissection, loopback_eq, ok_bind]; exact onward _
  | rawIp => exact walk_ok documented _ _
  | other number => exact walk_ok documented _ _

theorem dissection_eq {parsers : Parsers} (documented : parsers.Documented)
    (complete : parsers.Complete) (link : LinkType) (d : Bytes) :
    dissection parsers link d = .ok (PacketWatch.dissection link d) := by
  have onward := andThen_eq (walk_eq documented complete (maxHeaders - 1))
  cases link with
  | ethernet => rw [dissection, ethernet_eq documented complete, ok_bind]; exact onward _
  | cooked => rw [dissection, cooked_eq, ok_bind]; exact onward _
  | loopback => rw [dissection, loopback_eq, ok_bind]; exact onward _
  | rawIp => exact walk_eq documented complete _ _
  | other number => exact walk_eq documented complete _ _

/-! ## Decoding -/

theorem decode_eq {parsers : Parsers} (documented : parsers.Documented)
    (complete : parsers.Complete) (f : Frame) :
    decode parsers f = .ok (PacketWatch.decode f) := by
  unfold decode PacketWatch.decode
  split
  · rw [dissection_eq documented complete]
    rfl
  · rfl

theorem decode_ok {parsers : Parsers} (documented : parsers.Documented) {f : Frame}
    (wellFormed : f.isWellFormed) : ∃ packet, decode parsers f = .ok (.ok packet) := by
  obtain ⟨r, here⟩ := dissection_ok documented f.link f.data
  refine ⟨Packet.ofLayers f r.layers, ?_⟩
  rw [decode, if_pos wellFormed, here]
  rfl

/-- Nothing that decoding reads, slices, clamps, adds or subtracts is a fault, so every
well-formed frame is decoded; and decoding without faults is the decoding that runs. -/
theorem decode_never_faults {parsers : Parsers} (documented : parsers.Documented) :
    (∀ room next, ∃ r, walk parsers room next = .ok r) ∧
      (∀ link d, ∃ r, dissection parsers link d = .ok r) ∧
      (∀ f : Frame, f.isWellFormed → ∃ packet, decode parsers f = .ok (.ok packet)) ∧
      (parsers.Complete → ∀ f, decode parsers f = .ok (PacketWatch.decode f)) := by
  refine ⟨walk_ok documented, dissection_ok documented, ?_, ?_⟩
  · intro f wellFormed
    exact decode_ok documented wellFormed
  · intro complete f
    exact decode_eq documented complete f

/-! ## A library that does what is documented -/

/-- The header that is read, and as many bytes as it has. -/
def reading {α : Type} (read? : Bytes → Option α) (length : Bytes → Nat) : Parser α :=
  fun d => (read? d).map fun h => (h, d.take (length d))

section
variable {α : Type} (read? : Bytes → Option α) (length : Bytes → Nat)

theorem reading_documented : (reading read? length).Documented read? length := by
  intro d h taken found
  obtain ⟨h', read, same⟩ := Option.map_eq_some_iff.mp found
  cases same
  exact ⟨Option.isSome_of_eq_some read, rfl⟩

theorem reading_complete : (reading read? length).Complete read? := by
  intro d h read
  exact ⟨d.take (length d), by rw [reading, read]; rfl⟩

end

def readers : Parsers where
  ethernet := reading Ethernet.read? fun _ => Ethernet.headerLength
  ipv4 := reading Ipv4.read? Ipv4.headerLength
  ipv6 := reading Ipv6.read? fun _ => Ipv6.headerLength
  tcp := reading Tcp.read? Tcp.headerLength
  udp := reading Udp.read? fun _ => Udp.headerLength

theorem readers_documented : readers.Documented :=
  ⟨reading_documented _ _, reading_documented _ _, reading_documented _ _,
    reading_documented _ _, reading_documented _ _⟩

theorem readers_complete : readers.Complete :=
  ⟨reading_complete _ _, reading_complete _ _, reading_complete _ _, reading_complete _ _,
    reading_complete _ _⟩

/-- A frame whose IPv4 header declares more than was captured, and whose UDP header
declares less than itself. -/
def misdeclared : Frame := .whole
  ([2, 0, 0, 0, 0, 1, 2, 0, 0, 0, 0, 2, 0x08, 0x00]
    ++ [0x45, 0, 0xff, 0xff, 0, 0, 0, 0, 64, 17, 0, 0, 10, 0, 0, 1, 10, 0, 0, 2]
    ++ [0, 53, 0, 53, 0, 3, 0, 0, 1, 2])

theorem decode_never_faults_misdeclared :
    readers.Documented ∧ readers.Complete ∧ misdeclared.isWellFormed ∧
      (∃ packet, decode readers misdeclared = .ok (.ok packet)) ∧
      decode readers misdeclared = .ok (PacketWatch.decode misdeclared) :=
  ⟨readers_documented, readers_complete, rfl,
    (decode_never_faults readers_documented).2.2.1 misdeclared rfl,
    (decode_never_faults readers_documented).2.2.2 readers_complete misdeclared⟩

end PacketWatch.Strict
