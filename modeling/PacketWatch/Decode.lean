/-
Decoding a frame into a packet.

A frame is decoded whatever its bytes are; only a captured length that
disagrees with the buffer is refused.  Label and info are those of the highest
recognized layer, addresses those of the highest layer that has any, so the
innermost IP header wins over the link header.
-/
import PacketWatch.Dissect.Walk
import PacketWatch.Error
import PacketWatch.Frame

namespace PacketWatch

/-- The label and the summary of the highest recognized layer. -/
def heading (layers : List Layer) : String × String :=
  match layers.reverse.find? (·.isRecognized) with
  | some l => (l.label?.getD Packet.unknown, l.summary)
  | none => (Packet.unknown, "")

/-- The addresses of the highest layer that has any. -/
def endpoints (layers : List Layer) : String × String :=
  (layers.reverse.findSome? (·.addresses?)).getD ("", "")

/-! Reading the layers from the first on, each one overwrites what was said before it. -/

theorem heading_concat (layers : List Layer) (l : Layer) :
    heading (layers ++ [l]) =
      if l.isRecognized then (l.label?.getD Packet.unknown, l.summary) else heading layers := by
  rw [heading, heading, List.reverse_append, List.reverse_singleton, List.singleton_append,
    List.find?_cons]
  cases l.isRecognized <;> rfl

theorem endpoints_concat (layers : List Layer) (l : Layer) :
    endpoints (layers ++ [l]) = l.addresses?.getD (endpoints layers) := by
  rw [endpoints, endpoints, List.reverse_append, List.reverse_singleton, List.singleton_append,
    List.findSome?_cons]
  cases l.addresses? <;> rfl

/-- Layers that are no protocols leave the heading alone. -/
theorem heading_append {behind : List Layer} (silent : ∀ l ∈ behind, ¬ l.isRecognized)
    (layers : List Layer) : heading (layers ++ behind) = heading layers := by
  have none : behind.reverse.find? (·.isRecognized) = none :=
    List.find?_eq_none.mpr fun l hl => silent l (List.mem_reverse.mp hl)
  rw [heading, heading, List.reverse_append, List.find?_append, none, Option.none_or]

/-- Layers without addresses leave the addresses alone. -/
theorem endpoints_append {behind : List Layer} (silent : ∀ l ∈ behind, l.addresses? = none)
    (layers : List Layer) : endpoints (layers ++ behind) = endpoints layers := by
  have none : behind.reverse.findSome? (·.addresses?) = none :=
    List.findSome?_eq_none_iff.mpr fun l hl => silent l (List.mem_reverse.mp hl)
  rw [endpoints, endpoints, List.reverse_append, List.findSome?_append, none, Option.none_or]

/-- The packet of a frame that was split into the given layers. -/
def Packet.ofLayers (f : Frame) (layers : List Layer) : Packet where
  id := 0
  timestamp := f.timestamp
  data := f.data
  capturedLength := f.capturedLength
  frameLength := f.frameLength
  src := (endpoints layers).1
  dst := (endpoints layers).2
  protocol := (heading layers).1
  info := (heading layers).2
  summaries := layers.map (·.summary)

/-- Decodes a frame; the packet is not numbered yet. -/
def decode (f : Frame) : Except Error Packet :=
  if f.isWellFormed then .ok (Packet.ofLayers f (dissect f.link f.data))
  else .error (.malformedFrame (.lengthMismatch f.capturedLength f.data.length))

theorem decode_wellFormed {f : Frame} (wellFormed : f.isWellFormed) :
    decode f = .ok (Packet.ofLayers f (dissect f.link f.data)) := if_pos wellFormed

end PacketWatch
