/-
Handing frames on from a queue.

A dispatcher takes items out of a queue and hands each on, until it meets the
marker that ends the stream.  Handing a frame on may be refused or cut off;
that costs this frame and no other.
-/
import PacketWatch.Log
import PacketWatch.Queue

namespace PacketWatch

/-- How handing an item on ended. -/
inductive Handing where
  | accepted
  | refused
  /-- It was cut off; what it left behind is text or nothing readable. -/
  | crashed (left : Option String)
deriving DecidableEq

/-- What a dispatcher reports of it. -/
def Handing.lines : Handing → List LogLine
  | accepted => []
  | refused => [⟨.warn, "Worker pool is stopped; frame dropped", true⟩]
  | crashed left =>
    [⟨.error, "Dispatcher failed on a frame: " ++ left.getD "unknown panic payload", true⟩]

/-- How far a dispatcher came with the items of a queue. -/
structure Dispatched (σ α : Type) where
  state : σ
  /-- The items it left behind. -/
  rest : List (QueueItem α)
  /-- Whether it met the marker; otherwise it waits for more. -/
  hasEnded : Bool
  lines : List LogLine := []

/-- Hands on the items of a queue, up to the marker. -/
def dispatchAll {σ α : Type} (hand : σ → α → Handing × σ) (s : σ) :
    List (QueueItem α) → Dispatched σ α
  | [] => { state := s, rest := [], hasEnded := false }
  | .endOfStream :: rest => { state := s, rest := rest, hasEnded := true }
  | .data a :: rest =>
    let (handing, t) := hand s a
    let later := dispatchAll hand t rest
    { later with lines := handing.lines ++ later.lines }

/-- What a dispatcher is doing. -/
inductive Dispatcher (α : Type) where
  | absent
  | waiting
  /-- It has taken an item out and not handed it on. -/
  | holding (item : α)
  /-- It has met the marker and nobody has seen yet that it is gone. -/
  | gone
deriving DecidableEq

end PacketWatch
