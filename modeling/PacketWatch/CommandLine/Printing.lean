/-
Printing packets as they come in.

New packets are printed once and in order, and no more than a limit allows.
The cursor moves on over packets that the limit kept back.
-/
import PacketWatch.Store
import PacketWatch.Text.Number

namespace PacketWatch

/-- How far printing has come. -/
structure Printing where
  cursor : Cursor := {}
  printed : Nat := 0
deriving DecidableEq

namespace Printing

/-- As many of some packets as a limit still allows. -/
def allowed (limit : Option Nat) (p : Printing) (packets : List Packet) : List Packet :=
  match limit with
  | some n => packets.take (n - p.printed)
  | none => packets

/-- The packets that are printed at one look at the store. -/
def poll (limit : Option Nat) (p : Printing) (store : PacketStore) : List Packet × Printing :=
  let (packets, cursor) := p.cursor.poll store
  let shown := p.allowed limit packets
  (shown, { cursor := cursor, printed := p.printed + shown.length })

/-- The packets that are printed at one look after the other. -/
def pollAll (limit : Option Nat) (p : Printing) : List PacketStore → List Packet × Printing
  | [] => ([], p)
  | store :: more =>
    let (shown, q) := p.poll limit store
    let (later, r) := pollAll limit q more
    (shown ++ later, r)

/-- A packet with its time of day on a line. -/
def line (time : String) (p : Packet) : String :=
  Text.atRight 6 (toString p.id) ++ " " ++ time ++ " " ++ Text.atRight 39 p.src ++ " -> " ++
    Text.atLeft 39 p.dst ++ " " ++ Text.atLeft 8 p.protocol ++ " " ++ p.info

/-- The last line, with the counts as text. -/
def lastLine (captured decoded : String) (printed : Nat) : String :=
  captured ++ " frames captured, " ++ decoded ++ " packets decoded, " ++ toString printed ++
    " printed"

end Printing

end PacketWatch
