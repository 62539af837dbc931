/-
Domain name messages: the twelve-byte header that is reported, and the query
for the address of a name.

A name is written as labels, each behind its length, and ends with an empty
label.  A label has at most 63 bytes, so its length byte is never mistaken for
a compression pointer.  `readLabels?` reads such a sequence back.
-/
import PacketWatch.Bytes
import PacketWatch.Text.Number

namespace PacketWatch

/-- The reported fields of a message header. -/
structure Dns where
  transactionId : UInt16
  isResponse : Bool
  questions : UInt16
  answers : UInt16
deriving DecidableEq

namespace Dns

/-- Length of the message header. -/
def headerLength : Nat := 12

/-- The operation code of the flag word.  Codes above 6 are not assigned. -/
def opcode (flags : UInt16) : Nat := flags.toNat / 2048 % 16

/-- The message header, where the operation code is an assigned one. -/
def read? (d : Bytes) : Option Dns :=
  if d.length < headerLength ∨ 6 < opcode (d.word16At 2) then none
  else some
    { transactionId := d.word16At 0
      isResponse := 0x8000 ≤ (d.word16At 2).toNat
      questions := d.word16At 4
      answers := d.word16At 6 }

/-! ## Names -/

/-- The longest label. -/
def maxLabel : Nat := 63

/-- The labels of a dotted name: its non-empty parts, each cut to 63 bytes. -/
def labels (name : String) : List Bytes :=
  ((name.toList.splitOn '.').filter fun part => !part.isEmpty).map fun part =>
    (Bytes.ofText (String.ofList part)).take maxLabel

/-- Labels behind their lengths, and the empty label at the end. -/
def writeLabels : List Bytes → Bytes
  | [] => [0]
  | label :: rest => UInt8.ofNat label.length :: label ++ writeLabels rest

/-- Reads labels up to the empty one, and returns what follows it.  A length
above 63 is a compression pointer and not a label. -/
def readLabels? : Bytes → Option (List Bytes × Bytes)
  | [] => none
  | n :: rest =>
    if n = 0 then some ([], rest)
    else if maxLabel < n.toNat ∨ rest.length < n.toNat then none
    else (readLabels? (rest.drop n.toNat)).map fun (more, behind) =>
      (rest.take n.toNat :: more, behind)
termination_by d => d.length
decreasing_by simp only [List.length_drop, List.length_cons]; omega

/-- A recursive query for the address of a name. -/
def query (transactionId : UInt16) (name : String) : Bytes :=
  bytes16 transactionId ++ [0x01, 0x00, 0x00, 0x01, 0, 0, 0, 0, 0, 0]
    ++ writeLabels (labels name) ++ [0x00, 0x01, 0x00, 0x01]

def summary (h : Dns) : String :=
  "DNS " ++ (if h.isResponse then "response" else "query")
    ++ ", ID: 0x" ++ Text.hexPadded 4 h.transactionId.toNat
    ++ ", Questions: " ++ toString h.questions.toNat
    ++ ", Answers: " ++ toString h.answers.toNat

end Dns

end PacketWatch
