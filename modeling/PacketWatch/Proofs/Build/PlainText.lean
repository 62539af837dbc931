/-
# `PacketWatch.Proofs.Build.PlainText` — text of printable ASCII

A text is plain if all its characters are printable ASCII.  Texts that are put together from
plain ones are plain, and so are decimal numbers.

The bytes of a plain text are the codes of its characters, one for each, and none of them ends
a line.  So a plain text is read back from its bytes, and a plain line from what it begins.
-/
import PacketWatch.Protocol.TextLine
import Mathlib.Data.List.TakeWhile

namespace PacketWatch

namespace Text

/-- Every character is printable ASCII. -/
def IsPlain (s : String) : Prop := ∀ c ∈ s.toList, 32 ≤ c.toNat ∧ c.toNat < 127

instance (s : String) : Decidable (IsPlain s) :=
  List.decidableBAll _ s.toList

theorem IsPlain.append {s t : String} (first : IsPlain s) (second : IsPlain t) :
    IsPlain (s ++ t) := by
  intro c hc
  rw [String.toList_append, List.mem_append] at hc
  exact hc.elim (first c) (second c)

theorem digit_of_mem_toString (n : Nat) :
    ∀ c ∈ (toString n).toList, 48 ≤ c.toNat ∧ c.toNat ≤ 57 := by
  intro c hc
  have digit : c.isDigit := Nat.isDigit_of_mem_toDigits (by decide) (by decide)
    (Nat.toList_repr ▸ hc : c ∈ Nat.toDigits 10 n)
  simp only [Char.isDigit, Bool.and_eq_true, decide_eq_true_eq, ge_iff_le,
    UInt32.le_iff_toNat_le] at digit
  exact digit

theorem isPlain_toString (n : Nat) : IsPlain (toString n) := by
  intro c hc
  have digit := digit_of_mem_toString n c hc
  omega

/-- A number of 64 bits has at most twenty digits. -/
theorem length_toString_le (n : UInt64) : (toString n.toNat).length ≤ 20 := by
  have small : n.toNat < 10 ^ 20 := Nat.lt_trans n.toNat_lt (by decide)
  rw [← String.length_toList]
  change (Nat.repr _).toList.length ≤ 20
  rw [Nat.toList_repr]
  exact (Nat.length_toDigits_le_iff (by decide) (by decide)).mpr small

end Text

open Text

/-! ## Bytes of a text -/

namespace Bytes

theorem ofText_append (s t : String) : ofText (s ++ t) = ofText s ++ ofText t := by
  simp [ofText]

theorem ofText_ofList (cs : List Char) :
    ofText (String.ofList cs) = cs.flatMap String.utf8EncodeChar := by
  simp [ofText, List.utf8Encode]

/-- One byte for each character. -/
theorem ofText_of_isPlain {s : String} (plain : IsPlain s) :
    ofText s = s.toList.map fun c => UInt8.ofNat c.toNat := by
  have single (c : Char) (hc : c ∈ s.toList) :
      String.utf8EncodeChar c = [UInt8.ofNat c.toNat] := by
    have one : c.utf8Size = 1 := by
      rw [Char.utf8Size_eq_one_iff, UInt32.le_iff_toNat_le]
      exact Nat.le_of_lt (plain c hc).2
    exact String.utf8EncodeChar_eq_singleton one
  calc ofText s = s.toList.flatMap String.utf8EncodeChar := by
        rw [← ofText_ofList, String.ofList_toList]
    _ = s.toList.flatMap fun c => [UInt8.ofNat c.toNat] := by
        rw [List.flatMap, List.map_congr_left single, List.flatMap]
    _ = s.toList.map fun c => UInt8.ofNat c.toNat := List.map_eq_flatMap.symm

theorem length_ofText {s : String} (plain : IsPlain s) : (ofText s).length = s.length := by
  rw [ofText_of_isPlain plain, List.length_map, String.length_toList]

theorem length_ofText_eq_utf8ByteSize (s : String) : (ofText s).length = s.utf8ByteSize := by
  simp [ofText]

end Bytes

open Bytes

/-- The code of a character is that of its byte. -/
theorem Text.toNat_code {c : Char} (printable : 32 ≤ c.toNat ∧ c.toNat < 127) :
    (UInt8.ofNat c.toNat).toNat = c.toNat :=
  UInt8.toNat_ofNat_of_lt' (Nat.lt_trans printable.2 (by decide))

/-! ## Reading it back -/

namespace Text.Utf8

theorem lead_of_lt {b : UInt8} (single : b.toNat < 128) (rest : Bytes) :
    lead b rest = .scalar (Char.ofNat b.toNat) 0 :=
  if_pos (UInt8.lt_iff_toNat_lt.mpr single)

theorem units_of_lt {d : Bytes} (single : ∀ b ∈ d, b.toNat < 128) :
    units d = d.map fun b => .scalar (Char.ofNat b.toNat) 0 := by
  induction d with
  | nil => rw [units, List.map_nil]
  | cons b d ih =>
      obtain ⟨first, others⟩ := List.forall_mem_cons.mp single
      rw [units, lead_of_lt first, List.map_cons, ← ih others]
      rfl

theorem decodeLossy_ofText {s : String} (plain : IsPlain s) : decodeLossy (ofText s) = s := by
  have codes : ∀ b ∈ ofText s, b.toNat < 128 := by
    rw [ofText_of_isPlain plain, List.forall_mem_map]
    intro c hc
    rw [toNat_code (plain c hc)]
    exact Nat.lt_trans (plain c hc).2 (by decide)
  rw [decodeLossy, units_of_lt codes, ofText_of_isPlain plain, List.map_map, List.map_map]
  refine (congrArg String.ofList ?_).trans String.ofList_toList
  refine (List.map_congr_left fun c hc => ?_).trans (List.map_id _)
  change Char.ofNat (UInt8.ofNat c.toNat).toNat = c
  rw [toNat_code (plain c hc), Char.ofNat_toNat]

end Text.Utf8

namespace TextLine

theorem not_isBreak_ofText {s : String} (plain : IsPlain s) :
    ∀ b ∈ ofText s, (!isBreak b) = true := by
  rw [ofText_of_isPlain plain, List.forall_mem_map]
  intro c hc
  have code := toNat_code (plain c hc)
  have printable := (plain c hc).1
  rw [isBreak, Bool.not_eq_true', Bool.or_eq_false_iff, beq_eq_false_iff_ne, beq_eq_false_iff_ne]
  constructor
  · intro same
    rw [← code, same] at printable
    exact absurd printable (by decide)
  · intro same
    rw [← code, same] at printable
    exact absurd printable (by decide)

/-- The first line of a text is what stands in front of its first line break. -/
theorem first_ofText {line : String} (plain : IsPlain line) (short : line.length ≤ maxLength)
    (rest : String) : first (ofText (line ++ ("\r\n" ++ rest))) = line := by
  have kept : firstBytes (ofText (line ++ ("\r\n" ++ rest))) = ofText line := by
    have ends : ofText ("\r\n" ++ rest) = 13 :: 10 :: ofText rest := by
      rw [ofText_append]
      rfl
    have stops : (13 :: 10 :: ofText rest : Bytes).takeWhile (fun b => !isBreak b) = [] := rfl
    rw [firstBytes, ofText_append, ends, List.takeWhile_append_of_pos (not_isBreak_ofText plain),
      stops, List.append_nil, List.take_of_length_le]
    rw [length_ofText plain]
    exact short
  rw [first, kept, Text.Utf8.decodeLossy_ofText plain]

end TextLine

end PacketWatch
