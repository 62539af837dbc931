/-
# `PacketWatch.Proofs.Bytes` — parts of byte strings

What is read in a part of a byte string is read in the whole, further on.  A part is cut
out (`span`), it is one of the strings that the whole was put together from, or it is the
start of the whole, and then nothing moves.  Two byte strings that begin alike (`Agree`) are
read alike there, and so are the same parts of both.
-/
import PacketWatch.Bytes
import Mathlib.Data.List.Infix

namespace PacketWatch.Bytes

/-! ## What is cut out -/

theorem length_span (d : Bytes) (start stop : Nat) :
    (d.span start stop).length = min stop d.length - start := by
  rw [span, List.length_drop, List.length_take]

/-- The bytes of a range are those of the whole from its start on. -/
theorem byteAt_span {d : Bytes} {start stop i : Nat} (inside : start + i < stop) :
    (d.span start stop).byteAt i = d.byteAt (start + i) := by
  simp [byteAt, span, List.getD_eq_getElem?_getD, List.getElem?_drop, inside]

/-- A range of a range. -/
theorem span_span {d : Bytes} {start stop first last : Nat} (inside : start + last ≤ stop) :
    (d.span start stop).span first last = d.span (start + first) (start + last) := by
  rw [span, span, span, List.take_drop, List.take_take, List.drop_drop, Nat.min_eq_left inside]

theorem span_whole (d : Bytes) : d.span 0 d.length = d := by
  rw [span, List.take_length, List.drop_zero]

theorem drop_eq_span (d : Bytes) (start : Nat) : d.drop start = d.span start d.length := by
  rw [span, List.take_length]

theorem drop_eq_cons {d : Bytes} {i : Nat} (inside : i < d.length) :
    d.drop i = d.byteAt i :: d.drop (i + 1) := by
  rw [List.drop_eq_getElem_cons inside, byteAt, List.getD_eq_getElem?_getD,
    List.getElem?_eq_getElem inside, Option.getD_some]

theorem word16At_take {d : Bytes} {n i : Nat} (inside : i + 2 ≤ n) :
    word16At (d.take n) i = d.word16At i := by
  have first : i < n := by omega
  have second : i + 1 < n := by omega
  simp [word16At, byteAt, List.getD_eq_getElem?_getD, first, second]

/-! ## What is put together -/

section
variable {a b : Bytes} {n : Nat}

theorem byteAt_append (length : a.length = n) (i : Nat) :
    byteAt (a ++ b) (n + i) = b.byteAt i := by
  rw [byteAt, byteAt, List.getD_eq_getElem?_getD, List.getElem?_append_right (by omega),
    ← List.getD_eq_getElem?_getD]
  congr
  omega

theorem word16At_append (length : a.length = n) (i : Nat) :
    word16At (a ++ b) (n + i) = b.word16At i := by
  rw [word16At, word16At, byteAt_append length, Nat.add_assoc, byteAt_append length]

theorem octetsAt_append (length : a.length = n) (m i : Nat) :
    octetsAt (a ++ b) m (n + i) = b.octetsAt m i := by
  rw [octetsAt, octetsAt, ← length, List.drop_length_add_append]

end

/-- The two bytes of a word that was put together from two. -/
theorem bytes16_word16 (hi lo : UInt8) : bytes16 (word16 hi lo) = [hi, lo] := by
  have := hi.toNat_lt
  have := lo.toNat_lt
  have high : UInt8.ofNat ((word16 hi lo).toNat / 256) = hi := by
    apply UInt8.toNat_inj.mp
    rw [UInt8.toNat_ofNat', toNat_word16]
    omega
  have low : UInt8.ofNat (word16 hi lo).toNat = lo := by
    apply UInt8.toNat_inj.mp
    rw [UInt8.toNat_ofNat', toNat_word16]
    omega
  rw [bytes16, high, low]

theorem word16At_bytes16 (w : UInt16) (rest : Bytes) : word16At (bytes16 w ++ rest) 0 = w :=
  word16_bytes16 w

/-- Octets are read back where they stand. -/
theorem octetsAt_toList {n : Nat} (a : Octets n) (rest : Bytes) :
    octetsAt (a.toList ++ rest) n 0 = a := by
  obtain ⟨octets, length⟩ := a
  simp only [octetsAt, Octets.ofPrefix, List.drop_zero, Octets.mk.injEq]
  rw [List.append_assoc, List.take_left' length]

/-! ## What is longer -/

section
variable {d e : Bytes} {i : Nat}

theorem byteAt_longer (start : d <+: e) (inside : i < d.length) : e.byteAt i = d.byteAt i := by
  obtain ⟨more, rfl⟩ := start
  rw [byteAt, byteAt, List.getD_eq_getElem?_getD, List.getElem?_append_left inside,
    ← List.getD_eq_getElem?_getD]

theorem word16At_longer (start : d <+: e) (inside : i + 2 ≤ d.length) :
    e.word16At i = d.word16At i := by
  rw [word16At, word16At, byteAt_longer start (by omega), byteAt_longer start (by omega)]

theorem word32At_longer (start : d <+: e) (inside : i + 4 ≤ d.length) :
    e.word32At i = d.word32At i := by
  rw [word32At, word32At, byteAt_longer start (by omega), byteAt_longer start (by omega),
    byteAt_longer start (by omega), byteAt_longer start (by omega)]

/-- A range that lies in the start of a byte string. -/
theorem span_longer (start : d <+: e) (first : Nat) {stop : Nat} (inside : stop ≤ d.length) :
    e.span first stop = d.span first stop := by
  obtain ⟨more, rfl⟩ := start
  rw [span, span, List.take_append_of_le_length inside]

theorem octetsAt_longer (start : d <+: e) {n : Nat} (inside : i + n ≤ d.length) :
    e.octetsAt n i = d.octetsAt n i := by
  obtain ⟨more, rfl⟩ := start
  have whole : n ≤ (d.drop i).length := by
    rw [List.length_drop]
    omega
  simp only [octetsAt, Octets.ofPrefix, Octets.mk.injEq]
  rw [List.drop_append_of_le_length (by omega), List.append_assoc,
    List.take_append_of_le_length whole, List.take_append_of_le_length whole]

/-- A range that may end further on. -/
theorem span_start (start : d <+: e) (first : Nat) {stop last : Nat} (further : stop ≤ last) :
    d.span first stop <+: e.span first last :=
  ((start.take stop).trans (List.take_prefix_take_left further)).drop first

end

/-! ## What begins alike -/

/-- Two byte strings of one length that have their first `n` bytes in common. -/
structure Agree (n : Nat) (d e : Bytes) : Prop where
  length : e.length = d.length
  start : e.take n = d.take n

namespace Agree

variable {n : Nat} {d e : Bytes}

theorem refl (n : Nat) (d : Bytes) : Agree n d d := ⟨rfl, rfl⟩

/-- Other bytes in the place of those behind the first `n`. -/
theorem replaced (n : Nat) (d : Bytes) {rest : Bytes} (length : rest.length = d.length - n) :
    Agree n d (d.take n ++ rest) := by
  refine ⟨?_, ?_⟩
  · rw [List.length_append, List.length_take, length]
    omega
  · rw [List.take_append, List.length_take, List.take_take, Nat.min_self]
    have nothing : rest.take (n - min n d.length) = [] := by
      rw [List.take_eq_nil_iff, ← List.length_eq_zero_iff]
      omega
    rw [nothing, List.append_nil]

theorem fewer (agree : Agree n d e) {m : Nat} (le : m ≤ n) : Agree m d e := by
  refine ⟨agree.length, ?_⟩
  rw [← Nat.min_eq_left le, ← List.take_take, agree.start, List.take_take]

theorem byteAt (agree : Agree n d e) {i : Nat} (inside : i < n) :
    Bytes.byteAt e i = Bytes.byteAt d i := by
  have same : (e.take n)[i]? = (d.take n)[i]? := congrArg (·[i]?) agree.start
  rw [List.getElem?_take_of_lt inside, List.getElem?_take_of_lt inside] at same
  rw [Bytes.byteAt, Bytes.byteAt, List.getD_eq_getElem?_getD, same, ← List.getD_eq_getElem?_getD]

theorem word16At (agree : Agree n d e) {i : Nat} (inside : i + 2 ≤ n) :
    Bytes.word16At e i = Bytes.word16At d i := by
  rw [Bytes.word16At, Bytes.word16At, agree.byteAt (by omega), agree.byteAt (by omega)]

theorem span (agree : Agree n d e) (first stop : Nat) :
    Agree (n - first) (Bytes.span d first stop) (Bytes.span e first stop) := by
  refine ⟨?_, ?_⟩
  · rw [length_span, length_span, agree.length]
  · have both (b : Bytes) : (Bytes.span b first stop).take (n - first) =
        ((b.take n).take stop).drop first := by
      rw [Bytes.span, List.take_drop, List.take_take, List.take_take, List.drop_take,
        List.drop_take]
      congr 1
      omega
    rw [both, both, agree.start]

theorem drop (agree : Agree n d e) (first : Nat) :
    Agree (n - first) (d.drop first) (e.drop first) := by
  rw [Bytes.drop_eq_span, Bytes.drop_eq_span, agree.length]
  exact agree.span first d.length

theorem drop_eq_span (agree : Agree n d e) (first : Nat) :
    e.drop first = Bytes.span e first d.length := by
  rw [Bytes.drop_eq_span, agree.length]

theorem octetsAt (agree : Agree n d e) {m i : Nat} (inside : i + m ≤ n) :
    Bytes.octetsAt e m i = Bytes.octetsAt d m i := by
  have rest := (agree.drop i).fewer (m := m) (by omega)
  simp only [Bytes.octetsAt, Octets.ofPrefix, Octets.mk.injEq]
  rw [List.take_append, List.take_append, rest.start, rest.length]

/-- What stands in front of the rest is the same, where it is all in common. -/
theorem behind {a b : Bytes} (agree : Agree (a.length + n) (a ++ b) e) :
    ∃ b', e = a ++ b' ∧ Agree n b b' := by
  have front : e.take a.length = a := by
    rw [(agree.fewer (Nat.le_add_right _ _)).start, List.take_left]
  have rest := agree.drop a.length
  rw [List.drop_left, Nat.add_sub_cancel_left] at rest
  refine ⟨e.drop a.length, ?_, rest⟩
  rw [← List.take_append_drop a.length e, front, List.drop_left' rfl]

end Agree

end PacketWatch.Bytes
