/-
# `PacketWatch.Proofs.Build.Checksum` — a checksum is the total of the words modulo 65535

A one's-complement sum counts modulo 65535, with two forms of zero: a total that is not zero
comes to 65535 and never to zero (`reduced`).  Words added one by one with the carry brought
around come to it, and so does a total whose carries are folded back in the end.  So where the
total fits into the 32 bits in which it is added up, the checksum is the standard one; where it
does not, the addition overflows and there is none.  It always fits for up to 131074 bytes.

What is written into a message at an even offset is one more word of it, so a message verifies
if its checksum and the total of its other words make up a multiple of 65535.
-/
import PacketWatch.Proofs.Build.ReadBack

namespace PacketWatch

namespace Checksum

/-! ## The standard -/

/-- Adds two words; the carry out of the highest bit is added to the lowest. -/
def around (x y : UInt16) : UInt16 :=
  UInt16.ofNat ((x.toNat + y.toNat) % 65536 + (x.toNat + y.toNat) / 65536)

/-- The 16-bit words of a message, high byte first; behind an odd last byte there is a zero. -/
def wordsOf (d : Bytes) : List UInt16 :=
  (List.range ((d.length + 1) / 2)).map fun i => d.word16At (2 * i)

/-- The complement of the one's-complement sum of the words. -/
def standard (d : Bytes) : UInt16 := ~~~ (wordsOf d).foldl around 0

/-- The words of a message, added up as numbers. -/
def total (d : Bytes) : Nat := ((wordsOf d).map UInt16.toNat).sum

/-! ## Sums modulo 65535 -/

/-- A number modulo 65535; what is not zero is one of 1, …, 65535. -/
def reduced (n : Nat) : Nat := if n = 0 then 0 else (n - 1) % 65535 + 1

theorem reduced_lt (n : Nat) : reduced n < 65536 := by
  unfold reduced
  split
  · decide
  · omega

theorem reduced_of_lt {n : Nat} (small : n < 65536) : reduced n = n := by
  unfold reduced
  split <;> omega

theorem reduced_carry (n : Nat) : reduced (n % 65536 + n / 65536) = reduced n := by
  unfold reduced
  split
  · rw [if_pos (by omega)]
  · rw [if_neg (by omega)]
    omega

theorem reduced_add (m n : Nat) : reduced (reduced m + n) = reduced (m + n) := by
  unfold reduced
  split
  · subst m
    rfl
  · rw [if_neg (by omega), if_neg (by omega)]
    omega

/-- A total that is not zero is a multiple of 65535 if it is reduced to that. -/
theorem reduced_eq_ones_iff {n : Nat} (something : n ≠ 0) : reduced n = 65535 ↔ 65535 ∣ n := by
  rw [reduced, if_neg something]
  omega

theorem fold_eq_reduced (n : Nat) : fold n = reduced n := by
  fun_induction fold n with
  | case1 n small => exact (reduced_of_lt small).symm
  | case2 n _ ih => rw [ih, reduced_carry]

theorem toNat_around (x y : UInt16) : (around x y).toNat = reduced (x.toNat + y.toNat) := by
  have := x.toNat_lt
  have := y.toNat_lt
  have small : (x.toNat + y.toNat) % 65536 + (x.toNat + y.toNat) / 65536 < 65536 := by omega
  rw [around, UInt16.toNat_ofNat', Nat.mod_eq_of_lt small, ← reduced_carry, reduced_of_lt small]

theorem toNat_foldl_around (words : List UInt16) (x : UInt16) :
    (words.foldl around x).toNat = reduced (x.toNat + (words.map UInt16.toNat).sum) := by
  induction words generalizing x with
  | nil => exact (reduced_of_lt x.toNat_lt).symm
  | cons w words ih =>
      rw [List.foldl_cons, ih, toNat_around, reduced_add, List.map_cons, List.sum_cons,
        Nat.add_assoc]

/-! ## The words of a message -/

theorem words_eq (d : Bytes) : words d = wordsOf d := by
  fun_induction words d with
  | case1 => rfl
  | case2 hi =>
      have count : ([hi].length + 1) / 2 = 1 := by rw [List.length_singleton]
      rw [wordsOf, count]
      rfl
  | case3 hi lo rest ih =>
      have count : ((hi :: lo :: rest).length + 1) / 2 = (rest.length + 1) / 2 + 1 := by
        rw [List.length_cons, List.length_cons]
        omega
      rw [wordsOf, count, List.range_succ_eq_map, List.map_cons, List.map_map, ih]
      rfl

/-- An even number of bytes in front keeps the words apart. -/
theorem words_append {front : Bytes} (even : front.length % 2 = 0) (back : Bytes) :
    words (front ++ back) = words front ++ words back := by
  fun_induction words front with
  | case1 => rfl
  | case2 hi => cases even
  | case3 hi lo rest ih =>
      have even : rest.length % 2 = 0 := by
        rw [List.length_cons, List.length_cons] at even
        omega
      exact congrArg (_ :: ·) (ih even)

theorem sum_map_toNat (ws : List UInt16) : (ws.map UInt16.toNat).sum = sumOf ws := by
  induction ws with
  | nil => rfl
  | cons w ws ih => rw [List.map_cons, List.sum_cons, ih, sumOf]

theorem total_eq (d : Bytes) : total d = sumOf (words d) := by
  rw [words_eq, ← sum_map_toNat]
  rfl

/-- A word at an even offset counts as it is. -/
theorem total_written {front : Bytes} (even : front.length % 2 = 0) (w : UInt16) (back : Bytes) :
    total (front ++ bytes16 w ++ back) = total (front ++ bytes16 0 ++ back) + w.toNat := by
  have split (v : UInt16) : words (front ++ bytes16 v ++ back) = words front ++ v :: words back := by
    rw [List.append_assoc, words_append even]
    exact congrArg (words front ++ · :: words back) (word16_bytes16 v)
  rw [total_eq, total_eq, split, split, ← sum_map_toNat, ← sum_map_toNat]
  simp only [List.map_append, List.map_cons, List.sum_append, List.sum_cons, UInt16.toNat_zero]
  omega

theorem total_ne_zero (hi : UInt8) (high : hi ≠ 0) (rest : Bytes) : total (hi :: rest) ≠ 0 := by
  have positive : hi.toNat ≠ 0 := fun zero => high (UInt8.toNat_inj.mp zero)
  rw [total_eq]
  cases rest with
  | nil =>
      rw [words, sumOf, toNat_word16]
      omega
  | cons lo rest =>
      rw [words, sumOf, toNat_word16]
      omega

theorem total_of_short {d : Bytes} (short : d.length ≤ 131074) : total d < 2 ^ 32 := by
  rw [total_eq]
  exact sumOf_words_lt short

/-! ## Checksums -/

theorem standard_eq (d : Bytes) : standard d = ~~~ UInt16.ofNat (reduced (total d)) := by
  have sum := toNat_foldl_around (wordsOf d) 0
  rw [UInt16.toNat_zero, Nat.zero_add] at sum
  rw [standard, total, ← sum, UInt16.ofNat_toNat]

/-- The checksum is the standard one, unless the words do not fit into their sum. -/
theorem internet_eq (d : Bytes) :
    internet d = if total d < 2 ^ 32 then .ok (standard d) else .error .addition := by
  have limit : UInt32.size = 2 ^ 32 := rfl
  rw [internet, accumulate_eq, ← total_eq, limit]
  split
  · show Except.ok (~~~ UInt16.ofNat (fold (UInt32.ofNat (total d)).toNat)) = _
    rw [UInt32.toNat_ofNat', Nat.mod_eq_of_lt ‹_›, fold_eq_reduced, ← standard_eq]
  · rfl

theorem ofShort_eq {d : Bytes} (short : d.length ≤ 131074) : ofShort d short = standard d := by
  have checksum := internet_ofShort short
  rw [internet_eq, if_pos (total_of_short short)] at checksum
  exact (Except.ok.inj checksum).symm

/-- A message with its standard checksum at an even offset verifies. -/
theorem standard_written {front back : Bytes} (even : front.length % 2 = 0)
    (something : total (front ++ bytes16 0 ++ back) ≠ 0) :
    standard (front ++ bytes16 (standard (front ++ bytes16 0 ++ back)) ++ back) = 0 := by
  generalize without : front ++ bytes16 0 ++ back = d at something
  have verifies : (0 : UInt16) = ~~~ UInt16.ofNat 65535 := rfl
  have written : (standard d).toNat = 65535 - reduced (total d) := by
    rw [standard_eq, UInt16.toNat_not, UInt16.toNat_ofNat', Nat.mod_eq_of_lt (reduced_lt _)]
    rfl
  -- the complement brings the total to a multiple of 65535
  have balance : reduced (total d + (standard d).toNat) = 65535 := by
    rw [reduced_eq_ones_iff (by omega), written, reduced, if_neg something]
    omega
  rw [standard_eq, total_written even, without, balance, verifies]

end Checksum

/-! ## Headers and messages -/

open Checksum

theorem Ipv4.standard_header (src dst : Ip4) (protocol : UInt8) (length : UInt16) :
    standard (header src dst protocol length) = 0 := by
  let front : Bytes := [0x45, 0x00] ++ bytes16 length ++ [0x00, 0x00, 0x40, 0x00, 64, protocol]
  have apart (w : UInt16) : headerWith w src dst protocol length =
      front ++ bytes16 w ++ (src.toList ++ dst.toList) := List.append_assoc _ _ _
  have something : total (front ++ bytes16 0 ++ (src.toList ++ dst.toList)) ≠ 0 :=
    total_ne_zero 0x45 (by decide) _
  have even : front.length % 2 = 0 := by
    have length : front.length = 10 := rfl
    rw [length]
  rw [header, ofShort_eq, apart, apart]
  exact standard_written even something

/-- An echo request is built if the words of it fit into their sum, and then it verifies. -/
theorem Icmp.echoRequest_eq (identifier sequence : UInt16) (payload : Bytes) :
    echoRequest identifier sequence payload =
      if total (echoWith 0 8 identifier sequence payload) < 2 ^ 32 then
        .ok (echoWith (standard (echoWith 0 8 identifier sequence payload)) 8
          identifier sequence payload)
      else .error .addition := by
  rw [echoRequest, internet_eq]
  split
  · rfl
  · rfl

theorem Icmp.standard_echoRequest (identifier sequence : UInt16) (payload : Bytes) :
    standard (echoWith (standard (echoWith 0 8 identifier sequence payload)) 8
      identifier sequence payload) = 0 := by
  have apart (w : UInt16) : echoWith w 8 identifier sequence payload =
      [8, 0] ++ bytes16 w ++ (bytes16 identifier ++ bytes16 sequence ++ payload) := by
    simp only [echoWith, List.append_assoc]
  rw [apart, apart]
  exact standard_written rfl (total_ne_zero 8 (by decide) _)

/-- **What the builders write verifies wherever the words fit into their sum.**  A header of IPv4
always verifies.  An echo request of IPv4 is built and verifies if its words make up less than
2 ^ 32, and the addition overflows if they do not.  The checksum of any bytes is that of the
standard under the same condition, which holds for all bytes up to 131074. -/
theorem checksums_verify (src dst : Ip4) (protocol : UInt8) (identifier sequence : UInt16)
    (payload d : Bytes) :
    standard ((Ipv4.packet src dst protocol payload).take 20) = 0 ∧
    (total (Icmp.echoWith 0 8 identifier sequence payload) < 2 ^ 32 →
      ∃ w, Icmp.echoRequest identifier sequence payload =
          .ok (Icmp.echoWith w 8 identifier sequence payload) ∧
        standard (Icmp.echoWith w 8 identifier sequence payload) = 0) ∧
    (2 ^ 32 ≤ total (Icmp.echoWith 0 8 identifier sequence payload) →
      Icmp.echoRequest identifier sequence payload = .error .addition) ∧
    (internet d = if total d < 2 ^ 32 then .ok (standard d) else .error .addition) ∧
    (d.length ≤ 131074 → total d < 2 ^ 32) := by
  refine ⟨?_, fun fits => ⟨_, ?_, Icmp.standard_echoRequest ..⟩, fun more => ?_, internet_eq d,
    total_of_short⟩
  · rw [Ipv4.packet, Ipv4.header, List.take_left' (Ipv4.length_headerWith ..)]
    exact Ipv4.standard_header ..
  · rw [Icmp.echoRequest_eq, if_pos fits]
  · rw [Icmp.echoRequest_eq, if_neg (Nat.not_lt.mpr more)]

/-- Two bytes of ones are the word 65535. -/
theorem words_ones (n : Nat) : words (List.replicate (2 * n) 255) = List.replicate n 65535 := by
  induction n with
  | zero => rfl
  | succ n ih => exact congrArg (65535 :: ·) ih

theorem total_echo_ones (n : Nat) :
    total (Icmp.echoWith 0 8 0 0 (List.replicate (2 * n) 255)) = 2048 + n * 65535 := by
  have split : words (Icmp.echoWith 0 8 0 0 (List.replicate (2 * n) 255)) =
      [0x0800, 0, 0, 0] ++ List.replicate n 65535 :=
    congrArg ([0x0800, 0, 0, 0] ++ ·) (words_ones n)
  rw [total_eq, split, ← sum_map_toNat, List.map_append, List.map_replicate, List.sum_append,
    List.sum_replicate_nat]
  rfl

/-- The words of this message make up 2 ^ 32 + 2047, so it is not built, let alone verifies. -/
theorem echoRequest_not_verified :
    ¬ ∃ message, Icmp.echoRequest 0 0 (List.replicate 131074 255) = .ok message ∧
      standard message = 0 := by
  have length : 131074 = 2 * 65537 := rfl
  rintro ⟨message, built, -⟩
  rw [length, Icmp.echoRequest_eq, total_echo_ones, if_neg (by decide)] at built
  cases built

end PacketWatch
