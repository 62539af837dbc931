/-
The Internet checksum: the complement of the one's-complement sum of a
message's big-endian 16-bit words.

The words are added up in 32 bits and the carries out of the low 16 are folded
back afterwards.  A sum that does not fit into 32 bits is an overflow, and
then there is no checksum; the words of a short message always fit.  A message
of odd length counts as if a zero byte followed it.
-/
import PacketWatch.Bytes

namespace PacketWatch.Checksum

/-- Why there is no checksum: an addition ran over. -/
inductive Overflow where
  | addition
deriving DecidableEq

def Overflow.message : Overflow → String
  | addition => "attempt to add with overflow"

/-- The big-endian words of a message; an odd last byte is a high byte. -/
def words : Bytes → List UInt16
  | [] => []
  | [hi] => [word16 hi 0]
  | hi :: lo :: rest => word16 hi lo :: words rest

/-- One more word in a 32-bit sum. -/
def add (sum : UInt32) (word : UInt16) : Except Overflow UInt32 :=
  if sum.toNat + word.toNat < UInt32.size then .ok (sum + word.toUInt32) else .error .addition

/-- The 32-bit sum of the words. -/
def accumulate (ws : List UInt16) : Except Overflow UInt32 := ws.foldlM add 0

/-- Adds the carries above the low 16 bits back in, until none is left. -/
def fold (sum : Nat) : Nat :=
  if sum < 65536 then sum else fold (sum % 65536 + sum / 65536)
termination_by sum
decreasing_by omega

/-- The checksum of a message. -/
def internet (message : Bytes) : Except Overflow UInt16 := do
  let sum ← accumulate (words message)
  return ~~~ UInt16.ofNat (fold sum.toNat)

/-! ## When the sum fits -/

/-- The words, added up as numbers. -/
def sumOf : List UInt16 → Nat
  | [] => 0
  | w :: ws => w.toNat + sumOf ws

theorem foldlM_add (ws : List UInt16) (sum : UInt32) :
    ws.foldlM add sum =
      if sum.toNat + sumOf ws < UInt32.size then .ok (UInt32.ofNat (sum.toNat + sumOf ws))
      else .error .addition := by
  induction ws generalizing sum with
  | nil =>
      rw [List.foldlM_nil, sumOf, Nat.add_zero, if_pos sum.toNat_lt, UInt32.ofNat_toNat]
      rfl
  | cons w ws ih =>
      rw [List.foldlM_cons, sumOf, ← Nat.add_assoc, add]
      split
      · have next : (sum + w.toUInt32).toNat = sum.toNat + w.toNat := by
          rw [UInt32.toNat_add, UInt16.toNat_toUInt32, Nat.mod_eq_of_lt ‹_›]
        show ws.foldlM add (sum + w.toUInt32) = _
        rw [ih, next]
      · rw [if_neg (by omega)]
        rfl

/-- The words are added up if the numbers that they are make up less than 2 ^ 32. -/
theorem accumulate_eq (ws : List UInt16) :
    accumulate ws =
      if sumOf ws < UInt32.size then .ok (UInt32.ofNat (sumOf ws)) else .error .addition := by
  rw [accumulate, foldlM_add, UInt32.toNat_zero, Nat.zero_add]

theorem sumOf_words_le (d : Bytes) : sumOf (words d) ≤ 65535 * ((d.length + 1) / 2) := by
  fun_induction words d with
  | case1 => exact Nat.le_refl _
  | case2 hi =>
      have := (word16 hi 0).toNat_lt
      rw [sumOf, sumOf, List.length_singleton]
      omega
  | case3 hi lo rest ih =>
      have := (word16 hi lo).toNat_lt
      rw [sumOf, List.length_cons, List.length_cons]
      omega

/-- The words of 131074 bytes make up 2 ^ 32 - 1 at most. -/
theorem sumOf_words_lt {d : Bytes} (short : d.length ≤ 131074) :
    sumOf (words d) < UInt32.size := by
  have := sumOf_words_le d
  have : UInt32.size = 4294967296 := rfl
  omega

theorem exists_internet {d : Bytes} (short : d.length ≤ 131074) :
    ∃ checksum, internet d = .ok checksum := by
  rw [internet, accumulate_eq, if_pos (sumOf_words_lt short)]
  exact ⟨_, rfl⟩

/-- The checksum of a short message. -/
def ofShort (message : Bytes) (short : message.length ≤ 131074) : UInt16 :=
  (internet message).toOption.get (by
    obtain ⟨checksum, same⟩ := exists_internet short
    rw [same]
    rfl)

theorem internet_ofShort {message : Bytes} (short : message.length ≤ 131074) :
    internet message = .ok (ofShort message short) := by
  obtain ⟨checksum, same⟩ := exists_internet short
  simp only [ofShort, same]
  rfl

end PacketWatch.Checksum
