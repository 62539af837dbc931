/-
# `PacketWatch.Proofs.Text.SingleLine` — a line that is read from bytes stays one line

Bytes in front of the first line break hold no break, but they are read as UTF-8, and reading
joins bytes and replaces broken ones.  It adds no break:

    a single byte       is the character with its number
    several bytes       a character with a number of at least 128 (`Unit.IsWide`), since the
                        range of the second byte leaves no overlong form
    a broken sequence   U+FFFD

So each character of a text below 128 is one of the bytes, by induction on the units that the
bytes are read as, and a unit takes a byte at least, which bounds the length of the text.
-/
import PacketWatch.Proofs.Build.PlainText

namespace PacketWatch

namespace Text

/-- No character ends a line. -/
def SingleLine (s : String) : Prop := ∀ c ∈ s.toList, c ≠ '\r' ∧ c ≠ '\n'

instance (s : String) : Decidable (SingleLine s) := List.decidableBAll _ s.toList

theorem IsPlain.singleLine {s : String} (plain : IsPlain s) : SingleLine s := by
  intro c hc
  have printable := (plain c hc).1
  constructor
  · rintro rfl
    exact absurd printable (by decide)
  · rintro rfl
    exact absurd printable (by decide)

theorem SingleLine.append {s t : String} (first : SingleLine s) (second : SingleLine t) :
    SingleLine (s ++ t) := by
  intro c hc
  rw [String.toList_append, List.mem_append] at hc
  exact hc.elim (first c) (second c)

namespace Utf8

/-! ## Characters of several bytes -/

/-- A number is the character's own, or there is no such character. -/
theorem toNat_ofNat (n : Nat) : (Char.ofNat n).toNat = n ∨ (Char.ofNat n).toNat = 0 := by
  by_cases valid : n.isValidChar
  · left
    rw [Char.ofNat, dif_pos valid]
    rfl
  · right
    rw [Char.ofNat, dif_neg valid]
    rfl

/-- The character of a unit is not in ASCII, unless it stands for a number without a character. -/
def Unit.IsWide (u : Unit) : Prop := u.lossy.toNat = 0 ∨ 128 ≤ u.lossy.toNat

theorem isWide_scalar {n : Nat} (wide : 128 ≤ n) (extra : Nat) :
    (Unit.scalar (Char.ofNat n) extra).IsWide := by
  rcases toNat_ofNat n with same | none
  · exact .inr (Nat.le_trans wide (Nat.le_of_eq same.symm))
  · exact .inl none

theorem isWide_broken (extra : Nat) : (Unit.broken extra).IsWide := by
  right
  show 128 ≤ replacement.toNat
  decide

theorem range_of_within {lo hi : UInt8} {rest : Bytes} {i : Nat} (inside : within lo hi rest i) :
    lo.toNat ≤ (rest.byteAt i).toNat ∧ (rest.byteAt i).toNat ≤ hi.toNat := by
  rw [within] at inside
  rw [Bytes.byteAt, List.getD_eq_getElem?_getD]
  cases found : rest[i]? with
  | none =>
      rw [found] at inside
      cases inside
  | some b =>
      rw [found] at inside
      simp only [Bool.and_eq_true, decide_eq_true_eq, UInt8.le_iff_toNat_le] at inside
      exact inside

theorem isWide_two {b : UInt8} (least : 0xC2 ≤ b.toNat) (rest : Bytes) : (two b rest).IsWide := by
  unfold two
  split
  · exact isWide_scalar (by omega) 1
  · exact isWide_broken 0

/-- The second byte is high enough, or the lead byte is. -/
theorem isWide_three {lo hi b : UInt8} (rest : Bytes)
    (least : 0xE1 ≤ b.toNat ∨ 0x82 ≤ lo.toNat ∧ hi.toNat ≤ 0xBF) :
    (three lo hi b rest).IsWide := by
  unfold three
  split
  · exact isWide_broken 0
  · rename_i second
    rw [Bool.not_eq_true, Bool.not_eq_false'] at second
    have range := range_of_within second
    split
    · exact isWide_broken 1
    · refine isWide_scalar ?_ 2
      rw [low6]
      omega

theorem isWide_four {lo hi b : UInt8} (rest : Bytes)
    (least : 0xF1 ≤ b.toNat ∨ 0x81 ≤ lo.toNat ∧ hi.toNat ≤ 0xBF) :
    (four lo hi b rest).IsWide := by
  unfold four
  split
  · exact isWide_broken 0
  · rename_i second
    rw [Bool.not_eq_true, Bool.not_eq_false'] at second
    have range := range_of_within second
    split
    · exact isWide_broken 1
    · split
      · exact isWide_broken 2
      · refine isWide_scalar ?_ 3
        rw [low6]
        omega

/-- What a byte past ASCII begins is no character of ASCII. -/
theorem isWide_lead {b : UInt8} (high : 128 ≤ b.toNat) (rest : Bytes) : (lead b rest).IsWide := by
  have least {m : UInt8} (past : ¬ b < m) : m.toNat ≤ b.toNat :=
    Nat.le_of_not_lt (mt UInt8.lt_iff_toNat_lt.mpr past)
  have above {m : UInt8} (past : ¬ b < m) (other : b ≠ m) : m.toNat + 1 ≤ b.toNat :=
    Nat.lt_of_le_of_ne (least past) fun same => other (UInt8.toNat_inj.mp same.symm)
  have notSingle : ¬ b < 0x80 := fun single =>
    Nat.not_lt.mpr high (UInt8.lt_iff_toNat_lt.mp single)
  rw [lead, if_neg notSingle]
  -- the arms in their order; past the tests for E0 and F0 the lead byte alone is high enough
  split
  · exact isWide_broken 0
  split
  · exact isWide_two (least ‹¬ b < 0xC2›) rest
  split
  · exact isWide_three rest (.inr (by decide))
  have behindE0 := above ‹¬ b < 0xE0› ‹b ≠ 0xE0›
  split
  · exact isWide_three rest (.inl behindE0)
  split
  · exact isWide_three rest (.inl behindE0)
  split
  · exact isWide_four rest (.inr (by decide))
  have behindF0 := above ‹¬ b < 0xF0› ‹b ≠ 0xF0›
  split
  · exact isWide_four rest (.inl behindF0)
  split
  · exact isWide_four rest (.inl behindF0)
  · exact isWide_broken 0

/-! ## Characters of a text -/

/-- A character of ASCII is one of the bytes. -/
theorem wide_or_byte_of_mem_units {d : Bytes} {u : Unit} (here : u ∈ units d) :
    u.IsWide ∨ ∃ b ∈ d, u.lossy = Char.ofNat b.toNat := by
  fun_induction units d with
  | case1 => cases here
  | case2 b rest ih =>
      rcases List.mem_cons.mp here with rfl | later
      · by_cases single : b.toNat < 128
        · right
          rw [lead_of_lt single]
          exact ⟨b, List.mem_cons_self, rfl⟩
        · exact .inl (isWide_lead (Nat.le_of_not_lt single) rest)
      · refine (ih later).imp_right ?_
        rintro ⟨c, among, same⟩
        exact ⟨c, List.mem_cons_of_mem _ (List.mem_of_mem_drop among), same⟩

theorem length_units_le (d : Bytes) : (units d).length ≤ d.length := by
  fun_induction units d with
  | case1 => exact Nat.le_refl _
  | case2 b rest ih =>
      rw [List.length_drop] at ih
      rw [List.length_cons, List.length_cons]
      omega

theorem length_decodeLossy_le (d : Bytes) : (decodeLossy d).length ≤ d.length := by
  rw [decodeLossy, String.length_ofList, List.length_map]
  exact length_units_le d

/-- Bytes without a line break are read as one line. -/
theorem singleLine_decodeLossy {d : Bytes} (unbroken : ∀ b ∈ d, ¬ TextLine.isBreak b) :
    SingleLine (decodeLossy d) := by
  intro c hc
  rw [decodeLossy, String.toList_ofList] at hc
  obtain ⟨u, here, rfl⟩ := List.mem_map.mp hc
  -- a break among the characters would be a break among the bytes
  have other (n : UInt8) (code : 0 < n.toNat ∧ n.toNat < 128) (ends : TextLine.isBreak n) :
      u.lossy.toNat ≠ n.toNat := by
    intro same
    rcases wide_or_byte_of_mem_units here with wide | ⟨b, among, byte⟩
    · rw [Unit.IsWide, same] at wide
      omega
    · rw [byte] at same
      rcases toNat_ofNat b.toNat with number | none
      · obtain rfl : b = n := UInt8.toNat_inj.mp (number.symm.trans same)
        exact unbroken b among ends
      · omega
  constructor
  · exact fun same => other 13 (by decide) rfl (congrArg Char.toNat same)
  · exact fun same => other 10 (by decide) rfl (congrArg Char.toNat same)

end Utf8

end Text

namespace TextLine

open Text

/-- What is kept of a line ends before the first line break and after at most 120 bytes. -/
theorem firstBytes_eq (payload : Bytes) :
    firstBytes payload = payload.take (min 120 (payload.findIdx isBreak)) := by
  rw [firstBytes, List.takeWhile_eq_take_findIdx_not, List.take_take, maxLength]
  simp only [Bool.not_not]

theorem not_isBreak_of_mem_firstBytes {payload : Bytes} {b : UInt8}
    (kept : b ∈ firstBytes payload) : ¬ isBreak b := by
  have passed := List.mem_takeWhile_imp (List.mem_of_mem_take kept)
  simpa using passed

theorem singleLine_first (payload : Bytes) : SingleLine (first payload) :=
  Utf8.singleLine_decodeLossy fun _ => not_isBreak_of_mem_firstBytes

theorem length_first_le (payload : Bytes) : (first payload).length ≤ 120 :=
  Nat.le_trans (Utf8.length_decodeLossy_le _) (List.length_take_le _ _)

end TextLine

end PacketWatch
