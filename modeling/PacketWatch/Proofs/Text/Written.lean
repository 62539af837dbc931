/-
# `PacketWatch.Proofs.Text.Written` — numbers and joined texts, as characters

What a reader of characters has to know about the texts that writers put together.

A number is written in decimal digits: at least one, no zero in front of others, and they stand
for the number again.  A reader that takes digits as long as there are any gets exactly these,
where something else follows them.

Texts that are joined are the first of them, and then each other one behind what stands between
them; so a reader of the others is an induction on a list.
-/
import Mathlib.Data.List.TakeWhile
import PacketWatch.Text.Number

namespace PacketWatch

namespace Text

/-! ## Digits -/

theorem toList_toString (n : Nat) : (toString n).toList = Nat.toDigits 10 n := Nat.toList_repr

theorem isDigit_of_mem_digits {n : Nat} {c : Char} (here : c ∈ Nat.toDigits 10 n) :
    c.isDigit = true :=
  Nat.isDigit_of_mem_toDigits (by decide) (by decide) here

theorem ne_of_isDigit {c d : Char} (digit : c.isDigit = true) (other : d.isDigit = false) :
    c ≠ d := by
  rintro rfl
  exact absurd (digit.symm.trans other) (by decide)

theorem ofDecimal_digits (n : Nat) : ofDecimal (Nat.toDigits 10 n) = n :=
  Nat.ofDigitChars_ten_toDigits

theorem zero_of_digitChar {n : Nat} (small : n < 10) (zero : n.digitChar = '0') : n = 0 := by
  have digits : ∀ m < 10, m.digitChar = '0' → m = 0 := by decide
  exact digits n small zero

/-- Only zero is written with a zero in front. -/
theorem digits_of_zero_cons {n : Nat} {more : List Char}
    (front : Nat.toDigits 10 n = '0' :: more) : n = 0 ∧ more = [] := by
  induction n using Nat.strong_induction_on generalizing more with
  | _ n ih =>
      rcases Nat.lt_or_ge n 10 with small | large
      · rw [Nat.toDigits_of_lt_base small] at front
        obtain ⟨digit, rfl⟩ := List.cons.inj front
        exact ⟨zero_of_digitChar small digit, rfl⟩
      · rw [Nat.toDigits_of_base_le (by decide) large] at front
        cases high : Nat.toDigits 10 (n / 10) with
        | nil => exact absurd high Nat.toDigits_ne_nil
        | cons c others =>
            rw [high] at front
            obtain ⟨rfl, -⟩ := List.cons.inj front
            have := (ih (n / 10) (by omega) high).1
            omega

/-- Digits that begin with a zero are that zero. -/
theorem digits_append_eq_zero_cons {n : Nat} {rest more : List Char}
    (front : Nat.toDigits 10 n ++ rest = '0' :: more) :
    n = 0 ∧ Nat.toDigits 10 n = ['0'] ∧ rest = more := by
  cases digits : Nat.toDigits 10 n with
  | nil => exact absurd digits Nat.toDigits_ne_nil
  | cons c others =>
      rw [digits, List.cons_append] at front
      obtain ⟨rfl, rfl⟩ := List.cons.inj front
      obtain ⟨rfl, rfl⟩ := digits_of_zero_cons digits
      exact ⟨rfl, rfl, rfl⟩

/-- A number begins with a digit. -/
theorem exists_first_digit (n : Nat) :
    ∃ c others, Nat.toDigits 10 n = c :: others ∧ c.isDigit = true := by
  cases digits : Nat.toDigits 10 n with
  | nil => exact absurd digits Nat.toDigits_ne_nil
  | cons c others =>
      have here : c ∈ Nat.toDigits 10 n := digits ▸ List.mem_cons_self
      exact ⟨c, others, rfl, isDigit_of_mem_digits here⟩

/-- Digits in front of something else are taken as they are. -/
theorem takeWhile_digits (n : Nat) {rest : List Char}
    (ends : ∀ c ∈ rest.head?, c.isDigit = false) :
    (Nat.toDigits 10 n ++ rest).takeWhile Char.isDigit = Nat.toDigits 10 n ∧
      (Nat.toDigits 10 n ++ rest).dropWhile Char.isDigit = rest := by
  have digits : ∀ c ∈ Nat.toDigits 10 n, c.isDigit = true := fun _ => isDigit_of_mem_digits
  rw [List.takeWhile_append_of_pos digits, List.dropWhile_append_of_pos digits]
  cases rest with
  | nil => simp
  | cons c rest =>
      have other : c.isDigit = false := ends c rfl
      rw [List.takeWhile_cons_of_neg (by simp [other]),
        List.dropWhile_cons_of_neg (by simp [other]), List.append_nil]
      exact ⟨rfl, rfl⟩

/-! ## Joined texts -/

theorem toList_intercalate_cons (between first : String) (others : List String) :
    (String.intercalate between (first :: others)).toList =
      first.toList ++ others.flatMap fun s => between.toList ++ s.toList := by
  induction others generalizing first with
  | nil => rw [String.intercalate_singleton, List.flatMap_nil, List.append_nil]
  | cons second others ih =>
      rw [String.intercalate_cons_cons, String.toList_append, String.toList_append, ih,
        List.flatMap_cons, List.append_assoc, List.append_assoc]

end Text

end PacketWatch
