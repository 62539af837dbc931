/-
# `PacketWatch.Proofs.Text.Utf8` — a text is read back from its bytes

A character is written as a lead byte and up to three bytes of six bits each:

    v < 128        v
    v < 2048       192 + v / 64       v % 64
    v < 65536      224 + v / 4096     v / 64 % 64      v % 64
    else           240 + v / 262144   v / 4096 % 64    v / 64 % 64    v % 64

The reader finds the length again from the lead byte, and it takes the second byte only from a
range that excludes overlong forms and surrogates.  A character is no surrogate and has the
shortest form, so it always passes (`lead_encode`), and a text is read by induction on its
characters.  Since nothing but shortest forms passes, a character that is read has no other bytes
than those it was read from (`encode_of_lead`), and so has a text.
-/
import PacketWatch.Proofs.Build.PlainText

namespace PacketWatch

namespace Text.Utf8

/-! ## Lead bytes -/

/-- The ranges of lead bytes, by their numbers. -/
theorem lead_eq (b : UInt8) (rest : Bytes) :
    lead b rest =
      if b.toNat < 0x80 then .scalar (Char.ofNat b.toNat) 0
      else if b.toNat < 0xC2 then .broken 0
      else if b.toNat < 0xE0 then two b rest
      else if b.toNat = 0xE0 then three 0xA0 0xBF b rest
      else if b.toNat = 0xED then three 0x80 0x9F b rest
      else if b.toNat < 0xF0 then three 0x80 0xBF b rest
      else if b.toNat = 0xF0 then four 0x90 0xBF b rest
      else if b.toNat < 0xF4 then four 0x80 0xBF b rest
      else if b.toNat = 0xF4 then four 0x80 0x8F b rest
      else .broken 0 := by
  simp only [lead, UInt8.lt_iff_toNat_lt, ← UInt8.toNat_inj]
  rfl

theorem lead_two {b : UInt8} (least : 0xC2 ≤ b.toNat) (most : b.toNat < 0xE0) (rest : Bytes) :
    lead b rest = two b rest := by
  rw [lead_eq]
  grind

/-- Overlong forms and surrogates are kept out by the range of the second byte. -/
theorem lead_three {b : UInt8} (least : 0xE0 ≤ b.toNat) (most : b.toNat < 0xF0) (rest : Bytes) :
    ∃ lo hi, lead b rest = three lo hi b rest ∧
      lo.toNat = (if b.toNat = 0xE0 then 0xA0 else 0x80) ∧
      hi.toNat = if b.toNat = 0xED then 0x9F else 0xBF := by
  rw [lead_eq]
  grind

/-- Overlong forms and what is no character any more are kept out by the range of the second
byte. -/
theorem lead_four {b : UInt8} (least : 0xF0 ≤ b.toNat) (most : b.toNat ≤ 0xF4) (rest : Bytes) :
    ∃ lo hi, lead b rest = four lo hi b rest ∧
      lo.toNat = (if b.toNat = 0xF0 then 0x90 else 0x80) ∧
      hi.toNat = if b.toNat = 0xF4 then 0x8F else 0xBF := by
  rw [lead_eq]
  grind

/-! ## The bytes behind them -/

theorem toNat_byte {n : Nat} (small : n < 256) : (UInt8.ofNat n).toNat = n :=
  UInt8.toNat_ofNat_of_lt' small

/-- The byte of six bits of a number. -/
def tail (n : Nat) : UInt8 := UInt8.ofNat (n % 64 + 128)

theorem toNat_tail (n : Nat) : (tail n).toNat = n % 64 + 128 := toNat_byte (by omega)

theorem within_iff {lo hi x : UInt8} {rest : Bytes} {i : Nat} (here : rest[i]? = some x) :
    within lo hi rest i = true ↔ lo.toNat ≤ x.toNat ∧ x.toNat ≤ hi.toNat := by
  rw [within, here, Bool.and_eq_true, decide_eq_true_eq, decide_eq_true_eq,
    UInt8.le_iff_toNat_le, UInt8.le_iff_toNat_le]

theorem within_tail (n : Nat) {rest : Bytes} {i : Nat} (here : rest[i]? = some (tail n)) :
    within 0x80 0xBF rest i = true := by
  rw [within_iff here, toNat_tail]
  show 128 ≤ n % 64 + 128 ∧ n % 64 + 128 ≤ 191
  omega

theorem low6_tail (n : Nat) {rest : Bytes} {i : Nat} (here : rest[i]? = some (tail n)) :
    low6 rest i = n % 64 := by
  rw [low6, Bytes.byteAt, List.getD_eq_getElem?_getD, here, Option.getD_some, toNat_tail]
  omega

theorem two_tail (b : UInt8) (n : Nat) (rest : Bytes) :
    two b (tail n :: rest) = .scalar (Char.ofNat ((b.toNat - 0xC0) * 64 + n % 64)) 1 := by
  rw [two, if_pos (within_tail n rfl), low6_tail n rfl]

theorem three_tail {lo hi : UInt8} (b : UInt8) {m : Nat} (n : Nat) (rest : Bytes)
    (inside : lo.toNat ≤ m % 64 + 128 ∧ m % 64 + 128 ≤ hi.toNat) :
    three lo hi b (tail m :: tail n :: rest) =
      .scalar (Char.ofNat (((b.toNat - 0xE0) * 64 + m % 64) * 64 + n % 64)) 2 := by
  have second : within lo hi (tail m :: tail n :: rest) 0 = true := by
    rw [within_iff rfl, toNat_tail]
    exact inside
  have third : within 0x80 0xBF (tail m :: tail n :: rest) 1 = true := within_tail n rfl
  rw [three, second, third, low6_tail m rfl, low6_tail n rfl]
  rfl

theorem four_tail {lo hi : UInt8} (b : UInt8) {l : Nat} (m n : Nat) (rest : Bytes)
    (inside : lo.toNat ≤ l % 64 + 128 ∧ l % 64 + 128 ≤ hi.toNat) :
    four lo hi b (tail l :: tail m :: tail n :: rest) =
      .scalar (Char.ofNat
        ((((b.toNat - 0xF0) * 64 + l % 64) * 64 + m % 64) * 64 + n % 64)) 3 := by
  have second : within lo hi (tail l :: tail m :: tail n :: rest) 0 = true := by
    rw [within_iff rfl, toNat_tail]
    exact inside
  have third : within 0x80 0xBF (tail l :: tail m :: tail n :: rest) 1 = true :=
    within_tail m rfl
  have fourth : within 0x80 0xBF (tail l :: tail m :: tail n :: rest) 2 = true :=
    within_tail n rfl
  rw [four, second, third, fourth, low6_tail l rfl, low6_tail m rfl, low6_tail n rfl]
  rfl

/-! ## Characters -/

/-- A character is read back from its bytes, with how many of them stand behind the lead byte. -/
theorem lead_encode (c : Char) (rest : Bytes) :
    ∃ b more, String.utf8EncodeChar c = b :: more ∧
      lead b (more ++ rest) = .scalar c more.length := by
  have valid : c.val.toNat < 0xD800 ∨ 0xDFFF < c.val.toNat ∧ c.val.toNat < 0x110000 := c.valid
  have named {n : Nat} (same : n = c.val.toNat) : Char.ofNat n = c :=
    (congrArg Char.ofNat same).trans (Char.ofNat_toNat c)
  unfold String.utf8EncodeChar
  dsimp only
  split
  · have byte : (UInt8.ofNat c.val.toNat).toNat = c.val.toNat := toNat_byte (by omega)
    refine ⟨_, _, rfl, ?_⟩
    rw [lead_of_lt (by omega), byte, named rfl]
    rfl
  split
  · have byte : (UInt8.ofNat (c.val.toNat / 64 % 32 + 192)).toNat = c.val.toNat / 64 + 192 := by
      rw [toNat_byte (by omega)]
      omega
    refine ⟨_, [tail c.val.toNat], rfl, ?_⟩
    rw [lead_two (by omega) (by omega)]
    refine (two_tail _ c.val.toNat rest).trans ?_
    rw [byte, named (by omega)]
    rfl
  split
  · have byte : (UInt8.ofNat (c.val.toNat / 4096 % 16 + 224)).toNat =
        c.val.toNat / 4096 + 224 := by
      rw [toNat_byte (by omega)]
      omega
    refine ⟨_, [tail (c.val.toNat / 64), tail c.val.toNat], rfl, ?_⟩
    obtain ⟨lo, hi, read, low, high⟩ := lead_three
      (b := UInt8.ofNat (c.val.toNat / 4096 % 16 + 224)) (by omega) (by omega)
      ([tail (c.val.toNat / 64), tail c.val.toNat] ++ rest)
    rw [read]
    refine (three_tail _ _ rest ?_).trans ?_
    · rw [low, high]
      split <;> split <;> omega
    · rw [byte, named (by omega)]
      rfl
  · have byte : (UInt8.ofNat (c.val.toNat / 262144 % 8 + 240)).toNat =
        c.val.toNat / 262144 + 240 := by
      rw [toNat_byte (by omega)]
      omega
    refine ⟨_, [tail (c.val.toNat / 4096), tail (c.val.toNat / 64), tail c.val.toNat], rfl, ?_⟩
    obtain ⟨lo, hi, read, low, high⟩ := lead_four
      (b := UInt8.ofNat (c.val.toNat / 262144 % 8 + 240)) (by omega) (by omega)
      ([tail (c.val.toNat / 4096), tail (c.val.toNat / 64), tail c.val.toNat] ++ rest)
    rw [read]
    refine (four_tail _ _ _ rest ?_).trans ?_
    · rw [low, high]
      split <;> split <;> omega
    · rw [byte, named (by omega)]
      rfl

/-! ## Texts -/

/-- Characters are read one after the other. -/
theorem units_encode (cs : List Char) :
    (units (cs.flatMap String.utf8EncodeChar)).mapM Unit.scalar? = some cs := by
  induction cs with
  | nil =>
      rw [List.flatMap_nil, units]
      rfl
  | cons c cs ih =>
      obtain ⟨b, more, bytes, read⟩ := lead_encode c (cs.flatMap String.utf8EncodeChar)
      rw [List.flatMap_cons, bytes, List.cons_append, units, read]
      show (Unit.scalar c more.length :: units (List.drop more.length _)).mapM _ = _
      rw [List.drop_left, List.mapM_cons, ih]
      rfl

/-- A text is read back from its bytes. -/
theorem decode?_ofText (s : String) : decode? (Bytes.ofText s) = some s := by
  rw [decode?, ← String.ofList_toList (s := s), Bytes.ofText_ofList, units_encode]
  rfl

/-! ## Bytes that are read -/

theorem toNat_ofNat_of_valid {n : Nat} (valid : n < 0xD800 ∨ 0xDFFF < n ∧ n < 0x110000) :
    (Char.ofNat n).val.toNat = n := by
  rw [Char.ofNat, dif_pos valid]
  rfl

/-- A byte of the six bits of a number. -/
theorem tail_eq {x : UInt8} {n : Nat} (low : 128 ≤ x.toNat) (high : x.toNat ≤ 191)
    (same : n % 64 = x.toNat % 64) : tail n = x := by
  rw [← UInt8.toNat_inj, toNat_tail]
  omega

/-- A byte that lies in a range is there. -/
theorem exists_of_within {lo hi : UInt8} {rest : Bytes} {i : Nat}
    (inside : within lo hi rest i = true) :
    ∃ x, rest[i]? = some x ∧ low6 rest i = x.toNat % 64 ∧
      lo.toNat ≤ x.toNat ∧ x.toNat ≤ hi.toNat := by
  cases here : rest[i]? with
  | none =>
      rw [within, here] at inside
      cases inside
  | some x =>
      refine ⟨x, rfl, ?_, (within_iff here).mp inside⟩
      rw [low6, Bytes.byteAt, List.getD_eq_getElem?_getD, here, Option.getD_some]

theorem exists_tail {rest : Bytes} {i : Nat} (inside : ¬ (!within 0x80 0xBF rest i) = true) :
    ∃ x, rest[i]? = some x ∧ low6 rest i = x.toNat % 64 ∧ 128 ≤ x.toNat ∧ x.toNat ≤ 191 :=
  exists_of_within (by simpa using inside)

/-- The second byte has six bits as well, and for some lead bytes its range is smaller. -/
theorem exists_second {lo hi : UInt8} {rest : Bytes} {least most : Nat} {p q : Prop} [Decidable p]
    [Decidable q] (inside : ¬ (!within lo hi rest 0) = true)
    (lowest : lo.toNat = if p then least else 0x80) (highest : hi.toNat = if q then most else 0xBF)
    (narrow : 0x80 ≤ least ∧ most ≤ 0xBF) :
    ∃ x, rest[0]? = some x ∧ low6 rest 0 = x.toNat % 64 ∧ 128 ≤ x.toNat ∧ x.toNat ≤ 191 ∧
      (p → least ≤ x.toNat) ∧ (q → x.toNat ≤ most) := by
  have inside : within lo hi rest 0 = true := by simpa using inside
  obtain ⟨x, here, bits, low, high⟩ := exists_of_within inside
  rw [lowest] at low
  rw [highest] at high
  refine ⟨x, here, bits, ?_, ?_, fun special => ?_, fun special => ?_⟩
  · split at low <;> omega
  · split at high <;> omega
  · rwa [if_pos special] at low
  · rwa [if_pos special] at high

theorem encode_of_two {b : UInt8} {rest : Bytes} {c : Char} {extra : Nat}
    (least : 0xC2 ≤ b.toNat) (most : b.toNat < 0xE0) (read : two b rest = .scalar c extra) :
    String.utf8EncodeChar c = b :: rest.take extra := by
  rw [two] at read
  split at read
  · obtain ⟨x, here, bits, low, high⟩ := exists_of_within ‹_›
    change 128 ≤ x.toNat at low
    change x.toNat ≤ 191 at high
    rw [bits] at read
    cases read
    generalize number : (b.toNat - 0xC0) * 64 + x.toNat % 64 = n
    have value := toNat_ofNat_of_valid (n := n) (by omega)
    have first : UInt8.ofNat (n / 64 % 32 + 192) = b := by
      rw [← UInt8.toNat_inj, toNat_byte (by omega)]
      omega
    have second : tail n = x := tail_eq low high (by omega)
    unfold String.utf8EncodeChar
    rw [value]
    dsimp only
    rw [if_neg (by omega), if_pos (by omega), first]
    simp only [List.take_add_one, List.take_zero, here]
    show [b, tail n] = [b, x]
    rw [second]
  · cases read

theorem encode_of_three {b lo hi : UInt8} {rest : Bytes} {c : Char} {extra : Nat}
    (least : 0xE0 ≤ b.toNat) (most : b.toNat < 0xF0)
    (lowest : lo.toNat = if b.toNat = 0xE0 then 0xA0 else 0x80)
    (highest : hi.toNat = if b.toNat = 0xED then 0x9F else 0xBF)
    (read : three lo hi b rest = .scalar c extra) :
    String.utf8EncodeChar c = b :: rest.take extra := by
  rw [three] at read
  split at read
  · cases read
  split at read
  · cases read
  rename_i inner outer
  obtain ⟨x, here, bits, low, high, shortest, surrogate⟩ :=
    exists_second inner lowest highest (by decide)
  obtain ⟨y, next, bits', low', high'⟩ := exists_tail outer
  rw [bits, bits'] at read
  cases read
  generalize number : ((b.toNat - 0xE0) * 64 + x.toNat % 64) * 64 + y.toNat % 64 = n
  have value := toNat_ofNat_of_valid (n := n) (by omega)
  have first : UInt8.ofNat (n / 4096 % 16 + 224) = b := by
    rw [← UInt8.toNat_inj, toNat_byte (by omega)]
    omega
  have second : tail (n / 64) = x := tail_eq low high (by omega)
  have third : tail n = y := tail_eq low' high' (by omega)
  unfold String.utf8EncodeChar
  rw [value]
  dsimp only
  rw [if_neg (by omega), if_neg (by omega), if_pos (by omega), first]
  simp only [List.take_add_one, List.take_zero, here, next]
  show [b, tail (n / 64), tail n] = [b, x, y]
  rw [second, third]

theorem encode_of_four {b lo hi : UInt8} {rest : Bytes} {c : Char} {extra : Nat}
    (least : 0xF0 ≤ b.toNat) (most : b.toNat ≤ 0xF4)
    (lowest : lo.toNat = if b.toNat = 0xF0 then 0x90 else 0x80)
    (highest : hi.toNat = if b.toNat = 0xF4 then 0x8F else 0xBF)
    (read : four lo hi b rest = .scalar c extra) :
    String.utf8EncodeChar c = b :: rest.take extra := by
  rw [four] at read
  split at read
  · cases read
  split at read
  · cases read
  split at read
  · cases read
  rename_i inner middle outer
  obtain ⟨x, here, bits, low, high, shortest, largest⟩ :=
    exists_second inner lowest highest (by decide)
  obtain ⟨y, next, bits', low', high'⟩ := exists_tail middle
  obtain ⟨z, last, bits'', low'', high''⟩ := exists_tail outer
  rw [bits, bits', bits''] at read
  cases read
  generalize number :
    (((b.toNat - 0xF0) * 64 + x.toNat % 64) * 64 + y.toNat % 64) * 64 + z.toNat % 64 = n
  have value := toNat_ofNat_of_valid (n := n) (by omega)
  have first : UInt8.ofNat (n / 262144 % 8 + 240) = b := by
    rw [← UInt8.toNat_inj, toNat_byte (by omega)]
    omega
  have second : tail (n / 4096) = x := tail_eq low high (by omega)
  have third : tail (n / 64) = y := tail_eq low' high' (by omega)
  have fourth : tail n = z := tail_eq low'' high'' (by omega)
  unfold String.utf8EncodeChar
  rw [value]
  dsimp only
  rw [if_neg (by omega), if_neg (by omega), if_neg (by omega), first]
  simp only [List.take_add_one, List.take_zero, here, next, last]
  show [b, tail (n / 4096), tail (n / 64), tail n] = [b, x, y, z]
  rw [second, third, fourth]

/-- A character that is read has the bytes it is read from. -/
theorem encode_of_lead {b : UInt8} {rest : Bytes} {c : Char} {extra : Nat}
    (read : lead b rest = .scalar c extra) : String.utf8EncodeChar c = b :: rest.take extra := by
  by_cases one : b.toNat < 0x80
  · rw [lead_of_lt one] at read
    cases read
    have value := toNat_ofNat_of_valid (n := b.toNat) (by omega)
    unfold String.utf8EncodeChar
    rw [value]
    dsimp only
    rw [if_pos (by omega), UInt8.ofNat_toNat]
    rfl
  by_cases inner : b.toNat < 0xC2
  · rw [lead_eq, if_neg one, if_pos inner] at read
    cases read
  by_cases two : b.toNat < 0xE0
  · rw [lead_two (by omega) two] at read
    exact encode_of_two (by omega) two read
  by_cases three : b.toNat < 0xF0
  · obtain ⟨lo, hi, same, lowest, highest⟩ := lead_three (by omega) three rest
    rw [same] at read
    exact encode_of_three (by omega) three lowest highest read
  by_cases four : b.toNat ≤ 0xF4
  · obtain ⟨lo, hi, same, lowest, highest⟩ := lead_four (by omega) four rest
    rw [same] at read
    exact encode_of_four (by omega) four lowest highest read
  · have large : lead b rest = .broken 0 := by
      rw [lead_eq]
      grind
    rw [large] at read
    cases read

theorem encode_of_units {d : Bytes} {cs : List Char}
    (read : (units d).mapM Unit.scalar? = some cs) : cs.flatMap String.utf8EncodeChar = d := by
  fun_induction units d generalizing cs with
  | case1 =>
      cases read
      rfl
  | case2 b rest ih =>
      rw [List.mapM_cons] at read
      cases here : lead b rest with
      | broken extra =>
          rw [here] at read
          cases read
      | scalar c extra =>
          rw [here] at read ih
          rw [Unit.extra] at read ih
          cases following : (units (rest.drop extra)).mapM Unit.scalar? with
          | none =>
              rw [following] at read
              cases read
          | some others =>
              rw [following] at read
              cases read
              rw [List.flatMap_cons, encode_of_lead here, ih following, List.cons_append,
                List.take_append_drop]

/-- Bytes that are read as a text are the bytes of that text. -/
theorem ofText_of_decode? {d : Bytes} {s : String} (read : decode? d = some s) :
    Bytes.ofText s = d := by
  obtain ⟨cs, units, rfl⟩ := Option.map_eq_some_iff.mp read
  rw [Bytes.ofText_ofList, encode_of_units units]

end Text.Utf8

end PacketWatch
