/-
# `PacketWatch.Proofs.Toml.Lines` — the lines of a document are read back

A line that the writer makes is a header with a bare name, or a bare key with a value behind it.

*Values.*  A reader tries what begins like a date or a time, then a float, then an integer.  All
of them look at what follows the first digits, and in front of the end of a line (`DigitLine`)
there is nothing that they could go on with; so only the integer is left.  A string is told by its
quote, the two words by their letter.

*Lines.*  `AreLines text lines` says what a reader makes of a text that more may follow.  It is
closed under appending texts, so a whole document is read as soon as each of its lines is.  A
reader spends a step a line, and the bound that the length of the text supplies is never met.
-/
import PacketWatch.Proofs.Datum
import PacketWatch.Proofs.Text.Written
import PacketWatch.Proofs.Toml.Quoted
import PacketWatch.Toml.Reader

namespace PacketWatch

namespace Toml

/-! ## Numbers -/

/-- Digits are taken as they are, in front of what goes on with them in no way. -/
theorem digits?_append {ds : List Char} (digits : ∀ c ∈ ds, c.isDigit = true) (nonempty : ds ≠ [])
    {d : Char} (other : d.isDigit = false) (underscore : d ≠ '_') (rest : List Char) :
    digits? Char.isDigit (ds ++ d :: rest) = some (ds, d :: rest) := by
  induction ds with
  | nil => exact absurd rfl nonempty
  | cons c ds ih =>
      obtain ⟨first, others⟩ := List.forall_mem_cons.mp digits
      cases ds with
      | nil =>
          show digits? Char.isDigit (c :: d :: rest) = _
          rw [digits?.eq_3 _ _ _ _ underscore, first, other]
          rfl
      | cons e ds =>
          have second : e.isDigit = true := others e List.mem_cons_self
          have inner := ih others (List.cons_ne_nil _ _)
          rw [List.cons_append] at inner
          show digits? Char.isDigit (c :: e :: (ds ++ d :: rest)) = _
          rw [digits?.eq_3 _ _ _ _ (Text.ne_of_isDigit second rfl), first, second, inner]
          rfl

theorem wholeDigits?_digits (n : Nat) (rest : List Char) :
    wholeDigits? (Nat.toDigits 10 n ++ '\n' :: rest) = some (Nat.toDigits 10 n, '\n' :: rest) := by
  unfold wholeDigits?
  split
  · rename_i front
    obtain ⟨-, digits, rest⟩ := Text.digits_append_eq_zero_cons front
    rw [digits, rest]
  · exact digits?_append (fun _ => Text.isDigit_of_mem_digits) Nat.toDigits_ne_nil rfl (by decide) _

theorem exactly?_eq_none {c : Char} {s : List Char} (front : NotInFront c s)
    (word : List Char) : exactly? (c :: word) s = none := by
  have other : (c :: word).isPrefixOf s = false := by
    cases s with
    | nil => rfl
    | cons d s =>
        have same : c ≠ d := by
          rintro rfl
          exact front s rfl
        rw [List.isPrefixOf, beq_eq_false_iff_ne.mpr same, Bool.false_and]
  rw [exactly?, other]
  rfl

/-- Digits up to the end of a line. -/
def DigitLine (s : List Char) : Prop :=
  ∃ ds rest, (∀ c ∈ ds, c.isDigit = true) ∧ s = ds ++ '\n' :: rest

theorem digitLine_digits (n : Nat) (rest : List Char) :
    DigitLine (Nat.toDigits 10 n ++ '\n' :: rest) :=
  ⟨_, rest, fun _ => Text.isDigit_of_mem_digits, rfl⟩

namespace DigitLine

variable {s : List Char}

/-- Nothing but digits is found up to the end of the line. -/
theorem notInFront (line : DigitLine s) {c : Char} (other : c.isDigit = false) (feed : c ≠ '\n') :
    NotInFront c s := by
  obtain ⟨ds, rest, digits, rfl⟩ := line
  cases ds with
  | nil => exact notInFront_cons feed.symm rest
  | cons d ds =>
      exact notInFront_cons (Text.ne_of_isDigit (digits d List.mem_cons_self) other) _

theorem tail {c : Char} (line : DigitLine (c :: s)) (feed : c ≠ '\n') : DigitLine s := by
  obtain ⟨ds, rest, digits, same⟩ := line
  cases ds with
  | nil => exact absurd (List.cons.inj same).1 feed
  | cons d ds => exact ⟨ds, rest, (List.forall_mem_cons.mp digits).2, (List.cons.inj same).2⟩

theorem sign_eq (line : DigitLine s) : sign s = (false, s) := by
  unfold sign
  split
  · exact absurd rfl (line.notInFront rfl (by decide) _)
  · exact absurd rfl (line.notInFront rfl (by decide) _)
  · rfl

/-- What is read as a number of digits does not reach the end of the line. -/
theorem behind_number? (line : DigitLine s) {count n : Nat} {behind : List Char}
    (read : number? count s = some (n, behind)) : DigitLine behind := by
  obtain ⟨ds, rest, digits, rfl⟩ := line
  rw [number?] at read
  split at read
  · rename_i taken
    obtain ⟨-, rfl⟩ := Prod.mk.inj (Option.some.inj read)
    -- otherwise the end of the line would be among the digits
    have room : count ≤ ds.length := by
      by_contra short
      have here : '\n' ∈ (ds ++ '\n' :: rest).take count := by
        rw [List.take_append, List.mem_append]
        refine .inr ?_
        rw [show count - ds.length = count - ds.length - 1 + 1 by omega, List.take_succ_cons]
        exact List.mem_cons_self
      exact absurd (List.all_eq_true.mp taken.2 _ here) (by decide)
    exact ⟨ds.drop count, rest, fun c here => digits c (List.mem_of_mem_drop here),
      List.drop_append_of_le_length room⟩
  · cases read

theorem behind_part? (line : DigitLine s) {least most n : Nat} {behind : List Char}
    (read : part? least most s = some (n, behind)) : DigitLine behind := by
  obtain ⟨⟨m, after⟩, number, inRange⟩ := Option.bind_eq_some_iff.mp read
  simp only at inRange
  split at inRange
  · obtain ⟨-, rfl⟩ := Prod.mk.inj (Option.some.inj inRange)
    exact line.behind_number? number
  · cases inRange

/-- There is neither a date nor a time of day. -/
theorem moment?_eq_none (line : DigitLine s) : moment? s = none := by
  have noDate : date? s = none := by
    refine Option.bind_eq_none_iff.mpr fun ⟨year, behind⟩ read => ?_
    show (exactly? ['-'] behind).bind _ = _
    rw [exactly?_eq_none ((line.behind_number? read).notInFront rfl (by decide))]
    rfl
  have noTime : time? s = none := by
    refine Option.bind_eq_none_iff.mpr fun ⟨hour, behind⟩ read => ?_
    show (exactly? [':'] behind).bind _ = _
    rw [exactly?_eq_none ((line.behind_part? read).notInFront rfl (by decide))]
    rfl
  rw [moment?, noDate, noTime]
  rfl

/-- A decimal integer is not taken for one of another base. -/
theorem integer?_eq (line : DigitLine s) : integer? s = decimal? s := by
  unfold integer?
  split
  · exact absurd rfl ((line.tail (by decide)).notInFront rfl (by decide) _)
  · exact absurd rfl ((line.tail (by decide)).notInFront rfl (by decide) _)
  · exact absurd rfl ((line.tail (by decide)).notInFront rfl (by decide) _)
  · rfl

theorem namedFloat?_eq_none (line : DigitLine s) : namedFloat? s = none := by
  have noI : NotInFront 'i' s := line.notInFront rfl (by decide)
  have noN : NotInFront 'n' s := line.notInFront rfl (by decide)
  simp only [namedFloat?, line.sign_eq, exactly?_eq_none noI, exactly?_eq_none noN]

end DigitLine

/-- Without a fraction and an exponent, digits are no float. -/
theorem numericFloat?_digits (n : Nat) (rest : List Char) :
    numericFloat? (Nat.toDigits 10 n ++ '\n' :: rest) = none := by
  simp [numericFloat?, (digitLine_digits n rest).sign_eq, wholeDigits?_digits, fraction?, exponent?]

theorem inRange?_natural {n : Nat} (small : n < 9223372036854775808) :
    inRange? n = some (.integer n) := by
  rw [inRange?, if_pos (by omega)]

theorem decimal?_digits {n : Nat} (small : n < 9223372036854775808) (rest : List Char) :
    decimal? (Nat.toDigits 10 n ++ '\n' :: rest) = some (.integer n, '\n' :: rest) := by
  rw [decimal?, (digitLine_digits n rest).sign_eq]
  dsimp only
  rw [wholeDigits?_digits, Option.bind_eq_bind, Option.bind_some]
  dsimp only
  rw [if_neg (by decide), Text.ofDecimal_digits, inRange?_natural small, Option.bind_eq_bind,
    Option.bind_some, Option.pure_def]

/-- A number that needs at most 63 bits is read back as an integer. -/
theorem scalarValue?_natural {n : Nat} (small : n < 9223372036854775808) (rest : List Char) :
    scalarValue? ((toString n).toList ++ '\n' :: rest) = some (.integer n, '\n' :: rest) := by
  have line := digitLine_digits n rest
  have noFloat := numericFloat?_digits n rest
  have decimal := decimal?_digits small rest
  rw [Text.toList_toString]
  generalize Nat.toDigits 10 n ++ '\n' :: rest = s at line noFloat decimal
  have other {c : Char} (letter : c.isDigit = false) (feed : c ≠ '\n') : NotInFront c s :=
    line.notInFront letter feed
  unfold scalarValue?
  split
  · exact absurd rfl (other rfl (by decide) _)
  · exact absurd rfl (other rfl (by decide) _)
  · exact absurd rfl (other rfl (by decide) _)
  · exact absurd rfl (other rfl (by decide) _)
  · rw [line.moment?_eq_none, noFloat, line.namedFloat?_eq_none, line.integer?_eq, decimal]
    rfl

/-! ## Values -/

theorem isBlank_eq_false {c : Char} (blank : c ≠ ' ') (tab : c ≠ '\t') : isBlank c = false := by
  rw [isBlank, beq_eq_false_iff_ne.mpr blank, beq_eq_false_iff_ne.mpr tab, Bool.or_false]

theorem skipBlanks_of_not_blank {c : Char} (solid : isBlank c = false) (s : List Char) :
    skipBlanks (c :: s) = c :: s :=
  List.dropWhile_cons_of_neg (by simp [solid])

theorem value?_scalar {c : Char} (front : c ≠ '[' ∧ c ≠ '\x7b') (fuel room : Nat) (s : List Char) :
    value? (fuel + 1) (room + 1) (c :: s) = scalarValue? (c :: s) := by
  rw [value?.eq_7 _ _ _ (fun _ same => front.1 (List.cons.inj same).1)
    (fun _ same => front.2 (List.cons.inj same).1)]

/-- A text in front of the end of its line is read as a value. -/
structure IsValue (text : List Char) (d : Datum) : Prop where
  solid (rest : List Char) : skipBlanks (text ++ '\n' :: rest) = text ++ '\n' :: rest
  read (fuel room : Nat) (rest : List Char) :
    value? (fuel + 1) (room + 1) (text ++ '\n' :: rest) = some (d, '\n' :: rest)

theorem isValue_of_scalarValue? {c : Char} {text : List Char} {d : Datum}
    (front : isBlank c = false ∧ c ≠ '[' ∧ c ≠ '\x7b')
    (read : ∀ rest, scalarValue? (c :: (text ++ '\n' :: rest)) = some (d, '\n' :: rest)) :
    IsValue (c :: text) d where
  solid rest := skipBlanks_of_not_blank front.1 _
  read fuel room rest := by rw [List.cons_append, value?_scalar front.2, read]

theorem isValue_natural {n : Nat} (small : n < 9223372036854775808) :
    IsValue (toString n).toList (.integer n) := by
  have read := scalarValue?_natural small
  obtain ⟨c, others, digits, digit⟩ := Text.exists_first_digit n
  have other {d : Char} (special : d.isDigit = false) : c ≠ d := Text.ne_of_isDigit digit special
  rw [Text.toList_toString, digits] at read ⊢
  exact isValue_of_scalarValue?
    ⟨isBlank_eq_false (other rfl) (other rfl), other rfl, other rfl⟩ read

theorem exists_quote {s : List Char} {r : List Char × List Char} (read : string? s = some r) :
    ∃ c more, s = c :: more ∧ (c = '"' ∨ c = '\'') := by
  unfold string? at read
  split at read
  · exact ⟨_, _, rfl, .inl rfl⟩
  · exact ⟨_, _, rfl, .inl rfl⟩
  · exact ⟨_, _, rfl, .inr rfl⟩
  · exact ⟨_, _, rfl, .inr rfl⟩
  · cases read

/-- What is read as a string begins with a quote, so it is not taken for anything else. -/
theorem isValue_quoted (text : String) : IsValue (quoted text).toList (.text text) := by
  have string (rest : List Char) :
      string? ((quoted text).toList ++ '\n' :: rest) = some (text.toList, '\n' :: rest) :=
    string?_quoted text ⟨notInFront_cons (by decide) _, notInFront_cons (by decide) _⟩
  constructor
  · intro rest
    obtain ⟨c, more, chars, quote⟩ := exists_quote (string rest)
    rw [chars]
    rcases quote with rfl | rfl <;> rfl
  · intro fuel room rest
    have read := string rest
    obtain ⟨c, more, chars, quote⟩ := exists_quote read
    rw [chars] at read ⊢
    have scalar : scalarValue? (c :: more) =
        (string? (c :: more)).map fun r => (Datum.text (String.ofList r.1), r.2) := by
      rcases quote with rfl | rfl <;> rfl
    have front : c ≠ '[' ∧ c ≠ '\x7b' := by
      rcases quote with rfl | rfl <;> decide
    rw [value?_scalar front, scalar, read, Option.map_some, String.ofList_toList]

theorem isValue_true : IsValue ['t', 'r', 'u', 'e'] (.bool true) :=
  isValue_of_scalarValue? ⟨rfl, by decide, by decide⟩ fun _ => rfl

theorem isValue_false : IsValue ['f', 'a', 'l', 's', 'e'] (.bool false) :=
  isValue_of_scalarValue? ⟨rfl, by decide, by decide⟩ fun _ => rfl

/-- What is written for a value is read as that value. -/
theorem isValue_scalarText? {s : Scalar} {text : String}
    (written : scalarText? s = .ok (some text)) : IsValue text.toList s.datum := by
  cases s with
  | null => cases written
  | bool b =>
      cases written
      cases b with
      | true => exact isValue_true
      | false => exact isValue_false
  | natural n =>
      rw [scalarText?] at written
      split at written
      · cases written
        exact isValue_natural ‹_›
      · cases written
  | text s =>
      cases written
      exact isValue_quoted s

/-! ## Keys -/

/-- A key that needs no quotes. -/
def IsBare (key : String) : Prop := key ≠ "" ∧ key.toList.all isBareKey = true

instance (key : String) : Decidable (IsBare key) := inferInstanceAs (Decidable (_ ∧ _))

theorem ne_of_isBareKey {c d : Char} (bare : isBareKey c = true) (other : isBareKey d = false) :
    c ≠ d := by
  rintro rfl
  exact absurd (bare.symm.trans other) (by decide)

theorem isBlank_of_isBareKey {c : Char} (bare : isBareKey c = true) : isBlank c = false :=
  isBlank_eq_false (ne_of_isBareKey bare rfl) (ne_of_isBareKey bare rfl)

/-- The characters of a bare key: a first one, and others. -/
theorem IsBare.exists_cons {key : String} (bare : IsBare key) :
    ∃ c others, key.toList = c :: others ∧ isBareKey c = true := by
  obtain ⟨nonempty, all⟩ := bare
  rw [List.all_eq_true] at all
  cases chars : key.toList with
  | nil => exact absurd (String.toList_eq_nil_iff.mp chars) nonempty
  | cons c others => exact ⟨c, others, rfl, all c (chars ▸ List.mem_cons_self)⟩

/-- The characters of a bare key are taken up to one that cannot go on with it. -/
theorem keyPart?_bare {key : String} (bare : IsBare key) {c : Char} (ends : isBareKey c = false)
    (rest : List Char) : keyPart? (key.toList ++ c :: rest) = some (key, c :: rest) := by
  obtain ⟨d, others, chars, first⟩ := bare.exists_cons
  have all := List.all_eq_true.mp bare.2
  have noQuotes : lineString? (key.toList ++ c :: rest) = none := by
    rw [chars, List.cons_append]
    unfold lineString?
    split
    · rename_i same
      exact absurd (List.cons.inj same).1 (ne_of_isBareKey first rfl)
    · rename_i same
      exact absurd (List.cons.inj same).1 (ne_of_isBareKey first rfl)
    · rfl
  have taken : (key.toList ++ c :: rest).takeWhile isBareKey = key.toList := by
    rw [List.takeWhile_append_of_pos all, List.takeWhile_cons_of_neg (by simp [ends]),
      List.append_nil]
  have left : (key.toList ++ c :: rest).dropWhile isBareKey = c :: rest := by
    rw [List.dropWhile_append_of_pos all, List.dropWhile_cons_of_neg (by simp [ends])]
  have nonempty : key.toList.isEmpty = false := by
    rw [chars]
    rfl
  rw [keyPart?, noQuotes, taken, left]
  dsimp only
  rw [nonempty, String.ofList_toList]
  rfl

/-- A bare key is the only part of its path, if no point follows. -/
theorem key?_bare {key : String} (bare : IsBare key) {c : Char} (ends : isBareKey c = false)
    (rest : List Char) (noPoint : NotInFront '.' (skipBlanks (c :: rest))) :
    key? (key.toList ++ c :: rest) = some ([key], skipBlanks (c :: rest)) := by
  have solid : skipBlanks (key.toList ++ c :: rest) = key.toList ++ c :: rest := by
    obtain ⟨d, others, chars, first⟩ := bare.exists_cons
    rw [chars]
    exact skipBlanks_of_not_blank (isBlank_of_isBareKey first) _
  rw [key?, maxDepth, keyParts?, solid, keyPart?_bare bare ends, Option.bind_eq_bind,
    Option.bind_some]
  dsimp only
  split
  · rename_i same
    exact absurd same (noPoint _)
  · rfl

/-! ## Lines -/

/-- A text holds lines, whatever follows it.  Each line takes a step, and there are no more of
them than the text has characters. -/
def AreLines (text : List Char) (lines : List Line) : Prop :=
  ∃ steps ≤ text.length, ∀ fuel rest,
    lines? (fuel + steps) (text ++ rest) = (lines? fuel rest).map (lines ++ ·)

namespace AreLines

theorem nil : AreLines [] [] := by
  refine ⟨0, Nat.le_refl _, fun fuel rest => ?_⟩
  show lines? fuel rest = (lines? fuel rest).map id
  rw [Option.map_id]
  rfl

theorem append {s t : List Char} {ls ms : List Line} (first : AreLines s ls)
    (second : AreLines t ms) : AreLines (s ++ t) (ls ++ ms) := by
  obtain ⟨m, short, readFirst⟩ := first
  obtain ⟨n, short', readSecond⟩ := second
  refine ⟨n + m, by rw [List.length_append]; omega, fun fuel rest => ?_⟩
  rw [← Nat.add_assoc, List.append_assoc, readFirst, readSecond, Option.map_map]
  congr 1
  funext more
  exact (List.append_assoc ls ms more).symm

/-- The lines are read from the whole text. -/
theorem lines?_eq {text : List Char} {lines : List Line} (read : AreLines text lines) :
    lines? (text.length + 1) text = some lines := by
  obtain ⟨steps, short, read⟩ := read
  obtain ⟨fuel, enough⟩ : ∃ fuel, text.length + 1 = (fuel + 1) + steps :=
    ⟨text.length - steps, by omega⟩
  have whole := read (fuel + 1) []
  rw [List.append_nil] at whole
  rw [enough, whole]
  show some (lines ++ []) = _
  rw [List.append_nil]

end AreLines

theorem areLines_blank : AreLines ['\n'] [] := by
  refine ⟨1, Nat.le_refl _, fun fuel rest => ?_⟩
  show lines? fuel rest = (lines? fuel rest).map id
  rw [Option.map_id]
  rfl

/-- What neither is blank nor begins a comment is a line, if it is read as one. -/
theorem areLines_line {c : Char} {text : List Char} {l : Line}
    (solid : isBlank c = false ∧ c ≠ '#' ∧ c ≠ '\n' ∧ c ≠ '\r')
    (read : ∀ rest, line? (c :: (text ++ rest)) = some (l, rest)) : AreLines (c :: text) [l] := by
  obtain ⟨blank, comment, feed, carriage⟩ := solid
  refine ⟨1, Nat.succ_le_succ (Nat.zero_le _), fun fuel rest => ?_⟩
  have front : skipBlanks (c :: (text ++ rest)) = c :: (text ++ rest) :=
    skipBlanks_of_not_blank blank _
  have noComment : skipComment (c :: (text ++ rest)) = c :: (text ++ rest) := by
    rw [skipComment.eq_2 _ fun _ same => comment (List.cons.inj same).1]
  have more : lineEnd? (c :: (text ++ rest)) = none := by
    rw [lineEnd?, front, noComment]
    show newline? _ = none
    rw [newline?.eq_3 _ (fun _ same => feed (List.cons.inj same).1)
      (fun _ same => carriage (List.cons.inj same).1)]
  rw [List.cons_append, lines?, front]
  dsimp only
  rw [more]
  dsimp only
  rw [read, Option.bind_eq_bind, Option.bind_some]
  show (lines? fuel rest).bind (fun more => some (l :: more)) = _
  cases lines? fuel rest <;> rfl

/-- A header is read back. -/
theorem areLines_header {name : String} (bare : IsBare name) :
    AreLines ("[" ++ name ++ "]\n").toList [.table [name]] := by
  have text : ("[" ++ name ++ "]\n").toList = '[' :: (name.toList ++ [']', '\n']) := by
    simp
  rw [text]
  refine areLines_line ⟨rfl, by decide, by decide, by decide⟩ fun rest => ?_
  have key := key?_bare bare (c := ']') rfl ('\n' :: rest) (notInFront_cons (by decide) _)
  have inner : name.toList ++ [']', '\n'] ++ rest = name.toList ++ ']' :: '\n' :: rest := by
    simp
  have single : line? ('[' :: (name.toList ++ ']' :: '\n' :: rest)) =
      tableHeader? (name.toList ++ ']' :: '\n' :: rest) := by
    obtain ⟨c, others, chars, first⟩ := bare.exists_cons
    rw [chars, List.cons_append]
    exact line?.eq_2 _ fun _ same => ne_of_isBareKey first rfl (List.cons.inj same).1
  rw [inner, single, tableHeader?, key]
  rfl

/-- A value under a key is read back. -/
theorem areLines_pair {key : String} (bare : IsBare key) {text : String} {d : Datum}
    (value : IsValue text.toList d) :
    AreLines (key ++ " = " ++ text ++ "\n").toList [.pair [key] d] := by
  obtain ⟨c, others, chars, first⟩ := bare.exists_cons
  have line : (key ++ " = " ++ text ++ "\n").toList =
      c :: (others ++ ' ' :: '=' :: ' ' :: (text.toList ++ ['\n'])) := by
    simp [chars]
  have other {d : Char} (special : isBareKey d = false) : c ≠ d := ne_of_isBareKey first special
  rw [line]
  refine areLines_line ⟨isBlank_of_isBareKey first, other rfl, other rfl, other rfl⟩
    fun rest => ?_
  have inner : c :: (others ++ ' ' :: '=' :: ' ' :: (text.toList ++ ['\n']) ++ rest) =
      key.toList ++ ' ' :: '=' :: ' ' :: (text.toList ++ '\n' :: rest) := by
    simp [chars]
  have read := key?_bare bare (c := ' ') rfl ('=' :: ' ' :: (text.toList ++ '\n' :: rest))
    (notInFront_cons (by decide) _)
  have blank : skipBlanks (' ' :: (text.toList ++ '\n' :: rest)) =
      skipBlanks (text.toList ++ '\n' :: rest) := List.dropWhile_cons_of_pos rfl
  have pair : line? (key.toList ++ ' ' :: '=' :: ' ' :: (text.toList ++ '\n' :: rest)) =
      pair? (key.toList ++ ' ' :: '=' :: ' ' :: (text.toList ++ '\n' :: rest)) := by
    rw [chars, List.cons_append]
    exact line?.eq_3 _ (fun _ same => other rfl (List.cons.inj same).1)
      (fun _ same => other rfl (List.cons.inj same).1)
  rw [inner, pair, pair?, read]
  show (value? _ _ (skipBlanks (' ' :: (text.toList ++ '\n' :: rest)))).bind _ = _
  rw [blank, value.solid]
  show (value? _ (78 + 1) _).bind _ = _
  rw [value.read]
  rfl

end Toml

end PacketWatch
