/-
# `PacketWatch.Proofs.Json.ReadBack` — JSON text is read back

What the writer makes of sections is a record of records over several lines.  `IsRead text d` says
that a text is read as a value by as many steps as it has characters, whatever closes it; it
holds

* of a string in quotes, since what is written for each of its characters is one piece that
  stands for that character again (`exists_piece`);
* of the three words and of the digits of a number;
* of a record over several lines, if it holds of the text of each member
  (`isRead_prettyRecord`).  The members are read one after the other, so this is an induction on
  them, and what stands behind a member says whether another one follows.

The text of sections is a record of such records, so it is read by using the last point twice.
-/
import PacketWatch.Json.Reader
import PacketWatch.Json.Writer
import PacketWatch.Proofs.Datum
import PacketWatch.Proofs.Text.Written

namespace PacketWatch

namespace Json

/-! ## Blanks -/

theorem skipBlanks_of_not_blank {c : Char} (solid : isBlank c = false) (s : List Char) :
    skipBlanks (c :: s) = c :: s :=
  List.dropWhile_cons_of_neg (by simp [solid])

theorem skipBlanks_append {blanks : List Char} (blank : ∀ c ∈ blanks, isBlank c = true)
    (s : List Char) : skipBlanks (blanks ++ s) = skipBlanks s :=
  List.dropWhile_append_of_pos blank

/-- A line break, and the blanks at the start of the next line. -/
def lineStart (level : Nat) : List Char := '\n' :: List.replicate (2 * level) ' '

theorem skipBlanks_lineStart (level : Nat) {c : Char} (solid : isBlank c = false)
    (s : List Char) : skipBlanks (lineStart level ++ c :: s) = c :: s := by
  rw [skipBlanks_append, skipBlanks_of_not_blank solid]
  intro b here
  rcases List.mem_cons.mp here with rfl | here
  · rfl
  · rw [(List.mem_replicate.mp here).2]
    rfl

/-! ## Texts -/

/-- A control character is named by four digits. -/
theorem exists_digits {c : Char} (control : c < ' ') :
    ∃ x y z w, (Text.hexPadded 4 c.toNat).toList = [x, y, z, w] ∧
      Text.ofDigits? 16 [x, y, z, w] = some c.toNat := by
  have all : ∀ n < 32, (Text.hexPadded 4 n).toList.length = 4 ∧
      Text.ofDigits? 16 (Text.hexPadded 4 n).toList = some n := by decide
  obtain ⟨length, read⟩ := all c.toNat control
  obtain ⟨x, y, z, w, digits⟩ : ∃ x y z w, (Text.hexPadded 4 c.toNat).toList = [x, y, z, w] := by
    match (Text.hexPadded 4 c.toNat).toList, length with
    | [x, y, z, w], _ => exact ⟨x, y, z, w, rfl⟩
  exact ⟨x, y, z, w, digits, digits ▸ read⟩

/-- A unit below the surrogates is a character, whatever stands behind it. -/
theorem characters?_unit {u : Nat} (low : u < 0xD800) (more : List Piece) :
    characters? (.unit u :: more) = (characters? more).map (Char.ofNat u :: ·) := by
  have high : isHighHalf u = false := by
    rw [isHighHalf, decide_eq_false (Nat.not_le.mpr low), Bool.false_and]
  have notLow : isLowHalf u = false := by
    rw [isLowHalf, decide_eq_false (by omega), Bool.false_and]
  cases more with
  | nil => simp [characters?, high, notLow]
  | cons p more =>
      cases p with
      | char c => simp [characters?, high, notLow]
      | unit v => simp [characters?, high, notLow]

/-- What is written for a character is one piece, which stands for the character. -/
def IsPieceOf (p : Piece) (written : List Char) (c : Char) : Prop :=
  (∀ rest, pieces? (written ++ rest) = (pieces? rest).map fun r => (p :: r.1, r.2)) ∧
    ∀ more, characters? (p :: more) = (characters? more).map (c :: ·)

theorem isPieceOf_letter {c e : Char} (other : e ≠ 'u') (named : escape? e = some c) :
    IsPieceOf (.char c) ['\\', e] c := by
  refine ⟨fun rest => ?_, fun _ => rfl⟩
  show pieces? ('\\' :: e :: rest) = _
  rw [pieces?.eq_4 _ _ fun _ _ _ _ _ same => absurd same other, named]
  cases pieces? rest <;> rfl

theorem isPieceOf_digits {c : Char} (control : c < ' ') :
    IsPieceOf (.unit c.toNat) ('\\' :: 'u' :: (Text.hexPadded 4 c.toNat).toList) c := by
  obtain ⟨x, y, z, w, digits, read⟩ := exists_digits control
  constructor
  · intro rest
    rw [digits]
    show pieces? ('\\' :: 'u' :: x :: y :: z :: w :: rest) = _
    rw [pieces?, read]
    cases pieces? rest <;> rfl
  · intro more
    have low : c.toNat < 0xD800 := Nat.lt_trans (show c.toNat < 32 from control) (by decide)
    rw [characters?_unit low, Char.ofNat_toNat]

theorem isPieceOf_self {c : Char} (quote : c ≠ '"') (backslash : c ≠ '\\') (shows : ¬ c < ' ') :
    IsPieceOf (.char c) [c] c := by
  refine ⟨fun rest => ?_, fun _ => rfl⟩
  show pieces? (c :: rest) = _
  rw [pieces?.eq_5 _ _ quote (fun _ _ _ _ _ same => absurd same backslash)
    (fun _ _ same => absurd same backslash), if_neg (not_or.mpr ⟨shows, backslash⟩)]
  cases pieces? rest <;> rfl

theorem exists_piece (c : Char) : ∃ p, IsPieceOf p (escaped c).toList c := by
  unfold escaped
  -- the seven escapes of one letter
  iterate 7
    split
    · subst c
      exact ⟨_, isPieceOf_letter (by decide) rfl⟩
  split
  · rw [String.toList_append]
    exact ⟨_, isPieceOf_digits ‹_›⟩
  · rw [String.toList_singleton]
    exact ⟨_, isPieceOf_self ‹_› ‹_› ‹_›⟩

/-- The characters of a text as they are written. -/
def inside (s : List Char) : List Char := s.flatMap fun c => (escaped c).toList

theorem toList_quoted (s : String) : (quoted s).toList = '"' :: (inside s.toList ++ ['"']) := by
  rw [quoted, String.toList_append, String.toList_append, String.toList_join, List.flatMap_map]
  rfl

theorem exists_pieces (s rest : List Char) :
    ∃ pieces, pieces? (inside s ++ '"' :: rest) = some (pieces, rest) ∧
      characters? pieces = some s := by
  induction s with
  | nil => exact ⟨[], rfl, rfl⟩
  | cons c s ih =>
      obtain ⟨pieces, read, characters⟩ := ih
      obtain ⟨p, first, stands⟩ := exists_piece c
      refine ⟨p :: pieces, ?_, ?_⟩
      · rw [inside, List.flatMap_cons, List.append_assoc, first]
        show Option.map _ (pieces? (inside s ++ '"' :: rest)) = _
        rw [read]
        rfl
      · rw [stands, characters]
        rfl

/-- A text in quotes is read back. -/
theorem text?_inside (s : String) (rest : List Char) :
    text? (inside s.toList ++ '"' :: rest) = some (some s, rest) := by
  obtain ⟨pieces, read, characters⟩ := exists_pieces s.toList rest
  rw [text?, read]
  show some (Option.map _ (characters? pieces), rest) = _
  rw [characters, Option.map_some, String.ofList_toList]

/-! ## Values -/

/-- What may stand behind a number. -/
def Closes (rest : List Char) : Prop :=
  ∀ c ∈ rest.head?, c.isDigit = false ∧ c ≠ '.' ∧ c ≠ 'e' ∧ c ≠ 'E'

theorem closes_cons {c : Char} (ends : c.isDigit = false ∧ c ≠ '.' ∧ c ≠ 'e' ∧ c ≠ 'E')
    (rest : List Char) : Closes (c :: rest) := by
  rintro _ ⟨⟩
  exact ends

/-- A text is read as a value, in as many steps as it has characters. -/
def IsRead (text : List Char) (d : Datum) : Prop :=
  ∀ fuel rest, text.length ≤ fuel → Closes rest → value? fuel (text ++ rest) = some (d, rest)

theorem value?_blank {c : Char} (blank : isBlank c = true) (fuel : Nat) (s : List Char) :
    value? fuel (c :: s) = value? fuel s := by
  have same : skipBlanks (c :: s) = skipBlanks s := List.dropWhile_cons_of_pos blank
  cases fuel with
  | zero => rfl
  | succ fuel => rw [value?, value?, same]

/-- What begins as no list and no record is a value without inner values. -/
theorem isRead_of_scalar {c : Char} {text : List Char} {d : Datum}
    (front : isBlank c = false ∧ c ≠ '[' ∧ c ≠ '{')
    (read : ∀ rest, Closes rest → scalar? (c :: (text ++ rest)) = some (d, rest)) :
    IsRead (c :: text) d := by
  intro fuel rest enough closes
  obtain ⟨solid, noList, noRecord⟩ := front
  cases fuel with
  | zero => cases enough
  | succ fuel =>
      rw [List.cons_append, value?, skipBlanks_of_not_blank solid, ← read rest closes]
      split
      · rename_i same
        exact absurd (List.cons.inj same).1 noList
      · rename_i same
        exact absurd (List.cons.inj same).1 noRecord
      · rfl

theorem isRead_quoted (s : String) : IsRead (quoted s).toList (.text s) := by
  rw [toList_quoted]
  refine isRead_of_scalar ⟨rfl, by decide, by decide⟩ fun rest _ => ?_
  rw [List.append_assoc, List.singleton_append, scalar?, text?_inside]
  rfl

theorem isRead_null : IsRead ['n', 'u', 'l', 'l'] .null :=
  isRead_of_scalar ⟨rfl, by decide, by decide⟩ fun _ _ => rfl

theorem isRead_true : IsRead ['t', 'r', 'u', 'e'] (.bool true) :=
  isRead_of_scalar ⟨rfl, by decide, by decide⟩ fun _ _ => rfl

theorem isRead_false : IsRead ['f', 'a', 'l', 's', 'e'] (.bool false) :=
  isRead_of_scalar ⟨rfl, by decide, by decide⟩ fun _ _ => rfl

/-- Digits are neither a fixed word nor what a text begins with. -/
theorem scalar?_digit {c : Char} (digit : c.isDigit = true) (s : List Char) :
    scalar? (c :: s) = unsigned? false (c :: s) := by
  have notWord {d : Char} {word : List Char} (letter : d.isDigit = false) :
      word? (d :: word) (c :: s) = none := by
    rw [word?, List.isPrefixOf, beq_eq_false_iff_ne.mpr (Text.ne_of_isDigit digit letter).symm]
    rfl
  unfold scalar?
  split
  · rename_i same
    exact absurd (List.cons.inj same).1 (Text.ne_of_isDigit digit rfl)
  · rename_i same
    exact absurd (List.cons.inj same).1 (Text.ne_of_isDigit digit rfl)
  · rw [notWord rfl, notWord rfl, notWord rfl]

theorem whole?_digits (n : Nat) {rest : List Char} (closes : Closes rest) :
    whole? (Nat.toDigits 10 n ++ rest) = some (n, rest) := by
  obtain ⟨taken, left⟩ := Text.takeWhile_digits n fun c here => (closes c here).1
  have hasDigits : (Nat.toDigits 10 n).isEmpty = false := by
    rw [List.isEmpty_eq_false_iff]
    exact Nat.toDigits_ne_nil
  unfold whole?
  split
  · rename_i front
    obtain ⟨rfl, -, rfl⟩ := Text.digits_append_eq_zero_cons front
    rfl
  · rw [digits?, taken, left, hasDigits]
    show some (Text.ofDecimal _, rest) = _
    rw [Text.ofDecimal_digits]

/-- Nothing that closes a number goes on with it. -/
theorem unsigned?_digits (n : Nat) {rest : List Char} (closes : Closes rest) :
    unsigned? false (Nat.toDigits 10 n ++ rest) = some (.integer n, rest) := by
  have noFraction : fraction? rest = some (false, rest) := by
    unfold fraction?
    split
    · exact absurd rfl (closes _ rfl).2.1
    · rfl
  have noExponent : exponent? rest = some (false, rest) := by
    unfold exponent?
    split
    · exact absurd rfl (closes _ rfl).2.2.1
    · exact absurd rfl (closes _ rfl).2.2.2
    · rfl
  rw [unsigned?, whole?_digits n closes]
  show (fraction? rest).bind _ = _
  rw [noFraction]
  show (exponent? rest).bind _ = _
  rw [noExponent]
  rfl

theorem isRead_natural (n : Nat) : IsRead (toString n).toList (.integer n) := by
  obtain ⟨c, others, digits, digit⟩ := Text.exists_first_digit n
  have other {d : Char} (letter : d.isDigit = false) : c ≠ d := Text.ne_of_isDigit digit letter
  have solid : isBlank c = false := by
    simp only [isBlank, Bool.or_eq_false_iff, beq_eq_false_iff_ne]
    exact ⟨⟨⟨other rfl, other rfl⟩, other rfl⟩, other rfl⟩
  rw [Text.toList_toString, digits]
  refine isRead_of_scalar ⟨solid, other rfl, other rfl⟩ fun rest closes => ?_
  rw [scalar?_digit digit, ← List.cons_append, ← digits, unsigned?_digits n closes]

theorem isRead_scalar (s : Scalar) : IsRead (scalarText s).toList s.datum := by
  cases s with
  | null => exact isRead_null
  | bool b =>
      cases b with
      | true => exact isRead_true
      | false => exact isRead_false
  | natural n => exact isRead_natural n
  | text s => exact isRead_quoted s

/-! ## Records -/

/-- A member of a record: its name, the text of its value, and the value. -/
structure Member where
  name : String
  text : String
  value : Datum

/-- A member on its line. -/
def Member.line (level : Nat) (m : Member) : List Char :=
  lineStart (level + 1) ++ '"' :: (inside m.name.toList ++ '"' :: ':' :: ' ' :: m.text.toList)

/-- What stands behind a member: the other members, each behind a comma, and the end. -/
def behind (level : Nat) (ms : List Member) : List Char :=
  (ms.flatMap fun m => ',' :: m.line level) ++ (lineStart level ++ ['}'])

theorem prettyRecord_nil (level : Nat) : (prettyRecord level []).toList = ['{', '}'] := by
  rw [prettyRecord, if_pos List.isEmpty_nil]
  rfl

theorem prettyRecord_cons (level : Nat) (m : Member) (ms : List Member) :
    (prettyRecord level ((m :: ms).map fun m => (m.name, m.text))).toList =
      '{' :: (m.line level ++ behind level ms) := by
  have line (m : Member) :
      '\n' :: (indent (level + 1) ++ quoted m.name ++ ": " ++ m.text).toList = m.line level := by
    simp [indent, toList_quoted, Member.line, lineStart]
  rw [prettyRecord, if_neg (by simp), List.map_map, List.map_cons, String.toList_append,
    String.toList_append, String.toList_append, String.toList_append,
    Text.toList_intercalate_cons, List.flatMap_map]
  simp only [behind, ← line]
  simp [indent, lineStart]

theorem closes_behind (level : Nat) (ms : List Member) (rest : List Char) :
    Closes (behind level ms ++ rest) := by
  cases ms with
  | nil => exact closes_cons (by decide) _
  | cons m ms => exact closes_cons (by decide) _

/-- A member is read, and what stands behind it says whether there are more. -/
theorem members?_line (level : Nat) {m : Member} (read : IsRead m.text.toList m.value) (fuel : Nat)
    (enough : m.text.toList.length ≤ fuel) {tail : List Char} (closes : Closes tail) :
    (∀ rest, skipBlanks tail = ',' :: rest →
      members? (fuel + 1) (m.line level ++ tail) =
        (members? fuel rest).map fun r => ((some m.name, m.value) :: r.1, r.2)) ∧
    ∀ rest, skipBlanks tail = '}' :: rest →
      members? (fuel + 1) (m.line level ++ tail) = some ([(some m.name, m.value)], rest) := by
  have line : m.line level ++ tail = lineStart (level + 1) ++
      '"' :: (inside m.name.toList ++ '"' :: (':' :: ' ' :: (m.text.toList ++ tail))) := by
    simp [Member.line]
  have value : value? fuel (' ' :: (m.text.toList ++ tail)) = some (m.value, tail) :=
    (value?_blank rfl fuel _).trans (read fuel tail enough closes)
  rw [line, members?, skipBlanks_lineStart _ (by decide)]
  -- the name, the colon and the value are read, and nothing else has been looked at
  show (∀ rest, _ →
      (text? (inside m.name.toList ++ '"' :: (':' :: ' ' :: (m.text.toList ++ tail)))).bind _ = _) ∧
    ∀ rest, _ →
      (text? (inside m.name.toList ++ '"' :: (':' :: ' ' :: (m.text.toList ++ tail)))).bind _ = _
  rw [text?_inside, Option.bind_some]
  show (∀ rest, _ → (value? fuel (' ' :: (m.text.toList ++ tail))).bind _ = _) ∧
    ∀ rest, _ → (value? fuel (' ' :: (m.text.toList ++ tail))).bind _ = _
  rw [value, Option.bind_some]
  constructor
  · intro rest next
    simp only [next]
    cases members? fuel rest <;> rfl
  · intro rest next
    simp only [next]
    rfl

theorem behind_nil (level : Nat) : behind level [] = lineStart level ++ ['}'] := rfl

theorem behind_cons (level : Nat) (m : Member) (ms : List Member) :
    behind level (m :: ms) = ',' :: (m.line level ++ behind level ms) := by
  simp [behind]

theorem length_line (level : Nat) (m : Member) (more : List Char) :
    m.text.toList.length + more.length + 1 < (m.line level ++ more).length := by
  simp only [Member.line, lineStart, List.length_append, List.length_cons]
  omega

/-- Members are read one after the other, up to the end of the record. -/
theorem members?_lines (level : Nat) (m : Member) (ms : List Member)
    (read : ∀ m' ∈ m :: ms, IsRead m'.text.toList m'.value) (fuel : Nat) (rest : List Char)
    (enough : (m.line level ++ behind level ms).length ≤ fuel) :
    members? fuel (m.line level ++ (behind level ms ++ rest)) =
      some ((m :: ms).map fun m => (some m.name, m.value), rest) := by
  induction ms generalizing m fuel with
  | nil =>
      have size := length_line level m (behind level [])
      obtain ⟨fuel, rfl⟩ : ∃ n, fuel = n + 1 := ⟨fuel - 1, by omega⟩
      have line := members?_line level (read m List.mem_cons_self) fuel (by omega)
        (closes_behind level [] rest)
      refine line.2 rest ?_
      rw [behind_nil, List.append_assoc]
      exact skipBlanks_lineStart level (by decide) rest
  | cons m' ms ih =>
      obtain ⟨first, others⟩ := List.forall_mem_cons.mp read
      have size := length_line level m (behind level (m' :: ms))
      obtain ⟨fuel, rfl⟩ : ∃ n, fuel = n + 1 := ⟨fuel - 1, by omega⟩
      have shorter : (m'.line level ++ behind level ms).length ≤ fuel := by
        rw [behind_cons, List.length_cons] at size
        rw [behind_cons] at enough
        omega
      have line := members?_line level first fuel (by omega)
        (closes_behind level (m' :: ms) rest)
      rw [line.1 (m'.line level ++ (behind level ms ++ rest)), ih m' others fuel shorter]
      · rfl
      · rw [behind_cons, List.cons_append, List.append_assoc]
        exact skipBlanks_of_not_blank (by decide) _

/-- A record over several lines is read. -/
theorem isRead_prettyRecord (level : Nat) (ms : List Member)
    (read : ∀ m ∈ ms, IsRead m.text.toList m.value) :
    IsRead (prettyRecord level (ms.map fun m => (m.name, m.text))).toList
      (.record (ms.map fun m => (some m.name, m.value))) := by
  intro fuel rest enough _
  cases ms with
  | nil =>
      rw [List.map_nil, prettyRecord_nil] at enough ⊢
      rw [List.length_cons] at enough
      obtain ⟨fuel, rfl⟩ : ∃ n, fuel = n + 1 := ⟨fuel - 1, by omega⟩
      rfl
  | cons m ms =>
      rw [prettyRecord_cons, List.length_cons] at enough
      obtain ⟨fuel, rfl⟩ : ∃ n, fuel = n + 1 := ⟨fuel - 1, by omega⟩
      have lines := members?_lines level m ms read fuel rest (by omega)
      have front : skipBlanks (m.line level ++ (behind level ms ++ rest)) =
          '"' :: (inside m.name.toList ++ '"' :: ':' :: ' ' ::
            (m.text.toList ++ (behind level ms ++ rest))) := by
        rw [Member.line, List.append_assoc, List.cons_append,
          skipBlanks_lineStart _ (by decide)]
        simp
      rw [prettyRecord_cons, List.cons_append, List.append_assoc, value?,
        skipBlanks_of_not_blank (by decide)]
      split
      · rename_i same
        exact absurd (List.cons.inj same).1 (by decide)
      · rename_i same
        obtain ⟨-, rfl⟩ := List.cons.inj same
        rw [front]
        show (members? fuel _).bind _ = _
        rw [lines]
        rfl
      · rename_i other
        exact absurd rfl (other _)

/-- A field of a section, as a member on a line. -/
def Member.ofField (f : String × Scalar) : Member := ⟨f.1, scalarText f.2, f.2.datum⟩

/-- A section, as a member over several lines. -/
def Member.ofSection (s : Section) : Member :=
  ⟨s.name, prettyRecord 1 (s.fields.map fun f => (f.1, scalarText f.2)), s.datum⟩

/-- The text of sections is read as what they say. -/
theorem isRead_write (sections : List Section) :
    IsRead (write sections).toList (Section.datumOf sections) := by
  have inner (s : Section) :
      IsRead (Member.ofSection s).text.toList (Member.ofSection s).value := by
    have record := isRead_prettyRecord 1 (s.fields.map Member.ofField)
      (List.forall_mem_map.mpr fun f _ => isRead_scalar f.2)
    rw [List.map_map, List.map_map] at record
    exact record
  have outer := isRead_prettyRecord 0 (sections.map Member.ofSection)
    (List.forall_mem_map.mpr fun s _ => inner s)
  rw [List.map_map, List.map_map] at outer
  exact outer

/-- **Sections are read back**: each value under its name, in the order in which they were
written. -/
theorem read?_write (sections : List Section) :
    read? (write sections) = some (Section.datumOf sections) := by
  have whole := isRead_write sections (2 * (write sections).length + 2) []
    (by rw [String.length_toList]; omega) nofun
  rw [List.append_nil] at whole
  rw [read?, whole]
  rfl

end Json

end PacketWatch
