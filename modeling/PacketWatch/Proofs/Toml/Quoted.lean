/-
# `PacketWatch.Proofs.Toml.Quoted` — a string is read back, however it is quoted

The writer quotes a string in the first way that suits it; the reader tells from the opening
quotes what it has to read.  So each way is read back on its own, under what makes it suit, and
`string?_quoted` goes through the ways in the order in which they are tried.

Three things could go wrong, and each has its lemmas.

* *Escapes.*  What is written for a character between double quotes has one of four forms
  (`Escaped`), and either reader takes each of them for that character.
* *Quotes that do not close.*  Three quotes close a string of several lines, and up to two more
  in front of them belong to it.  Between double quotes the writer escapes each third of a run,
  so the induction carries the run that stands unescaped in front of what is left to read.
  Between single quotes it escapes nothing, and relies on there being no three in a row.
* *The line end behind the opening quotes*, which is dropped.  The writer puts one there where
  the string has any; otherwise the string does not begin with one.

What follows a string must not begin with a quote, as it could then belong to the string.
-/
import PacketWatch.Toml.Quoted
import PacketWatch.Toml.Writer
import Mathlib.Data.List.TakeWhile

namespace PacketWatch

namespace Toml

/-! ## Escapes -/

/-- A character between double quotes: an escape of one letter or of four digits, or the character
itself. -/
inductive Escaped (severalLines : Bool) (c : Char) : List Char → Prop
  | letter {e : Char} :
      e ≠ 'u' → e ≠ 'U' → escape? e = some c → (∀ rest, endsLine (e :: rest) = false) →
      Escaped severalLines c ['\\', e]
  | digits {x y z w : Char} :
      named? [x, y, z, w] = some c → Escaped severalLines c ['\\', 'u', x, y, z, w]
  | self : isBasic c = true → Escaped severalLines c [c]
  | newline : severalLines = true → c = '\n' → Escaped severalLines c [c]

/-- Control characters and the delete character are named by four digits. -/
theorem escaped_digits (severalLines : Bool) {c : Char} (control : c < ' ' ∨ c = '\x7f') :
    Escaped severalLines c ("\\u" ++ (Text.hexPadded 4 c.toNat).toUpper).toList := by
  have all : ∀ n < 128, n < 32 ∨ n = 127 →
      ((Text.hexPadded 4 n).toList.map Char.toUpper).length = 4 ∧
        named? ((Text.hexPadded 4 n).toList.map Char.toUpper) = some (Char.ofNat n) := by decide
  have upper : (Text.hexPadded 4 c.toNat).toUpper.toList =
      (Text.hexPadded 4 c.toNat).toList.map Char.toUpper := String.toList_map ..
  have code : c.toNat < 32 ∨ c.toNat = 127 := control.imp id (congrArg Char.toNat)
  obtain ⟨length, read⟩ := all c.toNat (by omega) code
  rw [Char.ofNat_toNat] at read
  rw [String.toList_append, upper]
  match (Text.hexPadded 4 c.toNat).toList.map Char.toUpper, length, read with
  | [x, y, z, w], _, read => exact .digits read

theorem isBasic_of_shows {c : Char} (shows : ¬ (c < ' ' ∨ c = '\x7f')) (quote : c ≠ '"')
    (backslash : c ≠ '\\') : isBasic c = true := by
  obtain ⟨high, other⟩ := not_or.mp shows
  have least : ' ' ≤ c := Char.not_lt.mp high
  simp [isBasic, isPlain, least, other, quote, backslash]

/-- Whatever is written for a character other than a double quote stands for it. -/
theorem escaped_escapeOf (severalLines : Bool) {c : Char} (quote : c ≠ '"') :
    Escaped severalLines c ((escapeOf? severalLines c).getD (String.singleton c)).toList := by
  unfold escapeOf?
  split
  · subst c
    exact .letter (by decide) (by decide) rfl fun _ => rfl
  split
  · subst c
    exact .letter (by decide) (by decide) rfl fun _ => rfl
  split
  · subst c
    cases severalLines with
    | true => exact .newline rfl rfl
    | false => exact .letter (by decide) (by decide) rfl fun _ => rfl
  -- the other escapes of one letter
  iterate 3
    split
    · subst c
      exact .letter (by decide) (by decide) rfl fun _ => rfl
  split
  · exact escaped_digits severalLines ‹_›
  · rw [Option.getD_none, String.toList_singleton]
    exact .self (isBasic_of_shows ‹_› quote ‹_›)

theorem escaped_quote (severalLines : Bool) : Escaped severalLines '"' ['\\', '"'] :=
  .letter (by decide) (by decide) rfl fun _ => rfl

theorem ne_of_isBasic {c d : Char} (basic : isBasic c = true) (special : isBasic d = false) :
    c ≠ d := by
  rintro rfl
  exact absurd (basic.symm.trans special) (by decide)

/-- Puts a character in front of what is read. -/
def put (c : Char) (r : List Char × List Char) : List Char × List Char := (c :: r.1, r.2)

theorem basic?_escaped {c : Char} {written : List Char} (escaped : Escaped false c written)
    (rest : List Char) : basic? (written ++ rest) = (basic? rest).map (put c) := by
  cases escaped with
  | @letter e short long named =>
      -- the equation of escapes of one letter, as this one does not announce digits
      show basic? ('\\' :: e :: rest) = _
      rw [basic?.eq_5 _ _ (fun _ _ _ _ _ same => absurd same short)
        (fun _ _ _ _ _ _ _ _ _ same => absurd same long), named]
      cases basic? rest <;> rfl
  | @digits x y z w named =>
      show basic? ('\\' :: 'u' :: x :: y :: z :: w :: rest) = _
      rw [basic?, named]
      cases basic? rest <;> rfl
  | self basic =>
      have other {d : Char} (special : isBasic d = false) : c ≠ d := ne_of_isBasic basic special
      -- the last equation, as no other is about a character that stands for itself
      show basic? (c :: rest) = _
      rw [basic?.eq_6 _ _ (other rfl) (fun _ _ _ _ _ same => absurd same (other rfl))
        (fun _ _ _ _ _ _ _ _ _ same => absurd same (other rfl))
        (fun _ _ same => absurd same (other rfl)), basic]
      cases basic? rest <;> rfl
  | newline several => cases several

theorem basicLines?_escaped {c : Char} {written : List Char} (escaped : Escaped true c written)
    (rest : List Char) :
    basicLines? false (written ++ rest) = (basicLines? false rest).map (put c) := by
  cases escaped with
  | @letter e short long named goesOn =>
      show basicLines? false ('\\' :: e :: rest) = _
      rw [basicLines?.eq_10 _ _ _ (fun _ _ _ _ _ same => absurd same short)
        (fun _ _ _ _ _ _ _ _ _ same => absurd same long), named, goesOn]
      cases basicLines? false rest <;> rfl
  | @digits x y z w named =>
      show basicLines? false ('\\' :: 'u' :: x :: y :: z :: w :: rest) = _
      rw [basicLines?, named]
      cases basicLines? false rest <;> rfl
  | self basic =>
      have other {d : Char} (special : isBasic d = false) : c ≠ d := ne_of_isBasic basic special
      show basicLines? false (c :: rest) = _
      rw [basicLines?.eq_11 _ _ _ (fun _ same => absurd same (other rfl))
        (fun _ same => absurd same (other rfl)) (fun _ same => absurd same (other rfl)) (other rfl)
        (fun _ same => absurd same (other rfl)) (other rfl)
        (fun _ _ _ _ _ same => absurd same (other rfl))
        (fun _ _ _ _ _ _ _ _ _ same => absurd same (other rfl))
        (fun _ _ same => absurd same (other rfl)), basic, Bool.false_and]
      cases basicLines? false rest <;> rfl
  | newline _ same =>
      subst c
      show basicLines? false ('\n' :: rest) = _
      rw [basicLines?]
      cases basicLines? false rest <;> rfl

/-! ## Between double quotes -/

theorem basic?_escapeAll (s rest : List Char) :
    basic? ((escapeAll false 0 0 s).toList ++ '"' :: rest) = some (s, rest) := by
  induction s with
  | nil => rfl
  | cons c s ih =>
      by_cases quote : c = '"'
      · subst c
        rw [escapeAll, if_neg (by decide), String.toList_append, List.append_assoc]
        refine (basic?_escaped (escaped_quote false) _).trans ?_
        rw [ih]
        rfl
      · rw [escapeAll.eq_3 _ _ _ _ _ quote, String.toList_append, List.append_assoc,
          basic?_escaped (escaped_escapeOf false quote), ih]
        rfl

/-! ## Between three double quotes -/

/-- The text does not begin with a character. -/
def NotInFront (c : Char) (s : List Char) : Prop := ∀ more, s ≠ c :: more

theorem notInFront_cons {c d : Char} (other : d ≠ c) (s : List Char) : NotInFront c (d :: s) :=
  fun _ same => other (List.cons.inj same).1

/-- What is written for a character begins with a backslash or with the character. -/
theorem Escaped.notInFront {severalLines : Bool} {c d : Char} {written : List Char}
    (escaped : Escaped severalLines c written) (other : c ≠ d) (backslash : d ≠ '\\')
    (rest : List Char) : NotInFront d (written ++ rest) := by
  cases escaped with
  | letter => exact notInFront_cons backslash.symm _
  | digits => exact notInFront_cons backslash.symm _
  | self => exact notInFront_cons other _
  | newline => exact notInFront_cons other _

/-- A double quote that is not the first of three stands for itself. -/
theorem basicLines?_quote {rest : List Char} (few : ∀ more, rest ≠ '"' :: '"' :: more) :
    basicLines? false ('"' :: rest) = (basicLines? false rest).map (put '"') := by
  rw [basicLines?.eq_5 _ _ (fun _ => few _) (fun _ => few _) few]
  cases basicLines? false rest <;> rfl

/-- Up to two double quotes in front of something else stand for themselves. -/
theorem basicLines?_quotes {run : Nat} (few : run ≤ 2) {rest : List Char}
    (front : NotInFront '"' rest) :
    basicLines? false (List.replicate run '"' ++ rest) =
      (basicLines? false rest).map fun r => (List.replicate run '"' ++ r.1, r.2) := by
  have single : basicLines? false ('"' :: rest) = (basicLines? false rest).map (put '"') :=
    basicLines?_quote fun _ => front _
  match run, few with
  | 0, _ => simp
  | 1, _ => exact single
  | 2, _ =>
      refine (basicLines?_quote fun _ same => front _ (List.cons.inj same).2).trans ?_
      rw [single, Option.map_map]
      rfl

/-- Up to two double quotes in front of the closing three belong to the string. -/
theorem basicLines?_end {run : Nat} (few : run ≤ 2) {rest : List Char}
    (front : NotInFront '"' rest) :
    basicLines? false (List.replicate run '"' ++ '"' :: '"' :: '"' :: rest) =
      some (List.replicate run '"', rest) := by
  match run, few with
  | 0, _ => exact basicLines?.eq_4 _ _ (fun _ => front _) front
  | 1, _ => exact basicLines?.eq_3 _ _ front
  | 2, _ => rfl

/-- The string is read, with the double quotes in front of it that were not escaped. -/
theorem basicLines?_escapeAll (s : List Char) {rest : List Char} (front : NotInFront '"' rest)
    (run : Nat) (few : run ≤ 2) :
    basicLines? false (List.replicate run '"' ++
        ((escapeAll true 2 run s).toList ++ '"' :: '"' :: '"' :: rest)) =
      some (List.replicate run '"' ++ s, rest) := by
  induction s generalizing run with
  | nil =>
      rw [List.append_nil]
      exact basicLines?_end few front
  | cons c s ih =>
      have next := ih 0 (by decide)
      rw [List.replicate_zero, List.nil_append, List.nil_append] at next
      by_cases quote : c = '"'
      · subst c
        rw [escapeAll]
        split
        · -- one more quote of the run
          rename_i more
          have next := ih (run + 1) more
          rw [List.replicate_succ', List.append_assoc, List.append_assoc] at next
          rw [String.toList_append, List.append_assoc]
          exact next
        · -- the third quote of the run is escaped
          have written : "\\\"".toList = ['\\', '"'] := rfl
          have front : NotInFront '"'
              (['\\', '"'] ++ ((escapeAll true 2 0 s).toList ++ '"' :: '"' :: '"' :: rest)) :=
            notInFront_cons (by decide) _
          rw [String.toList_append, List.append_assoc, written, basicLines?_quotes few front,
            basicLines?_escaped (escaped_quote true), next]
          rfl
      · have written := escaped_escapeOf true quote
        rw [escapeAll.eq_3 _ _ _ _ _ quote, String.toList_append, List.append_assoc,
          basicLines?_quotes few (written.notInFront quote (by decide) _),
          basicLines?_escaped written, next]
        rfl

/-! ## Between single quotes -/

/-- Whether a character may stand for itself in a string of several lines. -/
theorem isPlain_or_newline {c : Char} (free : isControl c = false) :
    isPlain c = true ∨ c = '\n' := by
  rw [isControl, Bool.or_eq_false_iff] at free
  obtain ⟨low, other⟩ := free
  by_cases newline : c = '\n'
  · exact .inr newline
  left
  by_cases tab : c = '\t'
  · subst c
    rfl
  · have least : ' ' ≤ c := by
      rw [bne_iff_ne.mpr tab, bne_iff_ne.mpr newline, Bool.and_true, Bool.and_true,
        decide_eq_false_iff_not] at low
      exact Char.not_lt.mp low
    rw [isPlain, decide_eq_true least, bne_iff_ne.mpr (beq_eq_false_iff_ne.mp other),
      Bool.and_true, Bool.or_true]

theorem literal?_append {s : List Char} (literal : ∀ c ∈ s, isLiteral c = true)
    (rest : List Char) : literal? (s ++ '\'' :: rest) = some (s, rest) := by
  have stops : isLiteral '\'' = false := by decide
  rw [literal?, List.dropWhile_append_of_pos literal, List.takeWhile_append_of_pos literal,
    List.dropWhile_cons_of_neg (by simp [stops]), List.takeWhile_cons_of_neg (by simp [stops]),
    List.append_nil]
  rfl

/-- A character that is not the first of three single quotes stands for itself. -/
theorem literalLines?_char {c : Char} (free : isControl c = false) {rest : List Char}
    (few : c = '\'' → ∀ more, rest ≠ '\'' :: '\'' :: more) :
    literalLines? (c :: rest) = (literalLines? rest).map (put c) := by
  have noReturn : c ≠ '\r' := by
    rintro rfl
    exact absurd free (by decide)
  have shows : (!isPlain c && c != '\n') = false := by
    rcases isPlain_or_newline free with plain | rfl
    · rw [plain]
      rfl
    · rfl
  rw [literalLines?.eq_6 _ _ (fun _ quote => few quote _) (fun _ quote => few quote _)
    (fun _ quote => few quote _) (fun _ same => absurd same noReturn), shows]
  cases literalLines? rest <;> rfl

theorem hasTriple_of_cons {d c : Char} {s : List Char} (none : hasTriple d (c :: s) = false) :
    hasTriple d s = false := by
  match s, none with
  | [], _ => rfl
  | [_], _ => rfl
  | x :: y :: s, none => exact (Bool.or_eq_false_iff.mp none).2

/-- A string without three single quotes in a row is read; those at its end belong to it. -/
theorem literalLines?_append {s : List Char} (free : ∀ c ∈ s, isControl c = false)
    (none : hasTriple '\'' s = false) {rest : List Char} (front : NotInFront '\'' rest) :
    literalLines? (s ++ '\'' :: '\'' :: '\'' :: rest) = some (s, rest) := by
  induction s with
  | nil => exact literalLines?.eq_4 _ (fun _ => front _) front
  | cons c s ih =>
      obtain ⟨first, others⟩ := List.forall_mem_cons.mp free
      have next := ih others (hasTriple_of_cons none)
      -- a quote right in front of the closing ones is told by their number
      by_cases last : c = '\'' ∧ (s = [] ∨ s = ['\''])
      · rcases last with ⟨rfl, rfl | rfl⟩
        · exact literalLines?.eq_3 _ front
        · rfl
      · rw [List.cons_append, literalLines?_char first, next]
        · rfl
        · rintro rfl more same
          match s with
          | [] => exact last ⟨rfl, .inl rfl⟩
          | [x] =>
              obtain ⟨rfl, -⟩ := List.cons.inj same
              exact last ⟨rfl, .inr rfl⟩
          | x :: y :: s =>
              obtain ⟨rfl, second⟩ := List.cons.inj same
              obtain ⟨rfl, -⟩ := List.cons.inj second
              exact absurd none (by simp [hasTriple])

/-! ## Any string -/

/-- The text does not begin with a line end. -/
def NoNewline (s : List Char) : Prop := NotInFront '\n' s ∧ NotInFront '\r' s

theorem noNewline_cons {c : Char} (feed : c ≠ '\n') (carriage : c ≠ '\r') (s : List Char) :
    NoNewline (c :: s) :=
  ⟨notInFront_cons feed s, notInFront_cons carriage s⟩

/-- Nothing is dropped where no line end stands. -/
theorem dropNewline_eq {s : List Char} (none : NoNewline s) : dropNewline s = s := by
  unfold dropNewline newline?
  split
  · exact absurd rfl (none.1 _)
  · exact absurd rfl (none.2 _)
  · rfl

/-- The line end behind the opening quotes is dropped again, and no other. -/
theorem dropNewline_opening {s body : List Char}
    (front : s.contains '\n' = false → NoNewline body) :
    dropNewline ((openingLine s).toList ++ body) = body := by
  rw [openingLine]
  split
  · rfl
  · exact dropNewline_eq (front ((Bool.not_eq_true _).mp ‹_›))

theorem string?_basicString (s : List Char) {rest : List Char} (front : NotInFront '"' rest) :
    string? ((basicString s).toList ++ rest) = some (s, rest) := by
  have text : (basicString s).toList ++ rest =
      '"' :: ((escapeAll false 0 0 s).toList ++ '"' :: rest) := by
    simp [basicString]
  rw [text, string?.eq_2, basic?_escapeAll]
  -- a second quote is the closing one, so there is no third
  intro more same
  cases s with
  | nil => exact front _ (List.cons.inj same).2
  | cons c s =>
      by_cases quote : c = '"'
      · subst c
        rw [escapeAll, if_neg (by decide), String.toList_append] at same
        exact absurd (List.cons.inj same).1 (by decide)
      · rw [escapeAll.eq_3 _ _ _ _ _ quote, String.toList_append, List.append_assoc] at same
        exact (escaped_escapeOf false quote).notInFront quote (by decide) _ _ same

theorem string?_basicLinesString (s : List Char) {rest : List Char} (front : NotInFront '"' rest) :
    string? ((basicLinesString s).toList ++ rest) = some (s, rest) := by
  have text : (basicLinesString s).toList ++ rest =
      '"' :: '"' :: '"' :: ((openingLine s).toList ++
        ((escapeAll true 2 0 s).toList ++ '"' :: '"' :: '"' :: rest)) := by
    simp [basicLinesString]
  have inside := basicLines?_escapeAll s front 0 (by decide)
  rw [text, string?, dropNewline_opening]
  · exact inside
  · intro single
    cases s with
    | nil => exact noNewline_cons (c := '"') (by decide) (by decide) _
    | cons c s =>
        have noFeed : c ≠ '\n' := by
          rintro rfl
          simp at single
        by_cases quote : c = '"'
        · subst c
          rw [escapeAll, if_pos (by decide), String.toList_append]
          exact noNewline_cons (c := '"') (by decide) (by decide) _
        · have written := escaped_escapeOf true quote
          rw [escapeAll.eq_3 _ _ _ _ _ quote, String.toList_append, List.append_assoc]
          refine ⟨written.notInFront noFeed (by decide) _, ?_⟩
          by_cases carriage : c = '\r'
          · -- a carriage return is escaped
            subst c
            exact notInFront_cons (by decide) _
          · exact written.notInFront carriage (by decide) _

theorem string?_literalString {s : List Char} (literal : ∀ c ∈ s, isLiteral c = true)
    {rest : List Char} (front : NotInFront '\'' rest) :
    string? ((literalString s).toList ++ rest) = some (s, rest) := by
  have text : (literalString s).toList ++ rest = '\'' :: (s ++ '\'' :: rest) := by
    simp [literalString]
  rw [text, string?.eq_4, literal?_append literal]
  -- a second quote is the closing one, so there is no third
  intro more same
  cases s with
  | nil => exact front _ (List.cons.inj same).2
  | cons c s =>
      obtain ⟨rfl, -⟩ := List.cons.inj same
      exact absurd (literal _ List.mem_cons_self) (by decide)

theorem string?_literalLinesString {s : List Char} (free : ∀ c ∈ s, isControl c = false)
    (none : hasTriple '\'' s = false) {rest : List Char} (front : NotInFront '\'' rest) :
    string? ((literalLinesString s).toList ++ rest) = some (s, rest) := by
  have text : (literalLinesString s).toList ++ rest =
      '\'' :: '\'' :: '\'' :: ((openingLine s).toList ++ (s ++ '\'' :: '\'' :: '\'' :: rest)) := by
    simp [literalLinesString]
  rw [text, string?, dropNewline_opening, literalLines?_append free none front]
  intro single
  cases s with
  | nil => exact noNewline_cons (by decide) (by decide) _
  | cons c s =>
      refine noNewline_cons ?_ ?_ _
      · rintro rfl
        simp at single
      · rintro rfl
        exact absurd (free _ List.mem_cons_self) (by decide)

/-- **A string is read back, whatever it holds**: the way in which it is quoted suits it. -/
theorem string?_quoted (text : String) {rest : List Char}
    (front : NotInFront '"' rest ∧ NotInFront '\'' rest) :
    string? ((quoted text).toList ++ rest) = some (text.toList, rest) := by
  have free {s : List Char} (plain : (!s.any isControl) = true) : ∀ c ∈ s, isControl c = false := by
    simpa using plain
  unfold quoted
  generalize text.toList = s
  simp only
  split
  · exact string?_basicString s front.1
  split
  · rename_i literal
    simp only [Bool.and_eq_true] at literal
    obtain ⟨⟨plain, noQuote⟩, noFeed⟩ := literal
    refine string?_literalString (fun c here => ?_) front.2
    have noQuote : c ≠ '\'' := by
      rintro rfl
      simp [here] at noQuote
    have noFeed : c ≠ '\n' := by
      rintro rfl
      simp [here] at noFeed
    have shows := (isPlain_or_newline (free plain c here)).resolve_right noFeed
    rw [isLiteral, shows, bne_iff_ne.mpr noQuote, Bool.and_self]
  split
  · exact string?_basicLinesString s front.1
  split
  · rename_i literal
    rw [Bool.and_eq_true] at literal
    exact string?_literalLinesString (free literal.1) (Bool.not_eq_true' _ ▸ literal.2) front.2
  split
  · exact string?_basicLinesString s front.1
  · exact string?_basicString s front.1

end Toml

end PacketWatch
