import RowScope.Json.Printer
import RowScope.Json.Reader
import Mathlib.Tactic.IntervalCases

/-!
# Printed documents are read back

A document is *plain* if its numbers are whole and nothing in it is malformed.
`Json.read?_print`: reading the text of a plain document gives the document.

The proof goes production by production, the way the reader is written, and each
step says what is read in front of an arbitrary rest.  Only a numeral looks past
its own end, so its rest must not go on with the numeral (`Numeral.Ends`); inside
a document a comma or a bracket comes next.  A text may stand between quotes in several
ways (`Json.Escapes`): the printer chooses one (`Json.escapes_escape`), and the reader takes
them all (`Json.Escapes.readText_eq`).
-/

namespace RowScope

/-! ## Numerals -/

namespace Number

theorem takeDigits_append {cs rest : List Char} (digits : ∀ c ∈ cs, c.isDigit = true)
    (stop : ∀ c ∈ rest.head?, c.isDigit = false) :
    takeDigits (cs ++ rest) = (cs.map fun c => c.toNat - 48, rest) := by
  induction cs with
  | nil =>
    cases rest with
    | nil => rfl
    | cons c rest => simp [takeDigits, digit?, stop c (by simp)]
  | cons c cs ih =>
    have tail := ih fun d member => digits d (List.mem_cons_of_mem _ member)
    have head := digits c List.mem_cons_self
    simp [takeDigits, digit?, head, tail]

theorem ofDigits_digitsOf (n : Nat) : ofDigits (digitsOf n) = n := by
  have decoded := Nat.ofDigitChars_ten_toDigits (n := n)
  rw [Nat.ofDigitChars_eq_foldl] at decoded
  simpa [ofDigits, digitsOf, List.foldl_map] using decoded

/-- The digits of a number other than zero start with one that is not a zero. -/
theorem exists_digitsOf_cons {n : Nat} (positive : 0 < n) :
    ∃ d ds, digitsOf n = d :: ds ∧ d ≠ 0 := by
  induction n using Nat.strongRecOn with
  | ind n ih =>
    by_cases single : n < 10
    · refine ⟨n, [], ?_, by omega⟩
      unfold digitsOf
      rw [Nat.toDigits_of_lt_base single]
      interval_cases n <;> rfl
    · obtain ⟨d, ds, digits, nonzero⟩ := ih (n / 10) (by omega) (by omega)
      refine ⟨d, ds ++ [(n % 10).digitChar.toNat - 48], ?_, nonzero⟩
      unfold digitsOf at digits ⊢
      rw [Nat.toDigits_of_base_le (by decide) (by omega), List.map_append, digits]
      rfl

namespace Numeral

/-- A text that does not go on with the numeral in front of it. -/
def Ends (rest : List Char) : Prop :=
  ∀ c ∈ rest.head?, c.isDigit = false ∧ c ≠ '.' ∧ c ≠ 'e' ∧ c ≠ 'E'

theorem readWhole_toDigits (n : Nat) {rest : List Char} (ends : Ends rest) :
    readWhole (Nat.toDigits 10 n ++ rest) = some (n, rest) := by
  have taken : takeDigits (Nat.toDigits 10 n ++ rest) = (digitsOf n, rest) :=
    takeDigits_append
      (fun _ member => Nat.isDigit_of_mem_toDigits (by decide) (by decide) member)
      (fun c head => (ends c head).1)
  have value := ofDigits_digitsOf n
  unfold readWhole
  rw [taken]
  rcases Nat.eq_zero_or_pos n with rfl | positive
  · rfl
  · obtain ⟨d, ds, digits, nonzero⟩ := exists_digitsOf_cons positive
    rw [digits] at value ⊢
    cases ds with
    | nil => simpa [ofDigits] using value
    | cons e ds => simp [value, nonzero]

theorem readFraction_of_ends {rest : List Char} (ends : Ends rest) :
    readFraction rest = ([], rest) := by
  cases rest with
  | nil => rfl
  | cons c rest => simp [readFraction, (ends c (by simp)).2.1]

theorem readExponent_of_ends {rest : List Char} (ends : Ends rest) :
    readExponent rest = (none, rest) := by
  cases rest with
  | nil => rfl
  | cons c rest =>
    obtain ⟨-, -, lower, upper⟩ := ends c (by simp)
    simp [readExponent, lower, upper]

theorem exists_toDigits_cons (n : Nat) :
    ∃ c cs, Nat.toDigits 10 n = c :: cs ∧ c.isDigit = true := by
  obtain ⟨c, cs, digits⟩ :=
    List.exists_cons_of_ne_nil (Nat.toDigits_ne_nil (n := n) (b := 10))
  exact ⟨c, cs, digits, Nat.isDigit_of_mem_toDigits (b := 10) (n := n) (by decide)
    (by decide) (by simp [digits])⟩

/-- A whole numeral is read back from its text. -/
theorem read_chars {n : Numeral} (whole : n.isWhole = true) {rest : List Char}
    (ends : Ends rest) : read (n.chars true ++ rest) = some (n, rest) := by
  obtain ⟨negative, value, fraction, exponent⟩ := n
  simp only [isWhole, List.isEmpty_iff, Option.isNone_iff_eq_none, Bool.and_eq_true] at whole
  obtain ⟨rfl, rfl⟩ := whole
  have unsigned : readUnsigned negative (Nat.toDigits 10 value ++ rest)
      = some (⟨negative, value, [], none⟩, rest) := by
    simp [readUnsigned, readWhole_toDigits value ends, readFraction_of_ends ends,
      readExponent_of_ends ends]
  cases negative with
  | true => simpa [chars, read] using unsigned
  | false =>
    obtain ⟨c, cs, digits, digit⟩ := exists_toDigits_cons value
    have unsigned_head : c ≠ '-' := by
      rintro rfl
      cases digit
    rw [digits] at unsigned
    simpa [chars, digits, read, unsigned_head] using unsigned

/-- The characters that a numeral may start with. -/
def isHead (c : Char) : Bool := c = '-' || c.isDigit

theorem exists_chars_cons (n : Numeral) :
    ∃ c cs, n.chars true = c :: cs ∧ isHead c = true := by
  obtain ⟨negative, whole, fraction, exponent⟩ := n
  cases negative with
  | true => exact ⟨_, _, rfl, rfl⟩
  | false =>
    obtain ⟨c, cs, digits, digit⟩ := exists_toDigits_cons whole
    exact ⟨c, _, by simp only [chars, digits]; rfl, by simp [isHead, digit]⟩

theorem ne_of_isHead {c d : Char} (head : isHead c = true) (other : isHead d = false) :
    c ≠ d := by
  rintro rfl
  rw [head] at other
  cases other

end Numeral

end Number

namespace Json

open Number

/-! ## Texts -/

theorem hexValue?_hexChar {n : Nat} (small : n < 16) : hexValue? (hexChar n) = some n := by
  interval_cases n <;> decide

theorem hexValue4?_hexChar {n : Nat} (small : n < 256) :
    hexValue4? '0' '0' (hexChar (n / 16)) (hexChar (n % 16)) = some n := by
  have zero : hexValue? '0' = some 0 := by decide
  have high := hexValue?_hexChar (n := n / 16) (by omega)
  have low := hexValue?_hexChar (n := n % 16) (by omega)
  simp only [hexValue4?, zero, high, low, Option.bind_eq_bind, Option.bind_some,
    Option.pure_def, Option.some.injEq]
  omega

/-- The letters that stand for a character after a backslash. -/
def escapeLetters : List (Char × Char) :=
  [('"', '"'), ('\\', '\\'), ('b', Char.ofNat 8), ('t', '\t'), ('n', '\n'),
    ('f', Char.ofNat 12), ('r', '\r')]

/-- How a text may stand between quotes: a quote, a backslash or a control character after
a backslash, by a letter or by its number, and every other character as it is. -/
inductive Escapes : List Char → List Char → Prop
  | nil : Escapes [] []
  | plain {c : Char} {cs es : List Char} (visible : 32 ≤ c.toNat) (quote : c ≠ '"')
      (slash : c ≠ '\\') (rest : Escapes cs es) : Escapes (c :: cs) (c :: es)
  | letter {l c : Char} {cs es : List Char} (listed : (l, c) ∈ escapeLetters)
      (rest : Escapes cs es) : Escapes (c :: cs) ('\\' :: l :: es)
  | number {a b c : Char} {cs es : List Char} (control : c.toNat < 32)
      (value : hexValue4? '0' '0' a b = some c.toNat) (rest : Escapes cs es) :
    Escapes (c :: cs) ('\\' :: 'u' :: '0' :: '0' :: a :: b :: es)

section Escapes

variable {cs es : List Char}

theorem Escapes.control {c : Char} (control : c.toNat < 32) (rest : Escapes cs es) :
    Escapes (c :: cs) (escapeChar c ++ es) := by
  have quote : c ≠ '"' := by rintro rfl; revert control; decide
  have slash : c ≠ '\\' := by rintro rfl; revert control; decide
  have named (n : Nat) (same : c.toNat = n) : Char.ofNat n = c := by rw [← same]; simp
  unfold escapeChar
  simp only [quote, slash, control, if_true, if_false]
  split
  · next same => exact .letter (by simp [escapeLetters, ← named 8 same]) rest
  split
  · next same => exact .letter (by simp [escapeLetters, ← named 9 same]) rest
  split
  · next same => exact .letter (by simp [escapeLetters, ← named 10 same]) rest
  split
  · next same => exact .letter (by simp [escapeLetters, ← named 12 same]) rest
  split
  · next same => exact .letter (by simp [escapeLetters, ← named 13 same]) rest
  · exact .number control (hexValue4?_hexChar (by omega)) rest

theorem Escapes.char (c : Char) (rest : Escapes cs es) :
    Escapes (c :: cs) (escapeChar c ++ es) := by
  by_cases control : c.toNat < 32
  · exact rest.control control
  unfold escapeChar
  split
  · next quote =>
    subst quote
    exact .letter (l := '"') (by decide) rest
  next quote =>
  split
  · next slash =>
    subst slash
    exact .letter (l := '\\') (by decide) rest
  · next slash => exact .plain (Nat.le_of_not_lt control) quote slash rest

/-- A text is written in one of the ways in which it may stand between quotes. -/
theorem escapes_escape (cs : List Char) : Escapes cs (escape cs) := by
  induction cs with
  | nil => exact .nil
  | cons c cs ih => exact ih.char c

theorem unescape?_of_listed {l c : Char} (listed : (l, c) ∈ escapeLetters) :
    unescape? l = some c ∧ l ≠ 'u' := by
  have all : ∀ entry ∈ escapeLetters, unescape? entry.1 = some entry.2 ∧ entry.1 ≠ 'u' := by
    decide
  exact all (l, c) listed

/-- However a text stands between quotes, it is read back up to the closing quote. -/
theorem Escapes.readText_eq (escapes : Escapes cs es) (rest : List Char) :
    readText (es ++ '"' :: rest) = some (cs, rest) := by
  induction escapes with
  | nil => simp [readText]
  | plain visible quote slash _ ih =>
    simp [readText, slash, Nat.not_lt.2 visible, ih]
  | letter listed _ ih =>
    obtain ⟨named, other⟩ := unescape?_of_listed listed
    simp [readText, named, other, ih]
  | @number a b c cs es control value _ ih =>
    have high : isHighHalf c.toNat = false := decide_eq_false (by omega)
    have low : isLowHalf c.toNat = false := decide_eq_false (by omega)
    simp [readText, value, high, low, ih]

end Escapes

theorem readName_quoted (name : String) (rest : List Char) :
    readName (quoted name ++ ':' :: rest) = some (some name, rest) := by
  simp [readName, quoted, skipBlanks, isBlank, readAnyText, (escapes_escape _).readText_eq]

/-! ## Documents -/

mutual

/-- Whether every number of a document is whole and nothing in it is malformed. -/
def isPlain : Json → Bool
  | .number n => n.isWhole
  | .array items => allPlain items
  | .object members => membersPlain members
  | .malformed => false
  | .null => true
  | .bool _ => true
  | .text _ => true

/-- Whether every item of a list is plain. -/
def allPlain : List Json → Bool
  | [] => true
  | j :: js => isPlain j && allPlain js

/-- Whether every member of a list is plain. -/
def membersPlain : List (String × Json) → Bool
  | [] => true
  | (_, j) :: ms => isPlain j && membersPlain ms

end

theorem isBlank_of_isHead {c : Char} (head : Numeral.isHead c = true) : isBlank c = false := by
  have blank := Numeral.ne_of_isHead head (d := ' ') rfl
  have line := Numeral.ne_of_isHead head (d := '\n') rfl
  have tab := Numeral.ne_of_isHead head (d := '\t') rfl
  have carriage := Numeral.ne_of_isHead head (d := '\r') rfl
  simp [isBlank, blank, line, tab, carriage]

/-- At a character that a numeral may start with, no other production applies. -/
theorem readValue_of_isHead {c : Char} (head : Numeral.isHead c = true) (bound : Nat)
    (cs : List Char) : readValue (bound + 1) (c :: cs) =
      (Numeral.read (c :: cs)).map fun (n, rest) => (.number n, rest) := by
  have n := Numeral.ne_of_isHead head (d := 'n') rfl
  have t := Numeral.ne_of_isHead head (d := 't') rfl
  have f := Numeral.ne_of_isHead head (d := 'f') rfl
  have quote := Numeral.ne_of_isHead head (d := '"') rfl
  have bracket := Numeral.ne_of_isHead head (d := '[') rfl
  have brace := Numeral.ne_of_isHead head (d := '{') rfl
  simp [readValue, skipBlanks, isBlank_of_isHead head, n, t, f, quote, bracket, brace]

/-- A document starts with a character that is neither a blank nor the end of an
array. -/
theorem exists_chars_cons (j : Json) :
    ∃ c cs, chars j = c :: cs ∧ isBlank c = false ∧ c ≠ ']' := by
  cases j with
  | null => exact ⟨_, _, rfl, rfl, by decide⟩
  | bool b => cases b <;> exact ⟨_, _, rfl, rfl, by decide⟩
  | number n =>
    obtain ⟨c, cs, shape, head⟩ := Numeral.exists_chars_cons n
    exact ⟨c, cs, by simpa [chars] using shape, isBlank_of_isHead head,
      Numeral.ne_of_isHead head rfl⟩
  | text s => exact ⟨_, _, rfl, rfl, by decide⟩
  | array items => cases items <;> exact ⟨_, _, by rw [chars], rfl, by decide⟩
  | object members =>
    rcases members with _ | ⟨⟨name, j⟩, ms⟩ <;> exact ⟨_, _, by rw [chars], rfl, by decide⟩
  | malformed => exact ⟨_, _, rfl, rfl, by decide⟩

theorem length_chars_pos (j : Json) : 0 < (chars j).length := by
  obtain ⟨c, cs, shape, -⟩ := exists_chars_cons j
  simp [shape]

/-- Names that were all read give their object. -/
theorem ofMembers_some (members : List (String × Json)) :
    ofMembers (members.map fun m => (some m.1, m.2)) = .object members := by
  have named : namedMembers? (members.map fun m => (some m.1, m.2)) = some members := by
    induction members with
    | nil => rfl
    | cons m ms ih => simp [namedMembers?, ih]
  simp [ofMembers, named]

-- The bound on the calls is used up by one for every production; the length of
-- the text is enough, since every production takes a character.
mutual

/-- A plain document is read back from its text, whatever stands after it. -/
theorem readValue_chars : ∀ (j : Json) (bound : Nat) (rest : List Char), isPlain j = true →
    (chars j).length ≤ bound → Numeral.Ends rest →
      readValue bound (chars j ++ rest) = some (j, rest)
  | j, 0, _, _, enough, _ => by
    have := length_chars_pos j
    omega
  | .null, bound + 1, rest, _, _, _ => by simp [readValue, chars, skipBlanks, isBlank]
  | .bool b, bound + 1, rest, _, _, _ => by
    cases b <;> simp [readValue, chars, skipBlanks, isBlank]
  | .number n, bound + 1, rest, plain, _, ends => by
    obtain ⟨c, cs, shape, head⟩ := Numeral.exists_chars_cons n
    have parsed := Numeral.read_chars plain ends
    rw [shape, List.cons_append] at parsed
    simp only [chars, shape, List.cons_append, readValue_of_isHead head, parsed]
    rfl
  | .text s, bound + 1, rest, _, _, _ => by
    simp [readValue, chars, quoted, skipBlanks, isBlank, readAnyText,
      (escapes_escape _).readText_eq, ofText]
  | .array [], bound + 1, rest, _, _, _ => by simp [readValue, chars, skipBlanks, isBlank]
  | .array (j :: js), bound + 1, rest, plain, enough, _ => by
    simp only [isPlain, allPlain, Bool.and_eq_true] at plain
    simp only [chars, List.length_cons, List.length_append] at enough
    have items := readItems_chars j js bound rest plain.1 plain.2 (by omega)
    obtain ⟨c, cs, shape, visible, stays⟩ := exists_chars_cons j
    have opened : skipBlanks ('[' :: c :: (cs ++ (itemChars js ++ rest)))
        = '[' :: c :: (cs ++ (itemChars js ++ rest)) := by simp [skipBlanks, isBlank]
    have skipped : skipBlanks (c :: (cs ++ (itemChars js ++ rest)))
        = c :: (cs ++ (itemChars js ++ rest)) := by simp [skipBlanks, visible]
    simp only [shape, List.cons_append] at items
    simp only [chars, shape, List.cons_append, List.append_assoc, readValue, opened, skipped]
    simp [stays, items]
  | .object [], bound + 1, rest, _, _, _ => by simp [readValue, chars, skipBlanks, isBlank]
  | .object ((name, j) :: ms), bound + 1, rest, plain, enough, _ => by
    simp only [isPlain, membersPlain, Bool.and_eq_true] at plain
    simp only [chars, List.length_cons, List.length_append] at enough
    have members := readMembers_chars name j ms bound rest plain.1 plain.2 (by omega)
    have whole := ofMembers_some ((name, j) :: ms)
    simp only [quoted, List.cons_append, List.append_assoc, List.nil_append] at members
    simp [readValue, chars, quoted, skipBlanks, isBlank, members] at whole ⊢
    exact whole
  | .malformed, _, _, plain, _, _ => by cases plain

/-- The items of an array are read back from their text. -/
theorem readItems_chars : ∀ (j : Json) (js : List Json) (bound : Nat) (rest : List Char),
    isPlain j = true → allPlain js = true → (chars j).length + (itemChars js).length ≤ bound →
      readItems bound (chars j ++ (itemChars js ++ rest)) = some (j :: js, rest)
  | j, _, 0, _, _, _, enough => by
    have := length_chars_pos j
    omega
  | j, [], bound + 1, rest, plain, _, enough => by
    simp only [itemChars, List.length_cons] at enough
    have value := readValue_chars j bound (']' :: rest) plain (by omega)
      (by simp [Numeral.Ends])
    simp [readItems, itemChars, value, skipBlanks, isBlank]
  | j, k :: ks, bound + 1, rest, plain, plains, enough => by
    simp only [allPlain, Bool.and_eq_true] at plains
    simp only [itemChars, List.length_cons, List.length_append] at enough
    have value := readValue_chars j bound (',' :: (chars k ++ (itemChars ks ++ rest))) plain
      (by omega) (by simp [Numeral.Ends])
    have items := readItems_chars k ks bound rest plains.1 plains.2 (by omega)
    simp [readItems, itemChars, value, items, skipBlanks, isBlank]

/-- The members of an object are read back from their text. -/
theorem readMembers_chars : ∀ (name : String) (j : Json) (ms : List (String × Json))
    (bound : Nat) (rest : List Char), isPlain j = true → membersPlain ms = true →
    (chars j).length + (memberChars ms).length ≤ bound →
      readMembers bound (quoted name ++ ':' :: (chars j ++ (memberChars ms ++ rest)))
        = some (((name, j) :: ms).map fun m => (some m.1, m.2), rest)
  | _, j, _, 0, _, _, _, enough => by
    have := length_chars_pos j
    omega
  | name, j, [], bound + 1, rest, plain, _, enough => by
    simp only [memberChars, List.length_cons] at enough
    have value := readValue_chars j bound ('}' :: rest) plain (by omega)
      (by simp [Numeral.Ends])
    simp [readMembers, readName_quoted, memberChars, value, skipBlanks, isBlank]
  | name, j, (other, k) :: ks, bound + 1, rest, plain, plains, enough => by
    simp only [membersPlain, Bool.and_eq_true] at plains
    simp only [memberChars, List.length_cons, List.length_append] at enough
    have value := readValue_chars j bound
      (',' :: (quoted other ++ ':' :: (chars k ++ (memberChars ks ++ rest)))) plain (by omega)
      (by simp [Numeral.Ends])
    have members := readMembers_chars other k ks bound rest plains.1 plains.2 (by omega)
    simp [readMembers, readName_quoted, memberChars, value, members, skipBlanks, isBlank]

end

/-- **Printed documents are read back.** -/
theorem read?_print {j : Json} (plain : isPlain j = true) : read? (print j) = some j := by
  have value := readValue_chars j (2 * (chars j).length + 2) [] plain (by omega)
    (by simp [Numeral.Ends])
  rw [List.append_nil] at value
  simp [read?, print, value, skipBlanks]

end Json

end RowScope
