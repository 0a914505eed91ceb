import Mathlib.Data.List.DropRight
import RadioBoard.Version.Reader

/-!
Versions as text.

A version is written as three decimal numerals between dots. Main statement: it is read back from that text,
whatever white space and letters stand in front of it and whatever follows, as long as this does not go on with
the last numeral; and numerals that are too large for a version are not read as another one.
-/

namespace RadioBoard

namespace Text

theorem isBlank_of_isDigit {c : Char} (digit : c.isDigit = true) : isBlank c = false := by
  have range : 48 ≤ c.toNat ∧ c.toNat ≤ 57 := by
    simpa [Char.isDigit, UInt32.le_iff_toNat_le] using digit
  simp [isBlank, blankRanges]
  omega

theorem trim_blanks {blanks : List Char} (blank : ∀ c ∈ blanks, isBlank c = true) (cs : List Char) :
    trim (blanks ++ cs) = trim cs := by
  rw [trim, List.dropWhile_append_of_pos blank, trim]

theorem dropWhile_visible {word : List Char} (visible : ∀ c ∈ word, isBlank c = false) :
    word.dropWhile isBlank = word := by
  cases word with
  | nil => rfl
  | cons c rest =>
    apply List.dropWhile_cons_of_neg
    simp [visible c List.mem_cons_self]

/-- A text that starts with a word loses white space at its other end only. -/
theorem trim_append {word : List Char} (filled : word ≠ []) (visible : ∀ c ∈ word, isBlank c = false)
    (cs : List Char) : trim (word ++ cs) = word ++ cs.rdropWhile isBlank := by
  have front : (word ++ cs).dropWhile isBlank = word ++ cs := by
    rw [List.dropWhile_append, dropWhile_visible visible, if_neg]
    simpa using filled
  have back : (cs.reverse ++ word.reverse).dropWhile isBlank = cs.reverse.dropWhile isBlank ++ word.reverse := by
    rw [List.dropWhile_append, dropWhile_visible fun c listed => visible c (List.mem_reverse.mp listed)]
    split_ifs with blank
    · rw [List.isEmpty_iff.mp blank, List.nil_append]
    · rfl
  rw [trim, front, List.reverse_append, back, List.reverse_append, List.reverse_reverse]
  rfl

theorem trim_word {word : List Char} (visible : ∀ c ∈ word, isBlank c = false) : trim word = word := by
  rcases eq_or_ne word [] with rfl | filled
  · rfl
  · have plain := trim_append filled visible []
    rwa [List.rdropWhile_nil, List.append_nil] at plain

end Text

namespace Version

/-! The pieces between dots. -/

theorem pieces_eq_splitOn (separator : Char) (cs : List Char) : pieces separator cs = cs.splitOn separator := by
  induction cs with
  | nil => rfl
  | cons c cs ih =>
    rw [pieces, ih, List.splitOn_cons_eq_if_modifyHead]
    cases known : cs.splitOn separator with
    | nil => exact absurd known (List.splitOn_ne_nil separator cs)
    | cons piece rest =>
      simp only [beq_iff_eq, List.modifyHead_cons]

/-- The first piece ends where the first separator stands. -/
theorem splitOn_eq_cons (separator : Char) (cs : List Char) :
    ∃ rest, cs.splitOn separator = cs.takeWhile (· != separator) :: rest := by
  induction cs with
  | nil => exact ⟨[], rfl⟩
  | cons c cs ih =>
    obtain ⟨rest, split⟩ := ih
    rw [List.splitOn_cons_eq_if_modifyHead, split]
    by_cases same : c = separator
    · exact ⟨cs.takeWhile (· != separator) :: rest, by simp [same]⟩
    · exact ⟨rest, by simp [same]⟩

/-! Numerals. -/

/-- A plain decimal numeral, with zeros in front or without. -/
def IsNumeral (digits : List Char) : Prop := digits ≠ [] ∧ ∀ c ∈ digits, c.isDigit = true

/-- A text that does not go on with a numeral before it. -/
def Breaks (cs : List Char) : Prop := ∀ c ∈ cs.head?, c.isDigit = false

theorem decimal_eq (digits : List Char) : decimal digits = Nat.ofDigitChars 10 digits 0 :=
  Nat.ofDigitChars_eq_foldl.symm

theorem isNumeral_toDigits (n : Nat) : IsNumeral (Nat.toDigits 10 n) :=
  ⟨Nat.toDigits_ne_nil, fun _ listed => Nat.isDigit_of_mem_toDigits (by decide) (by decide) listed⟩

theorem numeral?_eq {digits : List Char} (numeral : IsNumeral digits) : numeral? digits =
    if Nat.ofDigitChars 10 digits 0 < 65536 then some (UInt16.ofNat (Nat.ofDigitChars 10 digits 0)) else none := by
  have filled : digits.isEmpty = false := List.isEmpty_eq_false_iff.mpr numeral.1
  have plain : digits.all Char.isDigit = true := List.all_eq_true.mpr numeral.2
  simp [numeral?, filled, plain, decimal_eq]

theorem numeral?_toDigits (n : UInt16) : numeral? (Nat.toDigits 10 n.toNat) = some n := by
  rw [numeral?_eq (isNumeral_toDigits _), Nat.ofDigitChars_ten_toDigits, if_pos n.toNat_lt, UInt16.ofNat_toNat]

theorem numeral?_of_large {digits : List Char} (numeral : IsNumeral digits)
    (large : 65535 < Nat.ofDigitChars 10 digits 0) : numeral? digits = none := by
  rw [numeral?_eq numeral, if_neg (by omega)]

theorem IsNumeral.visible {digits : List Char} (numeral : IsNumeral digits) :
    ∀ c ∈ digits, Text.isBlank c = false :=
  fun c listed => Text.isBlank_of_isDigit (numeral.2 c listed)

theorem IsNumeral.notMem {digits : List Char} (numeral : IsNumeral digits) {c : Char}
    (other : c.isDigit = false) : c ∉ digits :=
  fun listed => absurd (numeral.2 c listed) (by simp [other])

theorem component?_numeral {digits : List Char} (numeral : IsNumeral digits) :
    component? digits = numeral? digits := by
  rw [component?, Text.trim_word numeral.visible]
  cases digits with
  | nil => rfl
  | cons c rest =>
    split
    · rename_i same
      have signed : '+' ∈ c :: rest := by simp [List.cons.inj same]
      exact absurd signed (numeral.notMem (by decide))
    · rfl

theorem Breaks.mono {cs ds : List Char} (breaks : Breaks ds) (less : cs <+: ds) : Breaks cs := by
  obtain ⟨rest, rfl⟩ := less
  cases cs with
  | nil => simp [Breaks]
  | cons c cs => exact breaks

theorem breaks_nil : Breaks [] := by
  simp [Breaks]

theorem breaks_append {suffix blanks : List Char} (breaks : Breaks suffix)
    (blank : ∀ c ∈ blanks, Text.isBlank c = true) : Breaks (suffix ++ blanks) := by
  cases suffix with
  | cons c rest => exact breaks
  | nil =>
    intro c front
    by_contra digit
    have visible := Text.isBlank_of_isDigit (c := c) (by simpa using digit)
    exact absurd (blank c (List.mem_of_mem_head? front)) (by simp [visible])

/-- What follows the digits of the last component is not read. -/
theorem leading?_numeral {digits : List Char} (numeral : IsNumeral digits) {cs : List Char} (breaks : Breaks cs) :
    leading? (digits ++ cs) = numeral? digits := by
  have trimmed : Breaks (cs.rdropWhile Text.isBlank) := breaks.mono (List.rdropWhile_prefix _ cs)
  have stop : (cs.rdropWhile Text.isBlank).takeWhile Char.isDigit = [] := by
    cases known : cs.rdropWhile Text.isBlank with
    | nil => rfl
    | cons c rest =>
      rw [known] at trimmed
      apply List.takeWhile_cons_of_neg
      simp [trimmed c rfl]
  rw [leading?, Text.trim_append numeral.1 numeral.visible, List.takeWhile_append_of_pos numeral.2, stop,
    List.append_nil]

/-! Numerals between dots. -/

theorem mem_intercalate {numerals : List (List Char)} {c : Char} (listed : c ∈ ['.'].intercalate numerals) :
    c = '.' ∨ ∃ digits ∈ numerals, c ∈ digits := by
  induction numerals with
  | nil => exact absurd listed List.not_mem_nil
  | cons digits others ih =>
    cases others with
    | nil =>
      rw [List.intercalate_singleton] at listed
      exact .inr ⟨digits, List.mem_cons_self, listed⟩
    | cons next others =>
      rw [List.intercalate_cons_cons, List.append_assoc, List.mem_append, List.singleton_append,
        List.mem_cons] at listed
      rcases listed with own | rfl | later
      · exact .inr ⟨digits, List.mem_cons_self, own⟩
      · exact .inl rfl
      · exact (ih later).imp_right fun ⟨found, member, inside⟩ => ⟨found, List.mem_cons_of_mem _ member, inside⟩

section Dotted

variable {numerals : List (List Char)} (plain : ∀ digits ∈ numerals, IsNumeral digits)

include plain

theorem visible_dotted : ∀ c ∈ ['.'].intercalate numerals, Text.isBlank c = false := by
  intro c listed
  rcases mem_intercalate listed with rfl | ⟨digits, member, inside⟩
  · decide
  · exact (plain digits member).visible c inside

theorem letterless_dotted : 'v' ∉ ['.'].intercalate numerals := by
  intro listed
  rcases mem_intercalate listed with same | ⟨digits, member, inside⟩
  · exact absurd same (by decide)
  · exact (plain digits member).notMem (by decide) inside

theorem dotted_ne_nil (filled : numerals ≠ []) : ['.'].intercalate numerals ≠ [] := by
  cases numerals with
  | nil => exact absurd rfl filled
  | cons digits others =>
    have start : digits ≠ [] := (plain digits List.mem_cons_self).1
    cases others with
    | nil => rwa [List.intercalate_singleton]
    | cons next others => simp [List.intercalate_cons_cons, start]

/-- What is left of a dotted text without the white space around it and the letters in front. -/
theorem strip_dotted (filled : numerals ≠ []) {blanks : List Char} (blank : ∀ c ∈ blanks, Text.isBlank c = true)
    (n : Nat) (cs : List Char) :
    (Text.trim (blanks ++ (List.replicate n 'v' ++ ['.'].intercalate numerals ++ cs))).dropWhile (· == 'v') =
      ['.'].intercalate numerals ++ cs.rdropWhile Text.isBlank := by
  have start := dotted_ne_nil plain filled
  have letterless := letterless_dotted plain
  have letters : ∀ c ∈ List.replicate n 'v', (c == 'v') = true := by
    intro c listed
    simp [List.eq_of_mem_replicate listed]
  have visible : ∀ c ∈ List.replicate n 'v' ++ ['.'].intercalate numerals, Text.isBlank c = false := by
    intro c listed
    rcases List.mem_append.mp listed with letter | written
    · rw [List.eq_of_mem_replicate letter]
      decide
    · exact visible_dotted plain c written
  rw [Text.trim_blanks blank, Text.trim_append (List.append_ne_nil_of_right_ne_nil _ start) visible,
    List.append_assoc, List.dropWhile_append_of_pos letters]
  -- The dotted text starts with a digit, so that no more letters are taken off.
  apply List.dropWhile_beq_eq_self_of_head?_ne
  rw [List.head?_append_of_ne_nil _ start]
  exact fun front => letterless (List.mem_of_mem_head? front)

/-- A dotted text of numerals consists of them. -/
theorem pieces_dotted (filled : numerals ≠ []) :
    pieces '.' ((Text.trim (['.'].intercalate numerals)).dropWhile (· == 'v')) = numerals := by
  have blank : ∀ c ∈ ([] : List Char), Text.isBlank c = true := by simp
  have bare := strip_dotted plain filled blank 0 []
  simp only [List.nil_append, List.replicate_zero, List.append_nil, List.rdropWhile_nil] at bare
  rw [bare, pieces_eq_splitOn]
  exact List.splitOn_intercalate '.' (fun digits member => (plain digits member).notMem (by decide)) filled

end Dotted

/-! The two texts. -/

/-- The numerals that a version is written with. -/
def numerals (v : Version) : List (List Char) :=
  [Nat.toDigits 10 v.major.toNat, Nat.toDigits 10 v.minor.toNat, Nat.toDigits 10 v.patch.toNat]

theorem isNumeral_numerals (v : Version) : ∀ digits ∈ v.numerals, IsNumeral digits := by
  simp [numerals, isNumeral_toDigits]

theorem toList_text (v : Version) : v.text.toList = ['.'].intercalate v.numerals := by
  simp [text, toString, numerals, List.intercalate_cons_cons]

/-- The last piece of three goes on up to the next dot. -/
theorem pieces_three {a b c : List Char} (first : IsNumeral a) (second : IsNumeral b) (third : IsNumeral c)
    (cs : List Char) : ∃ rest, pieces '.' (['.'].intercalate [a, b, c] ++ cs) =
      a :: b :: (c ++ cs.takeWhile (· != '.')) :: rest := by
  have joined : ['.'].intercalate [a, b, c] ++ cs = a ++ '.' :: (b ++ '.' :: (c ++ cs)) := by
    simp [List.intercalate_cons_cons]
  have plain : ∀ x ∈ c, (x != '.') = true := by
    intro x listed
    have other : x ≠ '.' := fun same => third.notMem (c := '.') (by decide) (same ▸ listed)
    simpa using other
  obtain ⟨rest, split⟩ := splitOn_eq_cons '.' (c ++ cs)
  refine ⟨rest, ?_⟩
  rw [pieces_eq_splitOn, joined, List.splitOn_append_cons_self_of_not_mem (first.notMem (by decide)),
    List.splitOn_append_cons_self_of_not_mem (second.notMem (by decide)), split,
    List.takeWhile_append_of_pos plain]

/-- The version is read past white space and letters in front of it. -/
theorem parseChars_text (v : Version) {blanks cs : List Char} (blank : ∀ c ∈ blanks, Text.isBlank c = true)
    (n : Nat) (breaks : Breaks cs) :
    parseChars (blanks ++ (List.replicate n 'v' ++ v.text.toList ++ cs)) = some v := by
  have first := isNumeral_toDigits v.major.toNat
  have second := isNumeral_toDigits v.minor.toNat
  have third := isNumeral_toDigits v.patch.toNat
  obtain ⟨others, split⟩ := pieces_three first second third (cs.rdropWhile Text.isBlank)
  have stop : Breaks ((cs.rdropWhile Text.isBlank).takeWhile (· != '.')) :=
    breaks.mono ((List.takeWhile_prefix _).trans (List.rdropWhile_prefix _ cs))
  rw [parseChars, toList_text, strip_dotted (isNumeral_numerals v) (List.cons_ne_nil _ _) blank n, numerals, split]
  simp only [component?_numeral first, component?_numeral second, leading?_numeral third stop, numeral?_toDigits]
  rfl

/-- A numeral that is too large for its component is not read at all. -/
theorem parseChars_of_large {numerals : List (List Char)} (plain : ∀ digits ∈ numerals, IsNumeral digits)
    (large : ∃ digits ∈ numerals.take 3, 65535 < Nat.ofDigitChars 10 digits 0) :
    parseChars (['.'].intercalate numerals) = none := by
  obtain ⟨digits, listed, large⟩ := large
  have filled : numerals ≠ [] := List.ne_nil_of_mem (List.mem_of_mem_take listed)
  have own : IsNumeral digits := plain digits (List.mem_of_mem_take listed)
  have refused := numeral?_of_large own large
  have alone : leading? digits = none := by
    have read := leading?_numeral own breaks_nil
    rwa [List.append_nil, refused] at read
  rw [← component?_numeral own] at refused
  rw [parseChars, pieces_dotted plain filled]
  rcases numerals with _ | ⟨a, _ | ⟨b, _ | ⟨c, others⟩⟩⟩
  · exact absurd rfl filled
  · obtain rfl : digits = a := by simpa using listed
    simp [refused]
  · obtain rfl | rfl : digits = a ∨ digits = b := by simpa using listed
    · simp [refused]
    · simp [refused]
  · obtain rfl | rfl | rfl : digits = a ∨ digits = b ∨ digits = c := by simpa using listed
    · simp [refused]
    · simp [refused]
    · simp [alone]

/-- A version is read back from its text, with white space around it, letters in front and anything behind that does
not go on with its last numeral. Numerals of which one is too large for its component are no version. -/
theorem version_read_back :
    (∀ (v : Version) (before suffix after : String) (n : Nat), (∀ c ∈ before.toList, Text.isBlank c = true) →
      (∀ c ∈ after.toList, Text.isBlank c = true) → (∀ c ∈ suffix.toList.head?, c.isDigit = false) →
      parse (before ++ String.ofList (List.replicate n 'v') ++ v.text ++ suffix ++ after) = some v) ∧
    ∀ numerals : List String, (∀ numeral ∈ numerals, numeral ≠ "" ∧ ∀ c ∈ numeral.toList, c.isDigit = true) →
      (∃ numeral ∈ numerals.take 3, 65535 < Nat.ofDigitChars 10 numeral.toList 0) →
      parse (".".intercalate numerals) = none := by
  constructor
  · intro v before suffix after n blank blank' breaks
    have read := parseChars_text v blank n (breaks_append breaks blank')
    rw [parse]
    simpa only [String.toList_append, String.toList_ofList, List.append_assoc] using read
  · intro numerals plain large
    rw [parse, String.toList_intercalate]
    apply parseChars_of_large
    · intro digits listed
      obtain ⟨numeral, member, rfl⟩ := List.mem_map.mp listed
      obtain ⟨filled, digits⟩ := plain numeral member
      exact ⟨mt String.toList_eq_nil_iff.mp filled, digits⟩
    · obtain ⟨numeral, member, large⟩ := large
      exact ⟨numeral.toList, by rw [← List.map_take]; exact List.mem_map_of_mem member, large⟩

/-- A suffix that itself has digits, dots and spaces in it; and a second component with a zero in front that would
wrap to 4464. -/
theorem version_read_back_release :
    (∀ c ∈ " \t".toList, Text.isBlank c = true) ∧ (∀ c ∈ "\u00a0".toList, Text.isBlank c = true) ∧
      (∀ c ∈ "-git 2a.1b.7".toList.head?, c.isDigit = false) ∧
      parse (" \t" ++ String.ofList (List.replicate 2 'v') ++ (⟨2, 65535, 0⟩ : Version).text ++ "-git 2a.1b.7" ++
        "\u00a0") = some ⟨2, 65535, 0⟩ ∧
      (∀ numeral ∈ ["1", "070000"], numeral ≠ "" ∧ ∀ c ∈ numeral.toList, c.isDigit = true) ∧
      (∃ numeral ∈ ["1", "070000"].take 3, 65535 < Nat.ofDigitChars 10 numeral.toList 0) ∧
      parse (".".intercalate ["1", "070000"]) = none := by
  have blank : ∀ c ∈ " \t".toList, Text.isBlank c = true := by simp [Text.isBlank, Text.blankRanges]
  have blank' : ∀ c ∈ "\u00a0".toList, Text.isBlank c = true := by simp [Text.isBlank, Text.blankRanges]
  have breaks : ∀ c ∈ "-git 2a.1b.7".toList.head?, c.isDigit = false := by simp
  have plain : ∀ numeral ∈ ["1", "070000"], numeral ≠ "" ∧ ∀ c ∈ numeral.toList, c.isDigit = true := by simp
  have large : ∃ numeral ∈ ["1", "070000"].take 3, 65535 < Nat.ofDigitChars 10 numeral.toList 0 := by decide
  have read := version_read_back.1 ⟨2, 65535, 0⟩ " \t" "-git 2a.1b.7" "\u00a0" 2 blank blank' breaks
  exact ⟨blank, blank', breaks, read, plain, large, version_read_back.2 ["1", "070000"] plain large⟩

end Version

end RadioBoard
