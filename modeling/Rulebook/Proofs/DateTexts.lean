import Mathlib.Data.List.Basic
import Mathlib.Data.List.Induction
import Mathlib.Data.List.TakeWhile
import Rulebook.Calendar.Instant
import Rulebook.Proofs.Calendar
import Rulebook.Proofs.DigitTexts
import Rulebook.Proofs.Numerals

/-!
Dates in writing. A date is written with a year of four digits, a month and a day of two, hyphens
between them. As all are of one width, the order of such texts is the order of the dates. And of the
layouts for instants only the last one, which is for a date alone, takes such a text.
-/

namespace Rulebook

/-- Digits are no numeral if a hyphen comes after them. -/
theorem Decimal.read?_digits_hyphen (digits : Digits) (nonempty : digits.val ≠ [])
    (rest : List Char) : read? (digits.val ++ '-' :: rest) = none := by
  have unsigned : ∀ c ∈ (digits.val ++ '-' :: rest).head?, c ≠ '-' ∧ c ≠ '+' := by
    intro c first
    rw [List.head?_append_of_ne_nil _ nonempty] at first
    have digit : c.isDigit = true := digits.property c (List.mem_of_head? first)
    exact ⟨ne_of_isDigit digit rfl, ne_of_isDigit digit rfl⟩
  have signed : readSign (digits.val ++ '-' :: rest) = (false, digits.val ++ '-' :: rest) :=
    Sign.readSign_text .none unsigned
  have stops : ∀ c ∈ ('-' :: rest).head?, c.isDigit = false := by simp
  obtain ⟨taken, dropped⟩ := digits.span_append stops
  rw [read?, signed]
  simp only [taken, dropped]
  split <;> rfl

namespace Date

/-- Whether a date has a year of four digits, and a month and a day that could be some. -/
structure Writable (date : Date) : Prop where
  year : 0 ≤ date.year ∧ date.year < 10000
  month : 1 ≤ date.month ∧ date.month ≤ 12
  day : 1 ≤ date.day ∧ date.day ≤ 31

/-- A date in writing. -/
def text (date : Date) : List Char :=
  Text.padded 4 date.year.toNat ++
    '-' :: (Text.padded 2 date.month ++ '-' :: Text.padded 2 date.day)

example : text ⟨987, 6, 5⟩ = "0987-06-05".toList := by decide

/-- The characters of written dates. -/
theorem isDigit_or_hyphen_of_text {date : Date} {c : Char} (member : c ∈ date.text) :
    c.isDigit = true ∨ c = '-' := by
  simp only [text, List.mem_append, List.mem_cons] at member
  rcases member with year | hyphen | month | hyphen | day
  · exact .inl (Text.isDigit_of_mem_padded year)
  · exact .inr hyphen
  · exact .inl (Text.isDigit_of_mem_padded month)
  · exact .inr hyphen
  · exact .inl (Text.isDigit_of_mem_padded day)

theorem trim_text (date : Date) : Text.trim date.text = date.text := by
  apply Text.trim_of_unblank
  intro c member
  rcases isDigit_or_hyphen_of_text member with digit | rfl
  · exact Text.isBlank_of_isDigit digit
  · decide

/-- No number is read from a written date, for it goes on after the first digits. -/
theorem readNumber?_text (date : Date) : readNumber? date.text = none := by
  let year : Digits := ⟨Text.padded 4 date.year.toNat, fun _ => Text.isDigit_of_mem_padded⟩
  have nonempty : year.val ≠ [] := Text.padded_ne_nil (by decide) date.year.toNat
  rw [readNumber?_eq, trim_text, text, Decimal.read?_digits_hyphen year nonempty]
  rfl

namespace Writable

variable {date a b : Date}

theorem year_fits (writable : date.Writable) : date.year.toNat < 10 ^ 4 := by
  have bounds := writable.year
  omega

theorem month_fits (writable : date.Writable) : date.month < 10 ^ 2 := by
  have bounds := writable.month
  omega

theorem day_fits (writable : date.Writable) : date.day < 10 ^ 2 := by
  have bounds := writable.day
  omega

/-- Written dates are in the order of the dates. -/
theorem text_lt_iff (writable : a.Writable) (otherWritable : b.Writable) :
    a.text < b.text ↔ a.Before b := by
  have lengths (width n m : Nat) : (Text.padded width n).length = (Text.padded width m).length := by
    rw [Text.length_padded, Text.length_padded]
  have years : Text.padded 4 a.year.toNat = Text.padded 4 b.year.toNat ↔
      a.year.toNat = b.year.toNat :=
    ⟨Text.padded_inj writable.year_fits otherWritable.year_fits, congrArg _⟩
  have months : Text.padded 2 a.month = Text.padded 2 b.month ↔ a.month = b.month :=
    ⟨Text.padded_inj writable.month_fits otherWritable.month_fits, congrArg _⟩
  have hyphen : ¬ '-' < '-' := by decide
  rw [text, text, Text.append_lt_append_iff (lengths _ _ _), List.cons_lt_cons_iff,
    Text.append_lt_append_iff (lengths _ _ _), List.cons_lt_cons_iff, years, months,
    Text.padded_lt_iff writable.year_fits otherWritable.year_fits,
    Text.padded_lt_iff writable.month_fits otherWritable.month_fits,
    Text.padded_lt_iff writable.day_fits otherWritable.day_fits, Before]
  have bounds := writable.year
  have otherBounds := otherWritable.year
  simp only [hyphen, false_or, true_and]
  omega

theorem text_inj (writable : a.Writable) (otherWritable : b.Writable)
    (same : a.text = b.text) : a = b := by
  rcases before_or_eq_or_before a b with before | equal | after
  · rw [← writable.text_lt_iff otherWritable, same] at before
    exact absurd before (List.lt_irrefl _)
  · exact equal
  · rw [← otherWritable.text_lt_iff writable, same] at after
    exact absurd after (List.lt_irrefl _)

/-- For days that there are, it is the order of the day numbers. -/
theorem text_lt_iff_dayNumber_lt (writable : a.Writable) (otherWritable : b.Writable)
    (occurs : a.Occurs) (otherOccurs : b.Occurs) : a.text < b.text ↔ a.dayNumber < b.dayNumber := by
  rw [writable.text_lt_iff otherWritable, dayNumber_lt_iff occurs otherOccurs]

end Writable

/-- Whether a text is a date in writing. -/
structure IsWrittenAs (date : Date) (text : String) : Prop where
  writable : date.Writable
  written : text.toList = date.text

end Date

namespace Instant

open Text

/-- Digits of the full width are read, whatever comes after them. -/
theorem readDigits?_padded {least width n : Nat} (enough : least ≤ width) (fits : n < 10 ^ width)
    (rest : List Char) : readDigits? least width (padded width n ++ rest) = some (n, rest) := by
  have length := length_padded width n
  have taken : ((padded width n ++ rest).take width).takeWhile Char.isDigit = padded width n := by
    rw [List.take_left' length, List.takeWhile_eq_self_iff]
    exact fun c => isDigit_of_mem_padded
  rw [readDigits?, taken, length, if_pos enough, List.drop_left' length, ofDigitChars_padded fits]

theorem exists_padded_eq_cons {width : Nat} (positive : 0 < width) (n : Nat) :
    ∃ c rest, padded width n = c :: rest ∧ c.isDigit = true := by
  obtain ⟨c, rest, split⟩ := List.exists_cons_of_ne_nil (padded_ne_nil positive n)
  exact ⟨c, rest, split, isDigit_of_mem_padded (by rw [split]; exact List.mem_cons_self)⟩

theorem trimStart_padded {width n : Nat} (positive : 0 < width) (rest : List Char) :
    trimStart (padded width n ++ rest) = padded width n ++ rest := by
  obtain ⟨c, others, split, digit⟩ := exists_padded_eq_cons positive n
  rw [split, List.cons_append, trimStart, List.dropWhile_cons_of_neg]
  rw [isBlank_of_isDigit digit]
  decide

theorem readYear?_padded {n : Nat} (fits : n < 10 ^ Field.year.width) (rest : List Char) :
    readYear? (padded Field.year.width n ++ rest) = some ((n : Int), rest) := by
  have positive : 0 < Field.year.width := by decide
  have read := readDigits?_padded positive fits rest
  obtain ⟨c, others, split, digit⟩ := exists_padded_eq_cons positive n
  rw [split, List.cons_append] at read ⊢
  -- A digit is no sign, so the year has at most four digits.
  unfold readYear?
  split
  · rename_i same
    cases same
    cases digit
  · rename_i same
    cases same
    cases digit
  · rw [read]
    rfl

theorem read?_exact (field : Field) {n : Nat} (fits : n < 10 ^ field.width) (reading : Reading)
    (rest : List Char) :
    Part.read? reading (padded field.width n ++ rest) (.exact field) =
      some (reading.set n field, rest) := by
  rw [Part.read?, readDigits?_padded (Nat.le_refl _) fits]
  rfl

theorem read?_loose (field : Field) {n : Nat} (fits : n < 10 ^ field.width) (reading : Reading)
    (rest : List Char) :
    Part.read? reading (padded field.width n ++ rest) (.loose field) =
      some (reading.set n field, rest) := by
  have positive : 0 < field.width := by cases field <;> decide
  by_cases year : field = .year
  · subst year
    rw [Part.read?, trimStart_padded positive, readYear?_padded fits]
    rfl
  · rw [Part.read?, trimStart_padded positive, readDigits?_padded positive fits]
    · rfl
    · exact year

/-- What has been read, with the date read as well. -/
def Reading.on (reading : Reading) (date : Date) : Reading :=
  { reading with year := date.year, month := date.month, day := date.day }

@[simp]
theorem Reading.date_on (reading : Reading) (date : Date) : (reading.on date).date = date :=
  rfl

/-- The parts of a date, year, month and day read in one way. -/
def dateParts (shape : Field → Part) : Layout :=
  [shape .year, .mark ['-'], shape .month, .mark ['-'], shape .day]

theorem Layout.read?_cons {reading next : Reading} {text rest : List Char} {part : Part}
    (read : part.read? reading text = some (next, rest)) (parts : Layout) :
    Layout.read? reading text (part :: parts) = Layout.read? next rest parts := by
  rw [Layout.read?, read]
  rfl

theorem read?_mark {c : Char} {choices : List Char} (listed : c ∈ choices) (reading : Reading)
    (rest : List Char) : Part.read? reading (c :: rest) (.mark choices) = some (reading, rest) := by
  rw [Part.read?, if_pos (List.contains_iff_mem.mpr listed)]

/-- A written date is read off, in either way, and the layout goes on with what comes after it. -/
theorem read?_dateParts {shape : Field → Part}
    (reads : ∀ field n, n < 10 ^ field.width → ∀ reading rest,
      Part.read? reading (padded field.width n ++ rest) (shape field) =
        some (reading.set n field, rest))
    {date : Date} (writable : date.Writable) (reading : Reading) (rest : List Char)
    (parts : Layout) :
    Layout.read? reading (date.text ++ rest) (dateParts shape ++ parts) =
      Layout.read? (reading.on date) rest parts := by
  have split : date.text ++ rest = padded Field.year.width date.year.toNat ++
      '-' :: (padded Field.month.width date.month ++
        '-' :: (padded Field.day.width date.day ++ rest)) := by
    simp [Date.text, Field.width]
  have year : ((date.year.toNat : Nat) : Int) = date.year := Int.toNat_of_nonneg writable.year.1
  simp only [split, dateParts, List.cons_append, List.nil_append]
  rw [Layout.read?_cons (reads .year _ writable.year_fits _ _),
    Layout.read?_cons (read?_mark (by simp) _ _),
    Layout.read?_cons (reads .month _ writable.month_fits _ _),
    Layout.read?_cons (read?_mark (by simp) _ _),
    Layout.read?_cons (reads .day _ writable.day_fits _ _)]
  simp only [Reading.set, Reading.on, year, Int.toNat_natCast]

section Layouts

variable {date : Date} (writable : date.Writable)

include writable

theorem read?_zoned (reading : Reading) (rest : List Char) :
    Layout.read? reading (date.text ++ rest) zoned =
      Layout.read? (reading.on date) rest (zoned.drop 5) :=
  read?_dateParts read?_exact writable reading rest (zoned.drop 5)

theorem read?_plainDate (reading : Reading) (rest : List Char) (parts : Layout) :
    Layout.read? reading (date.text ++ rest) (plainDate ++ parts) =
      Layout.read? (reading.on date) rest parts :=
  read?_dateParts read?_loose writable reading rest parts

theorem read?_plainDate_text (reading : Reading) (parts : Layout) :
    Layout.read? reading date.text (plainDate ++ parts) =
      Layout.read? (reading.on date) [] parts := by
  have read := read?_plainDate writable reading [] parts
  rwa [List.append_nil] at read

/-- The first layout wants a time after the date. -/
theorem ofLayout?_zoned : ofLayout? date.text zoned = none := by
  have read := read?_zoned writable {} []
  rw [List.append_nil] at read
  rw [ofLayout?, read]
  rfl

/-- A layout with a time does not end with the date. -/
theorem ofLayout?_timed {parts : Layout}
    (timed : ∀ reading, Layout.read? reading [] parts = none) :
    ofLayout? date.text (plainDate ++ parts) = none := by
  rw [ofLayout?, read?_plainDate_text writable, timed]
  rfl

theorem ofLayout?_plainDate :
    ofLayout? date.text plainDate =
      if date.isValid then some (86400000 * date.dayNumber) else none := by
  have read : Layout.read? {} date.text plainDate = some (Reading.on {} date) :=
    read?_plainDate_text writable {} []
  have moment : (Reading.on {} date).isMoment = date.isValid := by
    rw [Reading.isMoment, Reading.date_on]
    simp [Reading.on]
  have millis : (Reading.on {} date).millis = 86400000 * date.dayNumber := by
    rw [Reading.millis, Reading.date_on]
    simp only [Reading.on]
    omega
  rw [ofLayout?, read, Option.filter_some, moment]
  cases date.isValid
  · rfl
  · exact congrArg some millis

/-- Of the layouts only the last one, which has nothing after the date, gives an instant. -/
theorem read?_text :
    read? date.text = if date.isValid then some (86400000 * date.dayNumber) else none := by
  have seconds : ofLayout? date.text (plainDate ++ [.mark ['T']] ++ clockWithSeconds) = none := by
    rw [List.append_assoc]
    exact ofLayout?_timed writable fun _ => rfl
  have spaced : ofLayout? date.text (plainDate ++ [.blanks] ++ clockWithSeconds) = none := by
    rw [List.append_assoc]
    exact ofLayout?_timed writable fun _ => rfl
  have minutes : ofLayout? date.text (plainDate ++ [.mark ['T']] ++ clock) = none := by
    rw [List.append_assoc]
    exact ofLayout?_timed writable fun _ => rfl
  simp only [read?, layouts, date.trim_text, List.findSome?_cons, ofLayout?_zoned writable,
    seconds, spaced, minutes, ofLayout?_plainDate writable, List.findSome?_nil]
  cases date.isValid <;> rfl

/-- A written date is an instant when there is such a day, the one at which it begins. -/
theorem read?_text_eq_some_iff {millis : Int} :
    read? date.text = some millis ↔ date.Occurs ∧ millis = 86400000 * date.dayNumber := by
  have bounds := writable.year
  have least : Date.firstYear ≤ date.year := by
    rw [Date.firstYear]
    omega
  have most : date.year ≤ Date.lastYear := by
    rw [Date.lastYear]
    omega
  rw [read?_text writable, ← Date.isValid_iff least most]
  cases date.isValid
  · simp
  · simp [eq_comm]

end Layouts

end Instant

end Rulebook
