import Rulebook.Proofs.DateTexts
import Rulebook.Proofs.DigitPatterns
import Rulebook.Proofs.Limits

/-!
Date formats. The format for a date alone accepts the texts that dates are written as, real or not,
and the format for dates with or without a time accepts them too. As limits such texts are instants,
and the order of the instants is the order of the texts.
-/

namespace Rulebook

namespace Format

variable {text : List Char}

theorem matches_month :
    monthPattern.Matches text ↔ ∃ n, (1 ≤ n ∧ n ≤ 12) ∧ text = Text.padded 2 n := by
  have early := matches_twoDigits 0 0 1 9 (by decide) text
  have late := matches_twoDigits 1 1 0 2 (by decide) text
  refine (or_congr early late).trans ?_
  rw [← exists_or]
  refine exists_congr fun n => ?_
  rw [← or_and_right]
  exact and_congr_left fun _ => by omega

theorem matches_day :
    dayPattern.Matches text ↔ ∃ n, (1 ≤ n ∧ n ≤ 31) ∧ text = Text.padded 2 n := by
  have middle := matches_twoDigits 1 2 0 9 (by decide) text
  have early := matches_twoDigits 0 0 1 9 (by decide) text
  have late := matches_twoDigits 3 3 0 1 (by decide) text
  refine (or_congr middle (or_congr early late)).trans ?_
  rw [← exists_or, ← exists_or]
  refine exists_congr fun n => ?_
  rw [← or_and_right, ← or_and_right]
  exact and_congr_left fun _ => by omega

/-- What the format for a date alone accepts, are dates in writing. -/
theorem accepts_dateOnly_iff :
    dateOnly.accepts text = true ↔ ∃ date : Date, date.Writable ∧ text = date.text := by
  have free : dateOnlyPattern.isFree = true := by decide
  rw [accepts, Plain.covers_iff free, dateOnlyPattern]
  simp only [Plain.matches_sequence_cons, matches_anyDigits, matches_char, matches_month, matches_day]
  constructor
  · rintro ⟨_, _, rfl, ⟨year, fits, rfl⟩, _, _, rfl, rfl, _, _, rfl, ⟨month, inYear, rfl⟩, _, _,
      rfl, rfl, _, _, rfl, ⟨day, inMonth, rfl⟩, rfl⟩
    have fourDigits : 0 ≤ (year : Int) ∧ (year : Int) < 10000 := by omega
    refine ⟨⟨year, month, day⟩, ⟨fourDigits, inYear, inMonth⟩, ?_⟩
    simp [Date.text]
  · rintro ⟨date, writable, rfl⟩
    exact ⟨_, _, rfl, ⟨_, writable.year_fits, rfl⟩, ['-'], _, rfl, rfl, _, _, rfl,
      ⟨_, writable.month, rfl⟩, ['-'], _, rfl, rfl, _, [], (List.append_nil _).symm,
      ⟨_, writable.day, rfl⟩, rfl⟩

/-- With the time left out, a date in writing is a date. -/
theorem accepts_date_text {date : Date} (writable : date.Writable) :
    Format.date.accepts date.text = true := by
  have free : datePattern.isFree = true := by decide
  have hyphen : (optional (char '-')).Matches ['-'] :=
    matches_optional.mpr (.inr (matches_char.mpr rfl))
  have month : monthPattern.Matches (Text.padded 2 date.month) :=
    matches_month.mpr ⟨_, writable.month, rfl⟩
  have day : (optional (.seq (optional (char '-')) dayPattern)).Matches
      ('-' :: Text.padded 2 date.day) :=
    matches_optional.mpr (.inr ⟨['-'], _, rfl, hyphen, matches_day.mpr ⟨_, writable.day, rfl⟩⟩)
  have monthAndDay : monthAndDayPattern.Matches
      ('-' :: (Text.padded 2 date.month ++ '-' :: Text.padded 2 date.day)) :=
    .inl ⟨['-'], _, rfl, hyphen, _, _, rfl, month, day⟩
  rw [accepts, Plain.covers_iff free, datePattern]
  simp only [Plain.matches_sequence_cons, matches_anyDigits, matches_optional]
  exact ⟨_, _, rfl, ⟨_, writable.year_fits, rfl⟩, _, [], (List.append_nil _).symm, monthAndDay,
    [], [], rfl, .inl rfl, [], [], rfl, .inl rfl, rfl⟩

end Format

namespace Date

open Clause

namespace IsWrittenAs

variable {date other : Date} {text otherText : String}

theorem read?_eq_some_iff (written : date.IsWrittenAs text) {millis : Int} :
    Instant.read? text.toList = some millis ↔
      date.Occurs ∧ millis = 86400000 * date.dayNumber := by
  rw [written.written]
  exact Instant.read?_text_eq_some_iff written.writable

theorem isSome_read?_iff (written : date.IsWrittenAs text) :
    (Instant.read? text.toList).isSome = true ↔ date.Occurs := by
  rw [Option.isSome_iff_exists]
  constructor
  · rintro ⟨millis, read⟩
    exact (written.read?_eq_some_iff.mp read).1
  · intro occurs
    exact ⟨_, written.read?_eq_some_iff.mpr ⟨occurs, rfl⟩⟩

/-- A day in writing, as a limit. -/
def dateLimit (written : date.IsWrittenAs text) (occurs : date.Occurs) : DateLimit where
  text := text
  millis := 86400000 * date.dayNumber
  unspelled := by
    rw [written.written]
    exact date.readNumber?_text
  instant := written.read?_eq_some_iff.mpr ⟨occurs, rfl⟩

theorem exists_read_limit (written : date.IsWrittenAs text) (occurs : date.Occurs) (side : Side) :
    ∃ clause, Clause.read (limitOpening side ++ text).toList = .ok clause :=
  ⟨_, read_limit side
    (.instant (written.dateLimit occurs).unspelled (written.dateLimit occurs).instant)⟩

/-- A day against another as a limit, both in writing. -/
theorem clears_iff (written : date.IsWrittenAs text) (occurs : date.Occurs)
    (otherWritten : other.IsWrittenAs otherText) (otherOccurs : other.Occurs) (declared : Declared)
    (side : Side) :
    Clears declared (.string text) (limitOpening side ++ otherText) ↔
      side.admits (fun x y => decide (x ≤ y)) other.dayNumber date.dayNumber = true := by
  have instant : (Value.string text).instant? = some (86400000 * date.dayNumber) :=
    written.read?_eq_some_iff.mpr ⟨occurs, rfl⟩
  refine (clears_dateLimit_iff_of_instant instant side
    (otherWritten.dateLimit otherOccurs)).trans ?_
  cases side <;> simp [Side.admits, dateLimit]

theorem le_iff (written : date.IsWrittenAs text) (occurs : date.Occurs)
    (otherWritten : other.IsWrittenAs otherText) (otherOccurs : other.Occurs) :
    text ≤ otherText ↔ date.dayNumber ≤ other.dayNumber := by
  rw [← String.not_lt, String.lt_iff, written.written, otherWritten.written,
    otherWritten.writable.text_lt_iff_dayNumber_lt written.writable otherOccurs occurs,
    Int.not_lt]

end IsWrittenAs

/-- What the format for a date alone accepts is a date in writing, and so does the format for dates
accept it. It is read as the instant at which the day begins, if there is that day. And one such
text clears another as a limit when the texts are in order. -/
theorem written_dates_agree :
    (∀ text : String, Format.dateOnly.accepts text.toList = true →
      Format.date.accepts text.toList = true ∧ (∃! date : Date, date.IsWrittenAs text) ∧
        ∀ date : Date, date.IsWrittenAs text →
          ((Instant.read? text.toList).isSome = true ↔ date.Occurs) ∧
          (date.Occurs → (∃ days, date.DaysFromEpoch days) ∧
            ∀ days, date.DaysFromEpoch days →
              Instant.read? text.toList = some (86400000 * days))) ∧
    ∀ (a b : String) (first second : Date), first.IsWrittenAs a → second.IsWrittenAs b →
      first.Occurs → second.Occurs →
        (∃ clause, Clause.read ("min:" ++ b).toList = .ok clause) ∧
        (∃ clause, Clause.read ("max:" ++ b).toList = .ok clause) ∧
        ∀ declared, (Clears declared (.string a) ("min:" ++ b) ↔ b ≤ a) ∧
          (Clears declared (.string a) ("max:" ++ b) ↔ a ≤ b) := by
  constructor
  · intro text accepted
    obtain ⟨date, writable, written⟩ := Format.accepts_dateOnly_iff.mp accepted
    refine ⟨?_, ⟨date, ⟨writable, written⟩, ?_⟩, ?_⟩
    · rw [written]
      exact Format.accepts_date_text writable
    · intro other otherWritten
      apply otherWritten.writable.text_inj writable
      rw [← otherWritten.written, written]
    · intro date written
      refine ⟨written.isSome_read?_iff, ?_⟩
      intro occurs
      refine ⟨⟨_, (daysFromEpoch_iff occurs).mpr rfl⟩, ?_⟩
      intro days counted
      exact written.read?_eq_some_iff.mpr ⟨occurs, by rw [(daysFromEpoch_iff occurs).mp counted]⟩
  · intro a b first second written otherWritten occurs otherOccurs
    refine ⟨otherWritten.exists_read_limit otherOccurs .least,
      otherWritten.exists_read_limit otherOccurs .most, ?_⟩
    intro declared
    have clears := written.clears_iff occurs otherWritten otherOccurs declared
    rw [otherWritten.le_iff otherOccurs written occurs,
      written.le_iff occurs otherWritten otherOccurs]
    exact ⟨(clears .least).trans decide_eq_true_iff, (clears .most).trans decide_eq_true_iff⟩

theorem written_dates_agree_leap_day :
    Format.dateOnly.accepts "2024-02-29".toList = true ∧
      IsWrittenAs ⟨2024, 2, 29⟩ "2024-02-29" ∧ IsWrittenAs ⟨2023, 3, 1⟩ "2023-03-01" ∧
      Occurs ⟨2024, 2, 29⟩ ∧ Occurs ⟨2023, 3, 1⟩ ∧ DaysFromEpoch ⟨2024, 2, 29⟩ 19782 ∧
      Format.date.accepts "2024-02-29".toList = true ∧
      Instant.read? "2024-02-29".toList = some (86400000 * 19782) ∧
      Clears .nothing (.string "2024-02-29") ("min:" ++ "2023-03-01") ∧
      ¬Clears .nothing (.string "2024-02-29") ("max:" ++ "2023-03-01") := by
  have written : IsWrittenAs ⟨2024, 2, 29⟩ "2024-02-29" :=
    ⟨⟨by decide, by decide, by decide⟩, by decide⟩
  have otherWritten : IsWrittenAs ⟨2023, 3, 1⟩ "2023-03-01" :=
    ⟨⟨by decide, by decide, by decide⟩, by decide⟩
  have occurs : Occurs ⟨2024, 2, 29⟩ := ⟨by decide, by decide⟩
  have otherOccurs : Occurs ⟨2023, 3, 1⟩ := ⟨by decide, by decide⟩
  have accepted : Format.dateOnly.accepts "2024-02-29".toList = true :=
    Format.accepts_dateOnly_iff.mpr ⟨_, written.writable, written.written⟩
  have counted : DaysFromEpoch ⟨2024, 2, 29⟩ 19782 := (daysFromEpoch_iff occurs).mpr (by decide)
  obtain ⟨alsoAccepted, -, dates⟩ := written_dates_agree.1 "2024-02-29" accepted
  have read := ((dates _ written).2 occurs).2 19782 counted
  obtain ⟨-, -, clears⟩ := written_dates_agree.2 _ _ _ _ written otherWritten occurs otherOccurs
  refine ⟨accepted, written, otherWritten, occurs, otherOccurs, counted, alsoAccepted, read, ?_, ?_⟩
  · exact (clears .nothing).1.mpr (by decide)
  · exact fun cleared => absurd ((clears .nothing).2.mp cleared) (by decide)

end Date

end Rulebook
