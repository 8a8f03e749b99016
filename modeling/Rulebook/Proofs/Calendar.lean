import Mathlib.Logic.Function.Iterate
import Mathlib.Order.Monotone.Basic
import Mathlib.Tactic.IntervalCases
import Rulebook.Calendar.Date

/-!
The calendar and day numbers. Which days there are and which day comes after which is told by the
rule of the calendar; day numbers are computed in closed form, and count just these steps. So they
put the days in their order.
-/

namespace Rulebook

namespace Date

/-- Every fourth year is a leap year, but of those that end a century only every fourth. -/
def IsLeapYear (year : Int) : Prop :=
  4 ∣ year ∧ (¬100 ∣ year ∨ 400 ∣ year)

instance (year : Int) : Decidable (IsLeapYear year) :=
  inferInstanceAs (Decidable (_ ∧ _))

def monthLength (year : Int) (month : Nat) : Nat :=
  if month = 2 then if IsLeapYear year then 29 else 28
  else if month ∈ [4, 6, 9, 11] then 30
  else 31

/-- Whether the month has the day. -/
structure Occurs (date : Date) : Prop where
  month : 1 ≤ date.month ∧ date.month ≤ 12
  day : 1 ≤ date.day ∧ date.day ≤ monthLength date.year date.month

/-- The day after. -/
def next (date : Date) : Date :=
  if date.day < monthLength date.year date.month then ⟨date.year, date.month, date.day + 1⟩
  else if date.month < 12 then ⟨date.year, date.month + 1, 1⟩
  else ⟨date.year + 1, 1, 1⟩

example : next ⟨2023, 2, 28⟩ = ⟨2023, 3, 1⟩ := by decide

/-- Which of two days comes first. -/
def Before (a b : Date) : Prop :=
  a.year < b.year ∨ (a.year = b.year ∧
    (a.month < b.month ∨ (a.month = b.month ∧ a.day < b.day)))

def unixEpoch : Date :=
  ⟨1970, 1, 1⟩

/-- How many days a day comes after 1970-01-01, counted one after the other. -/
def DaysFromEpoch (date : Date) (days : Int) : Prop :=
  ∃ count : Nat, (days = count ∧ next^[count] unixEpoch = date) ∨
    (days = -count ∧ next^[count] date = unixEpoch)

theorem isLeap_iff {year : Int} : isLeap year = true ↔ IsLeapYear year := by
  simp only [isLeap, IsLeapYear, Bool.and_eq_true, Bool.or_eq_true, beq_iff_eq, bne_iff_ne]
  omega

theorem monthLength_pos (year : Int) (month : Nat) : 1 ≤ monthLength year month := by
  rw [monthLength]
  split_ifs <;> decide

theorem getElem?_monthLengths {year : Int} {month : Nat} (bounds : 1 ≤ month ∧ month ≤ 12) :
    (monthLengths year)[month - 1]? = some (monthLength year month) := by
  obtain ⟨least, most⟩ := bounds
  interval_cases month <;> simp [monthLengths, monthLength, isLeap_iff]

/-- Among the years that there are at all, the days of the calendar are the valid ones. -/
theorem isValid_iff {date : Date} (least : firstYear ≤ date.year) (most : date.year ≤ lastYear) :
    date.isValid = true ↔ date.Occurs := by
  simp only [isValid, least, most, decide_true, Bool.true_and, Bool.and_eq_true, decide_eq_true_eq,
    Option.any_eq_true]
  constructor
  · rintro ⟨⟨month, day⟩, length, found, short⟩
    obtain ⟨listed, _⟩ := List.getElem?_eq_some_iff.mp found
    have twelve : (monthLengths date.year).length = 12 := rfl
    have bounds : 1 ≤ date.month ∧ date.month ≤ 12 := by omega
    rw [getElem?_monthLengths bounds] at found
    cases found
    exact ⟨bounds, day, short⟩
  · rintro ⟨month, day, short⟩
    exact ⟨⟨month.1, day⟩, _, getElem?_monthLengths month, short⟩

theorem daysBeforeMonth_succ {year : Int} {month : Nat} (bounds : 1 ≤ month ∧ month ≤ 12) :
    daysBeforeMonth year (month + 1) = daysBeforeMonth year month + monthLength year month := by
  obtain ⟨before, rfl⟩ : ∃ before, month = before + 1 := ⟨month - 1, by omega⟩
  have last : (monthLengths year)[before]? = some (monthLength year (before + 1)) :=
    getElem?_monthLengths bounds
  simp only [daysBeforeMonth, Nat.add_sub_cancel, List.take_add_one, last, List.foldl_append,
    Option.toList, List.foldl_cons, List.foldl_nil]

theorem daysBeforeMonth_one (year : Int) : daysBeforeMonth year 1 = 0 :=
  rfl

theorem daysBeforeMonth_mono {year : Int} {month later : Nat} (least : 1 ≤ month)
    (ordered : month ≤ later) (most : later ≤ 13) :
    daysBeforeMonth year month ≤ daysBeforeMonth year later := by
  induction later, ordered using Nat.le_induction with
  | base => exact Nat.le_refl _
  | succ between after ih =>
      rw [daysBeforeMonth_succ ⟨by omega, by omega⟩]
      exact Nat.le_trans (ih (by omega)) (Nat.le_add_right _ _)

/-- The days of all twelve months are the days of the year. -/
theorem daysBeforeYear_succ (year : Int) :
    daysBeforeYear (year + 1) = daysBeforeYear year + daysBeforeMonth year 13 := by
  have days : daysBeforeMonth year 13 = if isLeap year then 366 else 365 := by
    rw [daysBeforeMonth, monthLengths]
    split <;> rfl
  rw [days, daysBeforeYear, daysBeforeYear]
  split_ifs with leap
  · rw [isLeap_iff, IsLeapYear] at leap
    omega
  · rw [isLeap_iff, IsLeapYear] at leap
    omega

theorem daysBeforeYear_mono {year later : Int} (ordered : year ≤ later) :
    daysBeforeYear year ≤ daysBeforeYear later := by
  rw [daysBeforeYear, daysBeforeYear]
  omega

theorem Occurs.next {date : Date} (occurs : date.Occurs) : date.next.Occurs := by
  obtain ⟨month, day⟩ := occurs
  rw [Date.next]
  split_ifs with inMonth inYear
  · exact ⟨month, by simp, inMonth⟩
  · exact ⟨⟨by simp, inYear⟩, by simp, monthLength_pos _ _⟩
  · exact ⟨by simp, by simp, monthLength_pos _ _⟩

/-- The day after has the next number. -/
theorem dayNumber_next {date : Date} (occurs : date.Occurs) :
    date.next.dayNumber = date.dayNumber + 1 := by
  obtain ⟨month, day⟩ := occurs
  rw [Date.next]
  split_ifs with inMonth inYear
  · simp only [dayNumber]
    omega
  · have later : daysBeforeMonth date.year (date.month + 1) =
        daysBeforeMonth date.year date.month + monthLength date.year date.month :=
      daysBeforeMonth_succ month
    simp only [dayNumber, later]
    omega
  · have december : date.month = 12 := by omega
    have year := daysBeforeYear_succ date.year
    have months : daysBeforeMonth date.year 13 =
        daysBeforeMonth date.year 12 + monthLength date.year 12 :=
      daysBeforeMonth_succ ⟨by decide, by decide⟩
    rw [december] at day inMonth
    simp only [dayNumber, year, daysBeforeMonth_one, december]
    omega

theorem occurs_unixEpoch : unixEpoch.Occurs :=
  ⟨by decide, by decide⟩

/-- Along the days that follow each other the numbers count up. -/
theorem Occurs.iterate_next {date : Date} (occurs : date.Occurs) (count : Nat) :
    (Date.next^[count] date).Occurs ∧
      (Date.next^[count] date).dayNumber = date.dayNumber + count := by
  induction count with
  | zero => exact ⟨occurs, (Int.add_zero _).symm⟩
  | succ count ih =>
      rw [Function.iterate_succ_apply']
      refine ⟨ih.1.next, ?_⟩
      rw [dayNumber_next ih.1, ih.2]
      omega

theorem before_or_eq_or_before (a b : Date) : a.Before b ∨ a = b ∨ b.Before a := by
  rw [Before, Before, Date.mk.injEq]
  omega

theorem dayNumber_lt_of_before {a b : Date} (occurs : a.Occurs) (otherOccurs : b.Occurs)
    (before : a.Before b) : a.dayNumber < b.dayNumber := by
  obtain ⟨month, day⟩ := occurs
  obtain ⟨otherMonth, otherDay⟩ := otherOccurs
  -- The first day belongs to its month, which ends before the other day begins.
  have inMonth : (daysBeforeMonth a.year a.month : Int) + (a.day - 1 : Int) <
      daysBeforeMonth a.year (a.month + 1) := by
    rw [daysBeforeMonth_succ month]
    omega
  rw [dayNumber, dayNumber]
  rcases before with year | ⟨year, month' | ⟨month', day'⟩⟩
  · have months : daysBeforeMonth a.year (a.month + 1) ≤ daysBeforeMonth a.year 13 :=
      daysBeforeMonth_mono (by omega) (by omega) (by omega)
    have next := daysBeforeYear_succ a.year
    have years : daysBeforeYear (a.year + 1) ≤ daysBeforeYear b.year :=
      daysBeforeYear_mono (by omega)
    omega
  · have months : daysBeforeMonth a.year (a.month + 1) ≤ daysBeforeMonth a.year b.month :=
      daysBeforeMonth_mono (by omega) (by omega) (by omega)
    rw [← year]
    omega
  · rw [← year, ← month']
    omega

theorem dayNumber_lt_iff {a b : Date} (occurs : a.Occurs) (otherOccurs : b.Occurs) :
    a.dayNumber < b.dayNumber ↔ a.Before b := by
  constructor
  · intro less
    rcases before_or_eq_or_before a b with before | rfl | after
    · exact before
    · exact absurd less (Int.lt_irrefl _)
    · have greater := dayNumber_lt_of_before otherOccurs occurs after
      omega
  · exact dayNumber_lt_of_before occurs otherOccurs

theorem dayNumber_inj {a b : Date} (occurs : a.Occurs) (otherOccurs : b.Occurs)
    (same : a.dayNumber = b.dayNumber) : a = b := by
  rcases before_or_eq_or_before a b with before | equal | after
  · have less := dayNumber_lt_of_before occurs otherOccurs before
    omega
  · exact equal
  · have less := dayNumber_lt_of_before otherOccurs occurs after
    omega

/-- Day numbers count the days from 1970-01-01, forwards and backwards. -/
theorem daysFromEpoch_iff {date : Date} (occurs : date.Occurs) {days : Int} :
    date.DaysFromEpoch days ↔ days = date.dayNumber := by
  have zero : unixEpoch.dayNumber = 0 := by decide
  constructor
  · rintro ⟨count, ⟨rfl, reached⟩ | ⟨rfl, reached⟩⟩
    · rw [← reached, (occurs_unixEpoch.iterate_next count).2, zero, Int.zero_add]
    · have counted := (occurs.iterate_next count).2
      rw [reached, zero] at counted
      omega
  · rintro rfl
    by_cases later : 0 ≤ date.dayNumber
    · have reached := occurs_unixEpoch.iterate_next date.dayNumber.toNat
      refine ⟨date.dayNumber.toNat, .inl ⟨by omega, dayNumber_inj reached.1 occurs ?_⟩⟩
      rw [reached.2, zero]
      omega
    · have reached := occurs.iterate_next (-date.dayNumber).toNat
      refine ⟨(-date.dayNumber).toNat, .inr ⟨by omega, dayNumber_inj reached.1 occurs_unixEpoch ?_⟩⟩
      rw [reached.2, zero]
      omega

end Date

end Rulebook
