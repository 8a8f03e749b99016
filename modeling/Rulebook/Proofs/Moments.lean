import Rulebook.Proofs.Calendar

/-!
Moments in universal time: a day, a time of the day and a millisecond. Which moment is a minute
later or earlier is told by the clock and the calendar, and which of two comes first by comparing
them part by part. Counted in milliseconds, a minute is 60000 of them and the order is the same.
-/

namespace Rulebook

namespace Date

/-- The day before. -/
def previous (date : Date) : Date :=
  if 1 < date.day then ⟨date.year, date.month, date.day - 1⟩
  else if 1 < date.month then
    ⟨date.year, date.month - 1, monthLength date.year (date.month - 1)⟩
  else ⟨date.year - 1, 12, monthLength (date.year - 1) 12⟩

example : previous ⟨2024, 3, 1⟩ = ⟨2024, 2, 29⟩ := by decide

theorem Occurs.previous {date : Date} (occurs : date.Occurs) : date.previous.Occurs := by
  obtain ⟨month, day⟩ := occurs
  rw [Date.previous]
  split_ifs with inMonth inYear
  · refine ⟨month, ?_⟩
    dsimp only
    omega
  · refine ⟨?_, monthLength_pos _ _, Nat.le_refl _⟩
    dsimp only
    omega
  · have december : 1 ≤ monthLength (date.year - 1) 12 := monthLength_pos _ _
    exact ⟨⟨by simp, by simp⟩, december, Nat.le_refl _⟩

theorem Occurs.next_previous {date : Date} (occurs : date.Occurs) : date.previous.next = date := by
  obtain ⟨year, month, day⟩ := date
  obtain ⟨inYear, inMonth⟩ := occurs
  dsimp only at inYear inMonth
  rw [Date.previous]
  dsimp only
  split_ifs with later laterMonth
  · have fits : day - 1 < monthLength year month := by omega
    have same : day - 1 + 1 = day := by omega
    rw [Date.next, if_pos fits]
    simp only [same]
  · have short : month - 1 < 12 := by omega
    have same : month - 1 + 1 = month ∧ day = 1 := by omega
    rw [Date.next, if_neg (Nat.lt_irrefl _), if_pos short]
    simp only [same]
  · have first : month = 1 ∧ day = 1 := by omega
    rw [Date.next, if_neg (Nat.lt_irrefl _), if_neg (Nat.lt_irrefl _)]
    simp only [first, Int.sub_add_cancel]

theorem dayNumber_previous {date : Date} (occurs : date.Occurs) :
    date.previous.dayNumber = date.dayNumber - 1 := by
  have next := dayNumber_next occurs.previous
  rw [occurs.next_previous] at next
  omega

end Date

/-- A time of the day, to the second. -/
structure TimeOfDay where
  hour : Fin 24
  minute : Fin 60
  second : Fin 60
  deriving DecidableEq, Repr

namespace TimeOfDay

def midnight : TimeOfDay :=
  ⟨0, 0, 0⟩

/-- The beginning of a minute. -/
def onMinute (hour : Fin 24) (minute : Fin 60) : TimeOfDay :=
  ⟨hour, minute, 0⟩

/-- The seconds since midnight. -/
def seconds (time : TimeOfDay) : Nat :=
  (time.hour * 60 + time.minute) * 60 + time.second

/-- Which of two times comes first. -/
def Before (a b : TimeOfDay) : Prop :=
  a.hour < b.hour ∨ (a.hour = b.hour ∧
    (a.minute < b.minute ∨ (a.minute = b.minute ∧ a.second < b.second)))

variable {a b : TimeOfDay}

theorem seconds_lt (time : TimeOfDay) : time.seconds < 86400 := by
  rw [seconds]
  omega

theorem seconds_inj (same : a.seconds = b.seconds) : a = b := by
  obtain ⟨hour, minute, second⟩ := a
  rw [seconds, seconds] at same
  dsimp only at same
  have parts : hour = b.hour ∧ minute = b.minute ∧ second = b.second := by omega
  rw [parts.1, parts.2.1, parts.2.2]

theorem before_iff : a.Before b ↔ a.seconds < b.seconds := by
  rw [Before, seconds, seconds]
  omega

end TimeOfDay

structure Moment where
  date : Date
  time : TimeOfDay
  millisecond : Fin 1000
  deriving DecidableEq, Repr

namespace Moment

/-- Which of two moments comes first. -/
def Before (a b : Moment) : Prop :=
  a.date.Before b.date ∨ (a.date = b.date ∧
    (a.time.Before b.time ∨ (a.time = b.time ∧ a.millisecond < b.millisecond)))

/-- The moment a minute later. -/
def minuteLater (moment : Moment) : Moment :=
  if within : moment.time.minute.val + 1 < 60 then
    { moment with time.minute := ⟨moment.time.minute + 1, within⟩ }
  else if within : moment.time.hour.val + 1 < 24 then
    { moment with time.hour := ⟨moment.time.hour + 1, within⟩, time.minute := 0 }
  else { moment with date := moment.date.next, time.hour := 0, time.minute := 0 }

/-- The moment a minute earlier. -/
def minuteEarlier (moment : Moment) : Moment :=
  if 0 < moment.time.minute then { moment with time.minute := moment.time.minute - 1 }
  else if 0 < moment.time.hour then
    { moment with time.hour := moment.time.hour - 1, time.minute := 59 }
  else { moment with date := moment.date.previous, time.hour := 23, time.minute := 59 }

/-- The milliseconds since 1970-01-01T00:00:00Z. -/
def millis (moment : Moment) : Int :=
  1000 * (86400 * moment.date.dayNumber + moment.time.seconds) + moment.millisecond

section Order

variable {a b : Moment} (occurs : a.date.Occurs) (otherOccurs : b.date.Occurs)

include occurs otherOccurs

theorem millis_inj (same : a.millis = b.millis) : a = b := by
  have time := a.time.seconds_lt
  have otherTime := b.time.seconds_lt
  rw [millis, millis] at same
  have date : a.date = b.date := Date.dayNumber_inj occurs otherOccurs (by omega)
  rw [date] at same
  have timeOfDay : a.time = b.time := TimeOfDay.seconds_inj (by omega)
  obtain ⟨_, _, millisecond⟩ := a
  dsimp only at date timeOfDay same
  have last : millisecond = b.millisecond := by omega
  rw [date, timeOfDay, last]

theorem millis_lt_iff : a.millis < b.millis ↔ a.Before b := by
  have time := a.time.seconds_lt
  have otherTime := b.time.seconds_lt
  have sameDate : a.date = b.date ↔ a.date.dayNumber = b.date.dayNumber :=
    ⟨congrArg _, Date.dayNumber_inj occurs otherOccurs⟩
  have sameTime : a.time = b.time ↔ a.time.seconds = b.time.seconds :=
    ⟨congrArg _, TimeOfDay.seconds_inj⟩
  rw [Before, ← Date.dayNumber_lt_iff occurs otherOccurs, sameDate, TimeOfDay.before_iff, sameTime,
    millis, millis]
  omega

end Order

/-- Whether a step always takes moments to moments so many milliseconds later. -/
structure StepsBy (change : Int) (step : Moment → Moment) : Prop where
  occurs : ∀ moment : Moment, moment.date.Occurs → (step moment).date.Occurs
  millis : ∀ moment : Moment, moment.date.Occurs → (step moment).millis = moment.millis + change

theorem stepsBy_minuteLater : StepsBy 60000 minuteLater := by
  constructor
  · intro moment occurs
    rw [minuteLater]
    split_ifs
    · exact occurs
    · exact occurs
    · exact occurs.next
  · intro moment occurs
    rw [minuteLater]
    split_ifs with within withinDay
    · simp only [Moment.millis, TimeOfDay.seconds]
      omega
    · simp only [Moment.millis, TimeOfDay.seconds]
      omega
    · simp only [Moment.millis, TimeOfDay.seconds, Date.dayNumber_next occurs]
      omega

theorem stepsBy_minuteEarlier : StepsBy (-60000) minuteEarlier := by
  constructor
  · intro moment occurs
    rw [minuteEarlier]
    split_ifs
    · exact occurs
    · exact occurs
    · exact occurs.previous
  · intro moment occurs
    rw [minuteEarlier]
    split_ifs with within withinDay
    · simp only [Moment.millis, TimeOfDay.seconds]
      omega
    · simp only [Moment.millis, TimeOfDay.seconds]
      omega
    · simp only [Moment.millis, TimeOfDay.seconds, Date.dayNumber_previous occurs]
      omega

/-- Step after step the changes add up. -/
theorem StepsBy.iterate {change : Int} {step : Moment → Moment} (steps : StepsBy change step)
    (count : Nat) : StepsBy (count * change) step^[count] := by
  induction count with
  | zero =>
      refine ⟨fun moment occurs => occurs, ?_⟩
      intro moment occurs
      rw [Function.iterate_zero, id_eq]
      omega
  | succ count ih =>
      constructor
      · intro moment occurs
        rw [Function.iterate_succ_apply']
        exact steps.occurs _ (ih.occurs moment occurs)
      · intro moment occurs
        rw [Function.iterate_succ_apply', steps.millis _ (ih.occurs moment occurs),
          ih.millis moment occurs, Int.add_assoc, Int.natCast_succ, Int.add_mul, Int.one_mul]

end Moment

end Rulebook
