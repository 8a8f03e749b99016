import Rulebook.Proofs.DateTexts
import Rulebook.Proofs.Moments

/-!
Moments in writing. A text is a date, perhaps a time of the day after it, to the minute or to the
second and then perhaps with a fraction, and perhaps how far the clock is from universal time.
-/

namespace Rulebook

namespace Text

theorem ofDigitChars_lt {digits : List Char} (all : ∀ c ∈ digits, c.isDigit = true) :
    Nat.ofDigitChars 10 digits 0 < 10 ^ digits.length := by
  obtain ⟨n, fits, written⟩ := exists_padded_of_isDigit all
  have value : Nat.ofDigitChars 10 digits 0 = n := by rw [written, ofDigitChars_padded fits]
  rwa [value]

/-- The first digits of a number are the number without its last ones. -/
theorem ofDigitChars_take {digits : List Char} (all : ∀ c ∈ digits, c.isDigit = true)
    (count : Nat) :
    Nat.ofDigitChars 10 (digits.take count) 0 =
      Nat.ofDigitChars 10 digits 0 / 10 ^ (digits.length - count) := by
  have last : ∀ c ∈ digits.drop count, c.isDigit = true :=
    fun c member => all c (List.mem_of_mem_drop member)
  have small := ofDigitChars_lt last
  have whole : Nat.ofDigitChars 10 digits 0 =
      10 ^ (digits.drop count).length * Nat.ofDigitChars 10 (digits.take count) 0 +
        Nat.ofDigitChars 10 (digits.drop count) 0 := by
    rw [← Nat.ofDigitChars_eq_ofDigitChars_zero, ← Nat.ofDigitChars_append, List.take_append_drop]
  rw [whole, ← List.length_drop, Nat.mul_add_div (Nat.pow_pos (by decide)),
    Nat.div_eq_of_lt small, Nat.add_zero]

end Text

namespace TimeOfDay

/-- Hours and minutes in writing. -/
def clockText (hour : Fin 24) (minute : Fin 60) : List Char :=
  Text.padded 2 hour ++ ':' :: Text.padded 2 minute

def text (time : TimeOfDay) : List Char :=
  clockText time.hour time.minute ++ ':' :: Text.padded 2 time.second

end TimeOfDay

namespace Instant

open Text TimeOfDay

/-- What comes after a point, as a fraction of a second. -/
structure Fraction where
  digits : Digits
  nonempty : digits.val ≠ []

namespace Fraction

def text (fraction : Fraction) : List Char :=
  '.' :: fraction.digits.val

theorem mul_value_div_lt (fraction : Fraction) :
    1000 * fraction.digits.value / 10 ^ fraction.digits.val.length < 1000 := by
  have small : fraction.digits.value < 10 ^ fraction.digits.val.length :=
    ofDigitChars_lt fraction.digits.property
  rw [Nat.div_lt_iff_lt_mul (Nat.pow_pos (by decide))]
  omega

/-- How many whole milliseconds it is. -/
def millis (fraction : Fraction) : Fin 1000 :=
  ⟨1000 * fraction.digits.value / 10 ^ fraction.digits.val.length, fraction.mul_value_div_lt⟩

end Fraction

/-- How far a clock is from universal time, as it is written after the time that it shows. -/
inductive Zone where
  | universal
  | ahead (hours : Fin 24) (minutes : Fin 60)
  | behind (hours : Fin 24) (minutes : Fin 60)

namespace Zone

def text : Zone → List Char
  | universal => ['Z']
  | ahead hours minutes => '+' :: clockText hours minutes
  | behind hours minutes => '-' :: clockText hours minutes

def minutesAhead : Zone → Int
  | universal => 0
  | ahead hours minutes => hours * 60 + minutes
  | behind hours minutes => -(hours * 60 + minutes)

/-- The moment in universal time when clocks of the zone show a moment. -/
def toUniversal (moment : Moment) : Zone → Moment
  | universal => moment
  | ahead hours minutes => Moment.minuteEarlier^[hours * 60 + minutes] moment
  | behind hours minutes => Moment.minuteLater^[hours * 60 + minutes] moment

theorem stepsBy_toUniversal (zone : Zone) :
    Moment.StepsBy (-60000 * zone.minutesAhead) fun moment => zone.toUniversal moment := by
  cases zone with
  | universal => exact ⟨fun moment occurs => occurs, fun moment occurs => (Int.add_zero _).symm⟩
  | ahead hours minutes =>
      have change : -60000 * (ahead hours minutes).minutesAhead =
          ((hours * 60 + minutes : Nat) : Int) * -60000 := by
        rw [minutesAhead]
        omega
      rw [change]
      exact Moment.stepsBy_minuteEarlier.iterate (hours * 60 + minutes)
  | behind hours minutes =>
      have change : -60000 * (behind hours minutes).minutesAhead =
          ((hours * 60 + minutes : Nat) : Int) * 60000 := by
        rw [minutesAhead]
        omega
      rw [change]
      exact Moment.stepsBy_minuteLater.iterate (hours * 60 + minutes)

theorem text_ne_nil (zone : Zone) : zone.text ≠ [] := by
  cases zone <;> exact List.cons_ne_nil _ _

end Zone

/-- What stands between a date and a time of the day. -/
inductive Separator where
  | letter | space

def Separator.char : Separator → Char
  | letter => 'T'
  | space => ' '

/-- A moment in writing. -/
inductive Stamp where
  | day (date : Date)
  | toMinute (date : Date) (hour : Fin 24) (minute : Fin 60)
  | toSecond (date : Date) (separator : Separator) (time : TimeOfDay) (fraction : Option Fraction)
      (zone : Option Zone)

namespace Stamp

def text : Stamp → List Char
  | day date => date.text
  | toMinute date hour minute => date.text ++ 'T' :: clockText hour minute
  | toSecond date separator time fraction zone =>
    date.text ++ separator.char ::
      (time.text ++ (fraction.elim [] Fraction.text ++ zone.elim [] Zone.text))

def date : Stamp → Date
  | day date | toMinute date _ _ | toSecond date _ _ _ _ => date

/-- The moment that the text shows. -/
def shown : Stamp → Moment
  | day date => ⟨date, .midnight, 0⟩
  | toMinute date hour minute => ⟨date, .onMinute hour minute, 0⟩
  | toSecond date _ time fraction _ => ⟨date, time, fraction.elim 0 Fraction.millis⟩

/-- The zone in which it is shown, which is that of universal time if none is written. -/
def zone : Stamp → Zone
  | toSecond _ _ _ _ (some zone) => zone
  | _ => .universal

def universal (stamp : Stamp) : Moment :=
  stamp.zone.toUniversal stamp.shown

theorem millis_universal (stamp : Stamp) (occurs : stamp.date.Occurs) :
    stamp.universal.millis = stamp.shown.millis - 60000 * stamp.zone.minutesAhead := by
  have shown : stamp.shown.date.Occurs := by cases stamp <;> exact occurs
  rw [universal, stamp.zone.stepsBy_toUniversal.millis stamp.shown shown]
  omega

theorem occurs_universal {stamp : Stamp} (occurs : stamp.date.Occurs) :
    stamp.universal.date.Occurs := by
  have shown : stamp.shown.date.Occurs := by cases stamp <;> exact occurs
  exact stamp.zone.stepsBy_toUniversal.occurs stamp.shown shown

end Stamp

/-- A date in writing, and something after it that ends in no white space. -/
theorem trim_timed (date : Date) {back : List Char} (nonempty : back ≠ [])
    (unblank : ∀ c ∈ back, isBlank c = false) (middle : List Char) :
    trim (date.text ++ middle ++ back) = date.text ++ middle ++ back := by
  have dateNonempty : date.text ≠ [] :=
    List.append_ne_nil_of_right_ne_nil _ (List.cons_ne_nil _ _)
  have dateUnblank : ∀ c ∈ date.text, isBlank c = false := by
    intro c member
    rcases Date.isDigit_or_hyphen_of_text member with digit | rfl
    · exact isBlank_of_isDigit digit
    · decide
  exact trim_of_unblank_ends dateNonempty nonempty dateUnblank unblank middle

theorem isBlank_of_mem_padded {width n : Nat} : ∀ c ∈ padded width n, isBlank c = false :=
  fun _ member => isBlank_of_isDigit (isDigit_of_mem_padded member)

theorem isBlank_of_mem_clockText {hour : Fin 24} {minute : Fin 60} :
    ∀ c ∈ clockText hour minute, isBlank c = false := by
  intro c member
  rw [clockText, List.mem_append, List.mem_cons] at member
  rcases member with hours | rfl | minutes
  · exact isBlank_of_mem_padded c hours
  · decide
  · exact isBlank_of_mem_padded c minutes

theorem Zone.isBlank_of_mem_text {zone : Zone} : ∀ c ∈ zone.text, isBlank c = false := by
  intro c member
  cases zone with
  | universal =>
      cases List.mem_singleton.mp member
      decide
  | ahead hours minutes =>
      rcases List.mem_cons.mp member with rfl | clock
      · decide
      · exact isBlank_of_mem_clockText c clock
  | behind hours minutes =>
      rcases List.mem_cons.mp member with rfl | clock
      · decide
      · exact isBlank_of_mem_clockText c clock

theorem Fraction.isBlank_of_mem_text {fraction : Fraction} :
    ∀ c ∈ fraction.text, isBlank c = false := by
  intro c member
  rcases List.mem_cons.mp member with rfl | digit
  · decide
  · exact isBlank_of_isDigit (fraction.digits.property c digit)

namespace Stamp

theorem trim_text (stamp : Stamp) : trim stamp.text = stamp.text := by
  cases stamp with
  | day date => exact date.trim_text
  | toMinute date hour minute =>
      have trimmed := trim_timed date (padded_ne_nil Nat.two_pos minute.val)
        isBlank_of_mem_padded ('T' :: (padded 2 hour ++ [':']))
      simpa [text, clockText] using trimmed
  | toSecond date separator time fraction zone =>
      cases zone with
      | some zone =>
          have trimmed := trim_timed date zone.text_ne_nil zone.isBlank_of_mem_text
            (separator.char :: (time.text ++ fraction.elim [] Fraction.text))
          simpa [text] using trimmed
      | none =>
          cases fraction with
          | some fraction =>
              have nonempty : fraction.text ≠ [] := List.cons_ne_nil _ _
              have trimmed := trim_timed date nonempty fraction.isBlank_of_mem_text
                (separator.char :: time.text)
              simpa [text] using trimmed
          | none =>
              have trimmed := trim_timed date (padded_ne_nil Nat.two_pos time.second.val)
                isBlank_of_mem_padded
                (separator.char :: (clockText time.hour time.minute ++ [':']))
              simpa [text, TimeOfDay.text] using trimmed

end Stamp

end Instant

end Rulebook
