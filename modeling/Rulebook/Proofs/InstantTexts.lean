import Rulebook.Proofs.Stamps

/-!
Instants read from moments in writing. The layouts for instants overlap, but whichever of them takes
such a text first reads the moment that it says. So the instants are in the order of the moments.
-/

namespace Rulebook

namespace Instant

open Text TimeOfDay

theorem Fraction.millisOfFraction_digits (fraction : Fraction) :
    millisOfFraction fraction.digits.val = fraction.millis := by
  have all : ∀ c ∈ fraction.digits.val ++ ['0', '0', '0'], c.isDigit = true := by
    intro c member
    rcases List.mem_append.mp member with digit | zero
    · exact fraction.digits.property c digit
    · have listed : ∀ c ∈ ['0', '0', '0'], c.isDigit = true := List.all_eq_true.mp (by decide)
      exact listed c zero
  have zeros : Nat.ofDigitChars 10 (fraction.digits.val ++ ['0', '0', '0']) 0 =
      1000 * fraction.digits.value :=
    (Nat.ofDigitChars_append 0).trans (Nat.ofDigitChars_replicate_zero (n := 3))
  have length : (fraction.digits.val ++ ['0', '0', '0']).length - 3 =
      fraction.digits.val.length := by
    simp
  rw [millisOfFraction, ofDigitChars_take all, zeros, length, millis]

theorem readDigits?_pair {least : Nat} (enough : least ≤ 2) {n : Nat} (fits : n < 60)
    (rest : List Char) : readDigits? least 2 (padded 2 n ++ rest) = some (n, rest) :=
  readDigits?_padded enough (Nat.lt_trans fits (by decide)) rest

theorem readOffset?_signed {sign : Char} (signed : sign = '+' ∨ sign = '-') (hours : Fin 24)
    (minutes : Fin 60) :
    readOffset? (sign :: clockText hours minutes) =
      some (if sign = '+' then (hours.val : Int) * 60 + minutes.val
        else -((hours.val : Int) * 60 + minutes.val), []) := by
  have hour := readDigits?_pair (Nat.le_refl 2) (Nat.lt_trans hours.isLt (by decide))
    (':' :: padded 2 minutes)
  have minute := readDigits?_pair (Nat.le_refl 2) minutes.isLt []
  have bounds : hours.val ≤ 23 ∧ minutes.val ≤ 59 := by omega
  rw [List.append_nil] at minute
  rcases signed with rfl | rfl <;>
    simp [readOffset?, clockText, hour, minute, bounds]

theorem Zone.readOffset?_text (zone : Zone) :
    readOffset? zone.text = some (zone.minutesAhead, []) := by
  cases zone with
  | universal => rfl
  | ahead hours minutes => exact readOffset?_signed (.inl rfl) hours minutes
  | behind hours minutes => exact readOffset?_signed (.inr rfl) hours minutes

/-- All that can be read from a text. -/
def Reading.of (moment : Moment) (offset : Int) : Reading where
  year := moment.date.year
  month := moment.date.month
  day := moment.date.day
  hour := moment.time.hour
  minute := moment.time.minute
  second := moment.time.second
  millisecond := moment.millisecond
  offset := offset

theorem Reading.isMoment_of (moment : Moment) (offset : Int) :
    (of moment offset).isMoment = moment.date.isValid := by
  have bounds : moment.time.hour.val ≤ 23 ∧ moment.time.minute.val ≤ 59 ∧
      moment.time.second.val ≤ 60 := by omega
  simp [isMoment, of, Reading.date, bounds]

theorem Reading.millis_of (moment : Moment) (offset : Int) :
    (of moment offset).millis = moment.millis - 60000 * offset := by
  have sameDate : (of moment offset).date = moment.date := rfl
  rw [millis, sameDate, Moment.millis, TimeOfDay.seconds]
  simp only [of]
  omega

theorem ofLayout?_of_read {text : List Char} {layout : Layout} {moment : Moment} (zone : Zone)
    (read : Layout.read? {} text layout = some (.of moment zone.minutesAhead))
    (writable : moment.date.Writable) (occurs : moment.date.Occurs) :
    ofLayout? text layout = some (zone.toUniversal moment).millis := by
  have bounds := writable.year
  have valid : moment.date.isValid = true := by
    rw [Date.isValid_iff]
    · exact occurs
    · rw [Date.firstYear]
      omega
    · rw [Date.lastYear]
      omega
  have moved : moment.millis - 60000 * zone.minutesAhead = (zone.toUniversal moment).millis := by
    rw [zone.stepsBy_toUniversal.millis moment occurs]
    omega
  rw [ofLayout?, read, Option.filter_some, Reading.isMoment_of, if_pos valid, Option.map_some,
    Reading.millis_of, moved]

theorem ofLayout?_eq_none {text : List Char} {layout : Layout}
    (unread : Layout.read? {} text layout = none) : ofLayout? text layout = none := by
  rw [ofLayout?, unread]
  rfl

/-- Whether a part reads a number of the full width of its field. -/
def ReadsFields (shape : Field → Part) : Prop :=
  ∀ field n, n < 10 ^ field.width → ∀ reading rest,
    Part.read? reading (padded field.width n ++ rest) (shape field) =
      some (reading.set n field, rest)

section Parts

variable {shape : Field → Part} (reads : ReadsFields shape) (reading : Reading) (rest : List Char)
  (parts : Layout)

include reads

theorem read?_clock (hour : Fin 24) (minute : Fin 60) :
    Layout.read? reading (clockText hour minute ++ rest)
        (shape .hour :: .mark [':'] :: shape .minute :: parts) =
      Layout.read? { reading with hour := hour, minute := minute } rest parts := by
  have hourFits : hour.val < 10 ^ Field.hour.width := Nat.lt_trans hour.isLt (by decide)
  have minuteFits : minute.val < 10 ^ Field.minute.width := Nat.lt_trans minute.isLt (by decide)
  have split : clockText hour minute ++ rest =
      padded Field.hour.width hour ++ ':' :: (padded Field.minute.width minute ++ rest) := by
    simp [clockText, Field.width]
  rw [split, Layout.read?_cons (reads .hour _ hourFits _ _),
    Layout.read?_cons (read?_mark (by simp) _ _),
    Layout.read?_cons (reads .minute _ minuteFits _ _)]
  simp only [Reading.set, Int.toNat_natCast]

theorem read?_time (time : TimeOfDay) :
    Layout.read? reading (time.text ++ rest)
        (shape .hour :: .mark [':'] :: shape .minute :: .mark [':'] :: shape .second :: parts) =
      Layout.read? { reading with hour := time.hour, minute := time.minute, second := time.second }
        rest parts := by
  have fits : time.second.val < 10 ^ Field.second.width := Nat.lt_trans time.second.isLt (by decide)
  have split : time.text ++ rest = clockText time.hour time.minute ++
      ':' :: (padded Field.second.width time.second ++ rest) := by
    simp [TimeOfDay.text, Field.width]
  rw [split, read?_clock reads, Layout.read?_cons (read?_mark (by simp) _ _),
    Layout.read?_cons (reads .second _ fits _ _)]
  simp only [Reading.set, Int.toNat_natCast]

end Parts

theorem read?_fraction (fraction : Option Fraction) {reading : Reading}
    (unread : reading.millisecond = 0) {rest : List Char}
    (stops : ∀ c ∈ rest.head?, c ≠ '.' ∧ c.isDigit = false) :
    Part.read? reading (fraction.elim [] Fraction.text ++ rest) .fraction =
      some ({ reading with millisecond := (fraction.elim (0 : Fin 1000) Fraction.millis).val },
        rest) := by
  cases fraction with
  | none =>
      have same : { reading with millisecond := 0 } = reading := by rw [← unread]
      rw [Option.elim_none, Option.elim_none, List.nil_append, Fin.val_zero, same, Part.read?]
      rintro others rfl
      exact (stops '.' rfl).1 rfl
  | some fraction =>
      have taken := (fraction.digits.span_append fun c first => (stops c first).2).1
      have nonempty : fraction.digits.val.isEmpty = false :=
        List.isEmpty_eq_false_iff.mpr fraction.nonempty
      simp only [Option.elim_some, Fraction.text, List.cons_append, Part.read?, taken, nonempty,
        Bool.false_eq_true, if_false, List.drop_left, fraction.millisOfFraction_digits]

/-- Up to the fraction, a time of the day is read off in either way. -/
theorem read?_timeAndFraction {shape : Field → Part} (reads : ReadsFields shape) (time : TimeOfDay)
    (fraction : Option Fraction) {reading : Reading} (unread : reading.millisecond = 0)
    {rest : List Char} (stops : ∀ c ∈ rest.head?, c ≠ '.' ∧ c.isDigit = false) (parts : Layout) :
    Layout.read? reading (time.text ++ (fraction.elim [] Fraction.text ++ rest))
        (shape .hour :: .mark [':'] :: shape .minute :: .mark [':'] :: shape .second ::
          .fraction :: parts) =
      Layout.read?
        { reading with
          hour := time.hour, minute := time.minute, second := time.second,
          millisecond := (fraction.elim (0 : Fin 1000) Fraction.millis).val } rest parts := by
  rw [read?_time reads]
  refine Layout.read?_cons (read?_fraction fraction ?_ stops) parts
  exact unread

theorem Zone.stops (zone : Option Zone) :
    ∀ c ∈ (zone.elim [] Zone.text).head?, c ≠ '.' ∧ c.isDigit = false := by
  cases zone with
  | none => simp
  | some zone => cases zone <;> simp [Zone.text]

/-- The first layout that takes a text decides. -/
theorem read?_of_ofLayout? {text : List Char} {layout : Layout} {millis : Int}
    (trimmed : trim text = text) (before after : List Layout)
    (listed : layouts = before ++ layout :: after)
    (earlier : ∀ other ∈ before, ofLayout? text other = none)
    (taken : ofLayout? text layout = some millis) : read? text = some millis := by
  rw [read?, trimmed, listed, List.findSome?_append, List.findSome?_eq_none_iff.mpr earlier,
    Option.none_or, List.findSome?_cons, taken]

section Texts

variable {date : Date} (writable : date.Writable)

include writable

theorem read?_zoned_second (separator : Separator) (time : TimeOfDay) (fraction : Option Fraction)
    (zone : Option Zone) :
    Layout.read? {} (date.text ++ separator.char ::
        (time.text ++ (fraction.elim [] Fraction.text ++ zone.elim [] Zone.text))) zoned =
      zone.map fun zone =>
        .of ⟨date, time, fraction.elim 0 Fraction.millis⟩ zone.minutesAhead := by
  have separated : separator.char ∈ ['T', 't', ' '] := by cases separator <;> decide
  rw [read?_zoned writable]
  refine (Layout.read?_cons (read?_mark separated _ _) _).trans ?_
  refine (read?_timeAndFraction read?_exact time fraction rfl (Zone.stops zone) [.offset]).trans ?_
  cases zone with
  | none => rfl
  | some zone =>
      have offset (reading : Reading) : Part.read? reading zone.text .offset =
          some ({ reading with offset := zone.minutesAhead }, []) := by
        rw [Part.read?, zone.readOffset?_text]
        rfl
      exact Layout.read?_cons (offset _) []

theorem read?_plain_second (separator : Separator) (time : TimeOfDay) (fraction : Option Fraction)
    {part : Part}
    (separated : ∀ reading, Part.read? reading (separator.char ::
      (time.text ++ (fraction.elim [] Fraction.text ++ []))) part =
        some (reading, time.text ++ (fraction.elim [] Fraction.text ++ []))) :
    Layout.read? {} (date.text ++ separator.char ::
        (time.text ++ (fraction.elim [] Fraction.text ++ [])))
          (plainDate ++ [part] ++ clockWithSeconds) =
      some (.of ⟨date, time, fraction.elim 0 Fraction.millis⟩ 0) := by
  rw [List.append_assoc, read?_plainDate writable]
  refine (Layout.read?_cons (separated _) _).trans ?_
  exact read?_timeAndFraction read?_loose time fraction rfl (Zone.stops none) []

theorem read?_zoned_minute (hour : Fin 24) (minute : Fin 60) :
    Layout.read? {} (date.text ++ 'T' :: clockText hour minute) zoned = none := by
  have read := read?_clock read?_exact (.on {} date) [] (zoned.drop 9) hour minute
  rw [List.append_nil] at read
  rw [read?_zoned writable]
  refine (Layout.read?_cons (read?_mark (by decide) _ _) _).trans (read.trans ?_)
  rfl

theorem read?_plain_minute (hour : Fin 24) (minute : Fin 60) (parts : Layout) :
    Layout.read? {} (date.text ++ 'T' :: clockText hour minute)
        (plainDate ++ [.mark ['T']] ++ (clock ++ parts)) =
      Layout.read? (.of ⟨date, .onMinute hour minute, 0⟩ 0) [] parts := by
  have read := read?_clock read?_loose (.on {} date) [] parts hour minute
  rw [List.append_nil] at read
  rw [List.append_assoc, read?_plainDate writable]
  exact (Layout.read?_cons (read?_mark (by decide) _ _) _).trans read

/-- White space between date and time may be left out, but there is none for the letter. -/
theorem read?_blanks_letter (rest : List Char) :
    Layout.read? {} (date.text ++ 'T' :: rest) (plainDate ++ [.blanks] ++ clockWithSeconds) =
      none := by
  rw [List.append_assoc, read?_plainDate writable]
  rfl

theorem read?_letter_space (rest : List Char) :
    Layout.read? {} (date.text ++ ' ' :: rest) (plainDate ++ [.mark ['T']] ++ clockWithSeconds) =
      none := by
  rw [List.append_assoc, read?_plainDate writable]
  rfl

end Texts

theorem read?_blanks_time (time : TimeOfDay) (rest : List Char) (reading : Reading) :
    Part.read? reading (' ' :: (time.text ++ rest)) .blanks = some (reading, time.text ++ rest) := by
  have split : time.text ++ rest = padded 2 time.hour ++
      ':' :: (padded 2 time.minute ++ ':' :: (padded 2 time.second ++ rest)) := by
    simp [TimeOfDay.text, clockText]
  have space : trimStart (' ' :: (time.text ++ rest)) = trimStart (time.text ++ rest) := rfl
  rw [Part.read?, space, split, trimStart_padded Nat.two_pos]

namespace Stamp

/-- Whichever of the layouts takes it first, a moment in writing is read as that moment. -/
theorem read?_text (stamp : Stamp) (writable : stamp.date.Writable) (occurs : stamp.date.Occurs) :
    read? stamp.text = some stamp.universal.millis := by
  have trimmed := stamp.trim_text
  cases stamp with
  | day date =>
      have midnight : (⟨date, .midnight, 0⟩ : Moment).millis = 86400000 * date.dayNumber := by
        have noSeconds : TimeOfDay.midnight.seconds = 0 := rfl
        rw [Moment.millis, noSeconds]
        simp
        omega
      exact (read?_text_eq_some_iff writable).mpr ⟨occurs, midnight⟩
  | toMinute date hour minute =>
      have unzoned := ofLayout?_eq_none (read?_zoned_minute writable hour minute)
      have noSeconds := ofLayout?_eq_none (read?_plain_minute writable hour minute
        [.mark [':'], .loose .second, .fraction])
      have noBlanks := ofLayout?_eq_none (read?_blanks_letter writable (clockText hour minute))
      have read := read?_plain_minute writable hour minute []
      have taken := ofLayout?_of_read .universal read writable occurs
      refine read?_of_ofLayout? trimmed [_, _, _] [_] rfl ?_ taken
      simp only [List.forall_mem_cons]
      exact ⟨unzoned, noSeconds, noBlanks, List.forall_mem_nil _⟩
  | toSecond date separator time fraction zone =>
      have zoned := read?_zoned_second writable separator time fraction zone
      cases zone with
      | some zone =>
          have taken := ofLayout?_of_read zone zoned writable occurs
          exact read?_of_ofLayout? trimmed [] _ rfl (List.forall_mem_nil _) taken
      | none =>
          have unzoned := ofLayout?_eq_none zoned
          cases separator with
          | letter =>
              have read := read?_plain_second writable .letter time fraction
                fun reading => read?_mark (List.mem_singleton_self 'T') reading _
              have taken := ofLayout?_of_read .universal read writable occurs
              refine read?_of_ofLayout? trimmed [_] [_, _, _] rfl ?_ taken
              simp only [List.forall_mem_cons]
              exact ⟨unzoned, List.forall_mem_nil _⟩
          | space =>
              have noLetter := ofLayout?_eq_none (read?_letter_space writable
                (time.text ++ (fraction.elim [] Fraction.text ++ [])))
              have read := read?_plain_second writable .space time fraction
                (read?_blanks_time time _)
              have taken := ofLayout?_of_read .universal read writable occurs
              refine read?_of_ofLayout? trimmed [_, _] [_, _] rfl ?_ taken
              simp only [List.forall_mem_cons]
              exact ⟨unzoned, noLetter, List.forall_mem_nil _⟩

theorem read?_toSecond {date : Date} (writable : date.Writable) (occurs : date.Occurs)
    (time : TimeOfDay) (separator : Separator) (fraction : Option Fraction) (zone : Option Zone) :
    read? (date.text ++ separator.char ::
        (time.text ++ (fraction.elim [] Fraction.text ++ zone.elim [] Zone.text))) =
      some (86400000 * date.dayNumber + 1000 * time.seconds + (fraction.elim 0 Fraction.millis).val -
        60000 * zone.elim 0 Zone.minutesAhead) := by
  have read := (toSecond date separator time fraction zone).read?_text writable occurs
  have moved := (toSecond date separator time fraction zone).millis_universal occurs
  have ahead : (toSecond date separator time fraction zone).zone.minutesAhead =
      zone.elim 0 Zone.minutesAhead := by
    cases zone <;> rfl
  refine read.trans (congrArg some ?_)
  rw [moved, ahead, shown, Moment.millis]
  simp only
  omega

theorem read?_toMinute {date : Date} (writable : date.Writable) (occurs : date.Occurs)
    (hour : Fin 24) (minute : Fin 60) :
    read? (date.text ++ 'T' :: clockText hour minute) =
      some (86400000 * date.dayNumber + 1000 * (⟨hour, minute, 0⟩ : TimeOfDay).seconds) := by
  have read := (toMinute date hour minute).read?_text writable occurs
  have moved := (toMinute date hour minute).millis_universal occurs
  have ahead : (toMinute date hour minute).zone.minutesAhead = 0 := rfl
  refine read.trans (congrArg some ?_)
  rw [moved, ahead, shown, Moment.millis, onMinute]
  simp only [Fin.val_zero]
  omega

end Stamp

/-- A date, alone or with a time after it, is read by each layout that takes it as the instant that
it says. What is written more after a time moves it by just that, and what stands around the text
does nothing. Of any two such texts, the earlier moment is the earlier instant. -/
theorem layouts_agree :
    (∀ (date : Date) (days : Int) (time : TimeOfDay), date.Writable → date.Occurs →
      date.DaysFromEpoch days →
      (∀ text ∈ [date.text ++ 'T' :: time.text, date.text ++ ' ' :: time.text,
          date.text ++ 'T' :: (time.text ++ ['Z']),
          date.text ++ 'T' :: (time.text ++ "+00:00".toList)],
        read? text = some (86400000 * days + 1000 * time.seconds)) ∧
      read? (date.text ++ 'T' :: clockText time.hour time.minute) =
        some (86400000 * days + 1000 * (⟨time.hour, time.minute, 0⟩ : TimeOfDay).seconds) ∧
      read? date.text = some (86400000 * days) ∧
      ∀ (separator : Separator) (fraction : Option Fraction) (zone : Option Zone),
        read? (date.text ++ separator.char ::
            (time.text ++ (fraction.elim [] Fraction.text ++ zone.elim [] Zone.text))) =
          some (86400000 * days + 1000 * time.seconds + (fraction.elim 0 Fraction.millis).val -
            60000 * zone.elim 0 Zone.minutesAhead)) ∧
    (∀ front text back, (∀ c ∈ front, isBlank c = true) → (∀ c ∈ back, isBlank c = true) →
      read? (front ++ text ++ back) = read? text) ∧
    ∀ a b : Stamp, a.date.Writable → a.date.Occurs → b.date.Writable → b.date.Occurs →
      ∃ x y, read? a.text = some x ∧ read? b.text = some y ∧
        (x < y ↔ a.universal.Before b.universal) ∧ (x = y ↔ a.universal = b.universal) := by
  refine ⟨?_, ?_, ?_⟩
  · intro date days time writable occurs counted
    rw [(Date.daysFromEpoch_iff occurs).mp counted]
    have seconds := Stamp.read?_toSecond writable occurs time
    refine ⟨?_, Stamp.read?_toMinute writable occurs time.hour time.minute,
      (read?_text_eq_some_iff writable).mpr ⟨occurs, rfl⟩, seconds⟩
    intro text listed
    simp only [List.mem_cons, List.not_mem_nil, or_false] at listed
    rcases listed with rfl | rfl | rfl | rfl
    · simpa [Separator.char] using seconds .letter none none
    · simpa [Separator.char] using seconds .space none none
    · simpa [Separator.char, Zone.text, Zone.minutesAhead] using
        seconds .letter none (some .universal)
    · have noOffset : (Zone.ahead 0 0).text = "+00:00".toList := by decide
      simpa [Separator.char, noOffset, Zone.minutesAhead] using
        seconds .letter none (some (.ahead 0 0))
  · intro front text back frontBlank backBlank
    rw [read?, trim_surrounded frontBlank backBlank, read?]
  · intro a b writable occurs otherWritable otherOccurs
    have universal := a.occurs_universal occurs
    have otherUniversal := b.occurs_universal otherOccurs
    exact ⟨_, _, a.read?_text writable occurs, b.read?_text otherWritable otherOccurs,
      Moment.millis_lt_iff universal otherUniversal,
      Moment.millis_inj universal otherUniversal, congrArg _⟩

theorem layouts_agree_leap_day :
    Date.Writable ⟨2024, 2, 29⟩ ∧ Date.Occurs ⟨2024, 2, 29⟩ ∧
      Date.DaysFromEpoch ⟨2024, 2, 29⟩ 19782 ∧
      read? "2024-02-29T23:59:30".toList = some 1709251170000 ∧
      read? "2024-02-29T23:59".toList = some 1709251140000 ∧
      read? "2024-02-29 23:59:30.9999-05:30".toList = some 1709270970999 ∧
      (∀ c ∈ ['\n', ' '], isBlank c = true) ∧
      read? (['\n', ' '] ++ "2024-02-29".toList ++ [' ']) = some 1709164800000 ∧
      ∃ x y, read? "2024-02-29T23:59:30".toList = some x ∧
        read? "2024-03-01T00:00:31+00:01".toList = some y ∧ x < y := by
  have writable : Date.Writable ⟨2024, 2, 29⟩ := ⟨by decide, by decide, by decide⟩
  have occurs : Date.Occurs ⟨2024, 2, 29⟩ := ⟨by decide, by decide⟩
  have nextWritable : Date.Writable ⟨2024, 3, 1⟩ := ⟨by decide, by decide, by decide⟩
  have nextOccurs : Date.Occurs ⟨2024, 3, 1⟩ := ⟨by decide, by decide⟩
  have counted : Date.DaysFromEpoch ⟨2024, 2, 29⟩ 19782 :=
    (Date.daysFromEpoch_iff occurs).mpr (by decide)
  have front : ∀ c ∈ ['\n', ' '], isBlank c = true := List.all_eq_true.mp (by decide)
  have back : ∀ c ∈ [' '], isBlank c = true := List.all_eq_true.mp (by decide)
  let date : Date := ⟨2024, 2, 29⟩
  let time : TimeOfDay := ⟨23, 59, 30⟩
  let fraction : Fraction := ⟨⟨"9999".toList, List.all_eq_true.mp (by decide)⟩, by decide⟩
  let later : Stamp := .toSecond ⟨2024, 3, 1⟩ .letter ⟨0, 0, 31⟩ none (some (.ahead 0 1))
  have atSecond : "2024-02-29T23:59:30".toList = date.text ++ 'T' :: time.text := by decide
  have atMinute : "2024-02-29T23:59".toList = date.text ++ 'T' :: clockText 23 59 := by decide
  have inZone : "2024-02-29 23:59:30.9999-05:30".toList =
      date.text ++ ' ' :: (time.text ++ (fraction.text ++ (Zone.behind 5 30).text)) := by decide
  have alone : "2024-02-29".toList = date.text := by decide
  have atSecondLater : "2024-03-01T00:00:31+00:01".toList = later.text := by decide
  obtain ⟨readings, trimming, order⟩ := layouts_agree
  obtain ⟨same, minutes, midnight, seconds⟩ := readings date 19782 time writable occurs counted
  obtain ⟨x, y, readX, readY, before, -⟩ :=
    order (.toSecond date .letter time none none) later writable occurs nextWritable nextOccurs
  rw [atSecond, atMinute, inZone, alone, atSecondLater, trimming _ _ _ front back]
  have universal : later.universal = ⟨⟨2024, 2, 29⟩, ⟨23, 59, 31⟩, 0⟩ := by decide
  have zoned := seconds .space (some fraction) (some (.behind 5 30))
  refine ⟨writable, occurs, counted, (same _ List.mem_cons_self).trans ?_, minutes.trans ?_,
    zoned.trans ?_, front, midnight, x, y, readX, readY, ?_⟩
  · decide
  · decide
  · decide
  · rw [before, universal]
    exact .inr ⟨rfl, .inl (.inr ⟨rfl, .inr ⟨rfl, by decide⟩⟩)⟩

end Instant

end Rulebook
