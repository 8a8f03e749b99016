import Rulebook.Calendar.Date
import Rulebook.Text

/-!
Instants: dates and date-times read from text, as whole milliseconds since 1970-01-01T00:00:00Z.

A text is tried against the layouts below in order, and the first that it fits in full decides. A
layout is a list of parts, each of which takes some characters from the front of the text. The first
layout is the strict profile with an offset from UTC; the others have none and are read as UTC.
-/

namespace Rulebook

namespace Instant

inductive Field where
  | year | month | day | hour | minute | second
  deriving DecidableEq, Repr

def Field.width : Field → Nat
  | .year => 4
  | _ => 2

inductive Part where
  | exact (field : Field)
  | loose (field : Field)
  | mark (choices : List Char)
  | blanks
  /-- Nothing, or a point and at least one digit: a fraction of the second. -/
  | fraction
  /-- The letter Z, or a sign, two digits of hours, a colon and two digits of minutes. -/
  | offset
  deriving DecidableEq, Repr

/-- The numbers taken from a text so far. A part that a layout does not have stays at its start. -/
structure Reading where
  year : Int := 1970
  month : Nat := 1
  day : Nat := 1
  hour : Nat := 0
  minute : Nat := 0
  second : Nat := 0
  millisecond : Nat := 0
  offset : Int := 0
  deriving DecidableEq, Repr

namespace Reading

def set (reading : Reading) (value : Int) : Field → Reading
  | .year => { reading with year := value }
  | .month => { reading with month := value.toNat }
  | .day => { reading with day := value.toNat }
  | .hour => { reading with hour := value.toNat }
  | .minute => { reading with minute := value.toNat }
  | .second => { reading with second := value.toNat }

def date (reading : Reading) : Date :=
  ⟨reading.year, reading.month, reading.day⟩

def isMoment (reading : Reading) : Bool :=
  reading.date.isValid && decide (reading.hour ≤ 23) && decide (reading.minute ≤ 59) &&
    decide (reading.second ≤ 60)

/-- The milliseconds since 1970-01-01T00:00:00Z. A leap second lies beyond the last second of its
minute, where the next minute begins. -/
def millis (reading : Reading) : Int :=
  let minutes := (reading.date.dayNumber * 24 + reading.hour) * 60 + reading.minute - reading.offset
  (minutes * 60 + reading.second) * 1000 + reading.millisecond

end Reading

def readDigits? (least most : Nat) (text : List Char) : Option (Nat × List Char) :=
  let digits := (text.take most).takeWhile Char.isDigit
  if least ≤ digits.length then some (Nat.ofDigitChars 10 digits 0, text.drop digits.length)
  else none

/-- A year of one to four digits, or a sign and any number of digits. -/
def readYear? (text : List Char) : Option (Int × List Char) :=
  match text with
  | '-' :: rest => (readDigits? 1 rest.length rest).map fun (n, rest) => (-(n : Int), rest)
  | '+' :: rest => (readDigits? 1 rest.length rest).map fun (n, rest) => ((n : Int), rest)
  | rest => (readDigits? 1 Field.year.width rest).map fun (n, rest) => ((n : Int), rest)

def millisOfFraction (digits : List Char) : Nat :=
  Nat.ofDigitChars 10 ((digits ++ ['0', '0', '0']).take 3) 0

/-- An offset of hours to 23 and minutes to 59, in minutes. The minus sign may also be U+2212. -/
def readOffset? (text : List Char) : Option (Int × List Char) :=
  match text with
  | 'Z' :: rest | 'z' :: rest => some (0, rest)
  | sign :: rest =>
    if sign = '+' ∨ sign = '-' ∨ sign = '\u2212' then do
      let (hours, rest) ← readDigits? 2 2 rest
      let rest ← match rest with
        | ':' :: rest => some rest
        | _ => none
      let (minutes, rest) ← readDigits? 2 2 rest
      if hours ≤ 23 ∧ minutes ≤ 59 then
        let ahead : Int := hours * 60 + minutes
        some (if sign = '+' then ahead else -ahead, rest)
      else none
    else none
  | [] => none

def Part.read? (reading : Reading) (text : List Char) : Part → Option (Reading × List Char)
  | .exact field =>
    (readDigits? field.width field.width text).map fun (n, rest) => (reading.set n field, rest)
  | .loose .year =>
    (readYear? (Text.trimStart text)).map fun (n, rest) => (reading.set n .year, rest)
  | .loose field =>
    (readDigits? 1 field.width (Text.trimStart text)).map
      fun (n, rest) => (reading.set n field, rest)
  | .mark choices =>
    match text with
    | c :: rest => if choices.contains c then some (reading, rest) else none
    | [] => none
  | .blanks => some (reading, Text.trimStart text)
  | .fraction =>
    match text with
    | '.' :: rest =>
      let digits := rest.takeWhile Char.isDigit
      if digits.isEmpty then none
      else
        some ({ reading with millisecond := millisOfFraction digits }, rest.drop digits.length)
    | rest => some (reading, rest)
  | .offset =>
    (readOffset? text).map fun (ahead, rest) => ({ reading with offset := ahead }, rest)

abbrev Layout := List Part

def Layout.read? (reading : Reading) (text : List Char) : Layout → Option Reading
  | [] => if text.isEmpty then some reading else none
  | part :: parts => do
    let (reading, rest) ← part.read? reading text
    Layout.read? reading rest parts

def zoned : Layout :=
  [.exact .year, .mark ['-'], .exact .month, .mark ['-'], .exact .day, .mark ['T', 't', ' '],
    .exact .hour, .mark [':'], .exact .minute, .mark [':'], .exact .second, .fraction, .offset]

def plainDate : Layout :=
  [.loose .year, .mark ['-'], .loose .month, .mark ['-'], .loose .day]

def clock : Layout :=
  [.loose .hour, .mark [':'], .loose .minute]

def clockWithSeconds : Layout :=
  clock ++ [.mark [':'], .loose .second, .fraction]

def layouts : List Layout :=
  [zoned, plainDate ++ [.mark ['T']] ++ clockWithSeconds,
    plainDate ++ [.blanks] ++ clockWithSeconds,
    plainDate ++ [.mark ['T']] ++ clock, plainDate]

def ofLayout? (text : List Char) (layout : Layout) : Option Int :=
  ((layout.read? {} text).filter Reading.isMoment).map Reading.millis

def read? (text : List Char) : Option Int :=
  layouts.findSome? (ofLayout? (Text.trim text))

end Instant

end Rulebook
