import Rulebook.Text

/-!
Repetitions, and the gaps that may stand around their signs. Comments are gaps everywhere; in
extended patterns blanks are too, and whatever follows a number sign on its line.
-/

namespace Rulebook

def commentLength? (used : Nat) : List Char → Option Nat
  | [] => none
  | ')' :: _ => some (used + 1)
  | '\\' :: _ :: rest => commentLength? (used + 2) rest
  | _ :: rest => commentLength? (used + 1) rest

def isGap (c : Char) : Bool :=
  c == ' ' || c == '\n' || c == '\r' || c == '\t'

/-- The number of characters in front that count for nothing. A comment has to be closed. -/
def gapLength? (extended : Bool) (text : List Char) : Option Nat :=
  match text with
  | '(' :: '?' :: '#' :: rest =>
    match commentLength? 0 rest with
    | some length => (gapLength? extended (rest.drop length)).map (length + 3 + ·)
    | none => none
  | c :: rest =>
    if extended && isGap c then (gapLength? extended rest).map (1 + ·)
    else if extended && c == '#' then
      let line := rest.takeWhile (· != '\n')
      (gapLength? extended (rest.drop line.length)).map (line.length + 1 + ·)
    else some 0
  | [] => some 0
termination_by text.length
decreasing_by all_goals simp only [List.length_cons, List.length_drop]; omega

/-- How often an element is to occur, and whether what was matched once is never given back. -/
structure Repetition where
  least : Nat
  most : Option Nat
  lazy : Bool := false
  possessive : Bool := false

namespace Repetition

/-- The signs after a repetition: a question mark for seldom, before which there may be a gap, and a
plus for never giving back. -/
def withManner? (extended : Bool) (repetition : Repetition) (text : List Char) :
    Option (Repetition × Nat) := do
  let gap ← gapLength? extended text
  match text.drop gap with
  | '?' :: '+' :: _ => some ({ repetition with lazy := true, possessive := true }, gap + 2)
  | '?' :: _ => some ({ repetition with lazy := true }, gap + 1)
  | '+' :: _ => some ({ repetition with possessive := true }, gap + 1)
  | _ => some (repetition, gap)

def readBound? (text : List Char) : Option (Nat × Nat) :=
  let digits := text.takeWhile Char.isDigit
  ((Text.numeral? digits).filter (· < Text.countLimit)).map (·, digits.length)

/-- An upper bound; the greatest number is none. -/
def upperBound (n : Nat) : Option Nat :=
  if n + 1 < Text.countLimit then some n else none

/-- The bounds in braces, from the text after the opening one: a number, or two with a comma, either
of which may be missing, and gaps between. Gives the number of characters up to and with the closing
brace. -/
def readBounds? (extended : Bool) (text : List Char) : Option (Repetition × Nat) := do
  let skip (place : Nat) : Option Nat := (gapLength? extended (text.drop place)).map (place + ·)
  let low ← skip 0
  let (least, afterLow) ←
    if (text.drop low).head? = some ',' then some (0, low)
    else (readBound? (text.drop low)).map fun (n, used) => (n, low + used)
  let middle ← skip afterLow
  match text.drop middle with
  | '\x7d' :: _ => some ({ least, most := upperBound least }, middle + 1)
  | ',' :: _ => do
    let high ← skip (middle + 1)
    let (most, afterHigh) := match readBound? (text.drop high) with
      | some (n, used) => (upperBound n, high + used)
      | none => (none, high)
    let last ← skip afterHigh
    if (text.drop last).head? = some '\x7d' then some ({ least, most }, last + 1) else none
  | _ => none

end Repetition

end Rulebook
