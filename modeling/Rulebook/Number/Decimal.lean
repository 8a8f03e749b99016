import Rulebook.Number.Double
import Rulebook.Text

/-!
Decimal numerals: a sign, digits with at most one point among them or at either end, and an
exponent. `Decimal.read?` accepts exactly these texts and `Decimal.toDouble` is the double nearest
to the number written.
-/

namespace Rulebook

/-- The number `coefficient * 10 ^ exponent`, with a sign that zero may carry too. -/
structure Decimal where
  negative : Bool
  coefficient : Nat
  exponent : Int
  deriving DecidableEq, Repr

namespace Decimal

/-- Every double is below this power of ten, infinity apart. -/
def greatestPoint : Int := 309

/-- A magnitude below this power of ten is nearer to zero than to the least positive double. -/
def leastPoint : Int := -324

/-- The double nearest to a decimal number. Numbers far outside the range of doubles are settled by
their magnitude, so that a huge exponent is never raised to. -/
def toDouble (d : Decimal) : Double :=
  let point := (Nat.toDigits 10 d.coefficient).length + d.exponent
  if d.coefficient = 0 ∨ point < leastPoint then .zero d.negative
  else if greatestPoint < point then .infinity d.negative
  else if 0 ≤ d.exponent then
    .ofFraction d.negative (d.coefficient * Nat.pow 10 d.exponent.toNat) 1
  else .ofFraction d.negative d.coefficient (Nat.pow 10 (-d.exponent).toNat)

def readSign : List Char → Bool × List Char
  | '-' :: rest => (true, rest)
  | '+' :: rest => (false, rest)
  | rest => (false, rest)

/-- The exponent that ends a numeral: nothing, or a letter `e`, an optional sign and digits. -/
def readExponent? : List Char → Option Int
  | [] => some 0
  | marker :: rest =>
    if marker = 'e' ∨ marker = 'E' then
      let (negative, digits) := readSign rest
      (Text.numeral? digits).map fun n => if negative then -(n : Int) else n
    else none

def readFraction : List Char → List Char × List Char
  | '.' :: rest => (rest.takeWhile Char.isDigit, rest.dropWhile Char.isDigit)
  | rest => ([], rest)

def read? (text : List Char) : Option Decimal :=
  let (negative, body) := readSign text
  let whole := body.takeWhile Char.isDigit
  let (fraction, rest) := readFraction (body.dropWhile Char.isDigit)
  if whole.isEmpty && fraction.isEmpty then none
  else
    (readExponent? rest).map fun exponent =>
      { negative
        coefficient := Nat.ofDigitChars 10 (whole ++ fraction) 0
        exponent := exponent - fraction.length }

end Decimal

end Rulebook
