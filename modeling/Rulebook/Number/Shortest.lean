import Rulebook.Number.Decimal

/-!
The shortest figures of a double: the fewest decimal digits that read back as that double, and among
texts of that length the one nearest to its value. Each length is tried in turn; on its decimal grid
only the two neighbours of the value can be nearest. A value in the middle between them is settled
by the tie rule of the format that is written.
-/

namespace Rulebook

/-- The number `0.d₁d₂… * 10 ^ point` written with the digits `d₁d₂…`. -/
structure Figures where
  digits : List Char
  point : Int
  deriving DecidableEq, Repr

inductive Tie where
  | above | toEven
  deriving DecidableEq, Repr

def Tie.goesUp (tie : Tie) (below : Nat) : Bool :=
  match tie with
  | .above => true
  | .toEven => below % 2 == 1

namespace Shortest

def figures (coefficient : Nat) (exponent : Int) : Figures :=
  let digits := Nat.toDigits 10 coefficient
  { digits := (digits.reverse.dropWhile (· = '0')).reverse
    point := digits.length + exponent }

/-- Whether `coefficient * 10 ^ exponent` reads as the non-negative double of a rank. -/
def readsBack (rank : Fin (infinityRank + 1)) (coefficient : Nat) (exponent : Int) : Bool :=
  decide (Decimal.toDouble ⟨false, coefficient, exponent⟩ = .ranked false rank)

/-- The least power of ten above a positive number of units. The least positive double is above
10 ^ (-324). -/
def leadingPoint (units : Nat) : Int :=
  (Nat.toDigits 10 (units * Nat.pow 10 324 / unitsInOne)).length - 324

def onGrid (units : Nat) (exponent : Int) : Nat × Nat :=
  if 0 ≤ exponent then (units, unitsInOne * Nat.pow 10 exponent.toNat)
  else (units * Nat.pow 10 (-exponent).toNat, unitsInOne)

def neighbours (tie : Tie) (numerator denominator : Nat) : List Nat :=
  let below := numerator / denominator
  let twice := 2 * (numerator % denominator)
  if denominator < twice || (twice == denominator && tie.goesUp below) then [below + 1, below]
  else [below, below + 1]

def ofSize? (tie : Tie) (rank : Fin (infinityRank + 1)) (units : Nat) (point : Int) (size : Nat) :
    Option Figures :=
  let exponent := point - size
  let (numerator, denominator) := onGrid units exponent
  ((neighbours tie numerator denominator).find? fun n => readsBack rank n exponent).map
    fun n => figures n exponent

/-- Seventeen digits always suffice; were they not to, all digits of the value would do. -/
def ofRank (tie : Tie) (rank : Fin (infinityRank + 1)) : Figures :=
  let units := unitsOfRank rank
  let point := leadingPoint units
  ((List.range 17).findSome? fun size => ofSize? tie rank units point (size + 1)).getD
    (figures (units * Nat.pow 5 1074) (-1074))

end Shortest

namespace Figures

def positional (f : Figures) : List Char :=
  if f.point ≤ 0 then
    '0' :: '.' :: (List.replicate (-f.point).toNat '0' ++ f.digits)
  else if f.digits.length ≤ f.point.toNat then
    f.digits ++ List.replicate (f.point.toNat - f.digits.length) '0'
  else f.digits.take f.point.toNat ++ '.' :: f.digits.drop f.point.toNat

/-- One digit, the others after a point if there are any, and the exponent of ten. A plus sign
stands before an exponent that is not negative when `signed`. -/
def scientific (signed : Bool) (f : Figures) : List Char :=
  let exponent := f.point - 1
  let mantissa := match f.digits with
    | [] => []
    | [d] => [d]
    | d :: rest => d :: '.' :: rest
  let sign := if exponent < 0 then ['-'] else if signed then ['+'] else []
  mantissa ++ 'e' :: sign ++ Nat.toDigits 10 exponent.natAbs

end Figures

end Rulebook
