/-!
Double-precision numbers, exactly. A double other than NaN is a sign and a rank: its place in the
order of the non-negative doubles, from zero at rank 0 through the least positive one at rank 1 up
to infinity at the last rank. The value is a whole number of units of 2 ^ (-1074), the least
positive double, so comparing doubles is comparing integers, and rounding a fraction to the nearest
double is one division.
-/

namespace Rulebook

def binadeSize : Nat := Nat.pow 2 52

def unitsInOne : Nat := Nat.pow 2 1074

/-- The rank of infinity, after the 2047 binades of finite doubles. -/
def infinityRank : Nat := 9218868437227405312

/-- A double: a signed rank, or NaN. -/
inductive Double where
  | ranked (negative : Bool) (rank : Fin (infinityRank + 1))
  | nan
  deriving DecidableEq, Repr

/-- The units in the double of a rank: below the second binade one unit a rank, then twice as many
with each binade. Infinity counts as 2 ^ 1024. -/
def unitsOfRank (rank : Nat) : Nat :=
  let binade := rank / binadeSize
  if binade = 0 then rank else (binadeSize + rank % binadeSize) * Nat.pow 2 (binade - 1)

/-- A quotient rounded to the nearest whole number, a half to the even one. -/
def roundHalfEven (numerator denominator : Nat) : Nat :=
  let quotient := numerator / denominator
  let twice := 2 * (numerator % denominator)
  if twice < denominator then quotient
  else if denominator < twice then quotient + 1
  else quotient + quotient % 2

/-- The rank of the double nearest to a fraction of a unit count, a half going to the even rank and
everything past the largest double to infinity. A quotient of more than 53 bits keeps its leading
53, and each bit given up is one binade. -/
def nearestRank (numerator denominator : Nat) : Nat :=
  let excess := (numerator / denominator).log2 - 52
  min (excess * binadeSize + roundHalfEven numerator (denominator * Nat.pow 2 excess)) infinityRank

namespace Double

def ofFraction (negative : Bool) (numerator denominator : Nat) : Double :=
  .ranked negative
    ⟨nearestRank (numerator * unitsInOne) denominator,
      Nat.lt_succ_of_le (Nat.min_le_right _ _)⟩

def ofInt (n : Int) : Double :=
  ofFraction (decide (n < 0)) n.natAbs 1

def ofNat (n : Nat) : Double :=
  ofFraction false n 1

def zero (negative : Bool) : Double :=
  .ranked negative 0

def infinity (negative : Bool) : Double :=
  .ranked negative (Fin.last infinityRank)

/-- The exact value in units, which NaN has none of. -/
def units? : Double → Option Int
  | .ranked false rank => some (unitsOfRank rank)
  | .ranked true rank => some (-(unitsOfRank rank : Int))
  | .nan => none

def isFinite : Double → Bool
  | .ranked _ rank => decide (rank.val < infinityRank)
  | .nan => false

def compares (related : Int → Int → Bool) (left right : Double) : Bool :=
  match left.units?, right.units? with
  | some x, some y => related x y
  | _, _ => false

/-- Numeric equality: the two zeros are equal and NaN equals nothing. -/
def same (left right : Double) : Bool :=
  compares (fun x y => decide (x = y)) left right

def atMost (left right : Double) : Bool :=
  compares (fun x y => decide (x ≤ y)) left right

def isPositive (d : Double) : Bool :=
  d.units?.any (0 < ·)

def isNegative (d : Double) : Bool :=
  d.units?.any (· < 0)

def isIntegral (d : Double) : Bool :=
  d.isFinite && d.units?.any fun units => units.natAbs % unitsInOne == 0

def abs : Double → Double
  | .ranked _ rank => .ranked false rank
  | .nan => .nan

def bits : Double → Nat
  | .ranked negative rank => (if negative then Nat.pow 2 63 else 0) + rank
  | .nan => 0x7FF8000000000000

instance : BEq Double := ⟨same⟩

end Double

end Rulebook
