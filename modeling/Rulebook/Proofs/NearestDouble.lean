import Rulebook.Proofs.Numerals
import Mathlib.Algebra.Order.Field.Basic
import Mathlib.Algebra.Order.Field.Rat
import Mathlib.Tactic.FieldSimp
import Mathlib.Tactic.Linarith

/-!
The nearest double. A double is nearest to a number when no other double is nearer, and when its
rank is even if another one is as near. There is exactly one, and reading a decimal gives it: see
`Decimal.isNearest_iff`.
-/

namespace Rulebook

theorem unitsOfRank_of_excess {excess place : Nat} (bounded : place ≤ 2 * binadeSize)
    (later : 0 < excess → binadeSize ≤ place) :
    unitsOfRank (excess * binadeSize + place) = place * 2 ^ excess := by
  by_cases first : place < binadeSize
  · have none : excess = 0 := by omega
    rw [none, Nat.zero_mul, Nat.zero_add, unitsOfRank_of_first first, Nat.pow_zero, Nat.mul_one]
  · by_cases full : place = 2 * binadeSize
    · have split : excess * binadeSize + place = binadeSize * (excess + 1 + 1) + 0 := by
        rw [full, Nat.mul_succ, Nat.mul_succ, Nat.mul_comm excess]
        omega
      rw [split, unitsOfRank_of_later binadeSize_pos, Nat.pow_eq, full, Nat.pow_succ', Nat.add_zero,
        Nat.mul_comm 2 binadeSize, Nat.mul_assoc]
    · have split : excess * binadeSize + place =
          binadeSize * (excess + 1) + (place - binadeSize) := by
        rw [Nat.mul_succ, Nat.mul_comm excess]
        omega
      have whole : binadeSize + (place - binadeSize) = place := by omega
      rw [split, unitsOfRank_of_later (by omega), Nat.pow_eq, whole]

/-- How far a fraction of a unit count is from the value of a rank, in units by the denominator. -/
def gapToRank (numerator denominator rank : Nat) : Nat :=
  ((numerator : Int) - (unitsOfRank rank * denominator : Nat)).natAbs

/-- How far apart the values of neighbouring ranks are around a fraction, by the denominator. -/
def stepAt (numerator denominator : Nat) : Nat :=
  denominator * 2 ^ excessOf (numerator / denominator)

/-- The last rank whose value is not above a fraction of a unit count. -/
def floorRank (numerator denominator : Nat) : Nat :=
  excessOf (numerator / denominator) * binadeSize + numerator / stepAt numerator denominator

section Neighbours

variable (numerator denominator : Nat)

theorem floor_place_bounds :
    numerator / stepAt numerator denominator < 2 * binadeSize ∧
      (0 < excessOf (numerator / denominator) →
        binadeSize ≤ numerator / stepAt numerator denominator) := by
  have power : 0 < 2 ^ excessOf (numerator / denominator) := Nat.two_pow_pos _
  rw [stepAt, ← Nat.div_div_eq_div_mul]
  constructor
  · have above := excessOf_above (numerator / denominator)
    exact Nat.div_lt_of_lt_mul (by rwa [Nat.mul_comm])
  · intro later
    exact (Nat.le_div_iff_mul_le power).mpr (excessOf_below later)

theorem units_floorRank :
    unitsOfRank (floorRank numerator denominator) * denominator +
      numerator % stepAt numerator denominator = numerator := by
  obtain ⟨above, below⟩ := floor_place_bounds numerator denominator
  have split := Nat.div_add_mod' numerator (stepAt numerator denominator)
  have units := unitsOfRank_of_excess (Nat.le_of_lt above) below
  have same : numerator / stepAt numerator denominator * 2 ^ excessOf (numerator / denominator) *
      denominator =
      numerator / stepAt numerator denominator * stepAt numerator denominator := by
    rw [Nat.mul_assoc, Nat.mul_comm _ denominator]
    rfl
  rw [floorRank, units, same]
  exact split

theorem units_floorRank_succ :
    unitsOfRank (floorRank numerator denominator + 1) * denominator =
      unitsOfRank (floorRank numerator denominator) * denominator +
        stepAt numerator denominator := by
  obtain ⟨above, below⟩ := floor_place_bounds numerator denominator
  have step : stepAt numerator denominator =
      2 ^ excessOf (numerator / denominator) * denominator := Nat.mul_comm ..
  have later : 0 < excessOf (numerator / denominator) →
      binadeSize ≤ numerator / stepAt numerator denominator + 1 :=
    fun later => Nat.le_succ_of_le (below later)
  rw [floorRank, Nat.add_assoc, unitsOfRank_of_excess above later,
    unitsOfRank_of_excess (Nat.le_of_lt above) below, Nat.succ_mul, Nat.add_mul, ← step]

/-- Rounding goes to the nearer neighbour, and in the middle to the even one. -/
theorem rankOf_cases :
    (2 * (numerator % stepAt numerator denominator) < stepAt numerator denominator ∧
      rankOf numerator denominator = floorRank numerator denominator) ∨
    (stepAt numerator denominator < 2 * (numerator % stepAt numerator denominator) ∧
      rankOf numerator denominator = floorRank numerator denominator + 1) ∨
    (2 * (numerator % stepAt numerator denominator) = stepAt numerator denominator ∧
      (rankOf numerator denominator = floorRank numerator denominator ∨
        rankOf numerator denominator = floorRank numerator denominator + 1) ∧
      rankOf numerator denominator % 2 = 0) := by
  have even : excessOf (numerator / denominator) * binadeSize % 2 = 0 := by
    have binade : binadeSize % 2 = 0 := by decide +kernel
    rw [Nat.mul_mod, binade, Nat.mul_zero]
  have rank : rankOf numerator denominator = excessOf (numerator / denominator) * binadeSize +
      roundHalfEven numerator (stepAt numerator denominator) := rfl
  rw [rank, floorRank, roundHalfEven]
  generalize excessOf (numerator / denominator) * binadeSize = offset at even
  split_ifs with less more
  · exact .inl ⟨less, rfl⟩
  · exact .inr (.inl ⟨more, rfl⟩)
  · refine .inr (.inr ⟨by omega, ?_, by omega⟩)
    rcases Nat.mod_two_eq_zero_or_one (numerator / stepAt numerator denominator) with lower | upper
    · left
      omega
    · right
      omega

variable {denominator} (positive : 0 < denominator)

include positive

/-- No rank is nearer than the one that rounding gives, whatever rank there is. -/
theorem rankOf_nearest (other : Nat) :
    gapToRank numerator denominator (rankOf numerator denominator) ≤
        gapToRank numerator denominator other ∧
      (other ≠ rankOf numerator denominator →
        gapToRank numerator denominator other =
          gapToRank numerator denominator (rankOf numerator denominator) →
        rankOf numerator denominator % 2 = 0) := by
  have lower := units_floorRank numerator denominator
  have upper := units_floorRank_succ numerator denominator
  have inside : numerator % stepAt numerator denominator < stepAt numerator denominator :=
    Nat.mod_lt _ (Nat.mul_pos positive (Nat.two_pow_pos _))
  have rounded := rankOf_cases numerator denominator
  have ordered {first second : Nat} (less : first < second) :
      unitsOfRank first * denominator < unitsOfRank second * denominator :=
    Nat.mul_lt_mul_of_pos_right (unitsOfRank_strictMono less) positive
  have position : other < floorRank numerator denominator ∨
      other = floorRank numerator denominator ∨ other = floorRank numerator denominator + 1 ∨
      floorRank numerator denominator + 1 < other := by omega
  generalize rankOf numerator denominator = rank at rounded ⊢
  generalize floorRank numerator denominator = floor at lower upper rounded position
  generalize numerator % stepAt numerator denominator = rest at lower inside rounded
  generalize stepAt numerator denominator = step at upper inside rounded
  simp only [gapToRank]
  rcases position with before | rfl | rfl | after
  · have less := ordered before
    rcases rounded with ⟨near, rfl⟩ | ⟨near, rfl⟩ | ⟨middle, rfl | rfl, even⟩ <;> omega
  · rcases rounded with ⟨near, rfl⟩ | ⟨near, rfl⟩ | ⟨middle, rfl | rfl, even⟩ <;> omega
  · rcases rounded with ⟨near, rfl⟩ | ⟨near, rfl⟩ | ⟨middle, rfl | rfl, even⟩ <;> omega
  · have less := ordered after
    rcases rounded with ⟨near, rfl⟩ | ⟨near, rfl⟩ | ⟨middle, rfl | rfl, even⟩ <;> omega

/-- The cut at infinity keeps the nearest among the ranks that there are. -/
theorem nearestRank_nearest {other : Nat} (bounded : other ≤ infinityRank) :
    gapToRank numerator denominator (nearestRank numerator denominator) ≤
        gapToRank numerator denominator other ∧
      (other ≠ nearestRank numerator denominator →
        gapToRank numerator denominator other =
          gapToRank numerator denominator (nearestRank numerator denominator) →
        nearestRank numerator denominator % 2 = 0) := by
  rw [nearestRank_eq]
  by_cases kept : rankOf numerator denominator ≤ infinityRank
  · rw [Nat.min_eq_left kept]
    exact rankOf_nearest numerator positive other
  · have above : infinityRank ≤ floorRank numerator denominator := by
      rcases rankOf_cases numerator denominator with ⟨_, same⟩ | ⟨_, next⟩ | ⟨_, same | next, _⟩ <;>
        omega
    have lower := units_floorRank numerator denominator
    have ordered : unitsOfRank infinityRank * denominator ≤
        unitsOfRank (floorRank numerator denominator) * denominator :=
      Nat.mul_le_mul_right _ (unitsOfRank_strictMono.monotone above)
    rw [Nat.min_eq_right (by omega)]
    rcases Nat.lt_or_eq_of_le bounded with before | same
    · have less : unitsOfRank other * denominator < unitsOfRank infinityRank * denominator :=
        Nat.mul_lt_mul_of_pos_right (unitsOfRank_strictMono before) positive
      simp only [gapToRank]
      omega
    · rw [same]
      exact ⟨Nat.le_refl _, fun differs => absurd rfl differs⟩

end Neighbours

/-- The value of a rank; infinity counts as 2 ^ 1024. -/
def valueOfRank (rank : Nat) : ℚ :=
  unitsOfRank rank / unitsInOne

/-- Whether no rank has a value nearer to a magnitude, and any other that is as near is passed over
because this one is even. -/
structure IsNearestRank (magnitude : ℚ) (rank : Fin (infinityRank + 1)) : Prop where
  least : ∀ other : Fin (infinityRank + 1),
    |magnitude - valueOfRank rank| ≤ |magnitude - valueOfRank other|
  even : ∀ other : Fin (infinityRank + 1), other ≠ rank →
    |magnitude - valueOfRank other| = |magnitude - valueOfRank rank| → rank.val % 2 = 0

theorem unitsInOne_pos : (0 : ℚ) < unitsInOne := by
  have positive : 0 < unitsInOne := by decide +kernel
  exact_mod_cast positive

theorem valueOfRank_lt {first second : Nat} (less : first < second) :
    valueOfRank first < valueOfRank second := by
  have units : unitsOfRank first < unitsOfRank second := unitsOfRank_strictMono less
  exact div_lt_div_of_pos_right (by exact_mod_cast units) unitsInOne_pos

theorem valueOfRank_eq {rank whole less : Nat}
    (units : unitsOfRank rank + less * unitsInOne = whole * unitsInOne) :
    valueOfRank rank = (whole : ℚ) - less := by
  rw [valueOfRank, div_eq_iff (ne_of_gt unitsInOne_pos), sub_mul, eq_sub_iff_add_eq]
  exact_mod_cast units

theorem valueOfRank_infinity : valueOfRank infinityRank = 2 ^ 1024 := by
  have units : unitsOfRank infinityRank + 0 * unitsInOne = 2 ^ 1024 * unitsInOne := by
    decide +kernel
  rw [valueOfRank_eq units]
  simp only [Nat.cast_pow, Nat.cast_ofNat, Nat.cast_zero, sub_zero]

/-- The greatest finite double. -/
theorem valueOfRank_last : valueOfRank (infinityRank - 1) = 2 ^ 1024 - 2 * 2 ^ 970 := by
  have units : unitsOfRank (infinityRank - 1) + 2 * 2 ^ 970 * unitsInOne =
      2 ^ 1024 * unitsInOne := by decide +kernel
  rw [valueOfRank_eq units]
  simp only [Nat.cast_pow, Nat.cast_mul, Nat.cast_ofNat]

theorem abs_sub_valueOfRank {numerator denominator : Nat} (positive : 0 < denominator)
    (rank : Nat) :
    |(numerator : ℚ) / denominator - valueOfRank rank| =
      gapToRank (numerator * unitsInOne) denominator rank / (denominator * unitsInOne) := by
  have units := unitsInOne_pos
  have below : (0 : ℚ) < denominator := by exact_mod_cast positive
  have gap : (gapToRank (numerator * unitsInOne) denominator rank : ℚ) =
      |(numerator * unitsInOne : ℚ) - unitsOfRank rank * denominator| := by
    rw [gapToRank, Nat.cast_natAbs]
    push_cast
    rfl
  have common : (numerator : ℚ) / denominator - valueOfRank rank =
      ((numerator * unitsInOne : ℚ) - unitsOfRank rank * denominator) /
        (denominator * unitsInOne) := by
    rw [valueOfRank, div_sub_div _ _ below.ne' units.ne',
      mul_comm (denominator : ℚ) (unitsOfRank rank)]
  rw [common, gap, abs_div, abs_of_pos (mul_pos below units)]

namespace IsNearestRank

variable {magnitude : ℚ} {first second : Fin (infinityRank + 1)}

/-- Two ranks cannot both be nearest: both would be even, and the one between them nearer. -/
theorem not_less (isFirst : IsNearestRank magnitude first)
    (isSecond : IsNearestRank magnitude second) : ¬first.val < second.val := by
  intro less
  have differs : first ≠ second := fun same => absurd less (by rw [same]; exact Nat.lt_irrefl _)
  have alike : |magnitude - valueOfRank second| = |magnitude - valueOfRank first| :=
    le_antisymm (isSecond.least first) (isFirst.least second)
  have firstEven := isFirst.even second differs.symm alike
  have secondEven := isSecond.even first differs alike.symm
  have apart : first.val + 1 < second.val := by omega
  have bound : first.val + 1 < infinityRank + 1 := lt_trans apart second.isLt
  have nearer := isFirst.least ⟨first.val + 1, bound⟩
  have lower : valueOfRank first < valueOfRank (first.val + 1) := valueOfRank_lt (Nat.lt_succ_self _)
  have upper : valueOfRank (first.val + 1) < valueOfRank second := valueOfRank_lt apart
  have middle : magnitude - valueOfRank first = valueOfRank second - magnitude := by
    rcases abs_eq_abs.mp alike with same | opposite
    · linarith
    · linarith
  have outside : |magnitude - valueOfRank first| = magnitude - valueOfRank first :=
    abs_of_nonneg (by linarith)
  rw [outside] at nearer
  rcases abs_cases (magnitude - valueOfRank (first.val + 1)) with ⟨same, _⟩ | ⟨same, _⟩
  · linarith
  · linarith

theorem unique (isFirst : IsNearestRank magnitude first)
    (isSecond : IsNearestRank magnitude second) : first = second := by
  have notBefore := isFirst.not_less isSecond
  have notAfter := isSecond.not_less isFirst
  exact Fin.ext (by omega)

/-- From the middle between the last finite double and 2 ^ 1024 upwards, infinity is nearest. -/
theorem eq_infinity (nearest : IsNearestRank magnitude first)
    (great : (2 : ℚ) ^ 1024 - 2 ^ 970 ≤ magnitude) : first.val = infinityRank := by
  by_contra finite
  have before : first.val ≤ infinityRank - 1 := by
    have bound := first.isLt
    omega
  have top := valueOfRank_infinity
  have last := valueOfRank_last
  have half : (0 : ℚ) < 2 ^ 970 := by positivity
  have atTop := nearest.least (Fin.last infinityRank)
  have tie := nearest.even (Fin.last infinityRank) (fun same => finite (by rw [← same]; rfl))
  rw [Fin.val_last, top] at atTop tie
  generalize (2 : ℚ) ^ 1024 = limit at great last atTop tie
  generalize (2 : ℚ) ^ 970 = step at great last half
  rcases Nat.lt_or_eq_of_le before with below | atLast
  · have lower : valueOfRank first < valueOfRank (infinityRank - 1) := valueOfRank_lt below
    rcases abs_cases (magnitude - valueOfRank first) with ⟨same, _⟩ | ⟨same, _⟩ <;>
      rcases abs_cases (magnitude - limit) with ⟨other, _⟩ | ⟨other, _⟩ <;> linarith
  · rw [atLast] at atTop tie
    have odd : (infinityRank - 1) % 2 = 1 := by decide +kernel
    have alike : |magnitude - limit| = |magnitude - valueOfRank (infinityRank - 1)| := by
      rcases abs_cases (magnitude - valueOfRank (infinityRank - 1)) with ⟨same, _⟩ | ⟨same, _⟩ <;>
        rcases abs_cases (magnitude - limit) with ⟨other, _⟩ | ⟨other, _⟩ <;> linarith
    have even := tie alike
    omega

end IsNearestRank

namespace Double

/-- Whether a double is the nearest to the number of a sign and a magnitude. -/
def IsNearest (negative : Bool) (magnitude : ℚ) (d : Double) : Prop :=
  ∃ rank, d = ranked negative rank ∧ IsNearestRank magnitude rank

theorem IsNearest.unique {negative : Bool} {magnitude : ℚ} {first second : Double}
    (isFirst : first.IsNearest negative magnitude)
    (isSecond : second.IsNearest negative magnitude) : first = second := by
  obtain ⟨rank, rfl, nearest⟩ := isFirst
  obtain ⟨other, rfl, otherNearest⟩ := isSecond
  rw [nearest.unique otherNearest]

theorem isNearest_ofFraction (negative : Bool) (numerator : Nat) {denominator : Nat}
    (positive : 0 < denominator) :
    (ofFraction negative numerator denominator).IsNearest negative
      ((numerator : ℚ) / denominator) := by
  have scale : (0 : ℚ) < denominator * unitsInOne :=
    mul_pos (by exact_mod_cast positive) unitsInOne_pos
  refine ⟨_, rfl, ?_, ?_⟩
  · intro other
    have nearest := nearestRank_nearest (numerator * unitsInOne) positive
      (Nat.le_of_lt_succ other.isLt)
    rw [abs_sub_valueOfRank positive, abs_sub_valueOfRank positive]
    apply div_le_div_of_nonneg_right _ (le_of_lt scale)
    exact_mod_cast nearest.1
  · intro other differs alike
    have nearest := nearestRank_nearest (numerator * unitsInOne) positive
      (Nat.le_of_lt_succ other.isLt)
    rw [abs_sub_valueOfRank positive, abs_sub_valueOfRank positive,
      div_left_inj' (ne_of_gt scale)] at alike
    apply nearest.2 (fun same => differs (Fin.ext same))
    exact_mod_cast alike

end Double

namespace Decimal

/-- The number written, without its sign. -/
def magnitude (d : Decimal) : ℚ :=
  d.coefficient * 10 ^ d.exponent

theorem magnitude_eq (d : Decimal) :
    d.magnitude = ((d.coefficient * 10 ^ d.exponent.toNat : Nat) : ℚ) /
      (10 ^ (-d.exponent).toNat : Nat) := by
  rw [magnitude]
  rcases Int.le_total 0 d.exponent with whole | fraction
  · obtain ⟨power, same⟩ := Int.eq_ofNat_of_zero_le whole
    simp [same]
  · obtain ⟨power, same⟩ := Int.eq_ofNat_of_zero_le (Int.neg_nonneg_of_nonpos fraction)
    have exponent : d.exponent = -(power : Int) := by omega
    simp [exponent, div_eq_mul_inv]

/-- A decimal is read as the double nearest to it, and there is no other. -/
theorem isNearest_iff {d : Decimal} {double : Double} :
    double.IsNearest d.negative d.magnitude ↔ double = d.toDouble := by
  have nearest : d.toDouble.IsNearest d.negative d.magnitude := by
    rw [toDouble_eq_nearest, magnitude_eq]
    exact Double.isNearest_ofFraction _ _ (ten_pow_pos _)
  constructor
  · intro isNearest
    exact isNearest.unique nearest
  · rintro rfl
    exact nearest

end Decimal

end Rulebook
