import Rulebook.Proofs.DoubleValues
import Mathlib.Algebra.Ring.Nat
import Mathlib.Tactic.SplitIfs

/-!
Rounding to the nearest double. The nearest rank depends on the value of a fraction only, it grows
with the value, and the value of a double is its own nearest. Whole numbers up to 2 ^ 53 are values
of doubles, so below that rounding tells them apart.
-/

namespace Rulebook

section Quotient

theorem roundHalfEven_scale (numerator denominator : Nat) {factor : Nat} (positive : 0 < factor) :
    roundHalfEven (numerator * factor) (denominator * factor) =
      roundHalfEven numerator denominator := by
  have below (left right : Nat) : left * factor < right * factor ↔ left < right :=
    Nat.mul_lt_mul_right positive
  rw [roundHalfEven, roundHalfEven, Nat.mul_div_mul_right _ _ positive, Nat.mul_mod_mul_right]
  simp only [← Nat.mul_assoc, below]

theorem roundHalfEven_mul (whole : Nat) {denominator : Nat} (positive : 0 < denominator) :
    roundHalfEven (whole * denominator) denominator = whole := by
  rw [roundHalfEven, Nat.mul_div_cancel _ positive, Nat.mul_mod_left]
  exact if_pos positive

theorem roundHalfEven_eq_or (numerator denominator : Nat) :
    roundHalfEven numerator denominator = numerator / denominator ∨
      roundHalfEven numerator denominator = numerator / denominator + 1 := by
  rw [roundHalfEven]
  split
  · exact .inl rfl
  · split
    · exact .inr rfl
    · rcases Nat.mod_two_eq_zero_or_one (numerator / denominator) with even | odd
      · exact .inl (by rw [even, Nat.add_zero])
      · exact .inr (by rw [odd])

theorem roundHalfEven_mono {first second : Nat} (ordered : first ≤ second) (denominator : Nat) :
    roundHalfEven first denominator ≤ roundHalfEven second denominator := by
  have quotients : first / denominator ≤ second / denominator := Nat.div_le_div_right ordered
  rcases Nat.lt_or_eq_of_le quotients with less | same
  · rcases roundHalfEven_eq_or first denominator with down | up <;>
      rcases roundHalfEven_eq_or second denominator with other | other <;> omega
  · have firstSplit := Nat.div_add_mod first denominator
    have secondSplit := Nat.div_add_mod second denominator
    rw [same] at firstSplit
    have remainders : first % denominator ≤ second % denominator := by omega
    rw [roundHalfEven, roundHalfEven, same]
    split_ifs <;> omega

end Quotient

/-- How many binades a quotient is above the first one. -/
def excessOf (quotient : Nat) : Nat :=
  quotient.log2 - 52

/-- The nearest rank, before it is cut off at infinity. -/
def rankOf (numerator denominator : Nat) : Nat :=
  excessOf (numerator / denominator) * binadeSize +
    roundHalfEven numerator (denominator * 2 ^ excessOf (numerator / denominator))

theorem nearestRank_eq (numerator denominator : Nat) :
    nearestRank numerator denominator = min (rankOf numerator denominator) infinityRank :=
  rfl

theorem excessOf_above (quotient : Nat) :
    quotient < 2 * binadeSize * 2 ^ excessOf quotient := by
  have whole : 2 * binadeSize = 2 ^ 53 := rfl
  have above : quotient < 2 ^ (quotient.log2 + 1) := Nat.lt_log2_self
  rw [whole, ← Nat.pow_add, excessOf]
  exact Nat.lt_of_lt_of_le above (Nat.pow_le_pow_right (by omega) (by omega))

theorem excessOf_below {quotient : Nat} (later : 0 < excessOf quotient) :
    binadeSize * 2 ^ excessOf quotient ≤ quotient := by
  have whole : binadeSize = 2 ^ 52 := rfl
  rw [excessOf] at later
  have exponent : 52 + (quotient.log2 - 52) = quotient.log2 := by omega
  have nonzero : quotient ≠ 0 := by
    rintro rfl
    simp at later
  rw [whole, ← Nat.pow_add, excessOf, exponent]
  exact Nat.log2_self_le nonzero

theorem excess_le {first second low high : Nat} (ordered : first ≤ second)
    (below : 0 < low → binadeSize * 2 ^ low ≤ first) (above : second < 2 * binadeSize * 2 ^ high) :
    low ≤ high := by
  by_contra greater
  have powers : 2 ^ (high + 1) ≤ 2 ^ low := Nat.pow_le_pow_right (by omega) (by omega)
  have binades : binadeSize * 2 ^ (high + 1) ≤ binadeSize * 2 ^ low :=
    Nat.mul_le_mul_left binadeSize powers
  have doubled : 2 * binadeSize * 2 ^ high = binadeSize * 2 ^ (high + 1) := by
    rw [Nat.pow_succ', Nat.mul_comm 2, Nat.mul_assoc]
  have least := below (by omega)
  omega

theorem excessOf_mono {first second : Nat} (ordered : first ≤ second) :
    excessOf first ≤ excessOf second :=
  excess_le ordered excessOf_below (excessOf_above second)

theorem excessOf_eq {quotient excess : Nat} (above : quotient < 2 * binadeSize * 2 ^ excess)
    (below : 0 < excess → binadeSize * 2 ^ excess ≤ quotient) : excessOf quotient = excess :=
  Nat.le_antisymm (excess_le (Nat.le_refl _) excessOf_below above)
    (excess_le (Nat.le_refl _) below (excessOf_above quotient))

theorem rankOf_le (numerator denominator : Nat) :
    rankOf numerator denominator ≤ (excessOf (numerator / denominator) + 2) * binadeSize := by
  have above := excessOf_above (numerator / denominator)
  rw [rankOf]
  generalize excessOf (numerator / denominator) = excess at above ⊢
  have near := roundHalfEven_eq_or numerator (denominator * 2 ^ excess)
  have inside : numerator / (denominator * 2 ^ excess) < 2 * binadeSize := by
    rw [← Nat.div_div_eq_div_mul]
    exact Nat.div_lt_of_lt_mul (by rwa [Nat.mul_comm])
  rw [Nat.add_mul]
  omega

theorem le_rankOf {numerator denominator : Nat}
    (later : 0 < excessOf (numerator / denominator)) :
    (excessOf (numerator / denominator) + 1) * binadeSize ≤ rankOf numerator denominator := by
  have below := excessOf_below later
  rw [rankOf]
  generalize excessOf (numerator / denominator) = excess at below ⊢
  have near := roundHalfEven_eq_or numerator (denominator * 2 ^ excess)
  have full : binadeSize ≤ numerator / (denominator * 2 ^ excess) := by
    rw [← Nat.div_div_eq_div_mul]
    exact (Nat.le_div_iff_mul_le (Nat.two_pow_pos excess)).mpr below
  rw [Nat.add_mul]
  omega

theorem rankOf_mono {first second : Nat} (ordered : first ≤ second) (denominator : Nat) :
    rankOf first denominator ≤ rankOf second denominator := by
  have quotients : first / denominator ≤ second / denominator := Nat.div_le_div_right ordered
  rcases Nat.lt_or_eq_of_le (excessOf_mono quotients) with less | same
  · calc rankOf first denominator
        ≤ (excessOf (first / denominator) + 2) * binadeSize := rankOf_le first denominator
      _ ≤ (excessOf (second / denominator) + 1) * binadeSize :=
          Nat.mul_le_mul_right _ (by omega)
      _ ≤ rankOf second denominator := le_rankOf (by omega)
  · rw [rankOf, rankOf, same]
    exact Nat.add_le_add_left (roundHalfEven_mono ordered _) _

theorem nearestRank_scale (numerator denominator : Nat) {factor : Nat} (positive : 0 < factor) :
    nearestRank (numerator * factor) (denominator * factor) =
      nearestRank numerator denominator := by
  rw [nearestRank_eq, nearestRank_eq, rankOf, rankOf, Nat.mul_div_mul_right _ _ positive,
    Nat.mul_right_comm denominator, roundHalfEven_scale _ _ positive]

/-- The greater of two fractions has the greater nearest rank, or both have the same. -/
theorem nearestRank_mono {first second firstDenominator secondDenominator : Nat}
    (firstPositive : 0 < firstDenominator) (secondPositive : 0 < secondDenominator)
    (ordered : first * secondDenominator ≤ second * firstDenominator) :
    nearestRank first firstDenominator ≤ nearestRank second secondDenominator := by
  rw [← nearestRank_scale first _ secondPositive, ← nearestRank_scale second _ firstPositive,
    Nat.mul_comm secondDenominator, nearestRank_eq, nearestRank_eq]
  have ranks := rankOf_mono ordered (firstDenominator * secondDenominator)
  omega

theorem nearestRank_eq_of_eq {first second firstDenominator secondDenominator : Nat}
    (firstPositive : 0 < firstDenominator) (secondPositive : 0 < secondDenominator)
    (same : first * secondDenominator = second * firstDenominator) :
    nearestRank first firstDenominator = nearestRank second secondDenominator :=
  Nat.le_antisymm (nearestRank_mono firstPositive secondPositive (Nat.le_of_eq same))
    (nearestRank_mono secondPositive firstPositive (Nat.le_of_eq same.symm))

/-- The value of a double has this double as its nearest. -/
theorem nearestRank_unitsOfRank {rank : Nat} (bounded : rank ≤ infinityRank) :
    nearestRank (unitsOfRank rank) 1 = rank := by
  have split : rank = binadeSize * (rank / binadeSize) + rank % binadeSize :=
    (Nat.div_add_mod rank binadeSize).symm
  have inside : rank % binadeSize < binadeSize := Nat.mod_lt _ binadeSize_pos
  generalize rank / binadeSize = binade at split
  generalize rank % binadeSize = place at split inside
  suffices rankOf (unitsOfRank rank) 1 = rank by
    rw [nearestRank_eq, this]
    omega
  have whole (count : Nat) : roundHalfEven count 1 = count := by
    have exact := roundHalfEven_mul count Nat.one_pos
    rwa [Nat.mul_one] at exact
  rw [rankOf, Nat.div_one, Nat.one_mul]
  cases binade with
  | zero =>
      rw [Nat.mul_zero, Nat.zero_add] at split
      have excess : excessOf place = 0 := excessOf_eq (by omega) (by omega)
      rw [split, unitsOfRank_of_first inside, excess, Nat.pow_zero, whole]
      omega
  | succ binade =>
      have power : 0 < 2 ^ binade := Nat.two_pow_pos binade
      have excess : excessOf ((binadeSize + place) * 2 ^ binade) = binade := by
        apply excessOf_eq
        · exact Nat.mul_lt_mul_of_pos_right (by omega) power
        · exact fun _ => Nat.mul_le_mul_right _ (by omega)
      rw [split, unitsOfRank_of_later inside, Nat.pow_eq, excess,
        roundHalfEven_mul _ power, Nat.mul_succ, Nat.mul_comm binade]
      omega

/-- Every multiple of a power of two, by less than 2 ^ 53, is the value of a rank. -/
theorem exists_unitsOfRank_eq {factor : Nat} (bounded : factor < 2 * binadeSize) (power : Nat) :
    ∃ rank, unitsOfRank rank = factor * 2 ^ power := by
  induction power generalizing factor with
  | zero =>
      by_cases first : factor < binadeSize
      · exact ⟨factor, by rw [unitsOfRank_of_first first, Nat.pow_zero, Nat.mul_one]⟩
      · refine ⟨binadeSize * (0 + 1) + (factor - binadeSize), ?_⟩
        rw [unitsOfRank_of_later (by omega), Nat.pow_eq, Nat.add_sub_cancel' (by omega)]
  | succ power ih =>
      by_cases small : factor < binadeSize
      · obtain ⟨rank, units⟩ := @ih (2 * factor) (by omega)
        refine ⟨rank, units.trans ?_⟩
        rw [Nat.pow_succ', ← Nat.mul_assoc, Nat.mul_comm 2]
      · refine ⟨binadeSize * (power + 1 + 1) + (factor - binadeSize), ?_⟩
        rw [unitsOfRank_of_later (by omega), Nat.pow_eq, Nat.add_sub_cancel' (by omega)]

end Rulebook
