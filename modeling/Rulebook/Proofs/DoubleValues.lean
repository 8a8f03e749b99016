import Mathlib.Order.Monotone.Basic
import Rulebook.Number.Canonical

/-!
The values of doubles. Ranks and values grow together, so a double is given by its value, but for
the two zeros; and whatever does not tell the zeros apart does not tell equal doubles apart.
-/

namespace Rulebook

theorem binadeSize_pos : 0 < binadeSize := by
  decide

theorem unitsOfRank_of_first {place : Nat} (inside : place < binadeSize) :
    unitsOfRank place = place := by
  rw [unitsOfRank, Nat.div_eq_of_lt inside]
  rfl

theorem unitsOfRank_of_later {place : Nat} (inside : place < binadeSize) (binade : Nat) :
    unitsOfRank (binadeSize * (binade + 1) + place) =
      (binadeSize + place) * Nat.pow 2 binade := by
  have quotient : (binadeSize * (binade + 1) + place) / binadeSize = binade + 1 := by
    rw [Nat.mul_add_div binadeSize_pos, Nat.div_eq_of_lt inside, Nat.add_zero]
  have remainder : (binadeSize * (binade + 1) + place) % binadeSize = place := by
    rw [Nat.mul_add_mod, Nat.mod_eq_of_lt inside]
  simp only [unitsOfRank, quotient, remainder]
  rfl

theorem unitsOfRank_lt_succ (rank : Nat) : unitsOfRank rank < unitsOfRank (rank + 1) := by
  have split : rank = binadeSize * (rank / binadeSize) + rank % binadeSize :=
    (Nat.div_add_mod rank binadeSize).symm
  have inside : rank % binadeSize < binadeSize := Nat.mod_lt _ binadeSize_pos
  generalize rank / binadeSize = binade at split
  generalize rank % binadeSize = place at split inside
  subst split
  -- The next rank is in the same binade, or the first of the next one.
  by_cases last : place + 1 < binadeSize
  · cases binade with
    | zero =>
        rw [Nat.mul_zero, Nat.zero_add, unitsOfRank_of_first inside, unitsOfRank_of_first last]
        omega
    | succ binade =>
        rw [Nat.add_assoc, unitsOfRank_of_later inside, unitsOfRank_of_later last]
        exact Nat.mul_lt_mul_of_pos_right (by omega) (Nat.two_pow_pos binade)
  · have full : place + 1 = binadeSize := by omega
    have next : binadeSize * binade + place + 1 = binadeSize * (binade + 1) + 0 := by
      rw [Nat.mul_succ]
      omega
    rw [next, unitsOfRank_of_later binadeSize_pos, Nat.add_zero]
    cases binade with
    | zero =>
        have single : Nat.pow 2 0 = 1 := rfl
        rw [Nat.mul_zero, Nat.zero_add, unitsOfRank_of_first inside, single]
        omega
    | succ binade =>
        have doubled : Nat.pow 2 (binade + 1) = 2 * Nat.pow 2 binade := Nat.pow_succ'
        rw [unitsOfRank_of_later inside, doubled, ← Nat.mul_assoc]
        exact Nat.mul_lt_mul_of_pos_right (by omega) (Nat.two_pow_pos binade)

theorem unitsOfRank_strictMono : StrictMono unitsOfRank :=
  strictMono_nat_of_lt_succ unitsOfRank_lt_succ

theorem unitsOfRank_zero : unitsOfRank 0 = 0 :=
  unitsOfRank_of_first binadeSize_pos

theorem rank_eq_of_units {first second : Fin (infinityRank + 1)}
    (same : unitsOfRank first = unitsOfRank second) : first = second :=
  Fin.ext (unitsOfRank_strictMono.injective same)

namespace Double

theorem same_iff {left right : Double} :
    left.same right = true ↔ ∃ units, left.units? = some units ∧ right.units? = some units := by
  rw [same, compares]
  cases left.units? <;> cases right.units? <;> simp [eq_comm]

theorem units?_eq_of_same {left right : Double} (same : left.same right = true) :
    left.units? = right.units? := by
  obtain ⟨units, leftUnits, rightUnits⟩ := same_iff.mp same
  rw [leftUnits, rightUnits]

theorem eq_zero_of_opposite {first second : Fin (infinityRank + 1)}
    (same : -(unitsOfRank first : Int) = unitsOfRank second) :
    Double.ranked true first = zero true ∧ Double.ranked false second = zero false := by
  have nothing (rank : Fin (infinityRank + 1)) (none : unitsOfRank rank = 0) : rank = 0 := by
    rw [← unitsOfRank_zero] at none
    exact rank_eq_of_units none
  rw [nothing first (by omega), nothing second (by omega)]
  exact ⟨rfl, rfl⟩

/-- Equal doubles are one and the same, or they are both zero. -/
theorem eq_or_zeros_of_same {left right : Double} (same : left.same right = true) :
    left = right ∨ ∃ negative other, left = zero negative ∧ right = zero other := by
  obtain ⟨units, leftUnits, rightUnits⟩ := same_iff.mp same
  cases left with
  | nan => cases leftUnits
  | ranked negative first =>
      cases right with
      | nan => cases rightUnits
      | ranked other second =>
          cases negative <;> cases other <;>
            simp only [units?, Option.some.injEq] at leftUnits rightUnits
          · left
            rw [rank_eq_of_units (by omega : unitsOfRank first = unitsOfRank second)]
          · right
            have zeros := eq_zero_of_opposite (rightUnits.trans leftUnits.symm)
            exact ⟨false, true, zeros.2, zeros.1⟩
          · right
            have zeros := eq_zero_of_opposite (leftUnits.trans rightUnits.symm)
            exact ⟨true, false, zeros.1, zeros.2⟩
          · left
            rw [rank_eq_of_units (by omega : unitsOfRank first = unitsOfRank second)]

theorem congr_of_same {α : Type} (view : Double → α) (zeros : view (zero true) = view (zero false))
    {left right : Double} (same : left.same right = true) : view left = view right := by
  rcases eq_or_zeros_of_same same with equal | ⟨negative, other, rfl, rfl⟩
  · rw [equal]
  · cases negative <;> cases other <;> simp only [zeros]

theorem canonicalText_zero (negative : Bool) : (zero negative).canonicalText = ['0'] := by
  simp [zero, canonicalText]

section Equal

variable {left right : Double} (same : left.same right = true)

include same

theorem compares_congr (related : Int → Int → Bool) (other : Double) :
    compares related left other = compares related right other ∧
      compares related other left = compares related other right := by
  rw [compares, compares, compares, compares, units?_eq_of_same same]
  exact ⟨rfl, rfl⟩

theorem isPositive_congr : left.isPositive = right.isPositive := by
  rw [isPositive, isPositive, units?_eq_of_same same]

theorem isNegative_congr : left.isNegative = right.isNegative := by
  rw [isNegative, isNegative, units?_eq_of_same same]

theorem isIntegral_congr : left.isIntegral = right.isIntegral := by
  have finite : left.isFinite = right.isFinite := congr_of_same isFinite rfl same
  simp only [isIntegral, finite, units?_eq_of_same same]

theorem canonicalText_congr : left.canonicalText = right.canonicalText := by
  apply congr_of_same canonicalText _ same
  rw [canonicalText_zero, canonicalText_zero]

end Equal

end Double

end Rulebook
