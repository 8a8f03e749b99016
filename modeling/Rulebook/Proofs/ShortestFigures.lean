import Mathlib.Data.List.DropRight
import Rulebook.Proofs.DigitTexts
import Rulebook.Proofs.Numerals

/-!
The figures that a double is written with. Whichever length the search ends at, and also where it
finds nothing and all digits of the value are taken, the figures read back as the double, and they
have no zero to spare at either end.
-/

namespace Rulebook

/-- Figures without a zero at either end that read as the double of a rank. -/
structure Figures.Spell (f : Figures) (rank : Fin (infinityRank + 1)) : Prop where
  digit : ∀ c ∈ f.digits, c.isDigit = true
  nonempty : f.digits ≠ []
  leading : f.digits.head? ≠ some '0'
  last : f.digits.getLast? ≠ some '0'
  reads : Decimal.toDouble
    ⟨false, Nat.ofDigitChars 10 f.digits 0, f.point - f.digits.length⟩ = .ranked false rank

namespace Shortest

theorem digits_figures (coefficient : Nat) (exponent : Int) :
    (figures coefficient exponent).digits =
      (Nat.toDigits 10 coefficient).rdropWhile fun c => decide (c = '0') :=
  rfl

/-- Figures are digits without the zeros at their end. -/
theorem exists_zeros (coefficient : Nat) (exponent : Int) :
    ∃ zeros, Nat.toDigits 10 coefficient =
      (figures coefficient exponent).digits ++ List.replicate zeros '0' := by
  have allZero : ∀ c ∈ (Nat.toDigits 10 coefficient).rtakeWhile fun c => decide (c = '0'),
      c = '0' := by
    intro c member
    have zero := List.mem_rtakeWhile_imp member
    exact of_decide_eq_true zero
  have split := @List.rdropWhile_append_rtakeWhile _ (fun c => decide (c = '0'))
    (Nat.toDigits 10 coefficient)
  rw [List.eq_replicate_of_mem allZero, ← digits_figures coefficient exponent] at split
  exact ⟨_, split.symm⟩

theorem getLast?_figures (coefficient : Nat) (exponent : Int) :
    (figures coefficient exponent).digits.getLast? ≠ some '0' := by
  intro last
  obtain ⟨nonempty, same⟩ := List.mem_getLast?_eq_getLast last
  have other := List.rdropWhile_last_not (fun c => decide (c = '0'))
    (Nat.toDigits 10 coefficient) nonempty
  exact other (decide_eq_true same.symm)

variable {rank : Fin (infinityRank + 1)}

theorem spell_figures {coefficient : Nat} (positive : 0 < coefficient) {exponent : Int}
    (reads : Decimal.toDouble ⟨false, coefficient, exponent⟩ = .ranked false rank) :
    (figures coefficient exponent).Spell rank := by
  obtain ⟨zeros, split⟩ := exists_zeros coefficient exponent
  have last := getLast?_figures coefficient exponent
  have leading := head?_toDigits positive
  have some_digit : Nat.toDigits 10 coefficient ≠ [] := Nat.toDigits_ne_nil
  have point : (figures coefficient exponent).point =
      (Nat.toDigits 10 coefficient).length + exponent := rfl
  have value : Nat.ofDigitChars 10 (Nat.toDigits 10 coefficient) 0 = coefficient :=
    Nat.ofDigitChars_ten_toDigits
  have digit : ∀ c ∈ Nat.toDigits 10 coefficient, c.isDigit = true :=
    fun _ => Nat.isDigit_of_mem_toDigits (by omega) (by omega)
  rw [split] at leading value digit point some_digit
  generalize figures coefficient exponent = f at *
  have nonempty : f.digits ≠ [] := by
    intro none
    rw [none, List.nil_append] at leading some_digit
    cases zeros with
    | zero => exact some_digit rfl
    | succ zeros => exact leading rfl
  refine ⟨fun c member => digit c (List.mem_append_left _ member), nonempty, ?_, last, ?_⟩
  · rwa [List.head?_append_of_ne_nil _ nonempty] at leading
  · rw [Nat.ofDigitChars_append, Nat.ofDigitChars_replicate_zero, Nat.mul_comm] at value
    have length : f.point - f.digits.length = exponent + zeros := by
      rw [point, List.length_append, List.length_replicate]
      omega
    rw [length, ← Decimal.toDouble_shift, value, reads]

theorem positive_of_reads {coefficient : Nat} {exponent : Int} (nonzero : rank ≠ 0)
    (reads : Decimal.toDouble ⟨false, coefficient, exponent⟩ = .ranked false rank) :
    0 < coefficient := by
  by_contra none
  have zero : (⟨false, coefficient, exponent⟩ : Decimal).coefficient = 0 := by
    show coefficient = 0
    omega
  rw [Decimal.toDouble_eq_nearest, Decimal.nearest_eq_zero_of_coefficient zero, Double.zero] at reads
  injection reads with _ same
  exact nonzero same.symm

/-- The value of a double, with all of its digits, reads as this double. -/
theorem toDouble_value {power : Nat} (one : unitsInOne = 2 ^ power) :
    Decimal.toDouble ⟨false, unitsOfRank rank * Nat.pow 5 power, -power⟩ =
      .ranked false rank := by
  have up : (-(power : Int)).toNat = 0 := by omega
  have down : (- -(power : Int)).toNat = power := by omega
  have ten : 5 ^ power * 2 ^ power = 10 ^ power := (Nat.mul_pow 5 2 power).symm
  have exact : nearestRank (unitsOfRank rank) 1 = rank :=
    nearestRank_unitsOfRank (Nat.le_of_lt_succ rank.isLt)
  rw [Decimal.toDouble_eq_nearest, Decimal.nearest, up, down, Nat.pow_zero, Nat.mul_one,
    Double.ofFraction]
  apply congrArg (Double.ranked false)
  apply Fin.ext
  refine Eq.trans ?_ exact
  apply nearestRank_eq_of_eq (Decimal.ten_pow_pos power) Nat.one_pos
  rw [one, Nat.mul_one, Nat.mul_assoc, Nat.pow_eq, ten]

theorem spell_value (nonzero : rank ≠ 0) {power : Nat} (one : unitsInOne = 2 ^ power) :
    (figures (unitsOfRank rank * Nat.pow 5 power) (-power)).Spell rank :=
  spell_figures (positive_of_reads nonzero (toDouble_value one)) (toDouble_value one)

theorem spell_ofSize? (nonzero : rank ≠ 0) {tie : Tie} {units : Nat} {point : Int} {size : Nat}
    {f : Figures} (found : ofSize? tie rank units point size = some f) : f.Spell rank := by
  rw [ofSize?] at found
  obtain ⟨coefficient, nearest, rfl⟩ := Option.map_eq_some_iff.mp found
  have backs := List.find?_some nearest
  have reads := of_decide_eq_true backs
  exact spell_figures (positive_of_reads nonzero reads) reads

/-- The figures of a double other than zero read as this double. -/
theorem spell_ofRank (nonzero : rank ≠ 0) (tie : Tie) : (ofRank tie rank).Spell rank := by
  have power : ∃ power : Nat, power = 1074 ∧ unitsInOne = 2 ^ power := ⟨_, rfl, by decide +kernel⟩
  obtain ⟨power, same, one⟩ := power
  have value := spell_value nonzero one
  have exponent : (-1074 : Int) = -(power : Int) := by omega
  rw [ofRank, exponent, ← same]
  cases found : (List.range 17).findSome? fun size =>
      ofSize? tie rank (unitsOfRank rank) (leadingPoint (unitsOfRank rank)) (size + 1) with
  | none => exact value
  | some f =>
      obtain ⟨size, _, ofSize⟩ := List.exists_of_findSome?_eq_some found
      exact spell_ofSize? nonzero ofSize

end Shortest

end Rulebook
