import Rulebook.Proofs.DigitTexts
import Rulebook.Proofs.FormatShapes

/-!
What patterns of digits match: numbers in writing.
-/

namespace Rulebook

namespace Format

variable {text : List Char}

theorem matches_digit {first last : Nat} (firstSingle : first < 10) (lastSingle : last < 10) :
    (digit (Nat.digitChar first) (Nat.digitChar last)).Matches text ↔
      ∃ n, first ≤ n ∧ n ≤ last ∧ text = [Nat.digitChar n] := by
  have ordered : ∀ a < 10, ∀ b < 10, Nat.digitChar a ≤ Nat.digitChar b ↔ a ≤ b := by decide
  simp only [digit, Plain.Matches, CharSet.contains, Bool.and_eq_true, decide_eq_true_eq]
  constructor
  · rintro ⟨c, rfl, least, most⟩
    have isDigit : c.isDigit = true := by
      have zero : Nat.digitChar 0 ≤ c :=
        Char.le_trans ((ordered 0 (by decide) _ firstSingle).mpr (Nat.zero_le _)) least
      have nine : c ≤ Nat.digitChar 9 :=
        Char.le_trans most ((ordered _ lastSingle 9 (by decide)).mpr (by omega))
      rw [← contains_digits, digits, CharSet.contains, Bool.and_eq_true, decide_eq_true_eq,
        decide_eq_true_eq]
      exact ⟨zero, nine⟩
    obtain ⟨n, single, rfl⟩ := Text.exists_digitChar_of_isDigit isDigit
    exact ⟨n, (ordered _ firstSingle _ single).mp least, (ordered _ single _ lastSingle).mp most,
      rfl⟩
  · rintro ⟨n, least, most, rfl⟩
    exact ⟨_, rfl, (ordered _ firstSingle _ (by omega)).mpr least,
      (ordered _ (by omega) _ lastSingle).mpr most⟩

theorem matches_anyDigits (count : Nat) (text : List Char) :
    (times count anyDigit).Matches text ↔ ∃ n < 10 ^ count, text = Text.padded count n := by
  rw [matches_times, anyDigit, Plain.rounds_one_iff]
  simp only [contains_digits]
  constructor
  · rintro ⟨length, digits⟩
    obtain ⟨n, fits, written⟩ := Text.exists_padded_of_isDigit digits
    rw [length] at fits written
    exact ⟨n, fits, written⟩
  · rintro ⟨n, _, rfl⟩
    exact ⟨Text.length_padded count n, fun _ => Text.isDigit_of_mem_padded⟩

/-- One more digit in front of numbers of one width. -/
theorem matches_leadingDigit (a b : Nat) {width : Nat} {rest : Plain} {allowed : Nat → Prop}
    (single : a < 10 ∧ b < 10) (fits : ∀ n, allowed n → n < 10 ^ width)
    (matched : ∀ text, rest.Matches text ↔ ∃ n, allowed n ∧ text = Text.padded width n)
    (text : List Char) :
    (Plain.seq (digit (Nat.digitChar a) (Nat.digitChar b)) rest).Matches text ↔
      ∃ n, (a ≤ n / 10 ^ width ∧ n / 10 ^ width ≤ b ∧ allowed (n % 10 ^ width)) ∧
        text = Text.padded (width + 1) n := by
  have positive : 0 < 10 ^ width := Nat.pow_pos (by decide)
  simp only [Plain.Matches, matches_digit single.1 single.2, matched]
  constructor
  · rintro ⟨_, _, rfl, ⟨lead, least, most, rfl⟩, n, inside, rfl⟩
    have small := fits n inside
    have quotient : (10 ^ width * lead + n) / 10 ^ width = lead := by
      rw [Nat.mul_add_div positive, Nat.div_eq_of_lt small, Nat.add_zero]
    have remainder : (10 ^ width * lead + n) % 10 ^ width = n := by
      rw [Nat.mul_add_mod, Nat.mod_eq_of_lt small]
    refine ⟨10 ^ width * lead + n, ?_, ?_⟩
    · rw [quotient, remainder]
      exact ⟨least, most, inside⟩
    · rw [Text.padded_eq_cons, quotient, ← Text.padded_mod width (10 ^ width * lead + n),
        remainder, Nat.mod_eq_of_lt (by omega)]
      rfl
  · rintro ⟨n, ⟨least, most, inside⟩, rfl⟩
    refine ⟨[Nat.digitChar (n / 10 ^ width)], Text.padded width n, ?_, ⟨_, least, most, rfl⟩, _,
      inside, (Text.padded_mod width n).symm⟩
    rw [Text.padded_eq_cons, Nat.mod_eq_of_lt (by omega)]
    rfl

/-- Two digits, each in its range, are a number in writing. -/
theorem matches_twoDigits (a b c d : Nat) (single : a < 10 ∧ b < 10 ∧ c < 10 ∧ d < 10)
    (text : List Char) :
    (Plain.seq (digit (Nat.digitChar a) (Nat.digitChar b))
        (digit (Nat.digitChar c) (Nat.digitChar d))).Matches text ↔
      ∃ n, (a ≤ n / 10 ∧ n / 10 ≤ b ∧ c ≤ n % 10 ∧ n % 10 ≤ d) ∧ text = Text.padded 2 n := by
  have last (text : List Char) : (digit (Nat.digitChar c) (Nat.digitChar d)).Matches text ↔
      ∃ n, (c ≤ n ∧ n ≤ d) ∧ text = Text.padded 1 n := by
    rw [matches_digit single.2.2.1 single.2.2.2]
    refine exists_congr fun n => ?_
    rw [and_assoc]
    refine and_congr_right fun _ => and_congr_right fun most => ?_
    rw [Text.padded, Nat.mod_eq_of_lt (by omega)]
    rfl
  exact matches_leadingDigit a b ⟨single.1, single.2.1⟩ (fun n bounds => by omega) last text

end Format

end Rulebook
