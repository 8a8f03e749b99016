import Mathlib.Algebra.Ring.Nat
import Mathlib.Data.List.Basic
import Mathlib.Data.List.Induction
import Rulebook.Text

/-!
Digits in writing: the last digits of a number, so many of them, and plain numerals, which have no
zero to spare in front. Digits of one width are in the order of the numbers.
-/

namespace Rulebook

theorem head?_toDigits {n : Nat} (positive : 0 < n) : (Nat.toDigits 10 n).head? ≠ some '0' := by
  induction n using Nat.strongRecOn with
  | ind n ih =>
      by_cases single : n < 10
      · have other : n.digitChar ≠ '0' := by
          intro same
          have code := Nat.toNat_digitChar_sub_48_of_lt_ten single
          rw [same] at code
          have zero : '0'.toNat - 48 = 0 := rfl
          omega
        rw [Nat.toDigits_of_lt_base single, List.head?_cons]
        exact fun same => other (Option.some.inj same)
      · have earlier := ih (n / 10) (by omega) (by omega)
        rw [Nat.toDigits_of_base_le (by omega) (by omega),
          List.head?_append_of_ne_nil _ Nat.toDigits_ne_nil]
        exact earlier

namespace Text

/-- The last digits of a number, so many of them. -/
def padded : Nat → Nat → List Char
  | 0, _ => []
  | width + 1, n => padded width (n / 10) ++ [Nat.digitChar (n % 10)]

variable {width n m : Nat}

theorem length_padded (width n : Nat) : (padded width n).length = width := by
  induction width generalizing n with
  | zero => rfl
  | succ width ih => rw [padded, List.length_append, ih, List.length_singleton]

theorem padded_ne_nil (positive : 0 < width) (n : Nat) : padded width n ≠ [] := by
  rw [← List.length_pos_iff, length_padded]
  exact positive

/-- The first digit of so many and the others. -/
theorem padded_eq_cons (width n : Nat) :
    padded (width + 1) n = Nat.digitChar (n / 10 ^ width % 10) :: padded width n := by
  induction width generalizing n with
  | zero =>
      rw [Nat.pow_zero, Nat.div_one]
      rfl
  | succ width ih =>
      have step (width : Nat) :
          padded (width + 1) n = padded width (n / 10) ++ [Nat.digitChar (n % 10)] := rfl
      rw [step, ih, step, Nat.div_div_eq_div_mul, ← Nat.pow_succ']
      rfl

theorem padded_mod (width n : Nat) : padded width (n % 10 ^ width) = padded width n := by
  induction width generalizing n with
  | zero => rfl
  | succ width ih =>
      rw [padded, padded, Nat.pow_succ', Nat.mod_mul_right_div_self, ih, Nat.mod_mul_right_mod]

theorem isDigit_of_mem_padded {c : Char} (member : c ∈ padded width n) : c.isDigit = true := by
  induction width generalizing n with
  | zero => cases member
  | succ width ih =>
      rw [padded, List.mem_append, List.mem_singleton] at member
      rcases member with front | rfl
      · exact ih front
      · rw [Nat.isDigit_digitChar, decide_eq_true_eq]
        omega

theorem ofDigitChars_padded (fits : n < 10 ^ width) :
    Nat.ofDigitChars 10 (padded width n) 0 = n := by
  have zero : '0'.toNat = 48 := rfl
  induction width generalizing n with
  | zero =>
      rw [Nat.pow_zero, Nat.lt_one_iff] at fits
      rw [fits]
      rfl
  | succ width ih =>
      rw [Nat.pow_succ'] at fits
      have digit : (Nat.digitChar (n % 10)).toNat = 48 + n % 10 :=
        Nat.toNat_digitChar_of_lt_ten (by omega)
      rw [padded, Nat.ofDigitChars_append, ih (by omega), Nat.ofDigitChars_cons,
        Nat.ofDigitChars_nil, digit, zero]
      omega

theorem padded_inj (fits : n < 10 ^ width) (otherFits : m < 10 ^ width)
    (same : padded width n = padded width m) : n = m := by
  rw [← ofDigitChars_padded fits, same, ofDigitChars_padded otherFits]

theorem exists_digitChar_of_isDigit {c : Char} (digit : c.isDigit = true) :
    ∃ n < 10, c = Nat.digitChar n := by
  have range : 48 ≤ c.toNat ∧ c.toNat ≤ 57 := Char.isDigit_iff_toNat.mp digit
  refine ⟨c.toNat - 48, by omega, ?_⟩
  rw [← Char.toNat_inj, Nat.toNat_digitChar_of_lt_ten (by omega)]
  omega

/-- Digits are the last ones of the number that they make up, and all of them. -/
theorem exists_padded_of_isDigit {text : List Char} (digits : ∀ c ∈ text, c.isDigit = true) :
    ∃ n < 10 ^ text.length, text = padded text.length n := by
  induction text using List.reverseRecOn with
  | nil => exact ⟨0, by decide, rfl⟩
  | append_singleton front last ih =>
      obtain ⟨n, fits, written⟩ := ih fun c member => digits c (List.mem_append_left _ member)
      obtain ⟨digit, single, rfl⟩ := exists_digitChar_of_isDigit (digits last (by simp))
      have quotient : (10 * n + digit) / 10 = n := by omega
      have remainder : (10 * n + digit) % 10 = digit := by omega
      refine ⟨10 * n + digit, ?_, ?_⟩
      · rw [List.length_append, List.length_singleton, Nat.pow_succ']
        omega
      · rw [List.length_append, List.length_singleton, padded, quotient, remainder, ← written]

theorem append_lt_append_iff {front other back rest : List Char}
    (same : front.length = other.length) :
    front ++ back < other ++ rest ↔ front < other ∨ (front = other ∧ back < rest) := by
  induction front generalizing other with
  | nil =>
      rw [List.eq_nil_of_length_eq_zero same.symm]
      simp
  | cons c front ih =>
      cases other with
      | nil => cases same
      | cons d other =>
          rw [List.cons_append, List.cons_append, List.cons_lt_cons_iff, List.cons_lt_cons_iff,
            ih (Nat.succ.inj same), List.cons.injEq]
          tauto

/-- Numbers of one width are in order when their digits are. -/
theorem padded_lt_iff (fits : n < 10 ^ width) (otherFits : m < 10 ^ width) :
    padded width n < padded width m ↔ n < m := by
  induction width generalizing n m with
  | zero =>
      rw [Nat.pow_zero, Nat.lt_one_iff] at fits otherFits
      subst fits otherFits
      simp [padded]
  | succ width ih =>
      have digits : ∀ a < 10, ∀ b < 10, Nat.digitChar a < Nat.digitChar b ↔ a < b := by decide
      have last : Nat.digitChar (n % 10) < Nat.digitChar (m % 10) ↔ n % 10 < m % 10 :=
        digits _ (by omega) _ (by omega)
      rw [Nat.pow_succ'] at fits otherFits
      have fronts : padded width (n / 10) = padded width (m / 10) ↔ n / 10 = m / 10 :=
        ⟨padded_inj (by omega) (by omega), congrArg _⟩
      rw [padded, padded, append_lt_append_iff (by rw [length_padded, length_padded]),
        ih (by omega) (by omega), fronts, List.cons_lt_cons_iff, last]
      simp only [List.not_lt_nil, and_false, or_false]
      omega

theorem toDigits_push {digit : Nat} (positive : 0 < n) (single : digit < 10) :
    Nat.toDigits 10 (10 * n + digit) = Nat.toDigits 10 n ++ [Nat.digitChar digit] := by
  rw [← Nat.toDigits_append_toDigits (by decide) positive single, Nat.toDigits_of_lt_base single]

/-- Digits without a zero in front are all digits of a number. -/
theorem padded_eq_toDigits (least : 10 ^ width ≤ n) (fits : n < 10 ^ (width + 1)) :
    padded (width + 1) n = Nat.toDigits 10 n := by
  induction width generalizing n with
  | zero =>
      have single : n < 10 := by simpa using fits
      rw [Nat.toDigits_of_lt_base single, padded, Nat.mod_eq_of_lt single]
      rfl
  | succ width ih =>
      rw [Nat.pow_succ] at least fits
      have positive : 0 < 10 ^ width := Nat.pow_pos (by decide)
      have parts : 10 * (n / 10) + n % 10 = n := by omega
      rw [padded, ih (by omega) (by omega), ← toDigits_push (by omega) (by omega), parts]

def IsDigits (text : List Char) : Prop :=
  text ≠ [] ∧ ∀ c ∈ text, c.isDigit = true

/-- Whether a text is the plain numeral of a number, with no zero before another digit. -/
structure IsNumeralOf (n : Nat) (text : List Char) : Prop where
  digits : IsDigits text
  leading : text.head? = some '0' → text = ['0']
  value : Nat.ofDigitChars 10 text 0 = n

theorem exists_eq_toDigits {text : List Char} (digits : IsDigits text)
    (leading : text.head? = some '0' → text = ['0']) : ∃ n, text = Nat.toDigits 10 n := by
  obtain ⟨nonempty, digits⟩ := digits
  induction text using List.reverseRecOn with
  | nil => exact absurd rfl nonempty
  | append_singleton front last ih =>
      rw [List.forall_mem_append, List.forall_mem_singleton] at digits
      obtain ⟨digit, single, rfl⟩ := exists_digitChar_of_isDigit digits.2
      by_cases alone : front = []
      · subst alone
        exact ⟨digit, (Nat.toDigits_of_lt_base single).symm⟩
      · have unzero : front.head? ≠ some '0' := by
          intro zero
          have whole := leading (by rw [List.head?_append_of_ne_nil _ alone, zero])
          have lengths := congrArg List.length whole
          have positive := List.length_pos_of_ne_nil alone
          rw [List.length_append, List.length_singleton, List.length_singleton] at lengths
          omega
        obtain ⟨n, rfl⟩ := ih (fun zero => absurd zero unzero) alone digits.1
        have positive : 0 < n := by
          rw [Nat.pos_iff_ne_zero]
          rintro rfl
          exact unzero rfl
        exact ⟨10 * n + digit, (toDigits_push positive single).symm⟩

/-- A number has one plain numeral. -/
theorem isNumeralOf_iff {text : List Char} : IsNumeralOf n text ↔ text = Nat.toDigits 10 n := by
  constructor
  · intro numeral
    obtain ⟨m, rfl⟩ := exists_eq_toDigits numeral.digits numeral.leading
    rw [← numeral.value, Nat.ofDigitChars_ten_toDigits]
  · rintro rfl
    refine ⟨⟨Nat.toDigits_ne_nil, ?_⟩, ?_, Nat.ofDigitChars_ten_toDigits⟩
    · intro c member
      exact Nat.isDigit_of_mem_toDigits (by decide) (by decide) member
    · intro zero
      by_cases positive : 0 < n
      · exact absurd zero (head?_toDigits positive)
      · rw [Nat.eq_zero_of_not_pos positive]
        rfl

end Text

end Rulebook
