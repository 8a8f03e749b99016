import Mathlib.Data.List.Basic
import Rulebook.Proofs.DigitTexts
import Rulebook.Proofs.Numerals

/-!
Numerals that say nothing twice: plain decimals and decimals with an exponent as texts, and what has
to hold of the parts of a numeral for its text to be one of them and to have no mark or zero to
spare.
-/

namespace Rulebook

namespace Text

/-- A decimal without an exponent: digits, with a point among them or not, and a minus or not. -/
def IsPlain (text : List Char) : Prop :=
  ∃ sign whole fraction, (sign = [] ∨ sign = ['-']) ∧ IsDigits whole ∧
    (fraction = [] ∨ ∃ digits, IsDigits digits ∧ fraction = '.' :: digits) ∧
    text = sign ++ (whole ++ fraction)

/-- A decimal with an exponent whose sign is written. -/
def IsExponential (text : List Char) : Prop :=
  ∃ mantissa mark digits, IsPlain mantissa ∧ (mark = '+' ∨ mark = '-') ∧ IsDigits digits ∧
    text = mantissa ++ 'e' :: mark :: digits

def beforeExponent (text : List Char) : List Char :=
  text.takeWhile (· ≠ 'e')

/-- No point at the end, no zero at the end of a fraction and no zero before another digit. -/
structure IsMinimal (front : List Char) : Prop where
  point : front.getLast? ≠ some '.'
  last : ∀ whole fraction, front = whole ++ '.' :: fraction → fraction.getLast? ≠ some '0'
  leading : ∀ sign c rest, sign = [] ∨ sign = ['-'] → front = sign ++ '0' :: c :: rest →
    c.isDigit = false

theorem IsDigits.not_mem {text : List Char} (digits : IsDigits text) {c : Char}
    (other : c.isDigit = false) : c ∉ text :=
  fun member => ne_of_isDigit (digits.2 c member) other rfl

theorem IsPlain.not_mem {text : List Char} (plain : IsPlain text) : 'e' ∉ text := by
  obtain ⟨sign, whole, fraction, allowed, digits, places, rfl⟩ := plain
  have inWhole : 'e' ∉ whole := digits.not_mem rfl
  have inSign : 'e' ∉ sign := by
    rcases allowed with rfl | rfl <;> decide
  have inFraction : 'e' ∉ fraction := by
    rcases places with rfl | ⟨behind, digits, rfl⟩
    · exact List.not_mem_nil
    · have behindPoint : 'e' ∉ behind := digits.not_mem rfl
      simp [behindPoint]
  simp [inSign, inWhole, inFraction]

theorem IsExponential.mem {text : List Char} (exponential : IsExponential text) : 'e' ∈ text := by
  obtain ⟨mantissa, mark, digits, _, _, _, rfl⟩ := exponential
  simp

end Text

namespace Numeral

/-- A numeral written with nothing that could be left out, and with a sign of its exponent. -/
structure Tidy (n : Numeral) : Prop where
  sign : n.sign ≠ .plus
  whole : n.whole.val ≠ []
  leading : n.whole.val.head? = some '0' → n.whole.val = ['0']
  fraction : ∀ digits ∈ n.fraction, digits.val ≠ [] ∧ digits.val.getLast? ≠ some '0'
  scale : ∀ scale ∈ n.scale, scale.marker = 'e' ∧ scale.sign ≠ .none

namespace Tidy

variable {n : Numeral} (tidy : n.Tidy)

include tidy

theorem isPlain_mantissa : Text.IsPlain n.mantissa := by
  refine ⟨n.sign.text, n.whole.val, n.fractionText, ?_, ⟨tidy.whole, n.whole.property⟩, ?_, rfl⟩
  · cases written : n.sign with
    | none => exact .inl rfl
    | plus => exact absurd written tidy.sign
    | minus => exact .inr rfl
  · rw [fractionText]
    cases places : n.fraction with
    | none => exact .inl rfl
    | some digits => exact .inr ⟨digits.val, ⟨(tidy.fraction digits places).1, digits.property⟩, rfl⟩

theorem isExponential_text {scale : Scale} (scaled : n.scale = some scale) :
    Text.IsExponential n.text := by
  obtain ⟨marker, signed⟩ := tidy.scale scale scaled
  have written : n.text = n.mantissa ++ 'e' :: (scale.sign.text ++ scale.digits.val) := by
    rw [text_eq_mantissa, scaleText, scaled, Option.elim, Scale.text, marker]
  have digits : Text.IsDigits scale.digits.val := ⟨scale.nonempty, scale.digits.property⟩
  cases sign : scale.sign with
  | none => exact absurd sign signed
  | plus => exact ⟨_, '+', _, tidy.isPlain_mantissa, .inl rfl, digits, by rw [written, sign]; rfl⟩
  | minus => exact ⟨_, '-', _, tidy.isPlain_mantissa, .inr rfl, digits, by rw [written, sign]; rfl⟩

theorem beforeExponent_text : Text.beforeExponent n.text = n.mantissa := by
  have plain : ∀ c ∈ n.mantissa, decide (c ≠ 'e') = true := by
    intro c member
    apply decide_eq_true
    rintro rfl
    exact tidy.isPlain_mantissa.not_mem member
  rw [text_eq_mantissa, Text.beforeExponent, List.takeWhile_append_of_pos plain, scaleText]
  cases scaled : n.scale with
  | none => simp
  | some scale => simp [Scale.text, (tidy.scale scale scaled).1]

theorem getLast?_ne_point : n.mantissa.getLast? ≠ some '.' := by
  intro last
  have digit {digits : Digits} (pointed : digits.val.getLast? = some '.') : False :=
    digits.not_mem rfl (List.mem_of_getLast? pointed)
  rw [mantissa, fractionText] at last
  cases places : n.fraction with
  | none =>
      rw [places, Option.elim, List.append_nil,
        List.getLast?_append_of_ne_nil _ tidy.whole] at last
      exact digit last
  | some digits =>
      have nonempty := (tidy.fraction digits places).1
      have split : n.sign.text ++ (n.whole.val ++ '.' :: digits.val) =
          n.sign.text ++ n.whole.val ++ ['.'] ++ digits.val := by simp
      rw [places, Option.elim, split, List.getLast?_append_of_ne_nil _ nonempty] at last
      exact digit last

theorem getLast?_fraction {whole fraction : List Char}
    (split : n.mantissa = whole ++ '.' :: fraction) : fraction.getLast? ≠ some '0' := by
  have digit {digits : Digits} : '.' ∉ digits.val := digits.not_mem rfl
  have unsigned : '.' ∉ n.sign.text := by cases n.sign <;> decide
  have before : '.' ∉ n.sign.text ++ n.whole.val := by
    rw [List.mem_append]
    exact fun member => member.elim unsigned digit
  rw [mantissa, fractionText, ← List.append_assoc] at split
  cases places : n.fraction with
  | none =>
      rw [places, Option.elim, List.append_nil] at split
      exact absurd (by rw [split]; simp) before
  | some digits =>
      rw [places, Option.elim] at split
      have same := (List.append_cons_inj_of_notMem before digit).mp split
      rw [← same.2.2]
      exact (tidy.fraction digits places).2

theorem isDigit_after_zero {c : Char} {rest : List Char}
    (zero : n.whole.val ++ n.fractionText = '0' :: c :: rest) : c.isDigit = false := by
  cases whole : n.whole.val with
  | nil => exact absurd whole tidy.whole
  | cons first others =>
      rw [whole, List.cons_append] at zero
      obtain ⟨rfl, after⟩ := List.cons.inj zero
      have single := tidy.leading (by rw [whole]; rfl)
      rw [whole] at single
      rw [(List.cons.inj single).2, List.nil_append, fractionText] at after
      cases places : n.fraction with
      | none => simp [places] at after
      | some digits =>
          rw [places] at after
          rw [← (List.cons.inj after).1]
          rfl

theorem isDigit_of_head {c : Char} (first : c ∈ (n.whole.val ++ n.fractionText).head?) :
    c.isDigit = true := by
  rw [List.head?_append_of_ne_nil _ tidy.whole] at first
  exact n.whole.property c (List.mem_of_head? first)

theorem isMinimal_mantissa : Text.IsMinimal n.mantissa where
  point := tidy.getLast?_ne_point
  last _ _ := tidy.getLast?_fraction
  leading sign c rest allowed written := by
    rw [mantissa] at written
    have unsigned {mark : Char} {others : List Char} (undigit : mark.isDigit = false)
        (marked : n.whole.val ++ n.fractionText = mark :: others) : False := by
      have first : mark ∈ (n.whole.val ++ n.fractionText).head? := by
        rw [marked]
        rfl
      exact ne_of_isDigit (tidy.isDigit_of_head first) undigit rfl
    cases signed : n.sign with
    | plus => exact absurd signed tidy.sign
    | none =>
        rw [signed, Sign.text, List.nil_append] at written
        rcases allowed with rfl | rfl
        · exact tidy.isDigit_after_zero written
        · exact (unsigned rfl written).elim
    | minus =>
        rw [signed] at written
        rcases allowed with rfl | rfl
        · exact absurd (List.cons.inj written).1 (by decide)
        · exact tidy.isDigit_after_zero (List.cons.inj written).2

end Tidy

end Numeral

end Rulebook
