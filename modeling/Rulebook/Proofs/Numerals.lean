import Rulebook.Proofs.Blanks
import Rulebook.Proofs.Rounding

/-!
Numerals and their values. The double of a decimal is the one nearest to its value, however the
value is written; and a numeral reads as the decimal that its digits make up.
-/

namespace Rulebook

namespace Double

section Fraction

variable {numerator denominator : Nat} (positive : 0 < denominator)

include positive

theorem ofFraction_congr {other otherDenominator : Nat} (otherPositive : 0 < otherDenominator)
    (same : numerator * otherDenominator = other * denominator) (negative : Bool) :
    ofFraction negative numerator denominator = ofFraction negative other otherDenominator := by
  apply congrArg (ranked negative)
  apply Fin.ext
  apply nearestRank_eq_of_eq positive otherPositive
  rw [Nat.mul_right_comm, same, Nat.mul_right_comm]

theorem ofFraction_eq_zero (small : numerator * (unitsInOne * 2) ≤ denominator) (negative : Bool) :
    ofFraction negative numerator denominator = zero negative := by
  have half : nearestRank 1 2 = 0 := by decide +kernel
  have ordered : numerator * unitsInOne * 2 ≤ 1 * denominator := by
    rwa [Nat.one_mul, Nat.mul_assoc]
  have below := nearestRank_mono positive Nat.two_pos ordered
  rw [half] at below
  apply congrArg (ranked negative)
  exact Fin.ext (Nat.le_zero.mp below)

theorem ofFraction_eq_infinity
    (great : unitsOfRank infinityRank * denominator ≤ numerator * unitsInOne) (negative : Bool) :
    ofFraction negative numerator denominator = infinity negative := by
  have ordered : unitsOfRank infinityRank * denominator ≤ numerator * unitsInOne * 1 := by
    rwa [Nat.mul_one]
  have above := nearestRank_mono Nat.one_pos positive ordered
  rw [nearestRank_unitsOfRank (Nat.le_refl _)] at above
  have cut : nearestRank (numerator * unitsInOne) denominator ≤ infinityRank := Nat.min_le_right ..
  apply congrArg (ranked negative)
  exact Fin.ext (Nat.le_antisymm cut above)

end Fraction

end Double

theorem pow_length_toDigits_le {n : Nat} (positive : 0 < n) :
    10 ^ ((Nat.toDigits 10 n).length - 1) ≤ n := by
  by_cases single : (Nat.toDigits 10 n).length - 1 = 0
  · rw [single]
    exact positive
  · have longer : ¬(Nat.toDigits 10 n).length ≤ (Nat.toDigits 10 n).length - 1 := by omega
    rw [Nat.length_toDigits_le_iff (by omega) (by omega)] at longer
    exact Nat.le_of_not_lt longer

theorem lt_pow_length_toDigits (n : Nat) : n < 10 ^ (Nat.toDigits 10 n).length :=
  (Nat.length_toDigits_le_iff (by omega) Nat.length_toDigits_pos).mp (Nat.le_refl _)

namespace Decimal

/-- The double nearest to the value, with nothing settled by magnitude. -/
def nearest (d : Decimal) : Double :=
  .ofFraction d.negative (d.coefficient * 10 ^ d.exponent.toNat) (10 ^ (-d.exponent).toNat)

theorem ten_pow_pos (power : Nat) : 0 < 10 ^ power :=
  Nat.pow_pos (by omega)

theorem nearest_eq_zero {d : Decimal}
    (small : (Nat.toDigits 10 d.coefficient).length + d.exponent < leastPoint) :
    d.nearest = .zero d.negative := by
  have range : unitsInOne * 2 ≤ 10 ^ 325 := by decide +kernel
  have below := lt_pow_length_toDigits d.coefficient
  rw [leastPoint] at small
  apply Double.ofFraction_eq_zero (ten_pow_pos _)
  generalize (Nat.toDigits 10 d.coefficient).length = length at small below
  have exponents : length + d.exponent.toNat + 325 ≤ (-d.exponent).toNat := by omega
  calc d.coefficient * 10 ^ d.exponent.toNat * (unitsInOne * 2)
      ≤ 10 ^ length * 10 ^ d.exponent.toNat * 10 ^ 325 :=
        Nat.mul_le_mul (Nat.mul_le_mul_right _ (Nat.le_of_lt below)) range
    _ = 10 ^ (length + d.exponent.toNat + 325) := by rw [Nat.pow_add, Nat.pow_add]
    _ ≤ 10 ^ (-d.exponent).toNat := Nat.pow_le_pow_right (by omega) exponents

theorem pow_mul_le_of_digits {coefficient : Nat} (positive : 0 < coefficient)
    {least up down : Nat}
    (exponents : least + down ≤ (Nat.toDigits 10 coefficient).length - 1 + up) :
    10 ^ least * 10 ^ down ≤ coefficient * 10 ^ up :=
  calc 10 ^ least * 10 ^ down
      = 10 ^ (least + down) := (Nat.pow_add ..).symm
    _ ≤ 10 ^ ((Nat.toDigits 10 coefficient).length - 1 + up) :=
        Nat.pow_le_pow_right (by omega) exponents
    _ = 10 ^ ((Nat.toDigits 10 coefficient).length - 1) * 10 ^ up := Nat.pow_add ..
    _ ≤ coefficient * 10 ^ up := Nat.mul_le_mul_right _ (pow_length_toDigits_le positive)

theorem nearest_eq_infinity {d : Decimal} (nonzero : d.coefficient ≠ 0)
    (great : greatestPoint < (Nat.toDigits 10 d.coefficient).length + d.exponent) :
    d.nearest = .infinity d.negative := by
  have range : unitsOfRank infinityRank ≤ 10 ^ greatestPoint.toNat * unitsInOne := by
    decide +kernel
  have point : greatestPoint.toNat = 309 := rfl
  have digits : 0 < (Nat.toDigits 10 d.coefficient).length := Nat.length_toDigits_pos
  rw [greatestPoint] at great
  have powers : 10 ^ greatestPoint.toNat * 10 ^ (-d.exponent).toNat ≤
      d.coefficient * 10 ^ d.exponent.toNat :=
    pow_mul_le_of_digits (Nat.pos_of_ne_zero nonzero) (by omega)
  apply Double.ofFraction_eq_infinity (ten_pow_pos _)
  calc unitsOfRank infinityRank * 10 ^ (-d.exponent).toNat
      ≤ 10 ^ greatestPoint.toNat * unitsInOne * 10 ^ (-d.exponent).toNat :=
        Nat.mul_le_mul_right _ range
    _ = 10 ^ greatestPoint.toNat * 10 ^ (-d.exponent).toNat * unitsInOne := Nat.mul_right_comm ..
    _ ≤ d.coefficient * 10 ^ d.exponent.toNat * unitsInOne := Nat.mul_le_mul_right _ powers

theorem nearest_eq_zero_of_coefficient {d : Decimal} (nothing : d.coefficient = 0) :
    d.nearest = .zero d.negative := by
  apply Double.ofFraction_eq_zero (ten_pow_pos _)
  rw [nothing, Nat.zero_mul, Nat.zero_mul]
  exact Nat.zero_le _

/-- What is settled by magnitude is what rounding would have given. -/
theorem toDouble_eq_nearest (d : Decimal) : d.toDouble = d.nearest := by
  rw [toDouble]
  by_cases nothing : d.coefficient = 0
  · rw [if_pos (.inl nothing), nearest_eq_zero_of_coefficient nothing]
  · split_ifs with small great whole
    · exact (nearest_eq_zero (small.resolve_left nothing)).symm
    · exact (nearest_eq_infinity nothing great).symm
    · have none : (-d.exponent).toNat = 0 := by omega
      rw [nearest, none]
      rfl
    · have none : d.exponent.toNat = 0 := by omega
      rw [nearest, none, Nat.pow_zero, Nat.mul_one]
      rfl

/-- Zeros at the end of a coefficient can go over into the exponent. -/
theorem toDouble_shift (negative : Bool) (coefficient : Nat) (exponent : Int) (zeros : Nat) :
    toDouble ⟨negative, coefficient * 10 ^ zeros, exponent⟩ =
      toDouble ⟨negative, coefficient, exponent + zeros⟩ := by
  have powers : 10 ^ zeros * 10 ^ exponent.toNat * 10 ^ (-(exponent + zeros)).toNat =
      10 ^ (exponent + zeros).toNat * 10 ^ (-exponent).toNat := by
    rw [← Nat.pow_add, ← Nat.pow_add, ← Nat.pow_add]
    congr 1
    omega
  rw [toDouble_eq_nearest, toDouble_eq_nearest]
  apply Double.ofFraction_congr (ten_pow_pos _) (ten_pow_pos _)
  calc coefficient * 10 ^ zeros * 10 ^ exponent.toNat * 10 ^ (-(exponent + zeros)).toNat
      = coefficient * (10 ^ zeros * 10 ^ exponent.toNat * 10 ^ (-(exponent + zeros)).toNat) := by
        rw [Nat.mul_assoc, Nat.mul_assoc, Nat.mul_assoc]
    _ = coefficient * 10 ^ (exponent + zeros).toNat * 10 ^ (-exponent).toNat := by
        rw [powers, Nat.mul_assoc]

end Decimal

theorem ne_of_isDigit {c mark : Char} (digit : c.isDigit = true) (undigit : mark.isDigit = false) :
    c ≠ mark := by
  rintro rfl
  rw [undigit] at digit
  contradiction

theorem toLower_of_isDigit {c : Char} (digit : c.isDigit = true) : c.toLower = c := by
  have range := Char.isDigit_iff_toNat.mp digit
  apply dif_neg
  rintro ⟨least, _⟩
  have letters : 65 ≤ c.toNat := least
  have digits : c.toNat ≤ 57 := range.2
  omega

abbrev Digits := { digits : List Char // ∀ c ∈ digits, c.isDigit = true }

namespace Digits

theorem not_mem (digits : Digits) {mark : Char} (undigit : mark.isDigit = false) :
    mark ∉ digits.val :=
  fun member => ne_of_isDigit (digits.property mark member) undigit rfl

def value (digits : Digits) : Nat :=
  Nat.ofDigitChars 10 digits.val 0

def single (c : Char) (digit : c.isDigit = true) : Digits :=
  ⟨[c], fun _ member => by rwa [List.mem_singleton.mp member]⟩

@[simp]
theorem val_single (c : Char) (digit : c.isDigit = true) : (single c digit).val = [c] :=
  rfl

def ofNat (n : Nat) : Digits :=
  ⟨Nat.toDigits 10 n, fun _ => Nat.isDigit_of_mem_toDigits (by omega) (by omega)⟩

theorem ofNat_ne_nil (n : Nat) : (ofNat n).val ≠ [] :=
  Nat.toDigits_ne_nil

/-- Digits are read up to what is no digit. -/
theorem span_append (digits : Digits) {rest : List Char}
    (stops : ∀ c ∈ rest.head?, c.isDigit = false) :
    (digits.val ++ rest).takeWhile Char.isDigit = digits.val ∧
      (digits.val ++ rest).dropWhile Char.isDigit = rest := by
  rw [List.takeWhile_append_of_pos digits.property, List.dropWhile_append_of_pos digits.property]
  cases rest with
  | nil => simp
  | cons c rest => simp [stops c rfl]

theorem numeral?_eq {digits : Digits} (nonempty : digits.val ≠ []) :
    Text.numeral? digits.val = some digits.value := by
  have all : digits.val.all Char.isDigit = true := List.all_eq_true.mpr digits.property
  rw [Text.numeral?, all, List.isEmpty_eq_false_iff.mpr nonempty]
  rfl

end Digits

/-- A sign, as it is written or left out. -/
inductive Sign where
  | none | plus | minus
  deriving DecidableEq, Repr

namespace Sign

def text : Sign → List Char
  | none => []
  | plus => ['+']
  | minus => ['-']

def negative (sign : Sign) : Bool :=
  sign == minus

def signed (sign : Sign) (n : Nat) : Int :=
  if sign.negative then -(n : Int) else n

/-- The sign of an integer, written in any case. -/
def ofInt (z : Int) : Sign :=
  if z < 0 then minus else plus

theorem signed_ofInt (z : Int) : (ofInt z).signed z.natAbs = z := by
  rw [ofInt]
  split
  · rw [signed, if_pos (by decide)]
    omega
  · rw [signed, if_neg (by decide)]
    omega

theorem ofInt_ne_none (z : Int) : ofInt z ≠ none := by
  rw [ofInt]
  split <;> decide

theorem readSign_text (sign : Sign) {rest : List Char}
    (unsigned : ∀ c ∈ rest.head?, c ≠ '-' ∧ c ≠ '+') :
    Decimal.readSign (sign.text ++ rest) = (sign.negative, rest) := by
  cases sign with
  | none =>
      rw [text, List.nil_append]
      unfold Decimal.readSign
      split
      · exact absurd rfl (unsigned '-' rfl).1
      · exact absurd rfl (unsigned '+' rfl).2
      · rfl
  | plus => rfl
  | minus => rfl

/-- What a sign leaves, and the sign that it was. -/
theorem exists_readSign (text : List Char) :
    ∃ sign : Sign, text = sign.text ++ (Decimal.readSign text).2 ∧
      sign.negative = (Decimal.readSign text).1 := by
  unfold Decimal.readSign
  split
  · exact ⟨minus, rfl, rfl⟩
  · exact ⟨plus, rfl, rfl⟩
  · exact ⟨none, rfl, rfl⟩

end Sign

section Begins

variable {text rest : List Char} {c : Char}

/-- A decimal numeral begins with a digit or a point, after its sign. -/
theorem Decimal.exists_beginsBody {decimal : Decimal} (read : Decimal.read? text = some decimal) :
    ∃ c rest, (Decimal.readSign text).2 = c :: rest ∧ beginsBody c = true := by
  simp only [Decimal.read?] at read
  cases body : (Decimal.readSign text).2 with
  | nil => simp [body, Decimal.readFraction] at read
  | cons c rest =>
      refine ⟨c, rest, rfl, ?_⟩
      by_contra neither
      simp only [beginsBody, Bool.or_eq_true, beq_iff_eq, not_or, Bool.not_eq_true] at neither
      have fraction : Decimal.readFraction (c :: rest) = ([], c :: rest) := by
        unfold Decimal.readFraction
        split
        · rename_i same
          cases same
          exact absurd rfl neither.2
        · rfl
      simp [body, neither.1, fraction] at read

/-- Such a text passes for a number by its first characters. -/
theorem begins_of_readSign (body : (Decimal.readSign text).2 = c :: rest)
    (begins : beginsBody c = true) :
    (text.head?.any fun c => isSign c || beginsBody c) = true ∧
      (text.dropWhile isSign).head? = some c := by
  have unsigned : isSign c = false := by
    by_contra signed
    simp only [Bool.not_eq_false, isSign, Bool.or_eq_true, beq_iff_eq] at signed
    rcases signed with rfl | rfl <;> cases begins
  obtain ⟨sign, split, _⟩ := Sign.exists_readSign text
  have signs : ∀ c ∈ sign.text, isSign c = true := by
    cases sign <;> simp [Sign.text, isSign]
  rw [split, body, List.dropWhile_append_of_pos signs,
    List.dropWhile_cons_of_neg (by simp [unsigned])]
  refine ⟨?_, rfl⟩
  cases sign <;> simp [Sign.text, isSign, begins]

/-- Such a text is no name of infinity or NaN. -/
theorem map_toLower_ne (begins : beginsBody c = true) {name : List Char}
    (other : name.head?.any beginsBody = false) : (c :: rest).map Char.toLower ≠ name := by
  rintro rfl
  have kept : c.toLower = c := by
    rw [beginsBody, Bool.or_eq_true, beq_iff_eq] at begins
    rcases begins with digit | rfl
    · exact toLower_of_isDigit digit
    · rfl
  rw [List.map_cons, List.head?_cons, Option.any_some, kept, begins] at other
  cases other

end Begins

/-- Names are for doubles that are not finite, so leaving them out makes no difference. -/
theorem Double.filter_read? (text : List Char) :
    (read? text).filter isFinite = ((Decimal.read? text).map Decimal.toDouble).filter isFinite := by
  have infinite (negative : Bool) : (infinity negative).isFinite = false :=
    decide_eq_false (Nat.lt_irrefl infinityRank)
  simp only [read?]
  cases read : Decimal.read? text with
  | none =>
      split_ifs
      · rw [Option.filter_some, infinite]
        rfl
      · rfl
      · rfl
  | some decimal =>
      obtain ⟨c, rest, body, begins⟩ := Decimal.exists_beginsBody read
      have unnamed {name : List Char} (other : name.head?.any beginsBody = false) :
          (Decimal.readSign text).2.map Char.toLower ≠ name := by
        rw [body]
        exact map_toLower_ne begins other
      rw [if_neg (not_or.mpr ⟨unnamed rfl, unnamed rfl⟩), if_neg (unnamed rfl)]

/-- What is asked of the first characters is what decimal numerals have anyway. -/
theorem readNumber?_eq (text : List Char) :
    readNumber? text =
      ((Decimal.read? (Text.trim text)).map Decimal.toDouble).filter Double.isFinite := by
  rw [readNumber?, Double.filter_read?]
  cases read : Decimal.read? (Text.trim text) with
  | none => split_ifs <;> rfl
  | some decimal =>
      obtain ⟨c, rest, body, begins⟩ := Decimal.exists_beginsBody read
      obtain ⟨first, afterSigns⟩ := begins_of_readSign body begins
      simp [first, afterSigns, begins]

/-- The exponent of a numeral. -/
structure Scale where
  marker : Char
  isMarker : marker = 'e' ∨ marker = 'E'
  sign : Sign
  digits : Digits
  nonempty : digits.val ≠ []

namespace Scale

def text (scale : Scale) : List Char :=
  scale.marker :: (scale.sign.text ++ scale.digits.val)

def value (scale : Scale) : Int :=
  scale.sign.signed scale.digits.value

end Scale

/-- A decimal numeral by its parts: digits, a point with digits after it and an exponent. -/
structure Numeral where
  sign : Sign
  whole : Digits
  fraction : Option Digits
  scale : Option Scale
  nonempty : whole.val ++ fraction.elim [] Subtype.val ≠ []

namespace Numeral

variable (n : Numeral)

def places : List Char :=
  n.fraction.elim [] Subtype.val

def fractionText : List Char :=
  n.fraction.elim [] fun digits => '.' :: digits.val

def scaleText : List Char :=
  n.scale.elim [] Scale.text

def text : List Char :=
  n.sign.text ++ (n.whole.val ++ (n.fractionText ++ n.scaleText))

def decimal : Decimal where
  negative := n.sign.negative
  coefficient := Nat.ofDigitChars 10 (n.whole.val ++ n.places) 0
  exponent := n.scale.elim 0 Scale.value - n.places.length

theorem scaleText_stops : ∀ c ∈ n.scaleText.head?, c.isDigit = false ∧ c ≠ '.' := by
  rw [scaleText]
  cases n.scale with
  | none => simp
  | some scale =>
      intro c first
      have marker : scale.marker = c := Option.some.inj first
      rcases scale.isMarker with small | capital
      · rw [← marker, small]
        decide
      · rw [← marker, capital]
        decide

theorem fractionText_stops :
    ∀ c ∈ (n.fractionText ++ n.scaleText).head?, c.isDigit = false := by
  rw [fractionText]
  cases n.fraction with
  | none => exact fun c first => (n.scaleText_stops c first).1
  | some digits =>
      intro c first
      have point : '.' = c := Option.some.inj first
      rw [← point]
      rfl

theorem unsigned : ∀ c ∈ (n.whole.val ++ (n.fractionText ++ n.scaleText)).head?,
    c ≠ '-' ∧ c ≠ '+' := by
  intro c first
  have nonempty := n.nonempty
  cases digits : n.whole.val with
  | cons digit others =>
      rw [digits] at first
      have same : digit = c := Option.some.inj first
      have isDigit : c.isDigit = true := by
        rw [← same]
        exact n.whole.property digit (by simp [digits])
      exact ⟨ne_of_isDigit isDigit rfl, ne_of_isDigit isDigit rfl⟩
  | nil =>
      rw [digits, fractionText] at first
      rw [digits] at nonempty
      cases places : n.fraction with
      | none => simp [places] at nonempty
      | some fraction =>
          rw [places] at first
          have point : '.' = c := Option.some.inj first
          rw [← point]
          decide

theorem readExponent?_scaleText :
    Decimal.readExponent? n.scaleText = some (n.scale.elim 0 Scale.value) := by
  rw [scaleText]
  cases n.scale with
  | none => rfl
  | some scale =>
      have isDigit (c : Char) (first : c ∈ scale.digits.val.head?) : c.isDigit = true :=
        scale.digits.property c (List.mem_of_head? first)
      have signed := scale.sign.readSign_text fun c first =>
        ⟨ne_of_isDigit (isDigit c first) rfl, ne_of_isDigit (isDigit c first) rfl⟩
      simp only [Option.elim, Scale.text, Decimal.readExponent?, if_pos scale.isMarker, signed,
        Digits.numeral?_eq scale.nonempty]
      rfl

theorem readFraction_text :
    Decimal.readFraction (n.fractionText ++ n.scaleText) = (n.places, n.scaleText) := by
  have stops := n.scaleText_stops
  rw [fractionText, places]
  cases n.fraction with
  | none =>
      unfold Decimal.readFraction
      split
      · rename_i rest same
        rw [Option.elim, List.nil_append] at same
        exact absurd rfl (stops '.' (by rw [same]; rfl)).2
      · rfl
  | some digits =>
      obtain ⟨taken, dropped⟩ := digits.span_append fun c first => (stops c first).1
      simp only [Option.elim, List.cons_append, Decimal.readFraction, taken, dropped]

/-- A numeral without its exponent. -/
def mantissa : List Char :=
  n.sign.text ++ (n.whole.val ++ n.fractionText)

theorem text_eq_mantissa : n.text = n.mantissa ++ n.scaleText := by
  rw [text, mantissa, List.append_assoc, List.append_assoc]

section Letters

variable {n} {c : Char}

theorem isDigit_or_mark_of_mantissa (member : c ∈ n.mantissa) :
    c.isDigit = true ∨ c ∈ ['-', '+', '.'] := by
  rw [mantissa, fractionText, List.mem_append, List.mem_append] at member
  rcases member with sign | whole | fraction
  · right
    cases written : n.sign <;> simp [written, Sign.text] at sign ⊢ <;> simp [sign]
  · exact .inl (n.whole.property c whole)
  · cases places : n.fraction with
    | none => simp [places] at fraction
    | some digits =>
        rw [places, Option.elim, List.mem_cons] at fraction
        rcases fraction with rfl | digit
        · exact .inr (by decide)
        · exact .inl (digits.property c digit)

theorem isDigit_or_mark_of_scaleText (member : c ∈ n.scaleText) :
    c.isDigit = true ∨ c ∈ ['-', '+', 'e', 'E'] := by
  rw [scaleText] at member
  cases scaled : n.scale with
  | none => simp [scaled] at member
  | some scale =>
      rw [scaled, Option.elim, Scale.text, List.mem_cons, List.mem_append] at member
      rcases member with rfl | sign | digit
      · right
        rcases scale.isMarker with small | capital
        · simp [small]
        · simp [capital]
      · right
        cases written : scale.sign <;> simp [written, Sign.text] at sign ⊢ <;> simp [sign]
      · exact .inl (scale.digits.property c digit)

/-- Numerals are written with digits and a few marks. -/
theorem isDigit_or_mark_of_text (member : c ∈ n.text) :
    c.isDigit = true ∨ c ∈ ['-', '+', '.', 'e', 'E'] := by
  rw [text_eq_mantissa, List.mem_append] at member
  rcases member with mantissa | scale
  · have marks : ['-', '+', '.'] ⊆ ['-', '+', '.', 'e', 'E'] := by simp
    exact (isDigit_or_mark_of_mantissa mantissa).imp_right fun mark => marks mark
  · have marks : ['-', '+', 'e', 'E'] ⊆ ['-', '+', '.', 'e', 'E'] := by simp
    exact (isDigit_or_mark_of_scaleText scale).imp_right fun mark => marks mark

theorem isBlank_of_mem_text (member : c ∈ n.text) : Text.isBlank c = false := by
  rcases isDigit_or_mark_of_text member with digit | mark
  · exact Text.isBlank_of_isDigit digit
  · simp only [List.mem_cons, List.not_mem_nil, or_false] at mark
    rcases mark with rfl | rfl | rfl | rfl | rfl <;> decide

end Letters

/-- A numeral reads as the decimal that its digits make up. -/
theorem read?_text : Decimal.read? n.text = some n.decimal := by
  obtain ⟨taken, dropped⟩ := n.whole.span_append n.fractionText_stops
  have some_digit : (n.whole.val.isEmpty && n.places.isEmpty) = false := by
    rw [Bool.and_eq_false_iff, List.isEmpty_eq_false_iff, List.isEmpty_eq_false_iff]
    exact not_and_or.mp fun neither => n.nonempty (List.append_eq_nil_iff.mpr neither)
  rw [text, Decimal.read?, Sign.readSign_text _ n.unsigned]
  simp only [taken, dropped, readFraction_text, some_digit, readExponent?_scaleText]
  rfl

theorem trim_text : Text.trim n.text = n.text :=
  Text.trim_of_unblank fun _ member => isBlank_of_mem_text member

theorem readNumber?_text (finite : n.decimal.toDouble.isFinite = true) :
    readNumber? n.text = some n.decimal.toDouble := by
  rw [readNumber?_eq, trim_text, read?_text, Option.map_some, Option.filter_some, if_pos finite]

end Numeral

end Rulebook
