import Rulebook.Proofs.ShortestFigures
import Rulebook.Proofs.TidyNumerals

/-!
Canonical text and numbers. The canonical text of a finite double reads back as this double, so it
is the same for equal doubles only. It is a plain decimal in the middle and has an exponent at both
extremes, and nothing of it could be left out.
-/

namespace Rulebook

theorem Decimal.toDouble_negative {coefficient : Nat} {exponent : Int}
    {rank : Fin (infinityRank + 1)}
    (reads : toDouble ⟨false, coefficient, exponent⟩ = .ranked false rank) (negative : Bool) :
    toDouble ⟨negative, coefficient, exponent⟩ = .ranked negative rank := by
  rw [toDouble_eq_nearest, nearest, Double.ofFraction] at reads ⊢
  injection reads with _ same
  exact congrArg (Double.ranked negative) same

namespace Text

theorem isDigit_of_mem_zeros {count : Nat} {c : Char} (member : c ∈ List.replicate count '0') :
    c.isDigit = true := by
  rw [List.eq_of_mem_replicate member]
  rfl

end Text

namespace Figures

/-- A numeral that has these figures and stands for the double of a rank, under its sign. -/
structure Shown (rank : Fin (infinityRank + 1)) (sign : Sign) (body : List Char) (n : Numeral) :
    Prop where
  text : n.text = sign.text ++ body
  tidy : n.Tidy
  value : n.decimal.toDouble = .ranked sign.negative rank

/-- The exponent of ten of figures that have their point behind the first digit. -/
def scale (f : Figures) : Scale where
  marker := 'e'
  isMarker := .inl rfl
  sign := .ofInt (f.point - 1)
  digits := .ofNat (f.point - 1).natAbs
  nonempty := Digits.ofNat_ne_nil _

theorem text_scale (f : Figures) :
    f.scale.text = 'e' :: ((if f.point - 1 < 0 then ['-'] else ['+']) ++
      Nat.toDigits 10 (f.point - 1).natAbs) := by
  have sign : (Sign.ofInt (f.point - 1)).text = if f.point - 1 < 0 then ['-'] else ['+'] := by
    rw [Sign.ofInt]
    split <;> rfl
  rw [← sign]
  rfl

theorem value_scale (f : Figures) : f.scale.value = f.point - 1 := by
  have digits : f.scale.digits.value = (f.point - 1).natAbs := Nat.ofDigitChars_ten_toDigits
  rw [Scale.value, digits]
  exact Sign.signed_ofInt _

namespace Spell

variable {f : Figures} {rank : Fin (infinityRank + 1)} (spell : f.Spell rank)

include spell

theorem reads_of_eq {coefficient : Nat} {exponent : Int} (zeros : Nat)
    (digits : coefficient = Nat.ofDigitChars 10 f.digits 0 * 10 ^ zeros)
    (point : exponent + zeros = f.point - f.digits.length) (negative : Bool) :
    Decimal.toDouble ⟨negative, coefficient, exponent⟩ = .ranked negative rank := by
  rw [digits, Decimal.toDouble_shift, point]
  exact Decimal.toDouble_negative spell.reads negative

theorem getLast?_append (front : List Char) :
    (front ++ f.digits).getLast? ≠ some '0' := by
  rw [List.getLast?_append_of_ne_nil _ spell.nonempty]
  exact spell.last

theorem shown_fraction (small : f.point ≤ 0) {sign : Sign} (unplus : sign ≠ .plus) :
    ∃ n : Numeral, Shown rank sign
      ('0' :: '.' :: (List.replicate (-f.point).toNat '0' ++ f.digits)) n ∧ n.scale = none := by
  have digit : ∀ c ∈ List.replicate (-f.point).toNat '0' ++ f.digits, c.isDigit = true := by
    intro c member
    rcases List.mem_append.mp member with zero | listed
    · exact Text.isDigit_of_mem_zeros zero
    · exact spell.digit c listed
  refine ⟨⟨sign, .single '0' rfl, some ⟨_, digit⟩, none, by simp⟩, ⟨?_, ?_, ?_⟩, rfl⟩
  · simp [Numeral.text, Numeral.fractionText, Numeral.scaleText]
  · refine ⟨unplus, by simp, fun _ => rfl, ?_, by simp⟩
    rintro _ ⟨rfl⟩
    exact ⟨by simp [spell.nonempty], spell.getLast?_append _⟩
  · apply spell.reads_of_eq 0
    · simp [Numeral.places, Nat.ofDigitChars_append, Nat.ofDigitChars_cons]
    · simp [Numeral.places]
      omega

theorem shown_whole (whole : f.digits.length ≤ f.point.toNat) {sign : Sign}
    (unplus : sign ≠ .plus) :
    ∃ n : Numeral, Shown rank sign
      (f.digits ++ List.replicate (f.point.toNat - f.digits.length) '0') n ∧ n.scale = none := by
  have digit : ∀ c ∈ f.digits ++ List.replicate (f.point.toNat - f.digits.length) '0',
      c.isDigit = true := by
    intro c member
    rcases List.mem_append.mp member with listed | zero
    · exact spell.digit c listed
    · exact Text.isDigit_of_mem_zeros zero
  have nonempty := spell.nonempty
  have some_digit : 0 < f.digits.length := List.length_pos_of_ne_nil spell.nonempty
  refine ⟨⟨sign, ⟨_, digit⟩, none, none, by simp [nonempty]⟩, ⟨?_, ?_, ?_⟩, rfl⟩
  · simp [Numeral.text, Numeral.fractionText, Numeral.scaleText]
  · refine ⟨unplus, by simp [nonempty], ?_, by simp, by simp⟩
    intro zero
    rw [List.head?_append_of_ne_nil _ nonempty] at zero
    exact absurd zero spell.leading
  · apply spell.reads_of_eq (f.point.toNat - f.digits.length)
    · simp [Numeral.places, Nat.ofDigitChars_append, Nat.mul_comm]
    · simp [Numeral.places]
      omega

theorem shown_pointed (positive : 0 < f.point) (inside : f.point.toNat < f.digits.length)
    {sign : Sign} (unplus : sign ≠ .plus) :
    ∃ n : Numeral, Shown rank sign
      (f.digits.take f.point.toNat ++ '.' :: f.digits.drop f.point.toNat) n ∧ n.scale = none := by
  have front : ∀ c ∈ f.digits.take f.point.toNat, c.isDigit = true :=
    fun c member => spell.digit c (List.mem_of_mem_take member)
  have back : ∀ c ∈ f.digits.drop f.point.toNat, c.isDigit = true :=
    fun c member => spell.digit c (List.mem_of_mem_drop member)
  have some_digit : f.digits.drop f.point.toNat ≠ [] := by
    rw [Ne, List.drop_eq_nil_iff]
    omega
  have whole : f.digits.take f.point.toNat ≠ [] := by
    rw [Ne, List.take_eq_nil_iff]
    exact fun none => none.elim (by omega) spell.nonempty
  have leading : (f.digits.take f.point.toNat).head? ≠ some '0' := by
    rw [← List.head?_append_of_ne_nil _ whole, List.take_append_drop]
    exact spell.leading
  have last : (f.digits.drop f.point.toNat).getLast? ≠ some '0' := by
    rw [← List.getLast?_append_of_ne_nil _ some_digit, List.take_append_drop]
    exact spell.last
  refine ⟨⟨sign, ⟨_, front⟩, some ⟨_, back⟩, none, by simp [spell.nonempty]⟩, ⟨?_, ?_, ?_⟩, rfl⟩
  · simp [Numeral.text, Numeral.fractionText, Numeral.scaleText]
  · refine ⟨unplus, whole, ?_, ?_, by simp⟩
    · exact fun zero => absurd zero leading
    · rintro _ ⟨rfl⟩
      exact ⟨some_digit, last⟩
  · apply spell.reads_of_eq 0
    · simp [Numeral.places]
    · simp [Numeral.places]
      omega

theorem shown_positional {sign : Sign} (unplus : sign ≠ .plus) :
    ∃ n : Numeral, Shown rank sign f.positional n ∧ n.scale = none := by
  rw [positional]
  split_ifs with small whole
  · exact spell.shown_fraction small unplus
  · exact spell.shown_whole whole unplus
  · exact spell.shown_pointed (by omega) (by omega) unplus

theorem shown_scientific {sign : Sign} (unplus : sign ≠ .plus) :
    ∃ n : Numeral, Shown rank sign (f.scientific true) n ∧ n.scale.isSome = true := by
  have scaled : ∀ scale ∈ some f.scale, scale.marker = 'e' ∧ scale.sign ≠ .none := by
    rintro _ ⟨rfl⟩
    exact ⟨rfl, Sign.ofInt_ne_none _⟩
  have digit := spell.digit
  have leading := spell.leading
  have last := spell.last
  cases digits : f.digits with
  | nil => exact absurd digits spell.nonempty
  | cons first rest =>
      rw [digits] at digit leading last
      rw [List.forall_mem_cons] at digit
      have unzero : ¬[first].head? = some '0' := leading
      cases rest with
      | nil =>
          refine ⟨⟨sign, .single first digit.1, none, some f.scale, by simp⟩, ⟨?_, ?_, ?_⟩, rfl⟩
          · simp [Numeral.text, Numeral.fractionText, Numeral.scaleText, text_scale, scientific,
              digits]
          · exact ⟨unplus, by simp, fun zero => absurd zero unzero, by simp, scaled⟩
          · apply spell.reads_of_eq 0
            · simp [Numeral.places, digits]
            · simp [Numeral.places, digits, value_scale]
      | cons second others =>
          refine ⟨⟨sign, .single first digit.1, some ⟨second :: others, digit.2⟩, some f.scale,
            by simp⟩, ⟨?_, ?_, ?_⟩, rfl⟩
          · simp [Numeral.text, Numeral.fractionText, Numeral.scaleText, text_scale, scientific,
              digits]
          · refine ⟨unplus, by simp, fun zero => absurd zero unzero, ?_, scaled⟩
            rintro _ ⟨rfl⟩
            exact ⟨by simp, last⟩
          · apply spell.reads_of_eq 0
            · simp [Numeral.places, digits]
            · simp [Numeral.places, digits, value_scale]
              omega

end Spell

end Figures

namespace Double

/-- Whether a double is not zero and nearer to it than a millionth, or at least 10 ^ 21 from it. -/
def IsExtreme (d : Double) : Prop :=
  d.same (zero false) = false ∧
    (positionalFrom.atMost d.abs = false ∨ positionalBelow.atMost d.abs = true)

/-- A double, with one zero for both. -/
def unsignedZero (d : Double) : Double :=
  if d.same (zero false) then zero false else d

theorem same_zero_iff {negative : Bool} {rank : Fin (infinityRank + 1)} :
    (ranked negative rank).same (zero false) = true ↔ rank = 0 := by
  have none : (zero false).units? = some 0 := by decide +kernel
  rw [same_iff]
  constructor
  · rintro ⟨units, left, right⟩
    rw [none] at right
    cases right
    apply rank_eq_of_units
    cases negative <;> simp [units?] at left <;> simp [left, unitsOfRank_zero]
  · rintro rfl
    refine ⟨0, ?_, none⟩
    cases negative <;> decide +kernel

/-- The canonical text of zero, by its parts. -/
def zeroNumeral : Numeral where
  sign := .none
  whole := .single '0' rfl
  fraction := none
  scale := none
  nonempty := by simp

theorem tidy_zeroNumeral : zeroNumeral.Tidy where
  sign := by decide
  whole := by decide
  leading _ := rfl
  fraction := by simp [zeroNumeral]
  scale := by simp [zeroNumeral]

theorem isExtreme_iff {negative : Bool} {rank : Fin (infinityRank + 1)} (nonzero : rank ≠ 0) :
    (ranked negative rank).IsExtreme ↔ (ranked negative rank).needsExponent = true := by
  have other : (ranked negative rank).same (zero false) = false := by
    rw [← Bool.not_eq_true, same_zero_iff]
    exact nonzero
  simp [IsExtreme, needsExponent, other]

/-- What the canonical text of a double is, as a numeral. -/
structure Canonical (d : Double) (n : Numeral) : Prop where
  text : n.text = d.canonicalText
  tidy : n.Tidy
  scaled : n.scale.isSome = true ↔ d.IsExtreme
  value : n.decimal.toDouble = d.unsignedZero

theorem canonical_zero (negative : Bool) : Canonical (zero negative) zeroNumeral := by
  have zeros : (zero negative).same (zero false) = true := same_zero_iff.mpr rfl
  refine ⟨?_, tidy_zeroNumeral, ?_, ?_⟩
  · rw [canonicalText_zero]
    rfl
  · simp [zeroNumeral, IsExtreme, zeros]
  · rw [unsignedZero, if_pos zeros]
    decide +kernel

theorem exists_canonical_of_nonzero {negative : Bool} {rank : Fin (infinityRank + 1)}
    (finite : (ranked negative rank).isFinite = true) (nonzero : rank ≠ 0) :
    ∃ n, Canonical (ranked negative rank) n := by
  have positive : rank.val ≠ 0 := fun same => nonzero (Fin.ext same)
  have bounded : rank.val ≠ infinityRank := Nat.ne_of_lt (of_decide_eq_true finite)
  have spell := Shortest.spell_ofRank nonzero .above
  have unsigned : (ranked negative rank).unsignedZero = ranked negative rank := by
    rw [unsignedZero, if_neg (by rwa [same_zero_iff])]
  obtain ⟨sign, unplus, mark, signed⟩ : ∃ sign : Sign, sign ≠ .plus ∧
      sign.text = (if negative then ['-'] else []) ∧ sign.negative = negative := by
    cases negative with
    | false => exact ⟨.none, by decide, rfl, rfl⟩
    | true => exact ⟨.minus, by decide, rfl, rfl⟩
  have text : (ranked negative rank).canonicalText =
      sign.text ++ if (ranked negative rank).needsExponent
        then (Shortest.ofRank .above rank).scientific true
        else (Shortest.ofRank .above rank).positional := by
    rw [canonicalText, if_neg positive, if_neg bounded, mark]
  by_cases extreme : (ranked negative rank).needsExponent = true
  · obtain ⟨n, shown, scaled⟩ := spell.shown_scientific unplus
    refine ⟨n, ?_, shown.tidy, ?_, ?_⟩
    · rw [text, if_pos extreme, shown.text]
    · simp [isExtreme_iff nonzero, scaled, extreme]
    · rw [unsigned, shown.value, signed]
  · obtain ⟨n, shown, unscaled⟩ := spell.shown_positional unplus
    refine ⟨n, ?_, shown.tidy, ?_, ?_⟩
    · rw [text, if_neg extreme, shown.text]
    · simp [isExtreme_iff nonzero, unscaled, extreme]
    · rw [unsigned, shown.value, signed]

theorem exists_canonical {d : Double} (finite : d.isFinite = true) : ∃ n, Canonical d n := by
  cases d with
  | nan => cases finite
  | ranked negative rank =>
      by_cases nothing : rank = 0
      · rw [nothing]
        exact ⟨zeroNumeral, canonical_zero negative⟩
      · exact exists_canonical_of_nonzero finite nothing

theorem isFinite_unsignedZero {d : Double} (finite : d.isFinite = true) :
    d.unsignedZero.isFinite = true := by
  rw [unsignedZero]
  split
  · rfl
  · exact finite

theorem same_unsignedZero {d : Double} (finite : d.isFinite = true) :
    d.unsignedZero.same d = true := by
  have valued : ∃ units, d.units? = some units := by
    cases d with
    | nan => cases finite
    | ranked negative rank => cases negative <;> exact ⟨_, rfl⟩
  obtain ⟨units, value⟩ := valued
  rw [unsignedZero, same_iff]
  split
  · rename_i zeros
    exact ⟨units, by rw [← units?_eq_of_same zeros, value], value⟩
  · exact ⟨units, value, value⟩

theorem readNumber?_canonicalText {d : Double} (finite : d.isFinite = true) :
    readNumber? d.canonicalText = some d.unsignedZero := by
  obtain ⟨n, canonical⟩ := exists_canonical finite
  rw [← canonical.text, ← canonical.value]
  apply n.readNumber?_text
  rw [canonical.value]
  exact isFinite_unsignedZero finite

theorem canonicalText_eq_iff {d e : Double} (finite : d.isFinite = true)
    (otherFinite : e.isFinite = true) :
    d.canonicalText = e.canonicalText ↔ d.same e = true := by
  constructor
  · intro alike
    have read := readNumber?_canonicalText finite
    rw [alike, readNumber?_canonicalText otherFinite, Option.some.injEq] at read
    have first := units?_eq_of_same (same_unsignedZero finite)
    obtain ⟨units, zeroed, value⟩ := same_iff.mp (same_unsignedZero otherFinite)
    rw [same_iff]
    exact ⟨units, by rw [← first, ← read, zeroed], value⟩
  · exact canonicalText_congr

section Notation

variable {d : Double} (finite : d.isFinite = true)

include finite

theorem exponential_or_plain :
    (d.IsExtreme ∧ Text.IsExponential d.canonicalText) ∨
      (¬d.IsExtreme ∧ Text.IsPlain d.canonicalText) := by
  obtain ⟨n, canonical⟩ := exists_canonical finite
  rw [← canonical.scaled, ← canonical.text]
  cases scaled : n.scale with
  | some scale => exact .inl ⟨rfl, canonical.tidy.isExponential_text scaled⟩
  | none =>
      have unscaled : n.text = n.mantissa := by
        rw [n.text_eq_mantissa, Numeral.scaleText, scaled, Option.elim, List.append_nil]
      rw [unscaled]
      exact .inr ⟨by simp, canonical.tidy.isPlain_mantissa⟩

theorem isExponential_iff : Text.IsExponential d.canonicalText ↔ d.IsExtreme := by
  rcases exponential_or_plain finite with ⟨extreme, exponential⟩ | ⟨moderate, plain⟩
  · exact ⟨fun _ => extreme, fun _ => exponential⟩
  · exact ⟨fun exponential => absurd exponential.mem plain.not_mem, fun extreme =>
      absurd extreme moderate⟩

theorem isPlain_iff : Text.IsPlain d.canonicalText ↔ ¬d.IsExtreme := by
  rcases exponential_or_plain finite with ⟨extreme, exponential⟩ | ⟨moderate, plain⟩
  · exact ⟨fun plain => absurd exponential.mem plain.not_mem, fun moderate =>
      absurd extreme moderate⟩
  · exact ⟨fun _ => moderate, fun _ => plain⟩

theorem isMinimal_canonicalText :
    Text.IsMinimal (Text.beforeExponent d.canonicalText) := by
  obtain ⟨n, canonical⟩ := exists_canonical finite
  rw [← canonical.text, canonical.tidy.beforeExponent_text]
  exact canonical.tidy.isMinimal_mantissa

end Notation

/-- Canonical text reads back as the finite double that it was made of, tells unequal doubles
apart, has an exponent at the extremes only and is as short as its digits allow. -/
theorem canonicalText_faithful {d : Double} (finite : d.isFinite = true) :
    readNumber? d.canonicalText = some d.unsignedZero ∧ d.unsignedZero.same d = true ∧
      (∀ e : Double, e.isFinite = true →
        (d.canonicalText = e.canonicalText ↔ d.same e = true)) ∧
      (Text.IsExponential d.canonicalText ↔ d.IsExtreme) ∧
      (Text.IsPlain d.canonicalText ↔ ¬d.IsExtreme) ∧
      Text.IsMinimal (Text.beforeExponent d.canonicalText) :=
  ⟨readNumber?_canonicalText finite, same_unsignedZero finite,
    fun _ otherFinite => canonicalText_eq_iff finite otherFinite, isExponential_iff finite,
    isPlain_iff finite, isMinimal_canonicalText finite⟩

theorem canonicalText_faithful_least :
    (ranked true 1).isFinite = true ∧ (ranked true 1).canonicalText = "-5e-324".toList ∧
      readNumber? "-5e-324".toList = some (ranked true 1) ∧
      Text.IsExponential "-5e-324".toList := by
  have finite : (ranked true 1).isFinite = true := by decide +kernel
  have text : (ranked true 1).canonicalText = "-5e-324".toList := by decide +kernel
  have unsigned : (ranked true 1).unsignedZero = ranked true 1 := by decide +kernel
  have extreme : (ranked true 1).IsExtreme := ⟨by decide +kernel, .inl (by decide +kernel)⟩
  obtain ⟨read, _, _, exponential, _⟩ := canonicalText_faithful finite
  rw [text, unsigned] at read
  rw [text] at exponential
  exact ⟨finite, text, read, exponential.mpr extreme⟩

end Double

end Rulebook
