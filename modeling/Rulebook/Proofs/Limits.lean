import Rulebook.Proofs.Arguments
import Rulebook.Proofs.WideIntegers

/-!
Limits. What `min:` and `max:` say of a value follows from where the value stands in an order: a
number by its amount, a text or an array by its length, and a text that reads as an instant, if the
limit is a date, by that instant. The limits themselves belong to what they admit.
-/

namespace Rulebook

namespace Double

theorem exists_units? {d : Double} (number : d ≠ .nan) : ∃ units, d.units? = some units := by
  cases d with
  | ranked negative rank => cases negative <;> exact ⟨_, rfl⟩
  | nan => exact absurd rfl number

theorem atMost_iff {left right : Double} {leftUnits rightUnits : Int}
    (leftValue : left.units? = some leftUnits) (rightValue : right.units? = some rightUnits) :
    left.atMost right = true ↔ leftUnits ≤ rightUnits := by
  rw [atMost, compares, leftValue, rightValue]
  exact decide_eq_true_iff

theorem units?_ofNat {n : Nat} (narrow : n ≤ 2 ^ 53) :
    (ofNat n).units? = some (n * unitsInOne : Nat) := by
  rw [ofNat, units?_ofFraction, roundedUnits_eq narrow]
  rfl

theorem ofNat_atMost_iff {n m : Nat} (narrow : n ≤ 2 ^ 53) (otherNarrow : m ≤ 2 ^ 53) :
    (ofNat n).atMost (ofNat m) = true ↔ n ≤ m := by
  have positive : 0 < unitsInOne := by decide +kernel
  rw [atMost_iff (units?_ofNat narrow) (units?_ofNat otherNarrow), Int.ofNat_le]
  exact Nat.mul_le_mul_right_iff positive

theorem nearestRank_lt_infinityRank {n : Nat} (narrow : n ≤ 2 ^ 53) :
    nearestRank (n * unitsInOne) 1 < infinityRank := by
  have range : 2 ^ 53 * unitsInOne < unitsOfRank infinityRank := by decide +kernel
  have units : unitsOfRank (nearestRank (n * unitsInOne) 1) = n * unitsInOne :=
    roundedUnits_eq narrow
  rw [← unitsOfRank_strictMono.lt_iff_lt, units]
  exact Nat.lt_of_le_of_lt (Nat.mul_le_mul_right unitsInOne narrow) range

theorem isFinite_ofNat {n : Nat} (narrow : n ≤ 2 ^ 53) : (ofNat n).isFinite = true := by
  rw [ofNat, ofFraction, isFinite, decide_eq_true_eq]
  exact nearestRank_lt_infinityRank narrow

end Double

theorem Text.SpellsCount.readNumber? {text : String} {count : Nat}
    (spells : SpellsCount text count) (narrow : count ≤ 2 ^ 53) :
    Rulebook.readNumber? text.toList = some (Double.ofNat count) := by
  obtain ⟨digits, written, isDigits, value, _⟩ := spells
  obtain ⟨sign, unsigned, trimmed⟩ : ∃ sign : Sign, sign.negative = false ∧
      trim text.toList = sign.text ++ digits := by
    rcases written with plain | plus
    · exact ⟨.none, rfl, plain⟩
    · exact ⟨.plus, rfl, plus⟩
  have read := (Numeral.ofDigits sign ⟨digits, isDigits.2⟩ isDigits.1).read?_text
  have counted : Digits.value ⟨digits, isDigits.2⟩ = count := value
  have double : (Numeral.ofDigits sign ⟨digits, isDigits.2⟩ isDigits.1).decimal.toDouble =
      Double.ofNat count := by
    rw [Numeral.toDouble_ofDigits, unsigned, counted, Double.ofNat]
  rw [Numeral.text_ofDigits] at read
  rw [readNumber?_eq, trimmed, read, Option.map_some, double, Option.filter_some,
    if_pos (Double.isFinite_ofNat narrow)]

/-- A number after `min:` or `max:`. -/
structure NumericLimit where
  text : String
  limit : Double
  spelled : readNumber? text.toList = some limit

/-- A date after `min:` or `max:`, which is no number. -/
structure DateLimit where
  text : String
  millis : Int
  unspelled : readNumber? text.toList = none
  instant : Instant.read? text.toList = some millis

namespace NumericLimit

def AtMost (a b : NumericLimit) : Prop :=
  a.limit.atMost b.limit = true

theorem limit_ne_nan (a : NumericLimit) : a.limit ≠ .nan := by
  intro unordered
  have finite : a.limit.isFinite = true := isFinite_of_readNumber? a.spelled
  rw [unordered] at finite
  cases finite

end NumericLimit

def DateLimit.AtMost (a b : DateLimit) : Prop :=
  a.millis ≤ b.millis

/-- What limits from below and from above, which belong to what they admit, say of one value in an
order. -/
structure Inclusive {Limit : Type} (atMost : Limit → Limit → Prop) (least most : Limit → Prop) :
    Prop where
  either (a : Limit) : least a ∨ most a
  lower {a b : Limit} : least a → atMost b a → least b
  higher {a b : Limit} : most a → atMost a b → most b
  ordered {a b : Limit} : least a → most b → atMost a b

/-- The limits of a value that has its place among them. -/
theorem Inclusive.of_place {Limit : Type} {atMost : Limit → Limit → Prop}
    {least most : Limit → Prop} (place : Limit → Int) (own : Int)
    (atMost_iff : ∀ a b, atMost a b ↔ place a ≤ place b)
    (least_iff : ∀ a, least a ↔ place a ≤ own) (most_iff : ∀ a, most a ↔ own ≤ place a) :
    Inclusive atMost least most where
  either a := by
    rw [least_iff, most_iff]
    exact Int.le_total (place a) own
  lower {a b} admitted below := by
    rw [least_iff] at admitted ⊢
    rw [atMost_iff] at below
    exact Int.le_trans below admitted
  higher {a b} admitted above := by
    rw [most_iff] at admitted ⊢
    rw [atMost_iff] at above
    exact Int.le_trans admitted above
  ordered {a b} admitted other := by
    rw [least_iff] at admitted
    rw [most_iff] at other
    rw [atMost_iff]
    exact Int.le_trans admitted other

namespace Value

/-- Whether a value has a length that it is measured by. Text has one unless it is taken as the
number that it spells. -/
inductive HasLength (declared : Declared) : Value → Nat → Prop
  | text {text : String} :
      (declared.numericText = true → readNumber? text.toList = none) →
      HasLength declared (.string text) text.length
  | items (items : List Value) : HasLength declared (.array items) items.length

/-- What a numeric limit is compared with. -/
inductive Measures (declared : Declared) : Value → Double → Prop
  | number (n : Double) : Measures declared (.number n) n
  | bigint (n : Int) : Measures declared (.bigint n) (.ofInt n)
  | spelled {text : String} {n : Double} : declared.numericText = true →
      readNumber? text.toList = some n → Measures declared (.string text) n
  | length {value : Value} {length : Nat} : HasLength declared value length →
      Measures declared value (.ofNat length)

variable {declared : Declared} {value : Value}

theorem HasLength.operand {length : Nat} (has : HasLength declared value length) :
    (∃ text, Operand.ofValue declared value = .text text ∧ text.length = length) ∨
      Operand.ofValue declared value = .sequence length := by
  cases has with
  | @text text uncoerced =>
      refine .inl ⟨text, ?_, rfl⟩
      rw [Operand.ofValue, Operand.ofText]
      cases spelled : readNumber? text.toList with
      | none => rfl
      | some n =>
          have unasked : declared.numericText = false := by
            rw [← Bool.not_eq_true]
            intro asked
            rw [uncoerced asked] at spelled
            cases spelled
          simp only [unasked, Bool.false_eq_true, if_false]
  | items items => exact .inr rfl

theorem Measures.isPresent {amount : Double} (measures : Measures declared value amount) :
    value.isPresent = true := by
  cases measures with
  | length has => cases has <;> rfl
  | _ => rfl

theorem Measures.within_iff {amount : Double} (measures : Measures declared value amount)
    (side : Side) (limit : Double) :
    (Operand.ofValue declared value).Within side limit ↔
      side.admits Double.atMost limit amount = true := by
  cases measures with
  | number n => rfl
  | bigint n => rfl
  | spelled asked spelled =>
      rw [Operand.ofValue, Operand.ofText, spelled, asked]
      rfl
  | length has =>
      rcases has.operand with ⟨text, operand, rfl⟩ | operand <;>
        simp [operand, Operand.Within, Operand.length?]

/-- A value that is compared with no numeric limit lies within all of them. -/
theorem within_of_unmeasured (unmeasured : ∀ amount, ¬Measures declared value amount)
    (side : Side) (limit : Double) : (Operand.ofValue declared value).Within side limit := by
  cases value with
  | number n => exact absurd (.number n) (unmeasured n)
  | bigint n => exact absurd (.bigint n) (unmeasured _)
  | array items => exact absurd (.length (.items items)) (unmeasured _)
  | string text =>
      by_cases coerced : declared.numericText = true → readNumber? text.toList = none
      · exact absurd (.length (.text coerced)) (unmeasured _)
      · push Not at coerced
        obtain ⟨asked, spelled⟩ := coerced
        obtain ⟨n, spelled⟩ := Option.ne_none_iff_exists'.mp spelled
        exact absurd (.spelled asked spelled) (unmeasured n)
  | _ => simp [Operand.ofValue, Operand.Within, Operand.length?]

end Value

namespace Clause

/-- How the directives of a side begin. -/
def limitOpening : Side → String
  | .least => "min:"
  | .most => "max:"

variable {declared : Declared} {value : Value}

theorem exists_opens_limit (side : Side) :
    ∃ name, Opens name (limitOpening side) ∧ (name, side) ∈ Constraint.limited := by
  cases side with
  | least => exact ⟨"min", opens_min, by simp [Constraint.limited]⟩
  | most => exact ⟨"max", opens_max, by simp [Constraint.limited]⟩

theorem read_limit {text : String} {limit : Bound} (side : Side)
    (spells : Bound.Spells text limit) :
    Clause.read (limitOpening side ++ text).toList = .ok (.constraint (.bound side limit)) := by
  obtain ⟨name, opens, listed⟩ := exists_opens_limit side
  exact opens.read_of_named? (Constraint.named?_of_takes (.limit listed spells))

theorem clears_limit_iff {text : String} {limit : Bound} (side : Side)
    (spells : Bound.Spells text limit) :
    Clears declared value (limitOpening side ++ text) ↔
      value.isPresent = true ∧ (Constraint.bound side limit).Admits declared value := by
  obtain ⟨name, opens, listed⟩ := exists_opens_limit side
  exact opens.clears_iff_isPresent_and (Constraint.named?_of_takes (.limit listed spells))

theorem clears_size_iff {text : String} {count : Nat} (spells : Text.SpellsCount text count) :
    Clears declared value ("size:" ++ text) ↔
      value.isPresent = true ∧
        ∀ size, (Operand.ofValue declared value).size? = some size → size = count := by
  have listed : ("size", Constraint.size) ∈ Constraint.counted := by simp [Constraint.counted]
  exact opens_size.clears_iff_isPresent_and (Constraint.named?_of_takes (.count listed spells))

theorem clears_numericLimit_iff {amount : Double}
    (measures : Value.Measures declared value amount) (side : Side) (a : NumericLimit) :
    Clears declared value (limitOpening side ++ a.text) ↔
      side.admits Double.atMost a.limit amount = true := by
  rw [clears_limit_iff side (.number a.spelled), and_iff_right measures.isPresent]
  exact measures.within_iff side a.limit

theorem clears_dateLimit_iff (present : value.isPresent = true) (side : Side) (a : DateLimit) :
    Clears declared value (limitOpening side ++ a.text) ↔
      ∀ millis, value.instant? = some millis →
        side.admits (fun x y => decide (x ≤ y)) a.millis millis = true := by
  rw [clears_limit_iff side (.instant a.unspelled a.instant), and_iff_right present]
  cases side <;> simp [Constraint.Admits, Side.admits]

theorem inclusive_numericLimits {amount : Double}
    (measures : Value.Measures declared value amount) (number : amount ≠ .nan) :
    Inclusive NumericLimit.AtMost (fun a => Clears declared value ("min:" ++ a.text))
      fun a => Clears declared value ("max:" ++ a.text) := by
  obtain ⟨own, ownUnits⟩ := Double.exists_units? number
  choose place placed using fun a : NumericLimit => Double.exists_units? a.limit_ne_nan
  refine .of_place place own ?_ ?_ ?_
  · exact fun a b => Double.atMost_iff (placed a) (placed b)
  · exact fun a =>
      (clears_numericLimit_iff measures .least a).trans (Double.atMost_iff (placed a) ownUnits)
  · exact fun a =>
      (clears_numericLimit_iff measures .most a).trans (Double.atMost_iff ownUnits (placed a))

theorem clears_dateLimit_iff_of_instant {millis : Int} (instant : value.instant? = some millis)
    (side : Side) (a : DateLimit) :
    Clears declared value (limitOpening side ++ a.text) ↔
      side.admits (fun x y => decide (x ≤ y)) a.millis millis = true := by
  have present : value.isPresent = true := by
    cases value with
    | string text => rfl
    | _ => cases instant
  rw [clears_dateLimit_iff present, instant]
  simp

theorem inclusive_dateLimits {millis : Int} (instant : value.instant? = some millis) :
    Inclusive DateLimit.AtMost (fun a => Clears declared value ("min:" ++ a.text))
      fun a => Clears declared value ("max:" ++ a.text) := by
  refine .of_place DateLimit.millis millis (fun _ _ => Iff.rfl) ?_ ?_
  · intro a
    exact (clears_dateLimit_iff_of_instant instant .least a).trans decide_eq_true_iff
  · intro a
    exact (clears_dateLimit_iff_of_instant instant .most a).trans decide_eq_true_iff

/-- A length that is neither less nor more than a count is that count. -/
theorem clears_both_iff_clears_size {length : Nat}
    (has : Value.HasLength declared value length) (narrow : length ≤ 2 ^ 53) {text : String}
    {count : Nat} (spells : Text.SpellsCount text count) (countNarrow : count ≤ 2 ^ 53) :
    Clears declared value ("min:" ++ text) ∧ Clears declared value ("max:" ++ text) ↔
      Clears declared value ("size:" ++ text) := by
  obtain ⟨limit, rfl, spelled⟩ : ∃ a : NumericLimit, a.text = text ∧ a.limit = .ofNat count :=
    ⟨⟨text, _, spells.readNumber? countNarrow⟩, rfl, rfl⟩
  have size : (Operand.ofValue declared value).size? = some length := by
    rcases has.operand with ⟨text, operand, rfl⟩ | operand <;> rw [operand] <;> rfl
  have measures := Value.Measures.length has
  have least : Clears declared value ("min:" ++ limit.text) ↔
      limit.limit.atMost (.ofNat length) = true := clears_numericLimit_iff measures .least limit
  have most : Clears declared value ("max:" ++ limit.text) ↔
      (Double.ofNat length).atMost limit.limit = true :=
    clears_numericLimit_iff measures .most limit
  rw [spelled, Double.ofNat_atMost_iff countNarrow narrow] at least
  rw [spelled, Double.ofNat_atMost_iff narrow countNarrow] at most
  rw [least, most, clears_size_iff spells, and_iff_right measures.isPresent, size]
  simp only [Option.some.injEq, forall_eq']
  exact ⟨fun both => Nat.le_antisymm both.2 both.1, fun equal => ⟨equal.ge, equal.le⟩⟩

theorem not_clears_of_nan (measures : Value.Measures declared value .nan) (side : Side)
    (a : NumericLimit) : ¬Clears declared value (limitOpening side ++ a.text) := by
  rw [clears_numericLimit_iff measures]
  obtain ⟨units, placed⟩ := Double.exists_units? a.limit_ne_nan
  cases side <;> simp [Side.admits, Double.atMost, Double.compares, Double.units?]

/-- Limits are inclusive and bound an order: of amounts and lengths, and of instants. On both sides
at once they leave the one length, and a text that is a date stays within itself. No limit is for
what has no order, NaN, and every limit admits what has no place in its order. -/
theorem limits_inclusive (declared : Declared) (value : Value) :
    (∀ amount, value.Measures declared amount → amount ≠ .nan →
      Inclusive NumericLimit.AtMost (fun a => Clears declared value ("min:" ++ a.text))
        fun a => Clears declared value ("max:" ++ a.text)) ∧
    (∀ length, value.HasLength declared length → length ≤ 2 ^ 53 →
      ∀ text count, Text.SpellsCount text count → count ≤ 2 ^ 53 →
        (Clears declared value ("min:" ++ text) ∧ Clears declared value ("max:" ++ text) ↔
          Clears declared value ("size:" ++ text))) ∧
    (∀ millis, value.instant? = some millis →
      Inclusive DateLimit.AtMost (fun a => Clears declared value ("min:" ++ a.text))
        fun a => Clears declared value ("max:" ++ a.text)) ∧
    (∀ a : DateLimit, Clears declared (.string a.text) ("min:" ++ a.text) ∧
      Clears declared (.string a.text) ("max:" ++ a.text)) ∧
    (value.isPresent = true → value.instant? = none →
      ∀ a : DateLimit, Clears declared value ("min:" ++ a.text) ∧
        Clears declared value ("max:" ++ a.text)) ∧
    (value.Measures declared .nan →
      ∀ a : NumericLimit, ¬Clears declared value ("min:" ++ a.text) ∧
        ¬Clears declared value ("max:" ++ a.text)) ∧
    (value.isPresent = true → (∀ amount, ¬value.Measures declared amount) →
      ∀ a : NumericLimit, Clears declared value ("min:" ++ a.text) ∧
        Clears declared value ("max:" ++ a.text)) := by
  refine ⟨?_, ?_, ?_, ?_, ?_, ?_, ?_⟩
  · intro amount measures number
    exact inclusive_numericLimits measures number
  · intro length has narrow text count spells countNarrow
    exact clears_both_iff_clears_size has narrow spells countNarrow
  · intro millis instant
    exact inclusive_dateLimits instant
  · intro a
    have own (side : Side) : Clears declared (.string a.text) (limitOpening side ++ a.text) := by
      have instant : (Value.string a.text).instant? = some a.millis := a.instant
      rw [clears_dateLimit_iff_of_instant instant]
      cases side <;> simp [Side.admits]
    exact ⟨own .least, own .most⟩
  · intro present unplaced a
    have admitted (side : Side) : Clears declared value (limitOpening side ++ a.text) := by
      simp [clears_dateLimit_iff present, unplaced]
    exact ⟨admitted .least, admitted .most⟩
  · intro measures a
    exact ⟨not_clears_of_nan measures .least a, not_clears_of_nan measures .most a⟩
  · intro present unmeasured a
    have admitted (side : Side) : Clears declared value (limitOpening side ++ a.text) := by
      rw [clears_limit_iff side (.number a.spelled), and_iff_right present]
      exact Value.within_of_unmeasured unmeasured side a.limit
    exact ⟨admitted .least, admitted .most⟩

theorem limits_inclusive_leap_day :
    Value.HasLength .nothing (.string "2024-02-29") 10 ∧ Text.SpellsCount "10" 10 ∧
      (Clears .nothing (.string "2024-02-29") ("min:" ++ "10") ∧
          Clears .nothing (.string "2024-02-29") ("max:" ++ "10") ↔
        Clears .nothing (.string "2024-02-29") ("size:" ++ "10")) ∧
      Inclusive NumericLimit.AtMost
        (fun a => Clears .nothing (.string "2024-02-29") ("min:" ++ a.text))
        (fun a => Clears .nothing (.string "2024-02-29") ("max:" ++ a.text)) ∧
      (Value.string "2024-02-29").instant? = some 1709164800000 ∧
      Inclusive DateLimit.AtMost
        (fun a => Clears .nothing (.string "2024-02-29") ("min:" ++ a.text))
        (fun a => Clears .nothing (.string "2024-02-29") ("max:" ++ a.text)) ∧
      Clears .nothing (.bool true) ("min:" ++ "2024-02-29") ∧
      ¬Clears .nothing (.number .nan) ("max:" ++ "10") ∧
      Clears .nothing (.bool true) ("max:" ++ "10") := by
  have has : Value.HasLength .nothing (.string "2024-02-29") 10 := .text nofun
  have spells : Text.SpellsCount "10" 10 :=
    ⟨['1', '0'], by decide, ⟨by decide, by simp⟩, by decide, by decide⟩
  have instant : (Value.string "2024-02-29").instant? = some 1709164800000 := by decide +kernel
  have narrow : 10 ≤ 2 ^ 53 := by decide
  let ten : NumericLimit := ⟨"10", _, spells.readNumber? narrow⟩
  let day : DateLimit := ⟨"2024-02-29", _, by decide +kernel, instant⟩
  obtain ⟨amounts, lengths, instants, -, -, -, -⟩ :=
    limits_inclusive .nothing (.string "2024-02-29")
  obtain ⟨-, -, -, -, undated, -, unmeasured⟩ := limits_inclusive .nothing (.bool true)
  obtain ⟨-, -, -, -, -, unordered, -⟩ := limits_inclusive .nothing (.number .nan)
  refine ⟨has, spells, ?_, ?_, instant, ?_, ?_, ?_, ?_⟩
  · exact lengths 10 has narrow "10" 10 spells narrow
  · exact amounts _ (.length has) nofun
  · exact instants _ instant
  · exact (undated rfl rfl day).1
  · exact (unordered (.number .nan) ten).2
  · refine (unmeasured rfl ?_ ten).2
    rintro amount (_ | _ | _ | has)
    cases has

end Clause

end Rulebook
