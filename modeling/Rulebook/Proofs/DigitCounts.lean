import Rulebook.Proofs.Evaluations
import Rulebook.Proofs.Limits
import Rulebook.Proofs.NumeralGrammar
import Rulebook.Proofs.RoundTrip

/-!
Digit counts. A number is as long as it has digits in the text that it is measured on. What is
counted is whatever is none of five marks, and numerals are written with digits and those marks
alone. So neither a sign nor what stands around a numeral counts.
-/

namespace Rulebook

namespace Operand

/-- How many characters of a text are none of the marks of numerals. -/
def countUnmarked (text : List Char) : Nat :=
  text.countP fun c => !isMark c

theorem size?_number (amount : Double) (digits : List Char) :
    (number amount digits).size? = some (countUnmarked digits) :=
  rfl

theorem countUnmarked_sign (sign : Sign) (text : List Char) :
    countUnmarked (sign.text ++ text) = countUnmarked text := by
  cases sign <;> rfl

/-- In a numeral all but the marks are digits. -/
theorem countUnmarked_numeral (n : Numeral) :
    countUnmarked n.text = n.text.countP Char.isDigit := by
  have marked : ∀ c ∈ ['-', '+', '.', 'e', 'E'], isMark c = true := by simp [isMark]
  have undigit : ∀ c ∈ ['e', 'E', '-', '+', '.'], c.isDigit = false := by simp
  apply List.countP_congr
  intro c member
  rw [Bool.not_eq_true']
  constructor
  · intro unmarked
    refine (Numeral.isDigit_or_mark_of_text member).resolve_right fun mark => ?_
    rw [marked c mark] at unmarked
    cases unmarked
  · intro digit
    rw [← Bool.not_eq_true, isMark, List.contains_iff_mem]
    intro mark
    rw [undigit c mark] at digit
    cases digit

end Operand

namespace Double

/-- The double on the other side of zero. -/
def opposite : Double → Double
  | .ranked negative rank => .ranked (!negative) rank
  | .nan => .nan

theorem abs_opposite (d : Double) : d.opposite.abs = d.abs := by
  cases d <;> rfl

/-- A double is written as its magnitude is, but for a sign. -/
theorem exists_sign_canonicalText (d : Double) :
    ∃ sign : Sign, d.canonicalText = sign.text ++ d.abs.canonicalText := by
  cases d with
  | nan => exact ⟨.none, rfl⟩
  | ranked negative rank =>
      have size : (ranked negative rank).needsExponent = (ranked false rank).needsExponent := rfl
      cases negative with
      | false => exact ⟨.none, rfl⟩
      | true =>
          by_cases nothing : rank.val = 0
          · refine ⟨.none, ?_⟩
            simp [canonicalText, abs, nothing, Sign.text]
          · refine ⟨.minus, ?_⟩
            simp only [canonicalText, abs, size, if_neg nothing, if_true, Bool.false_eq_true,
              if_false, List.nil_append, Sign.text]
            split <;> simp

end Double

/-- An integer is written as its magnitude is, but for a sign. -/
theorem exists_sign_repr (z : Int) :
    ∃ sign : Sign, z.repr.toList = sign.text ++ Nat.toDigits 10 z.natAbs := by
  cases z with
  | ofNat n => exact ⟨.none, Nat.toList_repr⟩
  | negSucc n =>
      refine ⟨.minus, ?_⟩
      rw [Int.repr, String.toList_append, Nat.toList_repr]
      rfl

namespace Numeral

/-- A numeral with another sign. -/
def withSign (n : Numeral) (sign : Sign) : Numeral :=
  { n with sign }

theorem text_withSign {n : Numeral} (unsigned : n.sign = .none) (sign : Sign) :
    (n.withSign sign).text = sign.text ++ n.text := by
  rw [text, text, unsigned]
  rfl

theorem sign_eq_none {n : Numeral} (unsigned : ∀ c ∈ n.text.head?, c ≠ '-' ∧ c ≠ '+') :
    n.sign = .none := by
  cases signed : n.sign with
  | none => rfl
  | plus => exact absurd rfl (unsigned '+' (by simp [text, signed, Sign.text])).2
  | minus => exact absurd rfl (unsigned '-' (by simp [text, signed, Sign.text])).1

theorem isFinite_withSign (n : Numeral) (sign : Sign) :
    (n.withSign sign).decimal.toDouble.isFinite = n.decimal.toDouble.isFinite := by
  rw [Decimal.toDouble_eq_nearest, Decimal.toDouble_eq_nearest]
  rfl

end Numeral

theorem exists_numeral_of_readNumber? {text : List Char} {n : Double}
    (spelled : readNumber? text = some n) :
    ∃ numeral : Numeral, numeral.text = Text.trim text ∧ numeral.decimal.toDouble = n ∧
      n.isFinite = true := by
  rw [readNumber?_eq] at spelled
  obtain ⟨rounded, finite⟩ := Option.filter_eq_some_iff.mp spelled
  obtain ⟨decimal, read, rfl⟩ := Option.map_eq_some_iff.mp rounded
  obtain ⟨numeral, written, rfl⟩ := Decimal.read?_eq_some_iff.mp read
  exact ⟨numeral, written, rfl, finite⟩

/-- An unsigned text that spells a number still spells one after a sign. -/
theorem exists_readNumber?_of_sign {text signed : List Char} {n : Double}
    (spelled : readNumber? text = some n)
    (unsigned : ∀ c ∈ (Text.trim text).head?, c ≠ '-' ∧ c ≠ '+') {sign : Sign}
    (trimmed : Text.trim signed = sign.text ++ Text.trim text) :
    ∃ m, readNumber? signed = some m := by
  obtain ⟨numeral, written, value, finite⟩ := exists_numeral_of_readNumber? spelled
  have none : numeral.sign = .none := by
    apply Numeral.sign_eq_none
    rwa [written]
  have signedFinite : (numeral.withSign sign).decimal.toDouble.isFinite = true := by
    rw [Numeral.isFinite_withSign, value]
    exact finite
  refine ⟨(numeral.withSign sign).decimal.toDouble, ?_⟩
  rw [readNumber?_eq, trimmed, ← written, ← Numeral.text_withSign none, Numeral.read?_text,
    Option.map_some, Option.filter_some, if_pos signedFinite]

namespace Value

/-- The text that a value is measured on when it is taken as a number. -/
inductive CountedOn (declared : Declared) : Value → List Char → Prop
  | number {n : Double} : n.isFinite = true → CountedOn declared (.number n) n.canonicalText
  | bigint (z : Int) : CountedOn declared (.bigint z) z.repr.toList
  | text {text : String} {n : Double} : declared.numericText = true →
      readNumber? text.toList = some n →
      CountedOn declared (.string text) (Text.trim text.toList)

variable {declared : Declared} {value : Value} {written : List Char}

theorem CountedOn.isPresent (counted : value.CountedOn declared written) :
    value.isPresent = true := by
  cases counted <;> rfl

theorem CountedOn.exists_operand (counted : value.CountedOn declared written) :
    ∃ amount, Operand.ofValue declared value = .number amount written := by
  cases counted with
  | number _ => exact ⟨_, rfl⟩
  | bigint z => exact ⟨_, rfl⟩
  | @text text n asked spelled =>
      refine ⟨n, ?_⟩
      rw [Operand.ofValue, Operand.ofText, spelled, asked]
      rfl

theorem CountedOn.exists_numeral (counted : value.CountedOn declared written) :
    ∃ numeral : Numeral, numeral.text = written := by
  cases counted with
  | number finite =>
      obtain ⟨numeral, canonical⟩ := Double.exists_canonical finite
      exact ⟨numeral, canonical.text⟩
  | bigint z =>
      obtain ⟨sign, signed⟩ := exists_sign_repr z
      refine ⟨.ofDigits sign (.ofNat z.natAbs) (Digits.ofNat_ne_nil _), ?_⟩
      rw [Numeral.text_ofDigits, signed]
      rfl
  | text asked spelled =>
      obtain ⟨numeral, same, -⟩ := exists_numeral_of_readNumber? spelled
      exact ⟨numeral, same⟩

theorem CountedOn.size? (counted : value.CountedOn declared written) :
    (Operand.ofValue declared value).size? = some (written.countP Char.isDigit) := by
  obtain ⟨amount, operand⟩ := counted.exists_operand
  obtain ⟨numeral, rfl⟩ := counted.exists_numeral
  rw [operand, Operand.size?_number, Operand.countUnmarked_numeral]

theorem size?_opposite (d : Double) :
    (Operand.ofValue declared (.number d.opposite)).size? =
      (Operand.ofValue declared (.number d)).size? := by
  obtain ⟨sign, written⟩ := d.exists_sign_canonicalText
  obtain ⟨otherSign, otherWritten⟩ := d.opposite.exists_sign_canonicalText
  rw [Double.abs_opposite] at otherWritten
  simp only [Operand.ofValue, Operand.size?_number, written, otherWritten,
    Operand.countUnmarked_sign]

theorem size?_neg (z : Int) :
    (Operand.ofValue declared (.bigint (-z))).size? =
      (Operand.ofValue declared (.bigint z)).size? := by
  obtain ⟨sign, written⟩ := exists_sign_repr z
  obtain ⟨otherSign, otherWritten⟩ := exists_sign_repr (-z)
  rw [Int.natAbs_neg] at otherWritten
  simp only [Operand.ofValue, Operand.size?_number, written, otherWritten,
    Operand.countUnmarked_sign]

end Value

namespace Clause

variable {declared : Declared} {value other : Value}

/-- Values of one size clear the same demands on their size. -/
theorem clears_size_congr (present : value.isPresent = true) (otherPresent : other.isPresent = true)
    (sizes : (Operand.ofValue declared value).size? = (Operand.ofValue declared other).size?)
    (argument : String) :
    Clears declared value ("size:" ++ argument) ↔ Clears declared other ("size:" ++ argument) := by
  by_cases spelled : ∃ count, Text.SpellsCount argument count
  · obtain ⟨count, spells⟩ := spelled
    rw [clears_size_iff spells, clears_size_iff spells, present, otherPresent, sizes]
  · have listed : ("size", Constraint.size) ∈ Constraint.counted := by simp [Constraint.counted]
    have refused := Constraint.named?_of_refuses (.count listed (not_exists.mp spelled))
    exact iff_of_false (opens_size.not_clears refused) (opens_size.not_clears refused)

theorem clears_size_iff_countP {written : List Char} (counted : value.CountedOn declared written)
    {text : String} {count : Nat} (spells : Text.SpellsCount text count) :
    Clears declared value ("size:" ++ text) ↔ written.countP Char.isDigit = count := by
  rw [clears_size_iff spells, and_iff_right counted.isPresent, counted.size?]
  simp only [Option.some.injEq, forall_eq']

section Coerced

variable {text around signed : String} {n : Double} (asked : declared.numericText = true)
  (spelled : readNumber? text.toList = some n)

include asked spelled

theorem clears_size_of_trim_eq (trimmed : Text.trim around.toList = Text.trim text.toList)
    (argument : String) :
    Clears declared (.string around) ("size:" ++ argument) ↔
      Clears declared (.string text) ("size:" ++ argument) := by
  have alsoSpelled : readNumber? around.toList = some n := by
    rw [← spelled, readNumber?_eq, readNumber?_eq, trimmed]
  have counted := Value.CountedOn.text asked spelled
  have alsoCounted := Value.CountedOn.text asked alsoSpelled
  apply clears_size_congr rfl rfl
  rw [counted.size?, alsoCounted.size?, trimmed]

theorem clears_size_of_sign (unsigned : ∀ c ∈ (Text.trim text.toList).head?, c ≠ '-' ∧ c ≠ '+')
    {sign : Sign} (trimmed : Text.trim signed.toList = sign.text ++ Text.trim text.toList)
    (argument : String) :
    Clears declared (.string signed) ("size:" ++ argument) ↔
      Clears declared (.string text) ("size:" ++ argument) := by
  obtain ⟨m, alsoSpelled⟩ := exists_readNumber?_of_sign spelled unsigned trimmed
  obtain ⟨_, operand⟩ := (Value.CountedOn.text asked spelled).exists_operand
  obtain ⟨_, otherOperand⟩ := (Value.CountedOn.text asked alsoSpelled).exists_operand
  apply clears_size_congr rfl rfl
  rw [operand, otherOperand, Operand.size?_number, Operand.size?_number, trimmed,
    Operand.countUnmarked_sign]

end Coerced

/-- The size of a number is how many digits it is written with, whatever was asked before. So the
other side of zero, blanks around a text or a sign before it make no difference. And where a run
measures text as a number, there is a numeral to count on. -/
theorem size_counts_digits (declared : Declared) :
    (∀ value written, value.CountedOn declared written → ∀ text count, Text.SpellsCount text count →
      (Clears declared value ("size:" ++ text) ↔ written.countP Char.isDigit = count)) ∧
    (∀ (d : Double) argument, Clears declared (.number d.opposite) ("size:" ++ argument) ↔
      Clears declared (.number d) ("size:" ++ argument)) ∧
    (∀ (z : Int) argument, Clears declared (.bigint (-z)) ("size:" ++ argument) ↔
      Clears declared (.bigint z) ("size:" ++ argument)) ∧
    (∀ text n, declared.numericText = true → readNumber? text.toList = some n →
      (∀ front back : String, (∀ c ∈ front.toList, Text.isBlank c = true) →
        (∀ c ∈ back.toList, Text.isBlank c = true) → ∀ argument,
          (Clears declared (.string (front ++ text ++ back)) ("size:" ++ argument) ↔
            Clears declared (.string text) ("size:" ++ argument))) ∧
      ((∀ c ∈ (Text.trim text.toList).head?, c ≠ '-' ∧ c ≠ '+') →
        ∀ (sign : Sign) (signed : String),
          Text.trim signed.toList = sign.text ++ Text.trim text.toList → ∀ argument,
            (Clears declared (.string signed) ("size:" ++ argument) ↔
              Clears declared (.string text) ("size:" ++ argument)))) ∧
    ∀ (field : FieldRules) place value evaluation count,
      EvaluatesAll (field.label place) value .fresh field.clauses evaluation →
        evaluation.clause = .constraint (.size count) → evaluation.declared.numericText = true →
          ∃ written, evaluation.value.CountedOn evaluation.declared written ∧
            (evaluation.clause.inspect evaluation.declared evaluation.value = .ok none ↔
              written.countP Char.isDigit = count) := by
  refine ⟨?_, ?_, ?_, ?_, ?_⟩
  · intro value written counted text count spells
    exact clears_size_iff_countP counted spells
  · intro d argument
    exact clears_size_congr rfl rfl (Value.size?_opposite d) argument
  · intro z argument
    exact clears_size_congr rfl rfl (Value.size?_neg z) argument
  · intro text n asked spelled
    constructor
    · intro front back frontBlank backBlank argument
      apply clears_size_of_trim_eq asked spelled
      rw [String.toList_append, String.toList_append, Text.trim_surrounded frontBlank backBlank]
    · intro unsigned sign signed trimmed argument
      exact clears_size_of_sign asked spelled unsigned trimmed argument
  · intro field place value evaluation count evaluates sized asked
    obtain ⟨text, n, same, spelled⟩ := evaluates.backed_of_fresh _ sized asked
    have counted : evaluation.value.CountedOn evaluation.declared (Text.trim text.toList) := by
      rw [same]
      exact .text asked spelled
    refine ⟨_, counted, ?_⟩
    rw [sized, inspect, Constraint.inspect_eq_none_iff]
    simp only [Constraint.Admits, counted.size?, Option.some.injEq, forall_eq']

theorem size_counts_digits_thousands :
    (Value.string " 1.5e3 ").CountedOn ⟨true, true⟩ "1.5e3".toList ∧
      Clears ⟨true, true⟩ (.string " 1.5e3 ") ("size:" ++ "3") ∧
      Clears ⟨true, true⟩ (.string ("\t" ++ " 1.5e3 " ++ "\n")) ("size:" ++ "3") ∧
      Clears ⟨true, true⟩ (.string " -1.5e3") ("size:" ++ "3") ∧
      ∃ evaluation : Evaluation,
        EvaluatesAll (.named "k") (.string " 1.5e3 ") .fresh
            [.kind .string, .refinement .natural, .constraint (.size 3)] evaluation ∧
          evaluation.declared.numericText = true ∧
          evaluation.clause.inspect evaluation.declared evaluation.value = .ok none := by
  obtain ⟨n, spelled⟩ : ∃ n, readNumber? " 1.5e3 ".toList = some n :=
    Option.isSome_iff_exists.mp (by decide +kernel)
  have trimmed : Text.trim " 1.5e3 ".toList = "1.5e3".toList := by decide
  have counted : (Value.string " 1.5e3 ").CountedOn ⟨true, true⟩ "1.5e3".toList := by
    rw [← trimmed]
    exact .text rfl spelled
  have unsigned : ∀ c ∈ (Text.trim " 1.5e3 ".toList).head?, c ≠ '-' ∧ c ≠ '+' := by
    rw [trimmed]
    simp
  have three : "1.5e3".toList.countP Char.isDigit = 3 := by decide
  have spells : Text.SpellsCount "3" 3 :=
    ⟨['3'], by decide, ⟨by decide, by simp⟩, by decide, by decide⟩
  obtain ⟨counts, -, -, coerced, backed⟩ := size_counts_digits ⟨true, true⟩
  obtain ⟨surrounded, signed⟩ := coerced " 1.5e3 " n rfl spelled
  have own := (counts _ _ counted "3" 3 spells).mpr three
  have silent : Refinement.natural.inspect ⟨true, false⟩ (.string " 1.5e3 ") = none := by
    decide +kernel
  have judged : (Clause.refinement .natural).judge ⟨true, false⟩ [] (.named "k")
      (.string " 1.5e3 ") = .ok ([], []) := by
    simp [judge, judgeFlat, inspect, isCheck, Value.isPresent, Value.kind?, Except.map, silent]
  have evaluates : EvaluatesAll (.named "k") (.string " 1.5e3 ") .fresh
      [.kind .string, .refinement .natural, .constraint (.size 3)]
      ⟨.constraint (.size 3), ⟨true, true⟩, .string " 1.5e3 "⟩ :=
    .later rfl rfl (.later rfl judged (.now rfl (.itself rfl)))
  obtain ⟨written, alsoCounted, inspected⟩ := backed
    (.ofDirectives "k" [.title "k", .clause (.kind .string), .clause (.refinement .natural),
      .clause (.constraint (.size 3))]) [] _ _ 3 evaluates rfl rfl
  refine ⟨counted, own, ?_, ?_, _, evaluates, rfl, ?_⟩
  · exact (surrounded "\t" "\n" (by simp [Text.isBlank]) (by simp [Text.isBlank]) "3").mpr own
  · exact (signed unsigned .minus " -1.5e3" (by decide) "3").mpr own
  · cases alsoCounted with
    | text _ _ => exact inspected.mpr (by decide)

end Clause

end Rulebook
