import Rulebook.Proofs.NearestDouble
import Mathlib.Data.List.TakeWhile

/-!
The grammar of numeric text. A text is read as a number exactly when it is a numeral between blanks
whose nearest double is finite, and the number is that double. `Numerals` reads what is written;
here what is read is taken apart again, so that nothing else can have been accepted.
-/

namespace Rulebook

namespace Digits

def leading (text : List Char) : Digits :=
  ⟨text.takeWhile Char.isDigit, fun _ => List.mem_takeWhile_imp⟩

theorem leading_append_dropWhile (text : List Char) :
    (leading text).val ++ text.dropWhile Char.isDigit = text :=
  List.takeWhile_append_dropWhile

theorem exists_of_numeral? {text : List Char} {n : Nat} (read : Text.numeral? text = some n) :
    ∃ digits : Digits, digits.val ≠ [] ∧ digits.val = text ∧ digits.value = n := by
  rw [Text.numeral?] at read
  split at read
  · rename_i spelled
    rw [Bool.and_eq_true, Bool.not_eq_true', List.isEmpty_eq_false_iff, List.all_eq_true] at spelled
    exact ⟨⟨text, spelled.2⟩, spelled.1, rfl, Option.some.inj read⟩
  · cases read

end Digits

namespace Decimal

theorem exists_readFraction (text : List Char) :
    ∃ fraction : Option Digits,
      text = fraction.elim [] (fun digits => '.' :: digits.val) ++ (readFraction text).2 ∧
        fraction.elim [] Subtype.val = (readFraction text).1 := by
  unfold readFraction
  split
  · rename_i rest
    refine ⟨some (Digits.leading rest), ?_, rfl⟩
    rw [Option.elim, List.cons_append, Digits.leading_append_dropWhile]
  · exact ⟨none, rfl, rfl⟩

theorem exists_scale {text : List Char} {exponent : Int}
    (read : readExponent? text = some exponent) :
    ∃ scale : Option Scale, text = scale.elim [] Scale.text ∧
      scale.elim 0 Scale.value = exponent := by
  cases text with
  | nil => exact ⟨none, rfl, Option.some.inj read⟩
  | cons marker rest =>
      simp only [readExponent?] at read
      split at read
      · rename_i isMarker
        obtain ⟨sign, split, negative⟩ := Sign.exists_readSign rest
        obtain ⟨magnitude, cast, value⟩ := Option.map_eq_some_iff.mp read
        obtain ⟨n, numeral, lifted⟩ := Option.bind_eq_some_iff.mp cast
        have whole : (n : Int) = magnitude := Option.some.inj lifted
        obtain ⟨digits, nonempty, written, same⟩ := Digits.exists_of_numeral? numeral
        refine ⟨some ⟨marker, isMarker, sign, digits, nonempty⟩, ?_, ?_⟩
        · rw [Option.elim, Scale.text, written, ← split]
        · rw [Option.elim, Scale.value, same, Sign.signed, negative, whole]
          exact value
      · cases read

/-- What reads as a decimal is a numeral. -/
theorem exists_numeral_of_read? {text : List Char} {d : Decimal} (read : read? text = some d) :
    ∃ n : Numeral, n.text = text ∧ n.decimal = d := by
  obtain ⟨sign, signed, negative⟩ := Sign.exists_readSign text
  obtain ⟨fraction, pointed, places⟩ :=
    exists_readFraction ((readSign text).2.dropWhile Char.isDigit)
  have body := Digits.leading_append_dropWhile (readSign text).2
  simp only [read?] at read
  split at read
  · cases read
  · rename_i some_digit
    obtain ⟨exponent, scaled, same⟩ := Option.map_eq_some_iff.mp read
    obtain ⟨scale, written, value⟩ := exists_scale scaled
    have nonempty :
        (Digits.leading (readSign text).2).val ++ fraction.elim [] Subtype.val ≠ [] := by
      intro nothing
      rw [List.append_eq_nil_iff, places] at nothing
      apply some_digit
      rw [Bool.and_eq_true, List.isEmpty_iff, List.isEmpty_iff]
      exact nothing
    refine ⟨⟨sign, .leading (readSign text).2, fraction, scale, nonempty⟩, ?_, ?_⟩
    · rw [Numeral.text, Numeral.fractionText, Numeral.scaleText, ← written, ← pointed, body]
      exact signed.symm
    · rw [Numeral.decimal, Numeral.places, places, value, negative]
      exact same

/-- Decimals are read from numerals and from nothing else. -/
theorem read?_eq_some_iff {text : List Char} {d : Decimal} :
    read? text = some d ↔ ∃ n : Numeral, n.text = text ∧ n.decimal = d := by
  constructor
  · exact exists_numeral_of_read?
  · rintro ⟨n, rfl, rfl⟩
    exact n.read?_text

end Decimal

namespace Numeral

variable (n : Numeral)

theorem exists_isDigit : ∃ c ∈ n.text, c.isDigit = true := by
  have nonempty := n.nonempty
  rw [Ne, List.append_eq_nil_iff, not_and_or] at nonempty
  rcases nonempty with whole | places
  · obtain ⟨c, listed⟩ := List.exists_mem_of_ne_nil _ whole
    have inText : c ∈ n.text := by simp [text, listed]
    exact ⟨c, inText, n.whole.property c listed⟩
  · cases written : n.fraction with
    | none => simp [written] at places
    | some digits =>
        rw [written] at places
        obtain ⟨c, listed⟩ := List.exists_mem_of_ne_nil _ places
        have inText : c ∈ n.text := by
          simp only [Option.elim] at listed
          simp [text, fractionText, written, listed]
        exact ⟨c, inText, digits.property c listed⟩

theorem isDigit_or_point_of_getLast? {c : Char} (last : n.text.getLast? = some c) :
    c.isDigit = true ∨ c = '.' := by
  have digit {digits : Digits} (ends : digits.val.getLast? = some c) : c.isDigit = true :=
    digits.property c (List.mem_of_getLast? ends)
  have nonempty := n.nonempty
  rw [text, fractionText, scaleText] at last
  cases scaled : n.scale with
  | some scale =>
      have split : n.sign.text ++ (n.whole.val ++
          (n.fraction.elim [] (fun digits => '.' :: digits.val) ++ scale.text)) =
          n.sign.text ++ n.whole.val ++ n.fraction.elim [] (fun digits => '.' :: digits.val) ++
            scale.marker :: scale.sign.text ++ scale.digits.val := by simp [Scale.text]
      rw [scaled, Option.elim, split, List.getLast?_append_of_ne_nil _ scale.nonempty] at last
      exact .inl (digit last)
  | none =>
      cases written : n.fraction with
      | none =>
          have whole : n.whole.val ≠ [] := by simpa [written] using nonempty
          simp only [scaled, written, Option.elim, List.append_nil] at last
          rw [List.getLast?_append_of_ne_nil _ whole] at last
          exact .inl (digit last)
      | some digits =>
          have split : n.sign.text ++ (n.whole.val ++ '.' :: digits.val) =
              n.sign.text ++ n.whole.val ++ ['.'] ++ digits.val := by simp
          simp only [scaled, written, Option.elim, List.append_nil] at last
          rw [split] at last
          by_cases nothing : digits.val = []
          · right
            simpa [nothing, eq_comm] using last
          · rw [List.getLast?_append_of_ne_nil _ nothing] at last
            exact .inl (digit last)

theorem not_two_signs {first second : Char} {rest : List Char}
    (written : n.text = first :: second :: rest) (isFirst : first ∈ ['+', '-'])
    (isSecond : second ∈ ['+', '-']) : False := by
  have unsigned := n.unsigned
  rw [text] at written
  generalize n.whole.val ++ (n.fractionText ++ n.scaleText) = body at unsigned written
  have notSign {c : Char} {others : List Char} (starts : body = c :: others)
      (isSign : c ∈ ['+', '-']) : False := by
    have neither := unsigned c (by rw [starts]; rfl)
    simp [neither.1, neither.2] at isSign
  cases signed : n.sign with
  | none =>
      rw [signed] at written
      exact notSign written isFirst
  | plus =>
      rw [signed] at written
      exact notSign (List.cons.inj written).2 isSecond
  | minus =>
      rw [signed] at written
      exact notSign (List.cons.inj written).2 isSecond

end Numeral

/-- No numeral has an n in it, and the words for what is no number all do. -/
theorem Numeral.not_special (n : Numeral) {signs name : List Char}
    (named : name.map Char.toLower ∈ ["inf".toList, "infinity".toList, "nan".toList])
    (written : n.text = signs ++ name) : False := by
  have letter : 'n' ∈ name.map Char.toLower := by
    simp only [List.mem_cons, List.not_mem_nil, or_false] at named
    rcases named with same | same | same
    all_goals
      rw [same]
      decide
  obtain ⟨c, listed, lower⟩ := List.mem_map.mp letter
  have inText : c ∈ n.text := by
    rw [written]
    exact List.mem_append_right signs listed
  rcases n.isDigit_or_mark_of_text inText with digit | mark
  · rw [toLower_of_isDigit digit] at lower
    rw [lower] at digit
    cases digit
  · simp only [List.mem_cons, List.not_mem_nil, or_false] at mark
    rcases mark with rfl | rfl | rfl | rfl | rfl <;> revert lower <;> decide

namespace Text

/-- Trimmed texts that come near to a number and are none. -/
inductive Unnumeric (text : List Char) : Prop
  /-- A value that is no number, by its name in any case. -/
  | special (signs name : List Char) : text = signs ++ name → (∀ c ∈ signs, c ∈ ['+', '-']) →
      name.map Char.toLower ∈ ["inf".toList, "infinity".toList, "nan".toList] → Unnumeric text
  | twoSigns (first second : Char) (rest : List Char) : text = first :: second :: rest →
      first ∈ ['+', '-'] → second ∈ ['+', '-'] → Unnumeric text
  | blankInside (c : Char) : c ∈ text → isBlank c = true → Unnumeric text
  | noDigit : (∀ c ∈ text, c.isDigit = false) → Unnumeric text
  /-- Anything but a digit or a point at the end, as the letters of a unit. -/
  | unit (c : Char) : text.getLast? = some c → c.isDigit = false → c ≠ '.' → Unnumeric text
  /-- A character that no numeral is written with, as a digit of another script. -/
  | foreign (c : Char) : c ∈ text → c.isDigit = false → c ∉ ['-', '+', '.', 'e', 'E'] →
      Unnumeric text
  /-- A magnitude from the middle between the last finite double and 2 ^ 1024 upwards. -/
  | overflow (n : Numeral) : text = n.text → (2 : ℚ) ^ 1024 - 2 ^ 970 ≤ n.decimal.magnitude →
      Unnumeric text

/-- A numeral that comes under this overflows. -/
theorem Unnumeric.overflows {text : List Char} (unnumeric : Unnumeric text) {n : Numeral}
    (written : text = n.text) : n.decimal.toDouble.isFinite = false := by
  cases unnumeric with
  | special signs name split _ named =>
      exact (n.not_special named (written.symm.trans split)).elim
  | twoSigns first second rest split isFirst isSecond =>
      exact (n.not_two_signs (written.symm.trans split) isFirst isSecond).elim
  | blankInside c listed blank =>
      rw [written] at listed
      rw [Numeral.isBlank_of_mem_text listed] at blank
      cases blank
  | noDigit none =>
      obtain ⟨c, listed, digit⟩ := n.exists_isDigit
      rw [← written] at listed
      rw [none c listed] at digit
      cases digit
  | unit c last undigit unpoint =>
      rw [written] at last
      rcases n.isDigit_or_point_of_getLast? last with digit | point
      · rw [undigit] at digit
        cases digit
      · exact absurd point unpoint
  | foreign c listed undigit unmarked =>
      rw [written] at listed
      rcases n.isDigit_or_mark_of_text listed with digit | mark
      · rw [undigit] at digit
        cases digit
      · exact absurd mark unmarked
  | overflow other same great =>
      have alike : other.decimal = n.decimal := by
        have read := other.read?_text
        rw [← same, written, n.read?_text] at read
        exact (Option.some.inj read).symm
      obtain ⟨rank, double, nearest⟩ := Decimal.isNearest_iff.mpr (Eq.refl n.decimal.toDouble)
      rw [alike] at great
      rw [double, Double.isFinite, nearest.eq_infinity great]
      exact decide_eq_false (Nat.lt_irrefl infinityRank)

end Text

/-- Text is read as a number exactly when it is a numeral between blanks that has a finite nearest
double, and as that double. -/
theorem readNumber?_exact (text : List Char) :
    (∀ d : Double, readNumber? text = some d ↔
      ∃ n : Numeral, Text.trim text = n.text ∧
        d.IsNearest n.sign.negative n.decimal.magnitude ∧ d.isFinite = true) ∧
    (Text.Unnumeric (Text.trim text) → readNumber? text = none) := by
  have exact_iff (d : Double) : readNumber? text = some d ↔
      ∃ n : Numeral, Text.trim text = n.text ∧
        d.IsNearest n.sign.negative n.decimal.magnitude ∧ d.isFinite = true := by
    rw [readNumber?_eq, Option.filter_eq_some_iff, Option.map_eq_some_iff]
    constructor
    · rintro ⟨⟨decimal, read, same⟩, finite⟩
      obtain ⟨n, written, rfl⟩ := Decimal.read?_eq_some_iff.mp read
      exact ⟨n, written.symm, Decimal.isNearest_iff.mpr same.symm, finite⟩
    · rintro ⟨n, written, nearest, finite⟩
      have read : Decimal.read? (Text.trim text) = some n.decimal :=
        Decimal.read?_eq_some_iff.mpr ⟨n, written.symm, rfl⟩
      exact ⟨⟨n.decimal, read, (Decimal.isNearest_iff.mp nearest).symm⟩, finite⟩
  refine ⟨exact_iff, ?_⟩
  intro unnumeric
  rw [Option.eq_none_iff_forall_ne_some]
  intro d read
  obtain ⟨n, written, nearest, finite⟩ := (exact_iff d).mp read
  have same : d = n.decimal.toDouble := Decimal.isNearest_iff.mp nearest
  rw [same, unnumeric.overflows written] at finite
  cases finite

theorem readNumber?_exact_infinity :
    Text.Unnumeric (Text.trim " -+Infinity\n".toList) ∧
      readNumber? " -+Infinity\n".toList = none := by
  have special : Text.Unnumeric (Text.trim " -+Infinity\n".toList) := by
    apply Text.Unnumeric.special ['-', '+'] "Infinity".toList
    · decide +kernel
    · simp
    · decide +kernel
  exact ⟨special, (readNumber?_exact _).2 special⟩

end Rulebook
