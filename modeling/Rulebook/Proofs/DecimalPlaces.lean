import Rulebook.Proofs.NumericText

/-!
Decimal places. Three directives count the places of a number, or of a text that spells one: exactly
so many, at least, or at most. Each of them has its own way with a text in which there is no point.
-/

namespace Rulebook

inductive PlacesDemand where
  | exactly | atLeast | atMost
  deriving DecidableEq, Repr

namespace PlacesDemand

def clause (count : Nat) : PlacesDemand → Clause
  | .exactly => .constraint (.places count)
  | .atLeast => .constraint (.placesBound .least count)
  | .atMost => .constraint (.placesBound .most count)

def finding (count : Nat) : PlacesDemand → Finding
  | .exactly => .notPlaces count
  | .atLeast => .placesOutside .least count
  | .atMost => .placesOutside .most count

/-- Whether so many places are as demanded. Without a point there are none to count. -/
def meets (count : Nat) : PlacesDemand → Option Nat → Bool
  | .exactly, none => decide (count = 0)
  | .exactly, some places => decide (places = count)
  | .atLeast, none => decide (count = 0)
  | .atLeast, some places => decide (count ≤ places)
  | .atMost, none => true
  | .atMost, some places => decide (places ≤ count)

theorem meets_none (demand : PlacesDemand) (count : Nat) :
    demand.meets count none = demand.meets count (some 0) := by
  cases demand with
  | exactly => simp [meets, eq_comm]
  | atLeast => simp [meets]
  | atMost => simp [meets]

theorem meets_exactly_iff {count : Nat} {places : Option Nat} :
    exactly.meets count places = true ↔
      atLeast.meets count places = true ∧ atMost.meets count places = true := by
  cases places with
  | none => simp [meets]
  | some places =>
      simp only [meets, decide_eq_true_eq]
      omega

theorem meets_atLeast_or_atMost (count : Nat) (places : Option Nat) :
    atLeast.meets count places = true ∨ atMost.meets count places = true := by
  cases places with
  | none => exact .inr rfl
  | some places =>
      simp only [meets, decide_eq_true_eq]
      omega

section

variable {fewer more : Nat} (bound : fewer ≤ more) {places : Option Nat}

include bound

theorem meets_atLeast_of_le (met : atLeast.meets more places = true) :
    atLeast.meets fewer places = true := by
  cases places with
  | none =>
      simp only [meets, decide_eq_true_eq] at met ⊢
      omega
  | some places =>
      simp only [meets, decide_eq_true_eq] at met ⊢
      omega

theorem meets_atMost_of_le (met : atMost.meets fewer places = true) :
    atMost.meets more places = true := by
  cases places with
  | none => rfl
  | some places =>
      simp only [meets, decide_eq_true_eq] at met ⊢
      omega

end

end PlacesDemand

/-- How many characters follow the first point, an exponent counted along. -/
def fractionLength? (text : List Char) : Option Nat :=
  (Text.cutFirst? '.' text).map fun (_, fraction) => fraction.length

theorem fractionLength?_eq_none_iff {text : List Char} :
    fractionLength? text = none ↔ '.' ∉ text := by
  rw [fractionLength?, Option.map_eq_none_iff]
  induction text with
  | nil => simp [Text.cutFirst?]
  | cons c rest ih =>
      rw [Text.cutFirst?]
      by_cases point : c = '.'
      · simp [point]
      · simp [point, ih, Ne.symm point]

namespace Value

/-- The text in which the places of a value are counted. -/
def canonicalText? : Value → Option (List Char)
  | .string text => (readNumber? text.toList).map Double.canonicalText
  | .number .nan => none
  | .number n => some n.canonicalText
  | .bigint n => some n.repr.toList
  | _ => none

theorem placesOf_eq (canonical : List Char) :
    placesOf canonical = (fractionLength? canonical).getD 0 := by
  rw [placesOf, fractionLength?]
  cases Text.cutFirst? '.' canonical <;> rfl

theorem places?_of_canonicalText? {value : Value} {canonical : List Char}
    (written : value.canonicalText? = some canonical) :
    value.places? = .ok (some (placesOf canonical)) := by
  cases value with
  | string text =>
      obtain ⟨n, spelled, rfl⟩ := Option.map_eq_some_iff.mp written
      simp only [places?, spelled]
  | number n =>
      cases n with
      | nan => cases written
      | ranked negative rank =>
          cases written
          rfl
  | bigint n =>
      cases written
      rfl
  | _ => cases written

theorem inspectPlaces_of_unwritten {value : Value} (unwritten : value.canonicalText? = none) :
    ∃ found, ∀ admits finding, value.inspectPlaces admits finding = found := by
  cases value with
  | string text =>
      have unspelled : readNumber? text.toList = none := Option.map_eq_none_iff.mp unwritten
      refine ⟨some .notNumeral, ?_⟩
      intro admits finding
      simp only [inspectPlaces, places?, unspelled]
  | number n =>
      cases n with
      | nan => exact ⟨_, fun _ _ => rfl⟩
      | ranked negative rank => cases unwritten
  | bigint n => cases unwritten
  | _ => exact ⟨_, fun _ _ => rfl⟩

end Value

namespace PlacesDemand

variable (declared : Declared) (label : Label)

theorem inspect_clause (demand : PlacesDemand) (count : Nat) (value : Value) :
    (demand.clause count).inspect declared value =
      .ok (value.inspectPlaces (fun places => demand.meets count (some places))
        (demand.finding count)) := by
  have least : Nat.ble count = fun places => decide (count ≤ places) := by
    funext places
    rw [Bool.eq_iff_iff, Nat.ble_eq, decide_eq_true_eq]
  have most : (fun places => Nat.ble places count) = fun places => decide (places ≤ count) := by
    funext places
    rw [Bool.eq_iff_iff, Nat.ble_eq, decide_eq_true_eq]
  cases demand with
  | exactly => rfl
  | atLeast =>
      simp only [meets]
      rw [← least]
      rfl
  | atMost =>
      simp only [meets]
      rw [← most]
      rfl

theorem judge_of_canonicalText {value : Value} {canonical : List Char}
    (written : value.canonicalText? = some canonical) (demand : PlacesDemand) (count : Nat) :
    (demand.clause count).judgeFlat declared label value =
      .ok (if demand.meets count (fractionLength? canonical) then []
        else [⟨label, demand.finding count⟩]) := by
  have present : value.isPresent = true := by
    cases value with
    | undefined | null => cases written
    | _ => rfl
  -- The judgement counts no places where there is no point; the demands come to the same.
  have places : demand.meets count (fractionLength? canonical) =
      demand.meets count (some (Value.placesOf canonical)) := by
    rw [Value.placesOf_eq]
    cases fractionLength? canonical with
    | none => exact meets_none demand count
    | some places => rfl
  rw [Clause.judgeFlat, present, inspect_clause, Value.inspectPlaces,
    Value.places?_of_canonicalText? written, places]
  simp only [Bool.not_true, Bool.and_false, Bool.false_eq_true, if_false, Finding.ifNot]
  cases demand.meets count (some (Value.placesOf canonical)) <;> rfl

/-- What is said of a value of which no places can be counted does not hang on what is demanded. -/
theorem judge_of_unwritten {value : Value} (unwritten : value.canonicalText? = none) :
    ∃ complaints, ∀ (demand : PlacesDemand) (count : Nat),
      (demand.clause count).judgeFlat declared label value = .ok complaints := by
  by_cases present : value.isPresent = true
  · obtain ⟨found, inspected⟩ := Value.inspectPlaces_of_unwritten unwritten
    refine ⟨(found.map (Complaint.mk label)).toList, ?_⟩
    intro demand count
    rw [Clause.judgeFlat, present, inspect_clause, inspected]
    simp only [Bool.not_true, Bool.and_false, Bool.false_eq_true, if_false]
    rfl
  · refine ⟨[⟨label, .missing⟩], ?_⟩
    intro demand count
    have checked : (demand.clause count).isCheck = true := by cases demand <;> rfl
    rw [Clause.judgeFlat, checked, Bool.eq_false_iff.mpr present]
    rfl

def Passes (demand : PlacesDemand) (count : Nat) (declared : Declared) (label : Label)
    (value : Value) : Prop :=
  (demand.clause count).judgeFlat declared label value = .ok []

theorem passes_iff_meets {value : Value} {canonical : List Char}
    (written : value.canonicalText? = some canonical) {demand : PlacesDemand} {count : Nat} :
    demand.Passes count declared label value ↔
      demand.meets count (fractionLength? canonical) = true := by
  rw [Passes, judge_of_canonicalText declared label written]
  split <;> simp_all

section

variable {declared label}

theorem passes_exactly_iff {count : Nat} {value : Value} :
    exactly.Passes count declared label value ↔
      atLeast.Passes count declared label value ∧ atMost.Passes count declared label value := by
  cases written : value.canonicalText? with
  | some canonical =>
      simp only [passes_iff_meets declared label written]
      exact meets_exactly_iff
  | none =>
      obtain ⟨complaints, judged⟩ := judge_of_unwritten declared label written
      simp only [Passes, judged, and_self]

theorem Passes.of_meets {demand other : PlacesDemand} {count next : Nat} {value : Value}
    (weaker : ∀ places, demand.meets count places = true → other.meets next places = true)
    (passes : demand.Passes count declared label value) :
    other.Passes next declared label value := by
  cases written : value.canonicalText? with
  | some canonical =>
      rw [passes_iff_meets declared label written] at passes ⊢
      exact weaker _ passes
  | none =>
      obtain ⟨complaints, judged⟩ := judge_of_unwritten declared label written
      rw [Passes, judged] at passes ⊢
      exact passes

end

end PlacesDemand

/-- Whether a value is a finite number, or a text that spells one. -/
inductive Value.IsNumeral : Value → Prop
  | number {n : Double} : n.isFinite = true → IsNumeral (.number n)
  | bigint (n : Int) : IsNumeral (.bigint n)
  | text {text : String} {n : Double} : readNumber? text.toList = some n →
      IsNumeral (.string text)

theorem Value.canonicalText?_number {n : Double} (finite : n.isFinite = true) :
    (Value.number n).canonicalText? = some n.canonicalText := by
  cases n with
  | nan => cases finite
  | ranked negative rank => rfl

theorem Value.canonicalText?_string {text : String} {n : Double}
    (spelled : readNumber? text.toList = some n) :
    (Value.string text).canonicalText? = some n.canonicalText := by
  rw [canonicalText?, spelled]
  rfl

theorem Value.IsNumeral.exists_canonicalText {value : Value} (numeral : value.IsNumeral) :
    ∃ canonical, value.canonicalText? = some canonical := by
  cases numeral with
  | number finite => exact ⟨_, canonicalText?_number finite⟩
  | bigint n => exact ⟨_, rfl⟩
  | text spelled => exact ⟨_, canonicalText?_string spelled⟩

/-- The three demands fit together, on whatever value and whatever was asked before: exactly so many
is at least and at most so many, at least gets easier with fewer and at most with more, and a number
passes one of the two. A text that spells a number is judged as the number, and a number without a
point as one that has no places. -/
theorem PlacesDemand.coherent (declared : Declared) (label : Label) :
    (∀ value count, exactly.Passes count declared label value ↔
      atLeast.Passes count declared label value ∧ atMost.Passes count declared label value) ∧
    (∀ value fewer more, fewer ≤ more →
      (atLeast.Passes more declared label value → atLeast.Passes fewer declared label value) ∧
        (atMost.Passes fewer declared label value → atMost.Passes more declared label value)) ∧
    (∀ value : Value, value.IsNumeral → ∀ count,
      atLeast.Passes count declared label value ∨ atMost.Passes count declared label value) ∧
    (∀ text n, readNumber? text.toList = some n →
      ∀ (demand : PlacesDemand) (count : Nat) (otherwise : Declared),
        (demand.clause count).judgeFlat declared label (.string text) =
          (demand.clause count).judgeFlat otherwise label (.number n)) ∧
    (∀ (value : Value) canonical, value.canonicalText? = some canonical →
      ∀ (demand : PlacesDemand) (count : Nat),
        (demand.clause count).judgeFlat declared label value =
            .ok (if demand.meets count (fractionLength? canonical) then []
              else [⟨label, demand.finding count⟩]) ∧
          ('.' ∉ canonical →
            demand.meets count (fractionLength? canonical) = demand.meets count (some 0))) := by
  refine ⟨?_, ?_, ?_, ?_, ?_⟩
  · intro value count
    exact passes_exactly_iff
  · intro value fewer more bound
    constructor
    · exact Passes.of_meets fun _ => meets_atLeast_of_le bound
    · exact Passes.of_meets fun _ => meets_atMost_of_le bound
  · intro value numeral count
    obtain ⟨canonical, written⟩ := numeral.exists_canonicalText
    rw [passes_iff_meets declared label written, passes_iff_meets declared label written]
    exact meets_atLeast_or_atMost count (fractionLength? canonical)
  · intro text n spelled demand count otherwise
    have finite : n.isFinite = true := isFinite_of_readNumber? spelled
    rw [judge_of_canonicalText declared label (Value.canonicalText?_string spelled),
      judge_of_canonicalText otherwise label (Value.canonicalText?_number finite)]
  · intro value canonical written demand count
    refine ⟨judge_of_canonicalText declared label written demand count, ?_⟩
    intro pointless
    rw [fractionLength?_eq_none_iff.mpr pointless]
    exact meets_none demand count

theorem PlacesDemand.coherent_quarter :
    ∃ n, readNumber? " 0.250 ".toList = some n ∧ (Value.string " 0.250 ").IsNumeral ∧
    (Value.string " 0.250 ").canonicalText? = some "0.25".toList ∧
    (∀ demand : PlacesDemand, demand.Passes 2 .nothing (.named "price") (.string " 0.250 ")) ∧
    1 ≤ 2 ∧ atLeast.Passes 1 .nothing (.named "price") (.string " 0.250 ") ∧
    2 ≤ 3 ∧ atMost.Passes 3 .nothing (.named "price") (.string " 0.250 ") ∧
    (atLeast.clause 3).judgeFlat .nothing (.named "price") (.string " 0.250 ") =
      (atLeast.clause 3).judgeFlat ⟨true, true⟩ (.named "price") (.number n) ∧
    (atLeast.Passes 3 .nothing (.named "price") (.string " 0.250 ") ∨
      atMost.Passes 3 .nothing (.named "price") (.string " 0.250 ")) ∧
    (Value.bigint 3).canonicalText? = some ['3'] ∧ '.' ∉ ['3'] ∧
    (exactly.clause 1).judgeFlat .nothing (.named "price") (.bigint 3) =
      .ok [⟨.named "price", .notPlaces 1⟩] := by
  obtain ⟨_, weaker, numbers, spellings, verdicts⟩ := coherent .nothing (.named "price")
  have readable : (readNumber? " 0.250 ".toList).isSome := by decide +kernel
  obtain ⟨n, spelled⟩ := Option.isSome_iff_exists.mp readable
  have written : (Value.string " 0.250 ").canonicalText? = some "0.25".toList := by decide +kernel
  have two : ∀ demand : PlacesDemand,
      demand.Passes 2 .nothing (.named "price") (.string " 0.250 ") := by
    intro demand
    rw [Passes, (verdicts _ _ written demand 2).1]
    cases demand <;> rfl
  have whole : (Value.bigint 3).canonicalText? = some ['3'] := rfl
  have pointless : '.' ∉ ['3'] := by decide
  refine ⟨n, spelled, .text spelled, written, two, by decide,
    (weaker _ 1 2 (by decide)).1 (two _), by decide, (weaker _ 2 3 (by decide)).2 (two _),
    spellings _ _ spelled _ _ _, numbers _ (.text spelled) 3, whole, pointless, ?_⟩
  obtain ⟨judged, same⟩ := verdicts _ _ whole exactly 1
  rw [judged, same pointless]
  rfl

end Rulebook
