import Rulebook.Proofs.Lifting
import Rulebook.Proofs.Satisfaction

/-!
Numeric text. Once text is asked for that spells a number, it is judged as that number: by the same
clauses, to the same complaints, and only the wording of a refinement tells which of the two it was.
The same goes for arrays of such texts, at any depth.
-/

namespace Rulebook

/-- A finding about a number, as it reads of a text that spells the number when `textual`. -/
def Finding.worded (textual : Bool) : Finding → Finding
  | .notRefined expected _ => .notRefined expected textual
  | finding => finding

theorem Finding.map_ifNot (change : Finding → Finding) (holds : Bool) (finding : Finding) :
    (Finding.ifNot holds finding).map change = Finding.ifNot holds (change finding) := by
  cases holds <;> rfl

def Complaint.worded (textual : Bool) (complaint : Complaint) : Complaint :=
  ⟨complaint.label, complaint.finding.worded textual⟩

/-- Whether two values are a text and the number that it spells, or arrays of such texts and numbers,
to the same depth. -/
def Value.Spells : Nat → Value → Value → Prop
  | 0, value, other => ∃ text n, value = .string text ∧ other = .number n ∧
      readNumber? text.toList = some n
  | depth + 1, value, other => ∃ texts numbers, value = .array texts ∧ other = .array numbers ∧
      List.Forall₂ (Value.Spells depth) texts numbers

theorem Value.Spells.isPresent {depth : Nat} {value other : Value}
    (spells : Value.Spells depth value other) :
    value.isPresent = true ∧ other.isPresent = true := by
  cases depth with
  | zero =>
      obtain ⟨text, n, rfl, rfl, _⟩ := spells
      exact ⟨rfl, rfl⟩
  | succ depth =>
      obtain ⟨texts, numbers, rfl, rfl, _⟩ := spells
      exact ⟨rfl, rfl⟩

namespace Clause

/-- Whether a clause is a check of numbers. -/
inductive IsNumeric : Clause → Prop
  | number : IsNumeric (.kind .number)
  | refinement (expected : Refinement) : IsNumeric (.refinement expected)
  | equal (expected : String) : IsNumeric (.constraint (.equal expected))
  | oneOf (tokens : List String) : IsNumeric (.constraint (.oneOf tokens))
  | bound (side : Side) (limit : Double) (text : String) :
      IsNumeric (.constraint (.bound side (.number limit text)))
  | places (count : Nat) : IsNumeric (.constraint (.places count))
  | placesBound (side : Side) (count : Nat) : IsNumeric (.constraint (.placesBound side count))

/-- A clause about the items of arrays, so many levels down. -/
def under : Nat → Clause → Clause
  | 0, clause => clause
  | depth + 1, clause => .arrayOf (clause.under depth)

theorem map_under_zero (clauses : List Clause) : clauses.map (under 0) = clauses :=
  List.map_id clauses

theorem map_under_succ (clauses : List Clause) (depth : Nat) :
    clauses.map (under (depth + 1)) = (clauses.map (under depth)).map arrayOf :=
  (List.map_map ..).symm

theorem excusedBy_of_isPresent {value : Value} (present : value.isPresent = true)
    (clauses : List Clause) : excusedBy clauses value = false := by
  rw [excusedBy, List.any_eq_false]
  intro clause _ excused
  rw [Value.not_isPresent_of_excuses excused] at present
  contradiction

theorem excuses_of_isPresent {value : Value} (present : value.isPresent = true)
    (clause : Clause) : clause.excuses value = false := by
  by_contra excused
  rw [Value.not_isPresent_of_excuses (by simpa using excused)] at present
  contradiction

/-- A relation of what is said of two values that goes over from their items to arrays. -/
structure Gathers
    (relation : Except Fault (List Complaint) → Except Fault (List Complaint) → Prop) : Prop where
  nil : relation (.ok []) (.ok [])
  both {first second third fourth : Except Fault (List Complaint)} : relation first second →
    relation third fourth → relation
      (do
        let found ← first
        let others ← third
        return found ++ others)
      (do
        let found ← second
        let others ← fourth
        return found ++ others)

variable {relation : Except Fault (List Complaint) → Except Fault (List Complaint) → Prop}

theorem Gathers.judgeEach (gathers : Gathers relation) {exempt otherExempt : Value → Bool}
    {judge otherJudge : Label → Value → Except Fault (List Complaint)} {items others : List Value}
    (related : List.Forall₂ (fun item other => exempt item = false ∧ otherExempt other = false ∧
      ∀ label, relation (judge label item) (otherJudge label other)) items others)
    (label : Label) :
    relation (judgeEach exempt judge label items.zipIdx)
      (judgeEach otherExempt otherJudge label others.zipIdx) := by
  generalize 0 = start
  induction related generalizing start with
  | nil => exact gathers.nil
  | cons head _ ih =>
      rw [List.zipIdx_cons, List.zipIdx_cons, judgeEach_cons, judgeEach_cons]
      simp only [head.1, head.2.1, Bool.false_eq_true, if_false]
      exact gathers.both (head.2.2 _) (ih (start + 1))

/-- What two clauses have to say about a text and the number that it spells, they say in the same
relation of arrays of them. -/
theorem Gathers.assess_under (gathers : Gathers relation) {clause other : Clause}
    {earlier others : List Clause}
    (scalar : ∀ {text : String} {n : Double}, readNumber? text.toList = some n → ∀ label,
      relation (clause.assess earlier label (.string text))
        (other.assess others label (.number n)))
    {depth : Nat} {texts numbers : Value} (spells : Value.Spells depth texts numbers)
    (label : Label) :
    relation ((clause.under depth).assess (earlier.map (under depth)) label texts)
      ((other.under depth).assess (others.map (under depth)) label numbers) := by
  induction depth generalizing texts numbers label with
  | zero =>
      obtain ⟨text, n, rfl, rfl, spelled⟩ := spells
      rw [map_under_zero, map_under_zero]
      exact scalar spelled label
  | succ depth ih =>
      obtain ⟨texts, numbers, rfl, rfl, related⟩ := spells
      rw [map_under_succ, map_under_succ, under, under, assess_arrayOf, assess_arrayOf]
      apply gathers.judgeEach
      refine related.imp ?_
      intro text number spells
      exact ⟨excusedBy_of_isPresent spells.isPresent.1 _,
        excusedBy_of_isPresent spells.isPresent.2 _, ih spells⟩

def BothSilent (first second : Except Fault (List Complaint)) : Prop :=
  first = .ok [] ∧ second = .ok []

theorem gathers_bothSilent : Gathers BothSilent where
  nil := ⟨rfl, rfl⟩
  both := by
    rintro _ _ _ _ ⟨rfl, rfl⟩ ⟨rfl, rfl⟩
    exact ⟨rfl, rfl⟩

/-- The same complaints, the first ones about texts and the second ones about numbers. -/
def Reworded (first second : Except Fault (List Complaint)) : Prop :=
  ∃ complaints : List Complaint, first = .ok (complaints.map (Complaint.worded true)) ∧
    second = .ok (complaints.map (Complaint.worded false))

theorem gathers_reworded : Gathers Reworded where
  nil := ⟨[], rfl, rfl⟩
  both := by
    rintro _ _ _ _ ⟨found, rfl, rfl⟩ ⟨others, rfl, rfl⟩
    refine ⟨found ++ others, ?_, ?_⟩
    · rw [List.map_append]
      rfl
    · rw [List.map_append]
      rfl

section Scalar

variable {text : String} {n : Double} (spelled : readNumber? text.toList = some n)

include spelled

theorem ofText_of_spelled :
    Operand.ofText ⟨true, true⟩ text = .number n (Text.trim text.toList) := by
  rw [Operand.ofText, spelled]
  rfl

theorem places?_of_spelled :
    (Value.string text).places? = .ok (some (Value.placesOf n.canonicalText)) ∧
      (Value.number n).places? = .ok (some (Value.placesOf n.canonicalText)) := by
  constructor
  · simp only [Value.places?, spelled]
  · have finite : n.isFinite = true := isFinite_of_readNumber? spelled
    cases n with
    | nan => cases finite
    | ranked negative rank => rfl

theorem number?_of_spelled :
    (Value.string text).number? = some (n, true) := by
  rw [Value.number?, spelled]
  rfl

/-- A numeric clause finds the same wrong with a number and, where that is asked for, with a text
that spells it. -/
theorem inspect_of_spelled {clause : Clause} (numeric : clause.IsNumeric) (declared : Declared) :
    ∃ found : Option Finding,
      clause.inspect ⟨true, true⟩ (.string text) = .ok (found.map (Finding.worded true)) ∧
        clause.inspect declared (.number n) = .ok (found.map (Finding.worded false)) := by
  have textAdmitted : Kind.number.admits ⟨true, true⟩ (.string text) = true := by
    simp [Kind.admits, spelled]
  have numberAdmitted : Kind.number.admits declared (.number n) = true := rfl
  have operand := ofText_of_spelled spelled
  obtain ⟨textPlaces, numberPlaces⟩ := places?_of_spelled spelled
  cases numeric with
  | number =>
      refine ⟨none, ?_, rfl⟩
      rw [inspect, Kind.inspect, textAdmitted]
      rfl
  | refinement expected =>
      refine ⟨Finding.ifNot (expected.accepts n) (.notRefined expected true), ?_, ?_⟩
      · simp only [inspect, Refinement.inspect, textAdmitted, if_true, number?_of_spelled spelled,
          Finding.map_ifNot, Finding.worded]
      · simp only [inspect, Refinement.inspect, numberAdmitted, if_true, Value.number?,
          Finding.map_ifNot, Finding.worded]
  | equal expected =>
      refine ⟨Finding.ifNot ((readNumber? expected.toList).any n.same) (.notEqual expected), ?_, ?_⟩
      · simp only [inspect, Constraint.inspect, Operand.ofValue, operand, Operand.equals,
          Finding.map_ifNot, Finding.worded]
      · simp only [inspect, Constraint.inspect, Operand.ofValue, Operand.equals,
          Finding.map_ifNot, Finding.worded]
  | oneOf tokens =>
      refine ⟨Finding.ifNot ((tokens.filterMap fun token => readNumber? token.toList).any n.same)
        .invalid, ?_, ?_⟩
      · simp only [inspect, Constraint.inspect, Operand.ofValue, operand, Operand.isListed,
          Finding.map_ifNot, Finding.worded]
      · simp only [inspect, Constraint.inspect, Operand.ofValue, Operand.isListed,
          Finding.map_ifNot, Finding.worded]
  | bound side limit limitText =>
      refine ⟨Finding.ifNot (side.admits Double.atMost limit n) (.outside side limitText), ?_, ?_⟩
      · simp only [inspect, Constraint.inspect, Operand.ofValue, operand, Operand.inspectLimit,
          Finding.map_ifNot, Finding.worded]
      · simp only [inspect, Constraint.inspect, Operand.ofValue, Operand.inspectLimit,
          Finding.map_ifNot, Finding.worded]
  | places count =>
      refine ⟨Finding.ifNot (Value.placesOf n.canonicalText == count) (.notPlaces count), ?_, ?_⟩
      · simp only [inspect, Constraint.inspect, Value.inspectPlaces, textPlaces,
          Finding.map_ifNot, Finding.worded]
      · simp only [inspect, Constraint.inspect, Value.inspectPlaces, numberPlaces,
          Finding.map_ifNot, Finding.worded]
  | placesBound side count =>
      refine ⟨Finding.ifNot (side.admits Nat.ble count (Value.placesOf n.canonicalText))
        (.placesOutside side count), ?_, ?_⟩
      · simp only [inspect, Constraint.inspect, Value.inspectPlaces, textPlaces,
          Finding.map_ifNot, Finding.worded]
      · simp only [inspect, Constraint.inspect, Value.inspectPlaces, numberPlaces,
          Finding.map_ifNot, Finding.worded]

theorem judgeFlat_of_spelled {clause : Clause} (numeric : clause.IsNumeric) (declared : Declared)
    (label : Label) :
    Reworded (clause.judgeFlat ⟨true, true⟩ label (.string text))
      (clause.judgeFlat declared label (.number n)) := by
  obtain ⟨found, textFound, numberFound⟩ := inspect_of_spelled spelled numeric declared
  have present : (clause.isCheck && !(Value.string text).isPresent) = false ∧
      (clause.isCheck && !(Value.number n).isPresent) = false := by
    simp [Value.isPresent, Value.kind?]
  rw [judgeFlat, judgeFlat, present.1, present.2, textFound, numberFound]
  refine ⟨(found.map (Complaint.mk label)).toList, ?_, ?_⟩
  · cases found <;> rfl
  · cases found <;> rfl

end Scalar

theorem IsNumeric.element?_eq_none {clause : Clause} (numeric : clause.IsNumeric) :
    clause.element? = none := by
  cases numeric <;> rfl

theorem assess_of_flat {clause : Clause} (flat : clause.element? = none) (earlier : List Clause)
    (label : Label) (value : Value) :
    clause.assess earlier label value = clause.judgeFlat (declaredBy earlier) label value := by
  cases clause with
  | arrayOf element => cases flat
  | _ => rfl

/-- What has to be asked for before text is judged as the number that it spells. -/
def askedOfText : List Clause :=
  [.kind .string, .kind .number]

def askedOfNumber : List Clause :=
  [.kind .number]

theorem declaredBy_askedOfText (front : List Clause) :
    declaredBy (askedOfText ++ front) = ⟨true, true⟩ := by
  simp [askedOfText, declaredBy, asksText, asksNumber]

/-- The verdict of clauses on a value: no complaint, or these by the clause with that index. -/
abbrev Verdict := Option (Nat × List Complaint)

namespace Verdict

def complaints (verdict : Verdict) : List Complaint :=
  verdict.elim [] Prod.snd

def failure (verdict : Verdict) : Option Nat :=
  verdict.map Prod.fst

end Verdict

/-- Whether clauses come to the same verdict on a value of texts and on one of numbers, after what
has to be asked for of each: complaints that differ in wording only, by the same clause. -/
def SameVerdict (label : Label) (texts numbers : Value) (ofText ofNumber clauses : List Clause) :
    Prop :=
  ∃ verdict : Verdict, (verdict.isSome → verdict.complaints ≠ []) ∧
    judgeAll label texts .fresh (ofText ++ clauses) =
      .ok (verdict.complaints.map (Complaint.worded true)) ∧
    judgeAll label numbers .fresh (ofNumber ++ clauses) =
      .ok (verdict.complaints.map (Complaint.worded false)) ∧
    firstFailure label texts (ofText ++ clauses) = verdict.failure.map (· + ofText.length) ∧
    firstFailure label numbers (ofNumber ++ clauses) = verdict.failure.map (· + ofNumber.length)

theorem failureFrom_cons_of_silent {label : Label} {value : Value} {earlier : List Clause}
    {next : Clause} (unexcused : next.excuses value = false)
    (silent : next.assess earlier label value = .ok []) (rest : List Clause) :
    failureFrom label value earlier (next :: rest) =
      (failureFrom label value (earlier ++ [next]) rest).map (· + 1) := by
  rw [failureFrom_cons, unexcused, silent]
  rfl

section Run

variable {depth : Nat} {texts numbers : Value} (spells : Value.Spells depth texts numbers)

include spells

theorem assess_reworded {clause : Clause} (numeric : clause.IsNumeric) (front : List Clause)
    (label : Label) :
    Reworded
      ((clause.under depth).assess ((askedOfText ++ front).map (under depth)) label texts)
      ((clause.under depth).assess ((askedOfNumber ++ front).map (under depth)) label numbers) := by
  apply gathers_reworded.assess_under _ spells
  intro text n spelled label
  rw [assess_of_flat numeric.element?_eq_none, assess_of_flat numeric.element?_eq_none,
    declaredBy_askedOfText]
  exact judgeFlat_of_spelled spelled numeric _ label

theorem assessAll_reworded {clauses : List Clause}
    (numeric : ∀ clause ∈ clauses, clause.IsNumeric) (front : List Clause) (label : Label) :
    ∃ verdict : Verdict, (verdict.isSome → verdict.complaints ≠ []) ∧
      assessAll label texts ((askedOfText ++ front).map (under depth))
          (clauses.map (under depth)) =
        .ok (verdict.complaints.map (Complaint.worded true)) ∧
      assessAll label numbers ((askedOfNumber ++ front).map (under depth))
          (clauses.map (under depth)) =
        .ok (verdict.complaints.map (Complaint.worded false)) ∧
      failureFrom label texts ((askedOfText ++ front).map (under depth))
          (clauses.map (under depth)) = verdict.failure ∧
      failureFrom label numbers ((askedOfNumber ++ front).map (under depth))
          (clauses.map (under depth)) = verdict.failure := by
  induction clauses generalizing front with
  | nil => exact ⟨none, by simp, rfl, rfl, rfl, rfl⟩
  | cons next rest ih =>
      rw [List.forall_mem_cons] at numeric
      obtain ⟨complaints, textJudged, numberJudged⟩ :=
        assess_reworded spells numeric.1 front label
      have textUnexcused := excuses_of_isPresent spells.isPresent.1 (next.under depth)
      have numberUnexcused := excuses_of_isPresent spells.isPresent.2 (next.under depth)
      have concat (before : List Clause) : (before ++ front).map (under depth) ++
          [next.under depth] = (before ++ (front ++ [next])).map (under depth) := by simp
      rw [List.map_cons]
      cases complaints with
      | nil =>
          obtain ⟨verdict, spoken, textRun, numberRun, textFailure, numberFailure⟩ :=
            ih numeric.2 (front ++ [next])
          rw [assessAll_cons_of_silent textUnexcused textJudged,
            assessAll_cons_of_silent numberUnexcused numberJudged,
            failureFrom_cons_of_silent textUnexcused textJudged,
            failureFrom_cons_of_silent numberUnexcused numberJudged, concat, concat, textRun,
            numberRun, textFailure, numberFailure]
          refine ⟨verdict.map fun failed => (failed.1 + 1, failed.2), ?_, ?_, ?_, ?_, ?_⟩
          · cases verdict with
            | none => simp
            | some failed => exact spoken
          · cases verdict <;> rfl
          · cases verdict <;> rfl
          · cases verdict <;> rfl
          · cases verdict <;> rfl
      | cons first others =>
          refine ⟨some (0, first :: others), by simp [Verdict.complaints], ?_, ?_, ?_, ?_⟩
          · exact assessAll_cons_of_complaints textUnexcused textJudged
          · exact assessAll_cons_of_complaints numberUnexcused numberJudged
          · rw [failureFrom_cons, textUnexcused, textJudged]
            rfl
          · rw [failureFrom_cons, numberUnexcused, numberJudged]
            rfl

/-- Texts that spell numbers pass what is asked of texts, and the numbers what is asked of them. -/
theorem asked_silent (label : Label) :
    BothSilent
        (((Clause.kind .string).under depth).assess ([].map (under depth)) label texts)
        (((Clause.kind .number).under depth).assess ([].map (under depth)) label numbers) ∧
      BothSilent
        (((Clause.kind .number).under depth).assess ([.kind .string].map (under depth)) label texts)
        (((Clause.kind .number).under depth).assess ([].map (under depth)) label numbers) := by
  constructor
  · apply gathers_bothSilent.assess_under _ spells
    exact fun spelled label => ⟨rfl, rfl⟩
  · apply gathers_bothSilent.assess_under _ spells
    intro text n spelled label
    have admitted : Kind.number.admits (declaredBy [.kind .string]) (.string text) = true := by
      simp [Kind.admits, declaredBy, asksText, spelled]
    refine ⟨?_, rfl⟩
    rw [assess_of_flat rfl, judgeFlat, inspect, Kind.inspect, admitted]
    rfl

theorem sameVerdict_under {clauses : List Clause} (numeric : ∀ clause ∈ clauses, clause.IsNumeric)
    (label : Label) :
    SameVerdict label texts numbers (askedOfText.map (under depth))
      (askedOfNumber.map (under depth)) (clauses.map (under depth)) := by
  obtain ⟨verdict, spoken, textRun, numberRun, textFailure, numberFailure⟩ :=
    assessAll_reworded spells numeric [] label
  obtain ⟨⟨asText, asNumber⟩, ⟨textAsNumber, -⟩⟩ := asked_silent spells label
  have textUnexcused := excuses_of_isPresent spells.isPresent.1
  have numberUnexcused := excuses_of_isPresent spells.isPresent.2
  refine ⟨verdict, spoken, ?_, ?_, ?_, ?_⟩
  · rw [judgeAll_eq_assessAll, ← textRun]
    exact (assessAll_cons_of_silent (textUnexcused _) asText).trans
      (assessAll_cons_of_silent (textUnexcused _) textAsNumber)
  · rw [judgeAll_eq_assessAll, ← numberRun]
    exact assessAll_cons_of_silent (numberUnexcused _) asNumber
  · have afterText := failureFrom_cons_of_silent (textUnexcused _) asText
      ((Clause.kind .number).under depth :: clauses.map (under depth))
    have afterNumber := failureFrom_cons_of_silent (textUnexcused _) textAsNumber
      (clauses.map (under depth))
    have twice := afterText.trans (congrArg (Option.map (· + 1)) afterNumber)
    rw [Option.map_map] at twice
    rw [firstFailure_eq_failureFrom, ← textFailure]
    exact twice
  · rw [firstFailure_eq_failureFrom, ← numberFailure]
    exact failureFrom_cons_of_silent (numberUnexcused _) asNumber _

end Run

/-- A text gets the verdict of the number that it spells from every list of checks of numbers, and
so do arrays of such texts, at any depth, from those checks of their items. -/
theorem judgeAll_text_as_number {clauses : List Clause}
    (numeric : ∀ clause ∈ clauses, clause.IsNumeric) (label : Label) :
    (∀ (text : String) (n : Double), readNumber? text.toList = some n →
      SameVerdict label (.string text) (.number n) askedOfText askedOfNumber clauses) ∧
    ∀ (depth : Nat) (texts numbers : Value), Value.Spells depth texts numbers →
      SameVerdict label texts numbers (askedOfText.map (under depth))
        (askedOfNumber.map (under depth)) (clauses.map (under depth)) := by
  constructor
  · intro text n spelled
    have spells : Value.Spells 0 (.string text) (.number n) := ⟨text, n, rfl, rfl, spelled⟩
    have verdict := sameVerdict_under spells numeric label
    rwa [map_under_zero, map_under_zero, map_under_zero] at verdict
  · exact fun depth texts numbers spells => sameVerdict_under spells numeric label

theorem judgeAll_text_as_number_natural :
    readNumber? " -3.0 ".toList = some (Double.ofInt (-3)) ∧
      SameVerdict (.named "k") (.string " -3.0 ") (.number (Double.ofInt (-3))) askedOfText
        askedOfNumber [.refinement .natural] ∧
      SameVerdict (.named "k") (.array [.string " -3.0 "]) (.array [.number (Double.ofInt (-3))])
        (askedOfText.map (under 1)) (askedOfNumber.map (under 1))
        ([.refinement .natural].map (under 1)) := by
  have numeric : ∀ clause ∈ [Clause.refinement .natural], clause.IsNumeric := by
    intro clause listed
    rw [List.mem_singleton.mp listed]
    exact .refinement .natural
  have spelled : readNumber? " -3.0 ".toList = some (Double.ofInt (-3)) := by decide +kernel
  have both := judgeAll_text_as_number numeric (.named "k")
  exact ⟨spelled, both.1 _ _ spelled,
    both.2 1 _ _ ⟨_, _, rfl, rfl, .cons ⟨_, _, rfl, rfl, spelled⟩ .nil⟩⟩

end Clause

end Rulebook
