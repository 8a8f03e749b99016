import Rulebook.Proofs.Satisfaction

/-!
Evaluations. A run over the clauses of a field evaluates one clause after the other, on the value or
on its items, each time with what the layers say by then. Whatever has been asked for by then holds
of the value at hand, because the run would have ended otherwise. So where text is to be measured as
a number it spells one: see `FieldRules.numeric_text_backed`.
-/

namespace Rulebook

namespace Clause

/-- A clause about a value itself, at the moment when it is evaluated. -/
structure Evaluation where
  clause : Clause
  declared : Declared
  value : Value

/-- The evaluations that judging a value by a clause comes to. An item is come to when those before
it have been judged, and with the layers that they have left. -/
inductive Evaluates : Clause → Declared → Layers → Label → Value → Evaluation → Prop
  | itself {clause : Clause} {declared : Declared} {layers : Layers} {label : Label}
      {value : Value} : clause.element? = none →
      Evaluates clause declared layers label value ⟨clause, declared, value⟩
  | item {element : Clause} {declared : Declared} {layers between : Layers} {label : Label}
      {items : List Value} {item : Value} {index : Nat} {front back : List (Value × Nat)}
      {complaints : List Complaint} {evaluation : Evaluation} :
      element.isCheck = true → items.zipIdx = front ++ (item, index) :: back →
      layers.first.exempts item = false →
      judgeItems layers.first.exempts (element.judge layers.first.declared) label layers.below
        front = .ok (complaints, between) →
      Evaluates element layers.first.declared between (label.item index) item evaluation →
      Evaluates (.arrayOf element) declared layers label (.array items) evaluation

/-- The evaluations that a run over clauses comes to, up to the first that complains. -/
inductive EvaluatesAll (label : Label) (value : Value) : Scope → List Clause → Evaluation → Prop
  | now {scope : Scope} {next : Clause} {rest : List Clause} {evaluation : Evaluation} :
      next.excuses value = false →
      Evaluates next scope.declared scope.layers label value evaluation →
      EvaluatesAll label value scope (next :: rest) evaluation
  | later {scope : Scope} {next : Clause} {rest : List Clause} {layers : Layers}
      {evaluation : Evaluation} : next.excuses value = false →
      next.judge scope.declared scope.layers label value = .ok ([], layers) →
      EvaluatesAll label value ⟨scope.declared.record next, layers⟩ rest evaluation →
      EvaluatesAll label value scope (next :: rest) evaluation

theorem allHold_concat_iff {earlier clauses : List Clause} {next : Clause} {value : Value} :
    AllHold earlier (clauses ++ [next]) value ↔
      AllHold earlier clauses value ∧ next.Holds (earlier ++ clauses) value := by
  induction clauses generalizing earlier with
  | nil =>
      rw [List.nil_append, allHold_cons_iff, List.append_nil]
      constructor
      · exact fun both => ⟨allHold_nil earlier value, both.1⟩
      · exact fun both => ⟨both.2, allHold_nil _ value⟩
  | cons first rest ih =>
      rw [List.cons_append, allHold_cons_iff, allHold_cons_iff, ih, List.append_assoc,
        List.singleton_append, and_assoc]

/-- What has held of an array held of each item that no marker excuses. -/
theorem AllHold.item {earlier : List Clause} {items : List Value}
    (all : AllHold [] earlier (.array items)) {item : Value} (member : item ∈ items)
    (unexcused : excusedBy (elements earlier) item = false) :
    AllHold [] (elements earlier) item := by
  induction earlier using List.reverseRecOn with
  | nil => exact allHold_nil [] item
  | append_singleton front last ih =>
      rw [allHold_concat_iff] at all
      cases last with
      | arrayOf element =>
          rw [elements_concat_arrayOf] at unexcused ⊢
          rw [excusedBy_concat, Bool.or_eq_false_iff] at unexcused
          rw [allHold_concat_iff]
          refine ⟨ih all.1 unexcused.1, ?_⟩
          obtain ⟨others, same, each⟩ := all.2
          obtain rfl := Value.array.inj same
          rcases each item member with excused | holds
          · rw [List.nil_append, unexcused.1] at excused
            cases excused
          · exact holds
      | _ =>
          rw [elements_concat_flat rfl] at unexcused ⊢
          exact ih all.1 unexcused

theorem AllHold.exists_holds {earlier : List Clause} {value : Value}
    (all : AllHold [] earlier value) {clause : Clause} (member : clause ∈ earlier) :
    ∃ front, clause.Holds front value := by
  obtain ⟨front, back, split⟩ := List.append_of_mem member
  have holds := all front clause back split
  exact ⟨_, holds⟩

theorem exists_string_of_asksText {clause : Clause} (asks : clause.asksText = true)
    {earlier : List Clause} {value : Value} (holds : clause.Holds earlier value) :
    ∃ text, value = .string text := by
  cases clause with
  | kind expected =>
      cases expected with
      | string =>
          cases value with
          | string text => exact ⟨text, rfl⟩
          | _ => simp [Holds, Kind.admits, Value.kind?] at holds
      | _ => simp [asksText] at asks
  | _ => simp [asksText] at asks

theorem admits_number_of_asksNumber {clause : Clause} (asks : clause.asksNumber = true)
    {earlier : List Clause} {value : Value} (holds : clause.Holds earlier value) :
    Kind.number.admits (declaredBy earlier) value = true := by
  cases clause with
  | kind expected =>
      cases expected with
      | number => exact holds
      | _ => simp [asksNumber] at asks
  | refinement expected => exact holds.1
  | _ => simp [asksNumber] at asks

/-- A value that passes for a number is one, or a text that spells one. -/
theorem number_or_text_of_admits {declared : Declared} {value : Value}
    (admitted : Kind.number.admits declared value = true) :
    (∃ n, value = .number n) ∨
      ∃ text n, value = .string text ∧ readNumber? text.toList = some n := by
  cases value with
  | number n => exact .inl ⟨n, rfl⟩
  | string text =>
      right
      simp only [Kind.admits, Value.kind?, Bool.or_eq_true, Bool.and_eq_true,
        Option.isSome_iff_exists] at admitted
      rcases admitted with other | ⟨_, n, read⟩
      · simp at other
      · exact ⟨text, n, rfl, read⟩
  | _ => simp [Kind.admits, Value.kind?] at admitted

/-- Text and a number have both been asked for, and both were there: a text that spells one. -/
theorem AllHold.spells_number {earlier : List Clause} {value : Value}
    (all : AllHold [] earlier value) (asked : (declaredBy earlier).numericText = true) :
    ∃ text n, value = .string text ∧ readNumber? text.toList = some n := by
  rw [Declared.numericText, Bool.and_eq_true, declaredBy, List.any_eq_true,
    List.any_eq_true] at asked
  obtain ⟨⟨first, inEarlier, asksText⟩, ⟨second, alsoInEarlier, asksNumber⟩⟩ := asked
  obtain ⟨front, firstHolds⟩ := all.exists_holds inEarlier
  obtain ⟨others, secondHolds⟩ := all.exists_holds alsoInEarlier
  obtain ⟨text, rfl⟩ := exists_string_of_asksText asksText firstHolds
  have admitted := admits_number_of_asksNumber asksNumber secondHolds
  rcases number_or_text_of_admits admitted with ⟨n, same⟩ | spelled
  · cases same
  · exact spelled

/-- Whether an evaluation of a constraint, if it measures text as a number, has such a text. -/
def Evaluation.Backed (evaluation : Evaluation) : Prop :=
  ∀ constraint, evaluation.clause = .constraint constraint →
    evaluation.declared.numericText = true →
    ∃ text n, evaluation.value = .string text ∧ readNumber? text.toList = some n

/-- One clause on a value that all clauses before it hold of, with what these have declared and
layers that visits to other values have left. -/
theorem Evaluates.backed {clause : Clause} {declared : Declared} {layers : Layers} {label : Label}
    {value : Value} {evaluation : Evaluation}
    (evaluates : Evaluates clause declared layers label value evaluation) {start : Layers}
    {earlier : List Clause} (agree : Agree start earlier value)
    (left : clause.MayLeave start layers)
    (recorded : declared = declaredBy earlier ∨ declared = (declaredBy earlier).record clause)
    (all : AllHold [] earlier value) : evaluation.Backed := by
  induction evaluates generalizing start earlier with
  | itself _ =>
      intro constraint same numeric
      simp only at same numeric
      subst same
      have unchanged : (declaredBy earlier).record (.constraint constraint) = declaredBy earlier :=
        rfl
      rw [unchanged, or_self] at recorded
      rw [recorded] at numeric
      exact all.spells_number numeric
  | @item element declared layers between label items item index front back complaints evaluation
      checked split unexempted judged _ ih =>
      cases agree with
      | noItems none => simp [Value.items?] at none
      | items first below =>
          have member : item ∈ items := by
            have indexed : (item, index) ∈ items.zipIdx := by simp [split]
            exact List.fst_mem_of_mem_zipIdx indexed
          have unexcused : excusedBy (elements earlier) item = false := by
            rw [left.first_exempts checked, first, layerOf_exempts] at unexempted
            exact unexempted
          have visited : element.MayLeave layers.below between :=
            judgeItems_mayLeave (judge_mayLeave element _) judged
          have known := left.first_declared
          rw [first, layerOf_declared] at known
          exact ih (below item member unexcused) (left.2.trans visited) known
            (all.item member unexcused)

/-- Along a run the clauses that are behind it hold of the value. -/
theorem EvaluatesAll.backed {label : Label} {value : Value} {scope : Scope}
    {clauses : List Clause} {evaluation : Evaluation}
    (evaluates : EvaluatesAll label value scope clauses evaluation) {earlier : List Clause}
    (agree : Agree scope.layers earlier value) (declared : scope.declared = declaredBy earlier)
    (all : AllHold [] earlier value) : evaluation.Backed := by
  induction evaluates generalizing earlier with
  | now _ evaluates =>
      exact evaluates.backed agree (MayLeave.refl _ _) (.inl declared) all
  | @later scope next rest layers evaluation _ judged _ ih =>
      have silent : next.assess earlier label value = .ok [] := by
        rw [← judge_fst_of_agree agree label, ← declared, judged]
        rfl
      have holds : next.Holds earlier value := assess_eq_nil_iff.mp silent
      have nextAgree : Agree layers (earlier ++ [next]) value :=
        agree.step (MayLeave.refl next scope.layers) judged
      have nextDeclared : scope.declared.record next = declaredBy (earlier ++ [next]) := by
        rw [declaredBy_concat, declared]
      exact ih nextAgree nextDeclared (allHold_concat_iff.mpr ⟨all, holds⟩)

theorem EvaluatesAll.backed_of_fresh {label : Label} {value : Value} {clauses : List Clause}
    {evaluation : Evaluation} (evaluates : EvaluatesAll label value .fresh clauses evaluation) :
    evaluation.Backed :=
  evaluates.backed (Agree.fresh value) rfl (allHold_nil [] value)

end Clause

/-- Wherever a constraint is to measure text as a number, the value is a text that spells one, so it
is not measured by its length; and a refinement that looks at a value finds a number in it. -/
theorem FieldRules.numeric_text_backed (field : FieldRules) (place : Place) (value : Value)
    (evaluation : Clause.Evaluation)
    (evaluates : Clause.EvaluatesAll (field.label place) value .fresh field.clauses evaluation) :
    (∀ constraint, evaluation.clause = .constraint constraint →
      evaluation.declared.numericText = true →
      ∃ text n, evaluation.value = .string text ∧ readNumber? text.toList = some n ∧
        Operand.ofValue evaluation.declared evaluation.value =
          .number n (Text.trim text.toList)) ∧
    ∀ refinement, evaluation.clause = .refinement refinement →
      Kind.number.admits evaluation.declared evaluation.value = true →
      ∃ found, evaluation.value.number? = some found := by
  have backed := evaluates.backed_of_fresh
  constructor
  · intro constraint same numeric
    obtain ⟨text, n, spelled, read⟩ := backed constraint same numeric
    refine ⟨text, n, spelled, read, ?_⟩
    simp only [spelled, Operand.ofValue, Operand.ofText, read, numeric, if_true]
  · intro refinement _ admitted
    rcases Clause.number_or_text_of_admits admitted with ⟨n, same⟩ | ⟨text, n, same, read⟩
    · exact ⟨(n, false), by rw [same]; rfl⟩
    · refine ⟨(n, true), ?_⟩
      rw [same, Value.number?, read]
      rfl

theorem FieldRules.numeric_text_backed_items :
    ∃ evaluation : Clause.Evaluation,
      Clause.EvaluatesAll (.named "k") (.array [.string " 7 "]) .fresh
          [.arrayOf (.kind .string), .arrayOf (.refinement .natural),
            .arrayOf (.constraint (.size 1))] evaluation ∧
        evaluation.declared.numericText = true ∧
        ∃ text n, evaluation.value = .string text ∧ readNumber? text.toList = some n := by
  have silent : Refinement.natural.inspect ⟨true, false⟩ (.string " 7 ") = none := by
    decide +kernel
  have judged : (Clause.arrayOf (.refinement .natural)).judge .nothing
      [⟨false, false, ⟨true, false⟩⟩] (.named "k") (.array [.string " 7 "]) =
        .ok ([], [⟨false, false, ⟨true, true⟩⟩]) := by
    simp [Clause.judge, Clause.judgeItems, Clause.judgeFlat, Clause.inspect, Value.items?,
      Clause.isCheck, Layers.first, Layers.below, Layer.exempts, Layer.record, Declared.record,
      Value.isUndefined, Value.isNull, Value.isPresent, Value.kind?, Except.map, bind, Except.bind,
      pure, Except.pure, silent]
  have evaluates : Clause.EvaluatesAll (.named "k") (.array [.string " 7 "]) .fresh
      [.arrayOf (.kind .string), .arrayOf (.refinement .natural),
        .arrayOf (.constraint (.size 1))] ⟨.constraint (.size 1), ⟨true, true⟩, .string " 7 "⟩ := by
    have start : [(Value.string " 7 ", 0)] = [] ++ (Value.string " 7 ", 0) :: [] := rfl
    refine .later rfl rfl (.later rfl judged (.now rfl ?_))
    exact .item rfl start rfl rfl (.itself rfl)
  obtain ⟨text, n, spelled, read, _⟩ := (FieldRules.numeric_text_backed
    (.ofDirectives "k" [.title "k", .clause (.arrayOf (.kind .string)),
      .clause (.arrayOf (.refinement .natural)), .clause (.arrayOf (.constraint (.size 1)))])
    [] _ _ evaluates).1 (.size 1) rfl rfl
  exact ⟨_, evaluates, rfl, text, n, spelled, read⟩

end Rulebook
