import Mathlib.Data.List.Induction
import Rulebook.Proofs.Layers

/-!
Assessment: what a clause has to say about a value, given just the clauses before it. No layer is
written or read. `judgeAll_eq_assessAll` says that judging a field comes to the same.
-/

namespace Rulebook

namespace Clause

def element? : Clause → Option Clause
  | .arrayOf element => some element
  | _ => none

def elements (clauses : List Clause) : List Clause :=
  clauses.filterMap element?

def asksText : Clause → Bool
  | .kind .string => true
  | _ => false

def asksNumber : Clause → Bool
  | .kind .number | .refinement _ => true
  | _ => false

def declaredBy (clauses : List Clause) : Declared :=
  ⟨clauses.any asksText, clauses.any asksNumber⟩

def excusedBy (clauses : List Clause) (value : Value) : Bool :=
  clauses.any fun clause => clause.excuses value

theorem elements_concat_arrayOf (clauses : List Clause) (element : Clause) :
    elements (clauses ++ [.arrayOf element]) = elements clauses ++ [element] := by
  simp [elements, element?]

theorem elements_concat_flat {clause : Clause} (flat : clause.element? = none)
    (clauses : List Clause) : elements (clauses ++ [clause]) = elements clauses := by
  simp [elements, flat]

theorem element?_of_not_isCheck {clause : Clause} (unchecked : clause.isCheck = false) :
    clause.element? = none := by
  cases clause <;> simp [isCheck, element?] at unchecked ⊢

theorem declaredBy_concat (clauses : List Clause) (clause : Clause) :
    declaredBy (clauses ++ [clause]) = (declaredBy clauses).record clause := by
  cases clause with
  | kind expected => cases expected <;> simp [declaredBy, Declared.record, asksText, asksNumber]
  | _ => simp [declaredBy, Declared.record, asksText, asksNumber]

theorem excusedBy_concat (clauses : List Clause) (clause : Clause) (value : Value) :
    excusedBy (clauses ++ [clause]) value = (excusedBy clauses value || clause.excuses value) := by
  simp [excusedBy]

def layerOf (clauses : List Clause) : Layer :=
  clauses.foldl Layer.record .blank

theorem layerOf_concat (clauses : List Clause) (clause : Clause) :
    layerOf (clauses ++ [clause]) = (layerOf clauses).record clause := by
  simp [layerOf]

theorem layerOf_declared (clauses : List Clause) :
    (layerOf clauses).declared = declaredBy clauses := by
  induction clauses using List.reverseRecOn with
  | nil => rfl
  | append_singleton front last ih =>
      rw [layerOf_concat, Layer.record_declared, ih, declaredBy_concat]

theorem layerOf_exempts (clauses : List Clause) :
    (layerOf clauses).exempts = excusedBy clauses := by
  funext item
  induction clauses using List.reverseRecOn with
  | nil => rfl
  | append_singleton front last ih =>
      rw [layerOf_concat, Layer.exempts_record, ih, excusedBy_concat]

/-- The complaints about a labelled value by one clause, given the clauses before it. -/
def assess : Clause → List Clause → Label → Value → Except Fault (List Complaint)
  | .arrayOf element, earlier, label, value =>
    if value.isPresent then
      match value.items? with
      | some items =>
        judgeEach (excusedBy (elements earlier)) (element.assess (elements earlier)) label
          items.zipIdx
      | none => .ok [⟨label, .notKind .array⟩]
    else .ok [⟨label, .missing⟩]
  | flat, earlier, label, value => flat.judgeFlat (declaredBy earlier) label value

def assessAll (label : Label) (value : Value) :
    List Clause → List Clause → Except Fault (List Complaint)
  | _, [] => .ok []
  | earlier, next :: rest =>
    if next.excuses value then .ok []
    else do
      let complaints ← next.assess earlier label value
      if complaints.isEmpty then assessAll label value (earlier ++ [next]) rest
      else return complaints

theorem assess_of_not_isCheck {clause : Clause} (unchecked : clause.isCheck = false)
    (earlier : List Clause) (label : Label) (value : Value) :
    clause.assess earlier label value = .ok [] := by
  cases clause <;> simp [isCheck, assess, judgeFlat, inspect, Except.map] at unchecked ⊢

theorem not_isCheck_of_excuses {clause : Clause} {value : Value}
    (excused : clause.excuses value = true) : clause.isCheck = false := by
  by_contra checked
  rw [excuses_of_isCheck (by simpa using checked)] at excused
  contradiction

theorem assess_of_excuses {clause : Clause} {value : Value} (excused : clause.excuses value = true)
    (earlier : List Clause) (label : Label) (other : Value) :
    clause.assess earlier label other = .ok [] :=
  assess_of_not_isCheck (not_isCheck_of_excuses excused) earlier label other

theorem assessAll_cons_of_excuses {label : Label} {value : Value} {earlier rest : List Clause}
    {next : Clause} (excused : next.excuses value = true) :
    assessAll label value earlier (next :: rest) = .ok [] := by
  rw [assessAll, if_pos excused]

theorem assessAll_cons_of_silent {label : Label} {value : Value} {earlier rest : List Clause}
    {next : Clause} (unexcused : next.excuses value = false)
    (silent : next.assess earlier label value = .ok []) :
    assessAll label value earlier (next :: rest) =
      assessAll label value (earlier ++ [next]) rest := by
  rw [assessAll, unexcused, silent]
  rfl

theorem assessAll_cons_of_complaints {label : Label} {value : Value} {earlier rest : List Clause}
    {next : Clause} {first : Complaint} {others : List Complaint}
    (unexcused : next.excuses value = false)
    (complained : next.assess earlier label value = .ok (first :: others)) :
    assessAll label value earlier (next :: rest) = .ok (first :: others) := by
  rw [assessAll, unexcused, complained]
  rfl

theorem assessAll_cons_eq_nil_iff {label : Label} {value : Value} {earlier rest : List Clause}
    {next : Clause} (unexcused : next.excuses value = false) :
    assessAll label value earlier (next :: rest) = .ok [] ↔
      next.assess earlier label value = .ok [] ∧
        assessAll label value (earlier ++ [next]) rest = .ok [] := by
  rw [assessAll, unexcused]
  cases next.assess earlier label value with
  | error fault => simp [bind, Except.bind]
  | ok complaints => cases complaints <;> simp [bind, Except.bind, pure, Except.pure]

/-- As far down as the items of a value can be reached, the layers are what the clauses before
come to. -/
inductive Agree : Layers → List Clause → Value → Prop
  | noItems {layers earlier value} : value.items? = none → Agree layers earlier value
  | items {layers earlier items} : layers.first = layerOf (elements earlier) →
      (∀ item ∈ items, excusedBy (elements earlier) item = false →
        Agree layers.below (elements earlier) item) →
      Agree layers earlier (.array items)

theorem Agree.fresh (value : Value) : Agree [] [] value := by
  cases value with
  | array items => exact .items rfl fun item member _ => Agree.fresh item
  | _ => exact .noItems rfl
termination_by sizeOf value
decreasing_by
  have smaller := List.sizeOf_lt_of_mem member
  simp only [Value.array.sizeOf_spec]
  omega

theorem Agree.concat_arrayOf {layers : Layers} {earlier : List Clause} {element : Clause}
    {items : List Value} (first : layers.first = layerOf (elements earlier ++ [element]))
    (below : ∀ item ∈ items, excusedBy (elements earlier ++ [element]) item = false →
      Agree layers.below (elements earlier ++ [element]) item) :
    Agree layers (earlier ++ [.arrayOf element]) (.array items) := by
  rw [← elements_concat_arrayOf] at first below
  exact .items first below

theorem Agree.of_elements_eq {layers : Layers} {earlier others : List Clause} {value : Value}
    (agree : Agree layers earlier value) (same : elements earlier = elements others) :
    Agree layers others value := by
  cases agree with
  | noItems none => exact .noItems none
  | items first below =>
      rw [same] at first below
      exact .items first below

theorem judge_fst_of_agree {clause : Clause} {layers : Layers} {earlier : List Clause}
    {value : Value} (agree : Agree layers earlier value) (label : Label) :
    (clause.judge (declaredBy earlier) layers label value).map Prod.fst =
      clause.assess earlier label value := by
  induction clause generalizing layers earlier label value with
  | arrayOf element ih =>
      cases agree with
      | noItems none => cases value <;> first | rfl | simp [Value.items?] at none
      | @items _ _ items first below =>
          change Except.map _ (if element.isCheck then _ else _) = judgeEach _ _ _ _
          rw [first, layerOf_exempts, layerOf_declared]
          by_cases checked : element.isCheck
          · simp only [checked, if_true, Run.map_map]
            change (judgeItems _ _ _ _ _).map Prod.fst = _
            rw [judgeItems_fst _ (judge_mayLeave element _)
              (fun left label value => judge_fst_of_mayLeave left (.inl rfl) label value)
              label items.zipIdx (MayLeave.refl element layers.below)]
            apply judgeEach_congr
            intro entry member unexcused
            exact ih (below entry.1 (List.fst_mem_of_mem_zipIdx member) unexcused) _
          · have silent : judgeEach (excusedBy (elements earlier))
                (element.assess (elements earlier)) label items.zipIdx = .ok [] :=
              judgeEach_eq_nil_iff.mpr fun entry _ _ =>
                assess_of_not_isCheck (by simpa using checked) (elements earlier) _ _
            simp only [checked, if_false, Bool.false_eq_true]
            exact silent.symm
  | _ =>
      simp only [judge, assess, Run.map_map]
      exact Run.map_id _

theorem Agree.persist {clause : Clause} {between after : Layers} {earlier : List Clause}
    {value : Value} (agree : Agree between (earlier ++ [clause]) value)
    (left : clause.MayLeave between after) : Agree after (earlier ++ [clause]) value := by
  induction clause generalizing between after earlier value with
  | arrayOf element ih =>
      cases agree with
      | noItems none => exact .noItems none
      | items first below =>
          rw [elements_concat_arrayOf] at first below
          refine .concat_arrayOf ?_ ?_
          · rcases left.1 with kept | written
            · rw [kept, first]
            · rw [written, first, layerOf_concat, Layer.record_record]
          · intro item member unexcused
            exact ih (below item member unexcused) left.2
  | _ =>
      have unchanged : after = between := left
      rw [unchanged]
      exact agree

/-- Once an item has been visited, the visits to its siblings only repeat what it has seen. -/
theorem judgeItems_agree {element : Clause} {declared : Declared} {exempt : Value → Bool}
    {start : Layers} {earlier : List Clause}
    (step : ∀ {between after label value complaints}, Agree start earlier value →
      element.MayLeave start between →
      element.judge declared between label value = .ok (complaints, after) →
      Agree after (earlier ++ [element]) value)
    {label : Label} {items : List (Value × Nat)} {layers after : Layers}
    {complaints : List Complaint}
    (agree : ∀ entry ∈ items, exempt entry.1 = false → Agree start earlier entry.1)
    (left : element.MayLeave start layers)
    (run : judgeItems exempt (element.judge declared) label layers items =
      .ok (complaints, after)) :
    ∀ entry ∈ items, exempt entry.1 = false → Agree after (earlier ++ [element]) entry.1 := by
  induction items generalizing layers complaints with
  | nil => simp
  | cons head rest ih =>
      rw [List.forall_mem_cons] at agree ⊢
      rw [judgeItems] at run
      split at run
      · rename_i exempted
        exact ⟨fun unexempted => by simp [exempted] at unexempted, ih agree.2 left run⟩
      · obtain ⟨⟨found, between⟩, visited, run⟩ := Run.bind_eq_ok_iff.mp run
        obtain ⟨⟨others, last⟩, later, run⟩ := Run.bind_eq_ok_iff.mp run
        simp only [pure, Except.pure, Except.ok.injEq, Prod.mk.injEq] at run
        rw [run.2] at later
        have visitLeft := judge_mayLeave element declared visited
        refine ⟨fun unexempted => ?_, ih agree.2 (left.trans visitLeft) later⟩
        exact (step (agree.1 unexempted) left visited).persist
          (judgeItems_mayLeave (judge_mayLeave element declared) later)

/-- One clause keeps the layers in step with the clauses before, even when it has been at work on
other values in between. -/
theorem Agree.step {clause : Clause} {declared : Declared} {before between after : Layers}
    {earlier : List Clause} {label : Label} {value : Value} {complaints : List Complaint}
    (agree : Agree before earlier value) (left : clause.MayLeave before between)
    (run : clause.judge declared between label value = .ok (complaints, after)) :
    Agree after (earlier ++ [clause]) value := by
  induction clause generalizing declared before between after earlier label value complaints with
  | arrayOf element ih =>
      cases agree with
      | noItems none => exact .noItems none
      | @items _ _ items first below =>
          have firstWritten : between.first.record element =
              layerOf (elements earlier ++ [element]) := by
            rw [left.first_record, first, layerOf_concat]
          change (if element.isCheck then _ else _) = _ at run
          -- A check visits the items and brings their layers along; a marker or an unknown token
          -- leaves those layers alone, and nothing below depends on it.
          by_cases checked : element.isCheck
          · simp only [checked, if_true] at run
            obtain ⟨⟨found, rest⟩, visited, run⟩ := Run.map_eq_ok_iff.mp run
            simp only [Prod.mk.injEq] at run
            rw [← run.2]
            rw [left.first_exempts checked, first, layerOf_exempts] at visited
            have agreed : ∀ item ∈ items, excusedBy (elements earlier) item = false →
                Agree rest (elements earlier ++ [element]) item :=
              Run.forall_mem_iff_zipIdx.mpr (judgeItems_agree ih
                (Run.forall_mem_iff_zipIdx.mp below) left.2 visited)
            refine .concat_arrayOf ?_ ?_
            · exact firstWritten
            · intro item member unexcused
              rw [excusedBy_concat, element.excuses_of_isCheck checked, Bool.or_false] at unexcused
              exact agreed item member unexcused
          · simp only [checked, if_false, Bool.false_eq_true, Except.ok.injEq, Prod.mk.injEq] at run
            have unchecked : element.isCheck = false := by simpa using checked
            have unchanged : between.below = before.below := left.2.eq_of_not_isCheck unchecked
            rw [← run.2, unchanged]
            refine .concat_arrayOf ?_ ?_
            · exact firstWritten
            · intro item member unexcused
              rw [excusedBy_concat, Bool.or_eq_false_iff] at unexcused
              apply (below item member unexcused.1).of_elements_eq
              rw [elements_concat_flat (element.element?_of_not_isCheck unchecked)]
  | _ =>
      have unchanged : between = before := left
      obtain ⟨found, _, run⟩ := Run.map_eq_ok_iff.mp run
      simp only [Prod.mk.injEq] at run
      rw [← run.2, unchanged]
      exact agree.of_elements_eq (elements_concat_flat rfl earlier).symm

theorem judgeAll_eq_assessAll_of_agree {scope : Scope} {earlier : List Clause} {value : Value}
    (agree : Agree scope.layers earlier value) (declared : scope.declared = declaredBy earlier)
    (label : Label) (clauses : List Clause) :
    judgeAll label value scope clauses = assessAll label value earlier clauses := by
  induction clauses generalizing scope earlier with
  | nil => rfl
  | cons next rest ih =>
      rw [judgeAll, assessAll]
      split
      · rfl
      · rw [← judge_fst_of_agree agree, Run.bind_map, declared]
        apply Run.bind_congr
        rintro ⟨complaints, after⟩ run
        have nextAgree := agree.step (MayLeave.refl next scope.layers) run
        simp only
        rw [ih nextAgree (declaredBy_concat earlier next).symm]

theorem judgeAll_eq_assessAll (label : Label) (value : Value) (clauses : List Clause) :
    judgeAll label value .fresh clauses = assessAll label value [] clauses :=
  judgeAll_eq_assessAll_of_agree (Agree.fresh value) rfl label clauses

end Clause

end Rulebook
