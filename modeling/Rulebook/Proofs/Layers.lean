import Rulebook.Check.Clause
import Rulebook.Proofs.Run

/-!
The layers of a field while its clauses are judged. Judging a value by a clause writes to layers
that the items after it are judged with. `judge_fst_of_mayLeave` says that no item can tell: what
has been written is what the same clause would write again.
-/

namespace Rulebook

theorem Clause.inspect_record (declared : Declared) (value : Value) (clause : Clause) :
    clause.inspect (declared.record clause) value = clause.inspect declared value := by
  cases clause with
  | kind expected => cases expected <;> rfl
  | _ => rfl

theorem Clause.judgeFlat_record (declared : Declared) (label : Label) (value : Value)
    (clause : Clause) :
    clause.judgeFlat (declared.record clause) label value =
      clause.judgeFlat declared label value := by
  rw [judgeFlat, inspect_record, judgeFlat]

namespace Clause

/-- What is left of layers when a clause has judged any number of values, one after the other. -/
def MayLeave : Clause → Layers → Layers → Prop
  | .arrayOf element, before, after =>
    (after.first = before.first ∨ after.first = before.first.record element) ∧
      element.MayLeave before.below after.below
  | _, before, after => after = before

theorem MayLeave.refl (clause : Clause) (layers : Layers) : clause.MayLeave layers layers := by
  induction clause generalizing layers with
  | arrayOf element ih => exact ⟨.inl rfl, ih layers.below⟩
  | _ => rfl

theorem MayLeave.trans {clause : Clause} {before between after : Layers}
    (former : clause.MayLeave before between) (latter : clause.MayLeave between after) :
    clause.MayLeave before after := by
  induction clause generalizing before between after with
  | arrayOf element ih =>
      refine ⟨?_, ih former.2 latter.2⟩
      rcases latter.1 with kept | written
      · rw [kept]
        exact former.1
      · right
        rcases former.1 with kept | alreadyWritten
        · rw [written, kept]
        · rw [written, alreadyWritten, Layer.record_record]
  | _ => exact Eq.trans latter former

theorem MayLeave.eq_of_not_isCheck {clause : Clause} {before after : Layers}
    (unchecked : clause.isCheck = false) (left : clause.MayLeave before after) :
    after = before := by
  cases clause with
  | arrayOf element => simp [isCheck] at unchecked
  | _ => exact left

theorem MayLeave.first_declared {element : Clause} {before after : Layers}
    (left : (arrayOf element).MayLeave before after) :
    after.first.declared = before.first.declared ∨
      after.first.declared = before.first.declared.record element := by
  rcases left.1 with kept | written
  · exact .inl (by rw [kept])
  · exact .inr (by rw [written, Layer.record_declared])

theorem MayLeave.first_record {element : Clause} {before after : Layers}
    (left : (arrayOf element).MayLeave before after) :
    after.first.record element = before.first.record element := by
  rcases left.1 with kept | written
  · rw [kept]
  · rw [written, Layer.record_record]

theorem MayLeave.first_exempts {element : Clause} {before after : Layers}
    (left : (arrayOf element).MayLeave before after) (checked : element.isCheck) :
    after.first.exempts = before.first.exempts := by
  funext item
  rcases left.1 with kept | written
  · rw [kept]
  · rw [written, Layer.exempts_record, element.excuses_of_isCheck checked, Bool.or_false]

def Visit.Leaves (visit : Layers → Label → Value → Except Fault (List Complaint × Layers))
    (clause : Clause) : Prop :=
  ∀ {layers label value complaints after},
    visit layers label value = .ok (complaints, after) → clause.MayLeave layers after

theorem judgeItems_mayLeave {clause : Clause} {exempt : Value → Bool}
    {visit : Layers → Label → Value → Except Fault (List Complaint × Layers)}
    (leaves : Visit.Leaves visit clause) {label : Label} {items : List (Value × Nat)}
    {layers after : Layers} {complaints : List Complaint}
    (run : judgeItems exempt visit label layers items = .ok (complaints, after)) :
    clause.MayLeave layers after := by
  induction items generalizing layers complaints with
  | nil =>
      simp only [judgeItems, Except.ok.injEq, Prod.mk.injEq] at run
      rw [← run.2]
      exact MayLeave.refl clause layers
  | cons head rest ih =>
      rw [judgeItems] at run
      split at run
      · exact ih run
      · obtain ⟨⟨found, between⟩, visited, run⟩ := Run.bind_eq_ok_iff.mp run
        obtain ⟨⟨others, last⟩, later, run⟩ := Run.bind_eq_ok_iff.mp run
        simp only [pure, Except.pure, Except.ok.injEq, Prod.mk.injEq] at run
        rw [run.2] at later
        exact (leaves visited).trans (ih later)

theorem judge_mayLeave (clause : Clause) (declared : Declared) :
    Visit.Leaves (clause.judge declared) clause := by
  induction clause generalizing declared with
  | arrayOf element ih =>
      intro layers label value complaints after run
      rw [judge] at run
      split at run
      · split at run
        · simp only at run
          split at run
          · obtain ⟨⟨found, below⟩, visited, run⟩ := Run.map_eq_ok_iff.mp run
            simp only [Prod.mk.injEq] at run
            rw [← run.2]
            exact ⟨.inr rfl, judgeItems_mayLeave (ih _) visited⟩
          · simp only [Except.ok.injEq, Prod.mk.injEq] at run
            rw [← run.2]
            exact ⟨.inr rfl, MayLeave.refl element layers.below⟩
        · simp only [Except.ok.injEq, Prod.mk.injEq] at run
          rw [← run.2]
          exact MayLeave.refl _ layers
      · simp only [Except.ok.injEq, Prod.mk.injEq] at run
        rw [← run.2]
        exact MayLeave.refl _ layers
  | _ =>
      intro layers label value complaints after run
      obtain ⟨found, _, run⟩ := Run.map_eq_ok_iff.mp run
      simp only [Prod.mk.injEq] at run
      exact run.2.symm

def judgeEach (exempt : Value → Bool) (judge : Label → Value → Except Fault (List Complaint))
    (label : Label) (items : List (Value × Nat)) : Except Fault (List Complaint) :=
  (items.mapM fun (item, index) =>
    if exempt item then Except.ok [] else judge (label.item index) item).map List.flatten

theorem judgeEach_cons (exempt : Value → Bool)
    (judge : Label → Value → Except Fault (List Complaint)) (label : Label) (head : Value × Nat)
    (rest : List (Value × Nat)) :
    judgeEach exempt judge label (head :: rest) =
      if exempt head.1 then judgeEach exempt judge label rest
      else do
        let found ← judge (label.item head.2) head.1
        let others ← judgeEach exempt judge label rest
        return found ++ others := by
  rw [judgeEach, Run.mapM_flatten_cons]
  by_cases exempted : exempt head.1
  · simp only [exempted, if_true]
    exact Run.map_id _
  · simp only [exempted, if_false, Bool.false_eq_true]
    rfl

theorem judgeEach_congr {exempt : Value → Bool}
    {first second : Label → Value → Except Fault (List Complaint)} {label : Label}
    {items : List (Value × Nat)}
    (same : ∀ entry ∈ items, exempt entry.1 = false →
      first (label.item entry.2) entry.1 = second (label.item entry.2) entry.1) :
    judgeEach exempt first label items = judgeEach exempt second label items := by
  rw [judgeEach, judgeEach, Run.mapM_congr]
  intro entry member
  by_cases exempted : exempt entry.1
  · simp [exempted]
  · simp [exempted, same entry member (by simpa using exempted)]

theorem judgeEach_eq_nil_iff {exempt : Value → Bool}
    {judge : Label → Value → Except Fault (List Complaint)} {label : Label}
    {items : List (Value × Nat)} :
    judgeEach exempt judge label items = .ok [] ↔
      ∀ entry ∈ items, exempt entry.1 = false → judge (label.item entry.2) entry.1 = .ok [] := by
  rw [judgeEach, Run.mapM_flatten_eq_nil_iff]
  apply forall₂_congr
  intro entry _
  by_cases exempted : exempt entry.1
  · simp [exempted]
  · simp [exempted]

theorem judgeItems_fst {clause : Clause} (exempt : Value → Bool)
    {visit : Layers → Label → Value → Except Fault (List Complaint × Layers)} {start : Layers}
    (leaves : Visit.Leaves visit clause)
    (same : ∀ {layers}, clause.MayLeave start layers → ∀ label value,
      (visit layers label value).map Prod.fst = (visit start label value).map Prod.fst)
    (label : Label) (items : List (Value × Nat)) {layers : Layers}
    (left : clause.MayLeave start layers) :
    (judgeItems exempt visit label layers items).map Prod.fst =
      judgeEach exempt (fun label value => (visit start label value).map Prod.fst) label items := by
  induction items generalizing layers with
  | nil => rfl
  | cons head rest ih =>
      rw [judgeItems, judgeEach_cons]
      by_cases exempted : exempt head.1
      · simp only [exempted, if_true, ih left]
      · simp only [exempted, if_false, Bool.false_eq_true]
        rw [← same left, Run.bind_map, Run.map_bind]
        apply Run.bind_congr
        intro result visited
        rw [← ih (left.trans (leaves visited))]
        cases judgeItems exempt visit label result.2 rest <;> rfl

/-- What a clause has left in the layers makes no difference to what it complains of next. -/
theorem judge_fst_of_mayLeave {clause : Clause} {declared next : Declared}
    {before after : Layers} (left : clause.MayLeave before after)
    (recorded : next = declared ∨ next = declared.record clause) (label : Label) (value : Value) :
    (clause.judge next after label value).map Prod.fst =
      (clause.judge declared before label value).map Prod.fst := by
  induction clause generalizing declared next before after label value with
  | arrayOf element ih =>
      rw [judge, judge]
      split
      · split
        · rename_i items _
          -- An element that checks nothing visits no item, and what its items leave cannot matter.
          by_cases checked : element.isCheck
          · have independent (layers : Layers) :=
              judgeItems_fst layers.first.exempts
                (judge_mayLeave element layers.first.declared)
                (fun left label value => ih left (.inl rfl) label value)
                label items.zipIdx (MayLeave.refl element layers.below)
            simp only [checked, if_true, Run.map_map]
            change (judgeItems _ _ _ _ _).map Prod.fst = (judgeItems _ _ _ _ _).map Prod.fst
            rw [independent, independent, left.first_exempts checked]
            apply judgeEach_congr
            intro entry _ _
            exact ih left.2 left.first_declared _ _
          · simp [checked, Except.map]
        · rfl
      · rfl
  | _ =>
      have unchanged : after = before := left
      rw [unchanged]
      rcases recorded with kept | written
      · rw [kept]
      · simp only [written, judge, judgeFlat_record]

end Clause

end Rulebook
