import Rulebook.Proofs.Assessment

/-!
Labels. A label takes no part in judging a value: it is carried into the complaints, and that is
all. So labels that look alike to a reader lead to complaints that look alike.
-/

namespace Rulebook

variable {α : Type} {view other : Label → α} {former latter : Label}

/-- Two views of labels that show of an item no more than its index and what they show of the
array. -/
def Label.Steady (view other : Label → α) : Prop :=
  ∀ (former latter : Label) (index : Nat),
    view former = other latter → view (former.item index) = other (latter.item index)

def Label.blank (_ : Label) : Unit := ()

theorem Label.blank_steady : Steady Label.blank Label.blank :=
  fun _ _ _ _ => rfl

def Complaint.seen (view : Label → α) (complaint : Complaint) : α × Finding :=
  (view complaint.label, complaint.finding)

namespace Clause

theorem judgeFlat_seen (same : view former = other latter) (declared : Declared) (value : Value)
    (clause : Clause) :
    (clause.judgeFlat declared former value).map (List.map (Complaint.seen view)) =
      (clause.judgeFlat declared latter value).map (List.map (Complaint.seen other)) := by
  rw [judgeFlat, judgeFlat]
  split
  · simp [Except.map, Complaint.seen, same]
  · rw [Run.map_map, Run.map_map]
    congr 1
    funext found
    cases found <;> simp [Complaint.seen, same]

theorem judgeEach_seen {exempt : Value → Bool}
    {judge : Label → Value → Except Fault (List Complaint)}
    (alike : ∀ {former latter : Label} (value : Value), view former = other latter →
      (judge former value).map (List.map (Complaint.seen view)) =
        (judge latter value).map (List.map (Complaint.seen other)))
    (steady : Label.Steady view other) (same : view former = other latter)
    (items : List (Value × Nat)) :
    (judgeEach exempt judge former items).map (List.map (Complaint.seen view)) =
      (judgeEach exempt judge latter items).map (List.map (Complaint.seen other)) := by
  induction items with
  | nil => rfl
  | cons head rest ih =>
      rw [judgeEach_cons, judgeEach_cons]
      split
      · exact ih
      · rw [Run.map_both, Run.map_both, ih, alike head.1 (steady former latter head.2 same)]

theorem assess_seen (steady : Label.Steady view other) (clause : Clause) (earlier : List Clause)
    (value : Value) (same : view former = other latter) :
    (clause.assess earlier former value).map (List.map (Complaint.seen view)) =
      (clause.assess earlier latter value).map (List.map (Complaint.seen other)) := by
  induction clause generalizing earlier former latter value with
  | arrayOf element ih =>
      rw [assess, assess]
      split
      · split
        · exact judgeEach_seen (fun value same => ih (elements earlier) value same) steady same _
        · simp [Except.map, Complaint.seen, same]
      · simp [Except.map, Complaint.seen, same]
  | _ => exact judgeFlat_seen same (declaredBy earlier) value _

theorem assessAll_seen (steady : Label.Steady view other) (same : view former = other latter)
    (value : Value) (earlier clauses : List Clause) :
    (assessAll former value earlier clauses).map (List.map (Complaint.seen view)) =
      (assessAll latter value earlier clauses).map (List.map (Complaint.seen other)) := by
  induction clauses generalizing earlier with
  | nil => rfl
  | cons next rest ih =>
      rw [assessAll, assessAll]
      split
      · rfl
      · rw [Run.map_either, Run.map_either, assess_seen steady next earlier value same, ih]

theorem judgeAll_seen (steady : Label.Steady view other) (same : view former = other latter)
    (value : Value) (clauses : List Clause) :
    (judgeAll former value .fresh clauses).map (List.map (Complaint.seen view)) =
      (judgeAll latter value .fresh clauses).map (List.map (Complaint.seen other)) := by
  rw [judgeAll_eq_assessAll, judgeAll_eq_assessAll, assessAll_seen steady same]

end Clause

end Rulebook
