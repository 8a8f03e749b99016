import Rulebook.Proofs.Labels

/-!
Lifting: clauses about the items of an array, judged by way of the array, against the same clauses
judged of every item alone. The array has to say what those items have to say that fail first.
-/

namespace Rulebook

namespace Clause

def complains : Except Fault (List Complaint) → Bool
  | .ok complaints => !complaints.isEmpty
  | .error _ => false

/-- The first of the clauses by which there are complaints about the value. -/
def firstFailure (label : Label) (value : Value) (clauses : List Clause) : Option Nat :=
  (List.range clauses.length).find? fun index =>
    complains (judgeAll label value .fresh (clauses.take (index + 1)))

def failingAt (label : Label) (items : List Value) (clauses : List Clause) (index : Nat) :
    List (Value × Nat) :=
  items.zipIdx.filter fun entry => firstFailure label entry.1 clauses == some index

theorem complains_eq_of_seen {α : Type} {view : Label → α}
    {first second : Except Fault (List Complaint)}
    (alike : first.map (List.map (Complaint.seen view)) =
      second.map (List.map (Complaint.seen view))) : complains first = complains second := by
  cases first with
  | error fault => cases second <;> simp [Except.map, complains] at alike ⊢
  | ok found =>
      cases second with
      | error fault => simp [Except.map] at alike
      | ok others =>
          simp only [Except.map, Except.ok.injEq] at alike
          have sameLength := congrArg List.length alike
          cases found <;> cases others <;> simp [complains] at sameLength ⊢

theorem firstFailure_label (former latter : Label) (value : Value) (clauses : List Clause) :
    firstFailure former value clauses = firstFailure latter value clauses := by
  rw [firstFailure, firstFailure]
  congr 1
  funext index
  have same : Label.blank former = Label.blank latter := rfl
  exact complains_eq_of_seen (judgeAll_seen Label.blank_steady same value _)

def failureFrom (label : Label) (value : Value) (earlier clauses : List Clause) : Option Nat :=
  (List.range clauses.length).find? fun index =>
    complains (assessAll label value earlier (clauses.take (index + 1)))

theorem firstFailure_eq_failureFrom (label : Label) (value : Value) (clauses : List Clause) :
    firstFailure label value clauses = failureFrom label value [] clauses := by
  simp only [firstFailure, failureFrom, judgeAll_eq_assessAll]

theorem failureFrom_cons (label : Label) (value : Value) (earlier : List Clause) (next : Clause)
    (rest : List Clause) :
    failureFrom label value earlier (next :: rest) =
      if next.excuses value then none
      else match next.assess earlier label value with
        | .ok [] => (failureFrom label value (earlier ++ [next]) rest).map (· + 1)
        | .ok (_ :: _) => some 0
        | .error _ => none := by
  rw [failureFrom, List.length_cons, List.range_succ_eq_map, List.find?_cons, List.find?_map]
  simp only [List.take_succ_cons, assessAll, Function.comp_def, List.take_zero]
  by_cases excused : next.excuses value
  · simp [excused, complains]
  · simp only [excused, Bool.false_eq_true, if_false]
    cases next.assess earlier label value with
    | error fault => simp [bind, Except.bind, complains]
    | ok complaints =>
        cases complaints with
        | nil => simp [bind, Except.bind, complains, failureFrom]
        | cons first others => simp [bind, Except.bind, pure, Except.pure, complains]

theorem elements_map_arrayOf (clauses : List Clause) : elements (clauses.map arrayOf) = clauses := by
  rw [elements, List.filterMap_map]
  exact List.filterMap_some

theorem map_arrayOf_concat (clauses : List Clause) (clause : Clause) :
    clauses.map arrayOf ++ [arrayOf clause] = (clauses ++ [clause]).map arrayOf := by
  rw [List.map_append, List.map_singleton]

theorem assess_arrayOf (element : Clause) (earlier : List Clause) (label : Label)
    (items : List Value) :
    (arrayOf element).assess (earlier.map arrayOf) label (.array items) =
      judgeEach (excusedBy earlier) (element.assess earlier) label items.zipIdx := by
  change judgeEach (excusedBy (elements _)) _ _ _ = _
  rw [elements_map_arrayOf]

theorem assessAll_arrayOf_eq_nil_iff {label : Label} {items : List Value}
    {earlier clauses : List Clause} :
    assessAll label (.array items) (earlier.map arrayOf) (clauses.map arrayOf) = .ok [] ↔
      ∀ entry ∈ items.zipIdx, excusedBy earlier entry.1 = false →
        assessAll (label.item entry.2) entry.1 earlier clauses = .ok [] := by
  induction clauses generalizing earlier with
  | nil => exact iff_of_true rfl fun _ _ _ => rfl
  | cons next rest ih =>
      rw [List.map_cons, assessAll_cons_eq_nil_iff rfl, assess_arrayOf, map_arrayOf_concat, ih,
        judgeEach_eq_nil_iff, ← forall₂_and]
      apply forall₂_congr
      intro entry _
      rw [excusedBy_concat]
      by_cases excused : next.excuses entry.1
      · simp [excused, assess_of_excuses excused, assessAll_cons_of_excuses excused]
      · have unexcused : next.excuses entry.1 = false := by simpa using excused
        simp only [unexcused, Bool.or_false, assessAll_cons_eq_nil_iff unexcused, imp_and]

def itemFailure (label : Label) (earlier clauses : List Clause) (entry : Value × Nat) :
    Option Nat :=
  if excusedBy earlier entry.1 then none
  else failureFrom (label.item entry.2) entry.1 earlier clauses

section Trials

variable {label : Label} {earlier clauses rest : List Clause} {next : Clause}
  {entry : Value × Nat}

theorem itemFailure_of_excused (excused : excusedBy earlier entry.1 = true) :
    itemFailure label earlier clauses entry = none :=
  if_pos excused

theorem itemFailure_of_unexcused (unexcused : excusedBy earlier entry.1 = false) :
    itemFailure label earlier clauses entry =
      failureFrom (label.item entry.2) entry.1 earlier clauses := by
  rw [itemFailure, unexcused]
  rfl

theorem unexcused_of_itemFailure {index : Nat}
    (failure : itemFailure label earlier clauses entry = some index) :
    excusedBy earlier entry.1 = false := by
  by_contra excused
  rw [itemFailure_of_excused (by simpa using excused)] at failure
  contradiction

/-- The first of some clauses has nothing to say about an item. -/
structure Passes (label : Label) (earlier : List Clause) (next : Clause) (rest : List Clause)
    (entry : Value × Nat) : Prop where
  silent : excusedBy earlier entry.1 = false →
    next.assess earlier (label.item entry.2) entry.1 = .ok []
  later : itemFailure label earlier (next :: rest) entry =
    (itemFailure label (earlier ++ [next]) rest entry).map (· + 1)
  goesOn : excusedBy (earlier ++ [next]) entry.1 = false →
    assessAll (label.item entry.2) entry.1 earlier (next :: rest) =
      assessAll (label.item entry.2) entry.1 (earlier ++ [next]) rest

structure Fails (label : Label) (earlier : List Clause) (next : Clause) (rest : List Clause)
    (entry : Value × Nat) : Prop where
  unexcused : excusedBy earlier entry.1 = false
  complained : next.assess earlier (label.item entry.2) entry.1 ≠ .ok []
  ends : assessAll (label.item entry.2) entry.1 earlier (next :: rest) =
    next.assess earlier (label.item entry.2) entry.1
  atOnce : itemFailure label earlier (next :: rest) entry = some 0

theorem passes_of_excused (excused : excusedBy earlier entry.1 = true) :
    Passes label earlier next rest entry := by
  have stillExcused : excusedBy (earlier ++ [next]) entry.1 = true := by
    rw [excusedBy_concat, excused, Bool.true_or]
  constructor
  · simp [excused]
  · rw [itemFailure_of_excused excused, itemFailure_of_excused stillExcused]
    rfl
  · simp [stillExcused]

theorem passes_of_marker (unexcused : excusedBy earlier entry.1 = false)
    (excused : next.excuses entry.1 = true) : Passes label earlier next rest entry := by
  have nowExcused : excusedBy (earlier ++ [next]) entry.1 = true := by
    rw [excusedBy_concat, excused, Bool.or_true]
  constructor
  · exact fun _ => assess_of_excuses excused earlier _ _
  · rw [itemFailure_of_unexcused unexcused, itemFailure_of_excused nowExcused, failureFrom_cons,
      if_pos excused]
    rfl
  · simp [nowExcused]

theorem passes_of_silent (unexcused : excusedBy earlier entry.1 = false)
    (unmarked : next.excuses entry.1 = false)
    (silent : next.assess earlier (label.item entry.2) entry.1 = .ok []) :
    Passes label earlier next rest entry := by
  have stillUnexcused : excusedBy (earlier ++ [next]) entry.1 = false := by
    rw [excusedBy_concat, unexcused, unmarked]
    rfl
  constructor
  · exact fun _ => silent
  · rw [itemFailure_of_unexcused unexcused, itemFailure_of_unexcused stillUnexcused,
      failureFrom_cons, unmarked, silent]
    rfl
  · exact fun _ => assessAll_cons_of_silent unmarked silent

theorem fails_of_complaints {first : Complaint} {others : List Complaint}
    (unexcused : excusedBy earlier entry.1 = false) (unmarked : next.excuses entry.1 = false)
    (complained : next.assess earlier (label.item entry.2) entry.1 = .ok (first :: others)) :
    Fails label earlier next rest entry := by
  refine ⟨unexcused, by simp [complained], ?_, ?_⟩
  · rw [complained, assessAll_cons_of_complaints unmarked complained]
  · rw [itemFailure_of_unexcused unexcused, failureFrom_cons, unmarked, complained]
    rfl

theorem passes_or_fails
    (run : excusedBy earlier entry.1 = false → ∃ complaints,
      assessAll (label.item entry.2) entry.1 earlier (next :: rest) = .ok complaints) :
    Passes label earlier next rest entry ∨ Fails label earlier next rest entry := by
  cases before : excusedBy earlier entry.1 with
  | true => exact .inl (passes_of_excused before)
  | false =>
      cases marked : next.excuses entry.1 with
      | true => exact .inl (passes_of_marker before marked)
      | false =>
          obtain ⟨complaints, ran⟩ := run before
          cases assessed : next.assess earlier (label.item entry.2) entry.1 with
          | error fault =>
              rw [assessAll, marked, assessed] at ran
              contradiction
          | ok found =>
              cases found with
              | nil => exact .inl (passes_of_silent before marked assessed)
              | cons first others => exact .inr (fails_of_complaints before marked assessed)

theorem Passes.not_atOnce (passes : Passes label earlier next rest entry) :
    itemFailure label earlier (next :: rest) entry ≠ some 0 := by
  rw [passes.later]
  cases itemFailure label (earlier ++ [next]) rest entry <;> simp

end Trials

theorem judgeEach_eq_failing {label : Label} {entries : List (Value × Nat)}
    {earlier rest : List Clause} {next : Clause}
    (trials : ∀ entry ∈ entries,
      Passes label earlier next rest entry ∨ Fails label earlier next rest entry) :
    judgeEach (excusedBy earlier) (next.assess earlier) label entries =
      ((entries.filter fun entry =>
          itemFailure label earlier (next :: rest) entry == some 0).mapM fun entry =>
        assessAll (label.item entry.2) entry.1 earlier (next :: rest)).map List.flatten := by
  rw [judgeEach, Run.mapM_flatten_filter fun entry =>
    itemFailure label earlier (next :: rest) entry == some 0]
  · rw [Run.mapM_congr]
    intro entry member
    rw [List.mem_filter, beq_iff_eq] at member
    rcases trials entry member.1 with passes | fails
    · exact absurd member.2 passes.not_atOnce
    · dsimp only
      rw [fails.unexcused, fails.ends]
      rfl
  · intro entry member unpicked
    rcases trials entry member with passes | fails
    · cases excused : excusedBy earlier entry.1 with
      | true => exact if_pos excused
      | false =>
          dsimp only
          rw [excused, passes.silent excused]
          rfl
    · simp [fails.atOnce] at unpicked

theorem assessAll_arrayOf_of_atOnce {label : Label} {items : List Value}
    {earlier rest : List Clause} {next : Clause}
    (trials : ∀ entry ∈ items.zipIdx,
      Passes label earlier next rest entry ∨ Fails label earlier next rest entry)
    (reached : ∃ entry ∈ items.zipIdx, itemFailure label earlier (next :: rest) entry = some 0) :
    assessAll label (.array items) (earlier.map arrayOf) ((next :: rest).map arrayOf) =
      ((items.zipIdx.filter fun entry =>
          itemFailure label earlier (next :: rest) entry == some 0).mapM fun entry =>
        assessAll (label.item entry.2) entry.1 earlier (next :: rest)).map List.flatten := by
  obtain ⟨failing, member, failure⟩ := reached
  have speaks : judgeEach (excusedBy earlier) (next.assess earlier) label items.zipIdx ≠
      .ok [] := by
    intro silent
    rcases trials failing member with passes | fails
    · exact passes.not_atOnce failure
    · exact fails.complained (judgeEach_eq_nil_iff.mp silent failing member fails.unexcused)
  rw [← judgeEach_eq_failing trials, List.map_cons, assessAll, assess_arrayOf]
  cases judged : judgeEach (excusedBy earlier) (next.assess earlier) label items.zipIdx with
  | error fault => rfl
  | ok complaints =>
      cases complaints with
      | nil => exact absurd judged speaks
      | cons first others => rfl

theorem assessAll_arrayOf_of_passes {label : Label} {items : List Value}
    {earlier rest : List Clause} {next : Clause}
    (passes : ∀ entry ∈ items.zipIdx, Passes label earlier next rest entry) :
    assessAll label (.array items) (earlier.map arrayOf) ((next :: rest).map arrayOf) =
      assessAll label (.array items) ((earlier ++ [next]).map arrayOf) (rest.map arrayOf) := by
  have silent : judgeEach (excusedBy earlier) (next.assess earlier) label items.zipIdx = .ok [] :=
    judgeEach_eq_nil_iff.mpr fun entry member => (passes entry member).silent
  rw [List.map_cons, assessAll_cons_of_silent rfl (by rw [assess_arrayOf, silent]),
    map_arrayOf_concat]

theorem filter_itemFailure_of_passes {label : Label} {entries : List (Value × Nat)}
    {earlier rest : List Clause} {next : Clause} {index : Nat}
    (passes : ∀ entry ∈ entries, Passes label earlier next rest entry) :
    (entries.filter fun entry =>
        itemFailure label earlier (next :: rest) entry == some (index + 1)) =
      entries.filter fun entry =>
        itemFailure label (earlier ++ [next]) rest entry == some index := by
  apply List.filter_congr
  intro entry member
  rw [(passes entry member).later]
  cases itemFailure label (earlier ++ [next]) rest entry <;> simp

theorem assessAll_arrayOf_of_least {label : Label} {items : List Value}
    {earlier clauses : List Clause} {least : Nat}
    (runs : ∀ entry ∈ items.zipIdx, excusedBy earlier entry.1 = false → ∃ complaints,
      assessAll (label.item entry.2) entry.1 earlier clauses = .ok complaints)
    (reached : ∃ entry ∈ items.zipIdx, itemFailure label earlier clauses entry = some least)
    (lowest : ∀ entry ∈ items.zipIdx, ∀ index,
      itemFailure label earlier clauses entry = some index → least ≤ index) :
    assessAll label (.array items) (earlier.map arrayOf) (clauses.map arrayOf) =
      ((items.zipIdx.filter fun entry =>
          itemFailure label earlier clauses entry == some least).mapM fun entry =>
        assessAll (label.item entry.2) entry.1 earlier clauses).map List.flatten := by
  induction clauses generalizing earlier least with
  | nil =>
      obtain ⟨entry, _, failure⟩ := reached
      simp [itemFailure, failureFrom] at failure
  | cons next rest ih =>
      have trials (entry) (member : entry ∈ items.zipIdx) :
          Passes label earlier next rest entry ∨ Fails label earlier next rest entry :=
        passes_or_fails (runs entry member)
      -- Either some item fails by the next clause, and the array with it, or all items pass and the
      -- rest of the clauses decide.
      cases least with
      | zero => exact assessAll_arrayOf_of_atOnce trials reached
      | succ least =>
          have passes (entry) (member : entry ∈ items.zipIdx) :
              Passes label earlier next rest entry := by
            rcases trials entry member with passes | fails
            · exact passes
            · have bound := lowest entry member 0 fails.atOnce
              omega
          rw [assessAll_arrayOf_of_passes passes, filter_itemFailure_of_passes passes,
            @ih (earlier ++ [next]) least]
          · rw [Run.mapM_congr]
            intro entry member
            rw [List.mem_filter, beq_iff_eq] at member
            exact ((passes entry member.1).goesOn (unexcused_of_itemFailure member.2)).symm
          · intro entry member after
            rw [← (passes entry member).goesOn after]
            apply runs entry member
            rw [excusedBy_concat, Bool.or_eq_false_iff] at after
            exact after.1
          · obtain ⟨entry, member, failure⟩ := reached
            rw [(passes entry member).later, Option.map_eq_some_iff] at failure
            obtain ⟨index, found, same⟩ := failure
            rw [Nat.add_right_cancel same] at found
            exact ⟨entry, member, found⟩
          · intro entry member index found
            have bound := lowest entry member (index + 1) (by
              rw [(passes entry member).later, found]
              rfl)
            omega

theorem judgeAll_ok_label {former : Label} {value : Value} {clauses : List Clause}
    (run : ∃ complaints, judgeAll former value .fresh clauses = .ok complaints) (latter : Label) :
    ∃ complaints, judgeAll latter value .fresh clauses = .ok complaints := by
  have same : Label.blank former = Label.blank latter := rfl
  have alike := judgeAll_seen Label.blank_steady same value clauses
  obtain ⟨complaints, ran⟩ := run
  cases other : judgeAll latter value .fresh clauses with
  | error fault => simp [ran, other, Except.map] at alike
  | ok others => exact ⟨others, rfl⟩

theorem itemFailure_nil (label : Label) (clauses : List Clause) (entry : Value × Nat) :
    itemFailure label [] clauses entry = firstFailure label entry.1 clauses := by
  rw [itemFailure_of_unexcused rfl, ← firstFailure_eq_failureFrom, firstFailure_label]

theorem assessAll_eq_nil_iff_failureFrom {label : Label} {value : Value}
    {earlier clauses : List Clause} {complaints : List Complaint}
    (run : assessAll label value earlier clauses = .ok complaints) :
    assessAll label value earlier clauses = .ok [] ↔
      failureFrom label value earlier clauses = none := by
  induction clauses generalizing earlier with
  | nil => exact iff_of_true rfl rfl
  | cons next rest ih =>
      rw [failureFrom_cons]
      cases marked : next.excuses value with
      | true => exact iff_of_true (assessAll_cons_of_excuses marked) rfl
      | false =>
          cases assessed : next.assess earlier label value with
          | error fault =>
              rw [assessAll, marked, assessed] at run
              contradiction
          | ok found =>
              cases found with
              | nil =>
                  rw [assessAll_cons_of_silent marked assessed] at run ⊢
                  rw [ih run]
                  simp
              | cons first others =>
                  rw [assessAll_cons_of_complaints marked assessed]
                  simp

theorem judgeAll_eq_nil_iff_firstFailure {label : Label} {value : Value} {clauses : List Clause}
    (run : ∃ complaints, judgeAll label value .fresh clauses = .ok complaints) :
    judgeAll label value .fresh clauses = .ok [] ↔ firstFailure label value clauses = none := by
  obtain ⟨complaints, ran⟩ := run
  rw [judgeAll_eq_assessAll] at ran ⊢
  rw [firstFailure_eq_failureFrom, assessAll_eq_nil_iff_failureFrom ran]

theorem mem_of_mem_failingAt {label : Label} {items : List Value} {clauses : List Clause}
    {index : Nat} {entry : Value × Nat} (member : entry ∈ failingAt label items clauses index) :
    entry ∈ items.zipIdx :=
  (List.mem_filter.mp member).1

theorem judgeAll_arrayOf_of_least {label : Label} {items : List Value} {clauses : List Clause}
    {least : Nat}
    (runs : ∀ entry ∈ items.zipIdx, ∃ complaints,
      judgeAll (label.item entry.2) entry.1 .fresh clauses = .ok complaints)
    (reached : ∃ item ∈ items, firstFailure label item clauses = some least)
    (lowest : ∀ item ∈ items, ∀ index,
      firstFailure label item clauses = some index → least ≤ index) :
    judgeAll label (.array items) .fresh (clauses.map arrayOf) =
      ((failingAt label items clauses least).mapM fun entry =>
        judgeAll (label.item entry.2) entry.1 .fresh clauses).map List.flatten := by
  have assessed := @assessAll_arrayOf_of_least label items [] clauses least
  simp only [itemFailure_nil, ← judgeAll_eq_assessAll, List.map_nil] at assessed
  apply assessed
  · exact fun entry member _ => runs entry member
  · obtain ⟨item, member, failure⟩ := reached
    obtain ⟨index, indexed⟩ := Run.exists_mem_zipIdx member
    exact ⟨(item, index), indexed, failure⟩
  · exact fun entry member => lowest entry.1 (List.fst_mem_of_mem_zipIdx member)

/-- Clauses about the items of an array come to what the same clauses come to for each item alone.
Only the items that fail first are complained of, and no item is judged differently for what its
siblings have left in the layers. -/
theorem judgeAll_map_arrayOf (label : Label) (items : List Value) (clauses : List Clause)
    (runs : ∀ item ∈ items, ∃ complaints,
      judgeAll label item .fresh clauses = .ok complaints) :
    (judgeAll label (.array items) .fresh (clauses.map arrayOf) = .ok [] ↔
      ∀ item ∈ items, firstFailure label item clauses = none) ∧
    (∀ least, (∃ item ∈ items, firstFailure label item clauses = some least) →
      (∀ item ∈ items, ∀ index, firstFailure label item clauses = some index → least ≤ index) →
      ∃ complaints, complaints ≠ [] ∧
        judgeAll label (.array items) .fresh (clauses.map arrayOf) = .ok complaints ∧
        ((failingAt label items clauses least).mapM fun entry =>
          judgeAll (label.item entry.2) entry.1 .fresh clauses).map List.flatten =
            .ok complaints) ∧
    (∀ (element : Clause) (declared : Declared) (exempt : Value → Bool) (before after : Layers)
      (siblings : List (Value × Nat)) (found : List Complaint),
      judgeItems exempt (element.judge declared) label before siblings = .ok (found, after) →
      ∀ place value, (element.judge declared after place value).map Prod.fst =
        (element.judge declared before place value).map Prod.fst) := by
  have itemRuns (entry) (member : entry ∈ items.zipIdx) : ∃ complaints,
      judgeAll (label.item entry.2) entry.1 .fresh clauses = .ok complaints :=
    judgeAll_ok_label (runs entry.1 (List.fst_mem_of_mem_zipIdx member)) _
  have passes : judgeAll label (.array items) .fresh (clauses.map arrayOf) = .ok [] ↔
      ∀ item ∈ items, firstFailure label item clauses = none := by
    have indexed : (∀ item ∈ items, firstFailure label item clauses = none) ↔
        ∀ entry ∈ items.zipIdx, firstFailure label entry.1 clauses = none :=
      Run.forall_mem_iff_zipIdx
    rw [judgeAll_eq_assessAll, ← List.map_nil, assessAll_arrayOf_eq_nil_iff, indexed]
    apply forall₂_congr
    intro entry member
    rw [← judgeAll_eq_assessAll, judgeAll_eq_nil_iff_firstFailure (itemRuns entry member),
      firstFailure_label (label.item entry.2) label]
    exact ⟨fun unfailed => unfailed rfl, fun unfailed _ => unfailed⟩
  refine ⟨passes, ?_, ?_⟩
  · intro least reached lowest
    have same := judgeAll_arrayOf_of_least itemRuns reached lowest
    obtain ⟨lists, ran⟩ := Run.mapM_eq_ok fun entry member =>
      itemRuns entry (mem_of_mem_failingAt member)
    rw [ran] at same
    refine ⟨lists.flatten, ?_, same, by rw [ran]; rfl⟩
    intro silent
    have passed : judgeAll label (.array items) .fresh (clauses.map arrayOf) = .ok [] := by
      rw [same]
      exact congrArg Except.ok silent
    obtain ⟨item, member, failure⟩ := reached
    rw [passes.mp passed item member] at failure
    contradiction
  · intro element declared exempt before after siblings found judged place value
    exact judge_fst_of_mayLeave (judgeItems_mayLeave (judge_mayLeave element declared) judged)
      (.inl rfl) place value

theorem judgeAll_map_arrayOf_rows :
    (∀ row ∈ [.undefined, .array [.bool true]], ∃ complaints,
      judgeAll (.named "rows") row .fresh [.optional, .arrayOf (.kind .string)] =
        .ok complaints) ∧
    ∃ complaints, complaints ≠ [] ∧
      judgeAll (.named "rows") (.array [.undefined, .array [.bool true]]) .fresh
        [.arrayOf .optional, .arrayOf (.arrayOf (.kind .string))] = .ok complaints := by
  have runs : ∀ row ∈ [.undefined, .array [.bool true]], ∃ complaints,
      judgeAll (.named "rows") row .fresh [.optional, .arrayOf (.kind .string)] =
        .ok complaints := by
    simp only [List.forall_mem_cons]
    exact ⟨⟨_, rfl⟩, ⟨_, rfl⟩, by simp⟩
  have failures : [.undefined, .array [.bool true]].map (fun row =>
      firstFailure (.named "rows") row [.optional, .arrayOf (.kind .string)]) =
        [none, some 1] := by decide
  simp only [List.map_cons, List.map_nil, List.cons.injEq, and_true] at failures
  refine ⟨runs, ?_⟩
  obtain ⟨complaints, spoken, judged, _⟩ := (judgeAll_map_arrayOf _ _ _ runs).2.1 1
    (by simp [failures]) (by simp [failures])
  exact ⟨complaints, spoken, judged⟩

end Clause

end Rulebook
