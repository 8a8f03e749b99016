import Mathlib.Data.List.Forall2

/-!
Runs that a fault may stop. What follows a run sees its result only, and a run over a list gathers
what each item yields, in order, up to the first fault.
-/

namespace Rulebook.Run

variable {ε α β γ : Type}

theorem map_map (run : Except ε α) (first : α → β) (second : β → γ) :
    (run.map first).map second = run.map (second ∘ first) := by
  cases run <;> rfl

theorem map_id (run : Except ε α) : run.map (fun found => found) = run := by
  cases run <;> rfl

theorem map_eq_ok_iff {run : Except ε α} {change : α → β} {result : β} :
    run.map change = .ok result ↔ ∃ found, run = .ok found ∧ change found = result := by
  cases run <;> simp [Except.map]

theorem bind_eq_ok_iff {run : Except ε α} {next : α → Except ε β} {result : β} :
    (run >>= next) = .ok result ↔ ∃ found, run = .ok found ∧ next found = .ok result := by
  cases run <;> simp [bind, Except.bind]

theorem map_bind (run : Except ε α) (next : α → Except ε β) (change : β → γ) :
    (run >>= next).map change = run >>= fun found => (next found).map change := by
  cases run <;> rfl

theorem bind_map (run : Except ε α) (change : α → β) (next : β → Except ε γ) :
    (run.map change >>= next) = run >>= fun found => next (change found) := by
  cases run <;> rfl

theorem bind_congr {run : Except ε α} {first second : α → Except ε β}
    (same : ∀ found, run = .ok found → first found = second found) :
    run >>= first = run >>= second := by
  cases run with
  | error fault => rfl
  | ok found => exact same found rfl

theorem mapM_congr {first second : α → Except ε β} {items : List α}
    (same : ∀ item ∈ items, first item = second item) : items.mapM first = items.mapM second := by
  induction items with
  | nil => rfl
  | cons head rest ih =>
      rw [List.mapM_cons, List.mapM_cons, same head List.mem_cons_self,
        ih fun item member => same item (List.mem_cons_of_mem head member)]

theorem both_eq_nil_iff {first second : Except ε (List β)} :
    (do
      let found ← first
      let others ← second
      return found ++ others) = .ok [] ↔ first = .ok [] ∧ second = .ok [] := by
  cases first with
  | error fault => simp [bind, Except.bind]
  | ok found => cases second <;> simp [bind, Except.bind, pure, Except.pure]

theorem map_both (change : β → γ) (first second : Except ε (List β)) :
    (do
      let found ← first
      let others ← second
      return found ++ others).map (List.map change) = do
        let found ← first.map (List.map change)
        let others ← second.map (List.map change)
        return found ++ others := by
  cases first with
  | error fault => rfl
  | ok found =>
      cases second with
      | error fault => rfl
      | ok others => exact congrArg Except.ok (List.map_append ..)

theorem both_nil (run : Except ε (List β)) :
    (do
      let found ← Except.ok []
      let others ← run
      return found ++ others) = run := by
  cases run <;> rfl

theorem both_assoc (first second third : Except ε (List β)) :
    (do
      let found ← (do
        let found ← first
        let others ← second
        return found ++ others)
      let others ← third
      return found ++ others) = do
        let found ← first
        let others ← (do
          let found ← second
          let others ← third
          return found ++ others)
        return found ++ others := by
  cases first with
  | error fault => rfl
  | ok found =>
      cases second with
      | error fault => rfl
      | ok others =>
          cases third with
          | error fault => rfl
          | ok last => exact congrArg Except.ok (List.append_assoc ..)

theorem map_either (change : β → γ) (first second : Except ε (List β)) :
    (do
      let found ← first
      if found.isEmpty then second else return found).map (List.map change) = do
        let found ← first.map (List.map change)
        if found.isEmpty then second.map (List.map change) else return found := by
  cases first with
  | error fault => rfl
  | ok found => cases found <;> rfl

theorem mapM_flatten_cons (run : α → Except ε (List β)) (head : α) (rest : List α) :
    ((head :: rest).mapM run).map List.flatten = do
      let found ← run head
      let others ← (rest.mapM run).map List.flatten
      return found ++ others := by
  rw [List.mapM_cons, map_bind]
  cases run head with
  | error fault => rfl
  | ok found => cases rest.mapM run <;> rfl

theorem mapM_flatten_eq_nil_iff {run : α → Except ε (List β)} {items : List α} :
    (items.mapM run).map List.flatten = .ok [] ↔ ∀ item ∈ items, run item = .ok [] := by
  induction items with
  | nil => simp [Except.map, pure, Except.pure]
  | cons head rest ih => rw [mapM_flatten_cons, both_eq_nil_iff, List.forall_mem_cons, ih]

theorem mapM_flatten_filter {run : α → Except ε (List β)} {items : List α} (picked : α → Bool)
    (silent : ∀ item ∈ items, picked item = false → run item = .ok []) :
    (items.mapM run).map List.flatten = ((items.filter picked).mapM run).map List.flatten := by
  induction items with
  | nil => rfl
  | cons head rest ih =>
      rw [List.forall_mem_cons] at silent
      rw [mapM_flatten_cons, ih silent.2, List.filter_cons]
      split
      · rw [mapM_flatten_cons]
      · rename_i unpicked
        rw [silent.1 (by simpa using unpicked)]
        cases ((rest.filter picked).mapM run).map List.flatten <;> rfl

theorem exists_of_mem_both {first second : Except ε (List β)} {result : List β} {member : β}
    (run : (do
      let found ← first
      let others ← second
      return found ++ others) = .ok result) (listed : member ∈ result) :
    (∃ found, first = .ok found ∧ member ∈ found) ∨
      ∃ others, second = .ok others ∧ member ∈ others := by
  obtain ⟨found, firstRun, run⟩ := bind_eq_ok_iff.mp run
  obtain ⟨others, secondRun, run⟩ := bind_eq_ok_iff.mp run
  cases run
  rcases List.mem_append.mp listed with early | late
  · exact .inl ⟨found, firstRun, early⟩
  · exact .inr ⟨others, secondRun, late⟩

theorem exists_of_mem_mapM_flatten {run : α → Except ε (List β)} {items : List α}
    {result : List β} {member : β} (ran : (items.mapM run).map List.flatten = .ok result)
    (listed : member ∈ result) :
    ∃ item ∈ items, ∃ found, run item = .ok found ∧ member ∈ found := by
  induction items generalizing result with
  | nil =>
      cases ran
      cases listed
  | cons head rest ih =>
      rw [mapM_flatten_cons] at ran
      rcases exists_of_mem_both ran listed with ⟨found, headRan, inHead⟩ | ⟨others, restRan, inRest⟩
      · exact ⟨head, List.mem_cons_self, found, headRan, inHead⟩
      · obtain ⟨item, inItems, itemRun⟩ := ih restRan inRest
        exact ⟨item, List.mem_cons_of_mem head inItems, itemRun⟩

theorem exists_of_mem_mapM {run : α → Except ε β} {items : List α} {results : List β} {result : β}
    (ran : items.mapM run = .ok results) (listed : result ∈ results) :
    ∃ item ∈ items, run item = .ok result := by
  induction items generalizing results with
  | nil =>
      cases ran
      cases listed
  | cons head rest ih =>
      rw [List.mapM_cons] at ran
      obtain ⟨found, headRan, ran⟩ := bind_eq_ok_iff.mp ran
      obtain ⟨others, restRan, ran⟩ := bind_eq_ok_iff.mp ran
      cases ran
      rcases List.mem_cons.mp listed with first | later
      · subst first
        exact ⟨head, List.mem_cons_self, headRan⟩
      · obtain ⟨item, inItems, itemRan⟩ := ih restRan later
        exact ⟨item, List.mem_cons_of_mem head inItems, itemRan⟩

theorem map_eq_error_iff {run : Except ε α} {change : α → β} {fault : ε} :
    run.map change = .error fault ↔ run = .error fault := by
  cases run <;> simp [Except.map]

theorem bind_eq_error_iff {run : Except ε α} {next : α → Except ε β} {fault : ε} :
    (run >>= next) = .error fault ↔
      run = .error fault ∨ ∃ found, run = .ok found ∧ next found = .error fault := by
  cases run <;> simp [bind, Except.bind]

theorem exists_of_mapM_eq_error {run : α → Except ε β} {items : List α} {fault : ε}
    (stopped : items.mapM run = .error fault) : ∃ item ∈ items, run item = .error fault := by
  induction items with
  | nil => cases stopped
  | cons head rest ih =>
      rw [List.mapM_cons] at stopped
      rcases bind_eq_error_iff.mp stopped with atHead | ⟨found, _, later⟩
      · exact ⟨head, List.mem_cons_self, atHead⟩
      · rcases bind_eq_error_iff.mp later with inRest | ⟨others, _, finished⟩
        · obtain ⟨item, member, stopped⟩ := ih inRest
          exact ⟨item, List.mem_cons_of_mem head member, stopped⟩
        · cases finished

theorem mapM_eq_ok {run : α → Except ε β} {items : List α}
    (runs : ∀ item ∈ items, ∃ found, run item = .ok found) :
    ∃ found, items.mapM run = .ok found := by
  induction items with
  | nil => exact ⟨[], rfl⟩
  | cons head rest ih =>
      rw [List.forall_mem_cons] at runs
      obtain ⟨found, ran⟩ := runs.1
      obtain ⟨others, later⟩ := ih runs.2
      exact ⟨found :: others, by rw [List.mapM_cons, ran, later]; rfl⟩

theorem mapM_eq_ok_iff {run : α → Except ε β} {items : List α} {results : List β} :
    items.mapM run = .ok results ↔
      List.Forall₂ (fun item result => run item = .ok result) items results := by
  induction items generalizing results with
  | nil => simp [pure, Except.pure, eq_comm]
  | cons head rest ih =>
      rw [List.mapM_cons, bind_eq_ok_iff]
      simp only [bind_eq_ok_iff, ih, List.forall₂_cons_left_iff]
      constructor
      · rintro ⟨found, headRan, others, restRan, same⟩
        cases same
        exact ⟨found, others, headRan, restRan, rfl⟩
      · rintro ⟨found, others, headRan, restRan, rfl⟩
        exact ⟨found, headRan, others, restRan, rfl⟩

theorem toOption_eq_some_iff {run : Except ε α} {found : α} :
    run.toOption = some found ↔ run = .ok found := by
  cases run <;> simp [Except.toOption]

/-- The fault that a run is stopped by. -/
def fault? : Except ε α → Option ε
  | .error fault => some fault
  | .ok _ => none

theorem fault?_eq_some_iff {run : Except ε α} {fault : ε} :
    fault? run = some fault ↔ run = .error fault := by
  cases run <;> simp [fault?]

theorem fault?_eq_none_iff {run : Except ε α} :
    fault? run = none ↔ ∃ found, run = .ok found := by
  cases run <;> simp [fault?]

theorem fault?_map (run : Except ε α) (change : α → β) : fault? (run.map change) = fault? run := by
  cases run <;> rfl

theorem fault?_both (first : Except ε α) (second : Except ε β) (combine : α → β → γ) :
    fault? (do
      let found ← first
      let other ← second
      return combine found other) = (fault? first).or (fault? second) := by
  cases first with
  | error fault => rfl
  | ok found => cases second <;> rfl

theorem fault?_mapM (run : α → Except ε β) (items : List α) :
    fault? (items.mapM run) = items.findSome? fun item => fault? (run item) := by
  induction items with
  | nil => rfl
  | cons head rest ih =>
      rw [List.mapM_cons, fault?_both, ih, List.findSome?_cons]
      cases fault? (run head) <;> rfl

theorem mapM_yields_iff {run : α → Except ε β} {items : List α} :
    (∃ results, items.mapM run = .ok results) ↔ ∀ item ∈ items, ∃ found, run item = .ok found := by
  simp only [← fault?_eq_none_iff, fault?_mapM, List.findSome?_eq_none_iff]

theorem exists_mem_zipIdx {items : List α} {item : α} (member : item ∈ items) :
    ∃ index, (item, index) ∈ items.zipIdx := by
  obtain ⟨index, bound, rfl⟩ := List.mem_iff_getElem.mp member
  exact ⟨index, List.mem_zipIdx_iff_getElem?.mpr (by simp [bound])⟩

theorem forall_mem_iff_zipIdx {items : List α} {holds : α → Prop} :
    (∀ item ∈ items, holds item) ↔ ∀ entry ∈ items.zipIdx, holds entry.1 := by
  constructor
  · intro all entry member
    exact all entry.1 (List.fst_mem_of_mem_zipIdx member)
  · intro all item member
    obtain ⟨index, indexed⟩ := exists_mem_zipIdx member
    exact all (item, index) indexed

theorem forall₂_zipIdx {relation : α → β → Prop} {items : List α} {others : List β}
    (related : List.Forall₂ relation items others) (start : Nat) :
    List.Forall₂ (fun entry other => relation entry.1 other.1 ∧ entry.2 = other.2)
      (items.zipIdx start) (others.zipIdx start) := by
  induction related generalizing start with
  | nil => exact .nil
  | cons head _ ih =>
      rw [List.zipIdx_cons, List.zipIdx_cons]
      exact .cons ⟨head, rfl⟩ (ih (start + 1))

/-- A run of which every result and every fault is known is known as a whole. -/
theorem known {run : Except ε α} {yields : α → Prop} {stops : ε → Prop}
    (result : ∀ found, yields found → run = .ok found)
    (fault : ∀ found, stops found → run = .error found)
    (total : (∃ found, yields found) ∨ ∃ found, stops found) :
    (∀ found, run = .ok found ↔ yields found) ∧ ∀ found, run = .error found ↔ stops found := by
  rcases total with ⟨found, yield⟩ | ⟨found, stop⟩
  · have ran := result found yield
    constructor
    · intro other
      refine ⟨?_, result other⟩
      intro same
      rw [ran] at same
      cases same
      exact yield
    · intro other
      refine ⟨?_, fault other⟩
      intro stopped
      rw [ran] at stopped
      cases stopped
  · have stopped := fault found stop
    constructor
    · intro other
      refine ⟨?_, result other⟩
      intro ran
      rw [stopped] at ran
      cases ran
    · intro other
      refine ⟨?_, fault other⟩
      intro same
      rw [stopped] at same
      cases same
      exact stop

/-- Two runs that stop by the same fault, or have related results. -/
inductive Related (relation : α → β → Prop) : Except ε α → Except ε β → Prop
  | faulted (fault : ε) : Related relation (.error fault) (.error fault)
  | finished {first : α} {second : β} : relation first second →
      Related relation (.ok first) (.ok second)

namespace Related

theorem refl {relation : α → α → Prop} (reflexive : ∀ found, relation found found)
    (run : Except ε α) : Related relation run run := by
  cases run with
  | error fault => exact .faulted fault
  | ok found => exact .finished (reflexive found)

theorem bind {δ : Type} {relation : α → β → Prop} {result : γ → δ → Prop}
    {first : Except ε α} {second : Except ε β} {firstNext : α → Except ε γ}
    {secondNext : β → Except ε δ} (related : Related relation first second)
    (next : ∀ {former latter}, relation former latter →
      Related result (firstNext former) (secondNext latter)) :
    Related result (first >>= firstNext) (second >>= secondNext) := by
  cases related with
  | faulted fault => exact .faulted fault
  | finished same => exact next same

theorem bind_eq {relation : α → β → Prop} {first : Except ε α} {second : Except ε β}
    {firstNext : α → Except ε γ} {secondNext : β → Except ε γ}
    (related : Related relation first second)
    (next : ∀ {former latter}, relation former latter → firstNext former = secondNext latter) :
    first >>= firstNext = second >>= secondNext := by
  cases related with
  | faulted fault => rfl
  | finished same => exact next same

theorem map {δ : Type} {relation : α → β → Prop} {result : γ → δ → Prop}
    {first : Except ε α} {second : Except ε β} {firstChange : α → γ} {secondChange : β → δ}
    (related : Related relation first second)
    (change : ∀ {former latter}, relation former latter →
      result (firstChange former) (secondChange latter)) :
    Related result (first.map firstChange) (second.map secondChange) := by
  cases related with
  | faulted fault => exact .faulted fault
  | finished same => exact .finished (change same)

theorem mono {stronger weaker : α → β → Prop} {first : Except ε α} {second : Except ε β}
    (implies : ∀ {former latter}, stronger former latter → weaker former latter)
    (related : Related stronger first second) : Related weaker first second := by
  cases related with
  | faulted fault => exact .faulted fault
  | finished same => exact .finished (implies same)

theorem both {relation : List α → List β → Prop}
    (append : ∀ {found others : List α} {former latter : List β}, relation found former →
      relation others latter → relation (found ++ others) (former ++ latter))
    {first third : Except ε (List α)} {second fourth : Except ε (List β)}
    (front : Related relation first second) (back : Related relation third fourth) :
    Related relation
      (do
        let found ← first
        let others ← third
        return found ++ others)
      (do
        let found ← second
        let others ← fourth
        return found ++ others) := by
  apply front.bind
  intro found former same
  apply back.bind
  intro others latter rest
  exact .finished (append same rest)

theorem mapM_flatten {δ : Type} {relation : List α → List β → Prop} (nil : relation [] [])
    (append : ∀ {found others : List α} {former latter : List β}, relation found former →
      relation others latter → relation (found ++ others) (former ++ latter))
    {run : γ → Except ε (List α)} {counterpart : δ → Except ε (List β)} {items : List γ}
    {others : List δ}
    (related : List.Forall₂ (fun item other => Related relation (run item) (counterpart other))
      items others) :
    Related relation ((items.mapM run).map List.flatten)
      ((others.mapM counterpart).map List.flatten) := by
  induction related with
  | nil => exact .finished nil
  | cons head _ ih =>
      rw [mapM_flatten_cons, mapM_flatten_cons]
      exact both append head ih

theorem error_iff {relation : α → β → Prop} {first : Except ε α} {second : Except ε β}
    (related : Related relation first second) (fault : ε) :
    first = .error fault ↔ second = .error fault := by
  cases related <;> simp

end Related

/-- Two runs that both stop, by whatever faults, or both have results, and those are related. -/
inductive Akin (relation : α → β → Prop) : Except ε α → Except ε β → Prop
  | faulted (first second : ε) : Akin relation (.error first) (.error second)
  | finished {first : α} {second : β} : relation first second → Akin relation (.ok first) (.ok second)

namespace Akin

theorem refl {relation : α → α → Prop} (reflexive : ∀ found, relation found found)
    (run : Except ε α) : Akin relation run run := by
  cases run with
  | error fault => exact .faulted fault fault
  | ok found => exact .finished (reflexive found)

theorem trans {relation : α → α → Prop}
    (transitive : ∀ {first second third}, relation first second → relation second third →
      relation first third)
    {first second third : Except ε α} (former : Akin relation first second)
    (latter : Akin relation second third) : Akin relation first third := by
  cases former with
  | faulted fault _ =>
      cases latter with
      | faulted _ other => exact .faulted fault other
  | finished same =>
      cases latter with
      | finished rest => exact .finished (transitive same rest)

theorem bind {δ : Type} {relation : α → β → Prop} {result : γ → δ → Prop}
    {first : Except ε α} {second : Except ε β} {firstNext : α → Except ε γ}
    {secondNext : β → Except ε δ} (akin : Akin relation first second)
    (next : ∀ {former latter}, relation former latter →
      Akin result (firstNext former) (secondNext latter)) :
    Akin result (first >>= firstNext) (second >>= secondNext) := by
  cases akin with
  | faulted fault other => exact .faulted fault other
  | finished same => exact next same

theorem map {δ : Type} {relation : α → β → Prop} {result : γ → δ → Prop}
    {first : Except ε α} {second : Except ε β} {firstChange : α → γ} {secondChange : β → δ}
    (akin : Akin relation first second)
    (change : ∀ {former latter}, relation former latter →
      result (firstChange former) (secondChange latter)) :
    Akin result (first.map firstChange) (second.map secondChange) := by
  cases akin with
  | faulted fault other => exact .faulted fault other
  | finished same => exact .finished (change same)

theorem both {relation : List α → List β → Prop}
    (append : ∀ {found others : List α} {former latter : List β}, relation found former →
      relation others latter → relation (found ++ others) (former ++ latter))
    {first third : Except ε (List α)} {second fourth : Except ε (List β)}
    (front : Akin relation first second) (back : Akin relation third fourth) :
    Akin relation
      (do
        let found ← first
        let others ← third
        return found ++ others)
      (do
        let found ← second
        let others ← fourth
        return found ++ others) := by
  apply front.bind
  intro found former same
  apply back.bind
  intro others latter rest
  exact .finished (append same rest)

/-- Which of two runs comes first neither makes a fault nor keeps one away. -/
theorem both_comm {relation : List α → List α → Prop}
    (swapped : ∀ found others, relation (found ++ others) (others ++ found))
    (first second : Except ε (List α)) :
    Akin relation
      (do
        let found ← first
        let others ← second
        return found ++ others)
      (do
        let found ← second
        let others ← first
        return found ++ others) := by
  cases first with
  | error fault =>
      cases second with
      | error other => exact .faulted fault other
      | ok others => exact .faulted fault fault
  | ok found =>
      cases second with
      | error other => exact .faulted other other
      | ok others => exact .finished (swapped found others)

theorem mapM_flatten {relation : List α → List β → Prop} (nil : relation [] [])
    (append : ∀ {found others : List α} {former latter : List β}, relation found former →
      relation others latter → relation (found ++ others) (former ++ latter))
    {run : γ → Except ε (List α)} {counterpart : γ → Except ε (List β)} {items : List γ}
    (akin : ∀ item ∈ items, Akin relation (run item) (counterpart item)) :
    Akin relation ((items.mapM run).map List.flatten)
      ((items.mapM counterpart).map List.flatten) := by
  induction items with
  | nil => exact .finished nil
  | cons head rest ih =>
      rw [List.forall_mem_cons] at akin
      rw [mapM_flatten_cons, mapM_flatten_cons]
      exact both append akin.1 (ih akin.2)

theorem error_iff {relation : α → β → Prop} {first : Except ε α} {second : Except ε β}
    (akin : Akin relation first second) :
    (∃ fault, first = .error fault) ↔ ∃ fault, second = .error fault := by
  cases akin <;> simp

end Akin

end Rulebook.Run
