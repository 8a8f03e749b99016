import Mathlib.Data.List.Basic
import Mathlib.Data.List.Nodup
import Rulebook.Proofs.DottedKeys

/-!
Repeats. Of messages that are said more than once an outcome holds the first ones, in their order,
and only one list does that; whether the messages are taken in one at a time or gathered in two
parts comes to the same. There is no list of errors without errors in it: data is valid exactly when
there was nothing to say about it.
-/

namespace Rulebook

section

variable {α : Type} [DecidableEq α]

/-- Whether a list holds the items of another one, each once, in the order in which they first occur
there. -/
structure KeepsFirst (items kept : List α) : Prop where
  once : ∀ item ∈ items, kept.count item = 1
  contained : ∀ item ∈ kept, item ∈ items
  ordered : kept.Pairwise fun first second => items.idxOf first < items.idxOf second

/-- Takes in one more item, unless it is there. -/
def takeIn (kept : List α) (item : α) : List α :=
  if item ∈ kept then kept else kept ++ [item]

namespace KeepsFirst

variable {items others kept keptOthers : List α} {item : α}

theorem mem_iff (keeps : KeepsFirst items kept) : item ∈ kept ↔ item ∈ items := by
  constructor
  · exact keeps.contained item
  · intro member
    apply List.count_pos_iff.mp
    rw [keeps.once item member]
    exact Nat.one_pos

theorem nodup (keeps : KeepsFirst items kept) : kept.Nodup := by
  apply keeps.ordered.imp
  intro first second earlier same
  rw [same] at earlier
  exact Nat.lt_irrefl _ earlier

theorem unique (keeps : KeepsFirst items kept) (alsoKeeps : KeepsFirst items others) :
    kept = others := by
  have permuted : kept.Perm others := by
    rw [List.perm_ext_iff_of_nodup keeps.nodup alsoKeeps.nodup]
    intro item
    rw [keeps.mem_iff, alsoKeeps.mem_iff]
  apply permuted.eq_of_pairwise _ keeps.ordered alsoKeeps.ordered
  intro first second _ _ earlier later
  omega

theorem nil : KeepsFirst ([] : List α) [] where
  once := by simp
  contained := by simp
  ordered := .nil

theorem singleton (item : α) : KeepsFirst [item] [item] where
  once := by simp
  contained := by simp
  ordered := List.pairwise_singleton _ item

theorem pairwise_append (front : KeepsFirst items kept) (back : KeepsFirst others keptOthers) :
    (kept ++ keptOthers.filter (· ∉ items)).Pairwise fun first second =>
      (items ++ others).idxOf first < (items ++ others).idxOf second := by
  have index {item : α} (member : item ∈ keptOthers.filter (· ∉ items)) :
      (items ++ others).idxOf item = items.length + others.idxOf item := by
    apply List.idxOf_append_of_notMem
    simpa using (List.mem_filter.mp member).2
  rw [List.pairwise_append]
  refine ⟨?_, ?_, ?_⟩
  · apply front.ordered.imp_of_mem
    intro first second firstKept secondKept earlier
    rw [List.idxOf_append_of_mem (front.contained first firstKept),
      List.idxOf_append_of_mem (front.contained second secondKept)]
    exact earlier
  · apply (back.ordered.filter _).imp_of_mem
    intro first second firstKept secondKept earlier
    rw [index firstKept, index secondKept]
    omega
  · -- What is kept of the second part does not occur in the first, so all of it comes later.
    intro first firstKept second secondKept
    have member := front.contained first firstKept
    have bound := List.idxOf_lt_length_iff.mpr member
    rw [List.idxOf_append_of_mem member, index secondKept]
    omega

theorem append (front : KeepsFirst items kept) (back : KeepsFirst others keptOthers) :
    KeepsFirst (items ++ others) (kept ++ keptOthers.filter (· ∉ items)) where
  once := by
    intro item member
    rw [List.count_append]
    by_cases inFront : item ∈ items
    · have passedOver : item ∉ keptOthers.filter (· ∉ items) := by simp [inFront]
      rw [front.once item inFront, List.count_eq_zero_of_not_mem passedOver]
    · have inBack : item ∈ others := (List.mem_append.mp member).resolve_left inFront
      have absent : item ∉ kept := mt front.mem_iff.mp inFront
      rw [List.count_eq_zero_of_not_mem absent, List.count_filter (by simpa using inFront),
        back.once item inBack]
  contained := by
    intro item member
    rcases List.mem_append.mp member with inFront | inBack
    · exact List.mem_append_left _ (front.contained item inFront)
    · exact List.mem_append_right _ (back.contained item (List.mem_filter.mp inBack).1)
  ordered := front.pairwise_append back

theorem concat (keeps : KeepsFirst items kept) (item : α) :
    KeepsFirst (items ++ [item]) (takeIn kept item) := by
  have both := keeps.append (.singleton item)
  rw [takeIn]
  by_cases present : item ∈ items
  · rw [if_pos (keeps.mem_iff.mpr present)]
    simpa [present] using both
  · rw [if_neg (mt keeps.mem_iff.mp present)]
    simpa [present] using both

/-- What a step keeps, all steps keep: `items` are those that have been taken in so far. -/
theorem foldl_takeIn (keeps : KeepsFirst items kept) (others : List α) :
    KeepsFirst (items ++ others) (others.foldl takeIn kept) := by
  induction others generalizing items kept with
  | nil => simpa using keeps
  | cons item rest ih => simpa using ih (keeps.concat item)

theorem of_nodup (distinct : items.Nodup) : KeepsFirst items items where
  once item member := List.count_eq_one_of_mem distinct member
  contained _ member := member
  ordered := by
    rw [List.pairwise_iff_getElem]
    intro first second firstBound secondBound earlier
    rw [distinct.idxOf_getElem, distinct.idxOf_getElem]
    exact earlier

theorem eq_nil_iff (keeps : KeepsFirst items kept) : kept = [] ↔ items = [] := by
  simp only [List.eq_nil_iff_forall_not_mem, keeps.mem_iff]

end KeepsFirst

variable {items kept : List α}

theorem keepsFirst_firstOccurrences (items : List α) :
    KeepsFirst items (firstOccurrences items) := by
  induction items with
  | nil => exact .nil
  | cons head rest ih => simpa [firstOccurrences] using (KeepsFirst.singleton head).append ih

theorem firstOccurrences_eq_iff : firstOccurrences items = kept ↔ KeepsFirst items kept := by
  constructor
  · rintro rfl
    exact keepsFirst_firstOccurrences items
  · exact (keepsFirst_firstOccurrences items).unique

instance : Decidable (KeepsFirst items kept) :=
  decidable_of_iff (firstOccurrences items = kept) firstOccurrences_eq_iff

example : KeepsFirst ["b", "a", "b", "c", "a"] ["b", "a", "c"] := by decide

end

namespace Outcome

variable {outcome other : Outcome} {messages kept : List String}

theorem errors?_eq_none_iff : outcome.errors? = none ↔ outcome.messages = [] := by
  cases outcome <;> simp [errors?, Outcome.messages]

theorem errors?_ne_some_nil : outcome.errors? ≠ some [] := by
  cases outcome <;> simp [errors?]

theorem errors?_eq_some_iff :
    outcome.errors? = some kept ↔ kept ≠ [] ∧ outcome.messages = kept := by
  cases outcome with
  | valid =>
      constructor
      · intro told
        cases told
      · rintro ⟨nonempty, said⟩
        exact absurd said.symm nonempty
  | invalid first others =>
      constructor
      · intro told
        cases told
        exact ⟨List.cons_ne_nil first others, rfl⟩
      · rintro ⟨_, rfl⟩
        rfl

theorem messages_inj : outcome.messages = other.messages ↔ outcome = other := by
  cases outcome <;> cases other <;> simp [Outcome.messages]

theorem messages_ofMessages_eq_iff :
    (ofMessages messages).messages = kept ↔ KeepsFirst messages kept := by
  rw [messages_ofMessages, firstOccurrences_eq_iff]

theorem keepsFirst_messages (messages : List String) :
    KeepsFirst messages (ofMessages messages).messages :=
  messages_ofMessages_eq_iff.mp rfl

theorem errors?_ofMessages_eq_none_iff : (ofMessages messages).errors? = none ↔ messages = [] := by
  rw [errors?_eq_none_iff, (keepsFirst_messages messages).eq_nil_iff]

theorem errors?_ofMessages_eq_some_iff :
    (ofMessages messages).errors? = some kept ↔ messages ≠ [] ∧ KeepsFirst messages kept := by
  rw [errors?_eq_some_iff, messages_ofMessages_eq_iff, and_congr_left_iff]
  intro keeps
  rw [ne_eq, keeps.eq_nil_iff]

theorem isValid_ofMessages_iff : (ofMessages messages).isValid = true ↔ messages = [] := by
  rw [isValid_ofMessages, List.isEmpty_iff]

theorem messages_ofMessages_eq_foldl (messages : List String) :
    (ofMessages messages).messages = messages.foldl takeIn [] :=
  messages_ofMessages_eq_iff.mpr (KeepsFirst.nil.foldl_takeIn messages)

theorem messages_ofMessages_append (front back : List String) :
    (ofMessages (front ++ back)).messages =
      (ofMessages front).messages ++ (ofMessages back).messages.filter (· ∉ front) :=
  messages_ofMessages_eq_iff.mpr ((keepsFirst_messages front).append (keepsFirst_messages back))

theorem ofMessages_messages_iff :
    ofMessages outcome.messages = outcome ↔ outcome.messages.Nodup := by
  rw [← messages_inj, messages_ofMessages_eq_iff]
  constructor
  · intro keeps
    exact keeps.nodup
  · intro distinct
    exact .of_nodup distinct

end Outcome

namespace RuleTree

/-- What there is to say about data by a rule tree, repeats included. -/
def messages (rules : RuleTree) (data : Value) (settings : Settings) :
    Except Fault (List String) := do
  let schema ← Schema.ofRules rules
  schema.messages data settings

variable {rules : RuleTree} {data : Value} {settings : Settings} {outcome : Outcome}

theorem tryValidate_eq_ok_iff : rules.tryValidate data settings = .ok outcome ↔
    ∃ messages, rules.messages data settings = .ok messages ∧
      Outcome.ofMessages messages = outcome := by
  rw [tryValidate_eq_map_messages, Run.map_eq_ok_iff]
  rfl

theorem isValid_of_tryValidate (finished : rules.tryValidate data settings = .ok outcome) :
    outcome.isValid = true ↔ rules.messages data settings = .ok [] := by
  obtain ⟨messages, said, rfl⟩ := tryValidate_eq_ok_iff.mp finished
  rw [Outcome.isValid_ofMessages_iff, said, Except.ok.injEq]

theorem isValid_validate_iff :
    (rules.validate data settings).isValid = true ↔ rules.messages data settings = .ok [] := by
  rw [validate]
  cases run : rules.tryValidate data settings with
  | ok outcome => exact isValid_of_tryValidate run
  | error fault =>
      constructor
      · intro valid
        cases valid
      · intro said
        rw [tryValidate_eq_ok_iff.mpr ⟨[], said, rfl⟩] at run
        cases run

end RuleTree

/-- An outcome is what its messages come to without their repeats: it has no errors if there are no
messages, and else each of them once, in the order in which they first occur. Taking the messages in
one at a time or in two parts comes to the same, and an outcome is made again from its own messages.
So where rules and data come to no fault, data is valid just when there is nothing to say, and there
is never an empty list of errors. -/
theorem Outcome.tells_each_message_once :
    (∀ messages : List String,
      ((ofMessages messages).errors? = none ↔ messages = []) ∧
      ((ofMessages messages).isValid = true ↔ messages = []) ∧
      (∀ kept, (ofMessages messages).errors? = some kept ↔
        messages ≠ [] ∧ KeepsFirst messages kept) ∧
      (∀ kept, (ofMessages messages).messages = kept ↔ KeepsFirst messages kept) ∧
      (ofMessages messages).messages = messages.foldl takeIn [] ∧
      ofMessages (ofMessages messages).messages = ofMessages messages) ∧
    (∀ outcome : Outcome, ofMessages outcome.messages = outcome ↔ outcome.messages.Nodup) ∧
    (∀ front back : List String, (ofMessages (front ++ back)).messages =
      (ofMessages front).messages ++ (ofMessages back).messages.filter (· ∉ front)) ∧
    ∀ (rules : RuleTree) (data : Value) (settings : Settings),
      (∀ outcome, rules.tryValidate data settings = .ok outcome ↔
        ∃ messages, rules.messages data settings = .ok messages ∧ ofMessages messages = outcome) ∧
      (∀ outcome, rules.tryValidate data settings = .ok outcome →
        (outcome.isValid = true ↔ rules.messages data settings = .ok []) ∧
        outcome.errors? ≠ some []) ∧
      ((rules.validate data settings).isValid = true ↔
        rules.messages data settings = .ok []) := by
  refine ⟨?_, ?_, messages_ofMessages_append, ?_⟩
  · intro messages
    refine ⟨errors?_ofMessages_eq_none_iff, isValid_ofMessages_iff,
      fun _ => errors?_ofMessages_eq_some_iff, fun _ => messages_ofMessages_eq_iff,
      messages_ofMessages_eq_foldl messages, ?_⟩
    rw [ofMessages_messages_iff]
    exact (keepsFirst_messages messages).nodup
  · intro outcome
    exact ofMessages_messages_iff
  · intro rules data settings
    refine ⟨fun _ => RuleTree.tryValidate_eq_ok_iff, ?_, RuleTree.isValid_validate_iff⟩
    intro outcome finished
    exact ⟨RuleTree.isValid_of_tryValidate finished, errors?_ne_some_nil⟩

/-- Two fields of one title are complained about in one message. -/
theorem Outcome.tells_each_message_once_titles :
    RuleTree.tryValidate [("first", .list ["field:name", "string"]), ("age", .text "number"),
          ("last", .list ["field:name", "string"])]
        (.object [("first", .bool true), ("age", .null), ("last", .bool false)]) .plain =
      .ok (.invalid "name must be a valid string" ["age is required"]) ∧
    ((Outcome.invalid "name must be a valid string" ["age is required"]).isValid = true ↔
      RuleTree.messages [("first", .list ["field:name", "string"]), ("age", .text "number"),
          ("last", .list ["field:name", "string"])]
        (.object [("first", .bool true), ("age", .null), ("last", .bool false)]) .plain = .ok []) ∧
    (Outcome.invalid "name must be a valid string" ["age is required"]).errors? ≠ some [] := by
  have finished : RuleTree.tryValidate
      [("first", .list ["field:name", "string"]), ("age", .text "number"),
        ("last", .list ["field:name", "string"])]
      (.object [("first", .bool true), ("age", .null), ("last", .bool false)]) .plain =
        .ok (.invalid "name must be a valid string" ["age is required"]) := by
    apply Run.toOption_eq_some_iff.mp
    decide +kernel
  exact ⟨finished, (tells_each_message_once.2.2.2 _ _ _).2.1 _ finished⟩

end Rulebook
