import Mathlib.Data.List.Perm.Subperm
import Rulebook.Proofs.DoubleValues
import Rulebook.Proofs.Unread

/-!
Equal data. Equality of data does not look at the order in which an object holds its keys, nor at
the sign of zero, and neither does anything that is asked of the data. Equal data comes to the same
messages, or the same fault; only the keys that a strict validation reports come in the order of
the data.
-/

namespace Rulebook

mutual

/-- Whether no object holds a key twice, at any depth. -/
def Value.Distinct : Value → Prop
  | .array items => Value.AllDistinct items
  | .object entries => (entries.map Prod.fst).Nodup ∧ Value.EntriesDistinct entries
  | _ => True

def Value.AllDistinct : List Value → Prop
  | [] => True
  | item :: rest => item.Distinct ∧ Value.AllDistinct rest

def Value.EntriesDistinct : List (String × Value) → Prop
  | [] => True
  | (_, value) :: rest => value.Distinct ∧ Value.EntriesDistinct rest

end

namespace Value

/-- What there is to know of two equal values: they are of one kind, and what lies below them is
equal, items in order and entries by key. -/
inductive Alike : Value → Value → Prop
  | itself (value : Value) : Alike value value
  | number {n m : Double} : n.same m = true → Alike (.number n) (.number m)
  | array {items others : List Value} : List.Forall₂ Alike items others →
      Alike (.array items) (.array others)
  | object {fields others : List (String × Value)} :
      (fields.map Prod.fst).Perm (others.map Prod.fst) →
      (∀ key, Alike ((Value.object fields).get key) ((Value.object others).get key)) →
      Alike (.object fields) (.object others)

theorem mem_keys_iff_lookup {fields : List (String × Value)} {key : String} :
    key ∈ fields.map Prod.fst ↔ ∃ value, fields.lookup key = some value := by
  rw [← Option.isSome_iff_exists, List.lookup_isSome_iff, List.mem_map]
  simp only [beq_iff_eq, eq_comm (a := key)]

theorem Alike.of_lookup {fields others : List (String × Value)}
    (distinct : (fields.map Prod.fst).Nodup) (length : fields.length = others.length)
    (found : ∀ key value, fields.lookup key = some value →
      ∃ other, others.lookup key = some other ∧ Alike value other) :
    Alike (.object fields) (.object others) := by
  have subset : fields.map Prod.fst ⊆ others.map Prod.fst := by
    intro key member
    obtain ⟨value, looked⟩ := mem_keys_iff_lookup.mp member
    obtain ⟨other, otherLooked, _⟩ := found key value looked
    exact mem_keys_iff_lookup.mpr ⟨other, otherLooked⟩
  have keys : (fields.map Prod.fst).Perm (others.map Prod.fst) := by
    apply (List.subperm_of_subset distinct subset).perm_of_length_le
    rw [List.length_map, List.length_map, length]
  refine .object keys ?_
  intro key
  rw [get, get]
  cases looked : fields.lookup key with
  | some value =>
      obtain ⟨other, otherLooked, alike⟩ := found key value looked
      rw [otherLooked]
      exact alike
  | none =>
      have missing : others.lookup key = none := by
        by_contra present
        obtain ⟨other, otherLooked⟩ := Option.ne_none_iff_exists'.mp present
        have member := keys.mem_iff.mpr (mem_keys_iff_lookup.mpr ⟨other, otherLooked⟩)
        obtain ⟨value, contrary⟩ := mem_keys_iff_lookup.mp member
        rw [looked] at contrary
        cases contrary
      rw [missing]
      exact .itself .undefined

end Value

mutual

theorem Value.alike_of_same (first : Value) {second : Value} (distinct : first.Distinct)
    (same : first.same second = true) : first.Alike second :=
  match first with
  | .array items => by
      cases second <;> simp only [Value.same, Bool.false_eq_true] at same
      rw [Value.Distinct] at distinct
      exact .array (Value.allAlike_of_sameItems items distinct same)
  | .object fields => by
      cases second <;> simp only [Value.same, Bool.false_eq_true] at same
      rw [Value.Distinct] at distinct
      rw [Bool.and_eq_true, beq_iff_eq] at same
      exact .of_lookup distinct.1 same.1
        (Value.lookup_of_sameEntries fields distinct.2 same.2)
  | .number n => by
      cases second <;> simp only [Value.same, Bool.false_eq_true] at same
      exact .number same
  | .undefined | .null => by
      cases second <;> simp only [Value.same, Bool.false_eq_true] at same
      exact .itself _
  | .bool _ | .bigint _ | .string _ | .symbol _ => by
      cases second <;> simp only [Value.same, beq_iff_eq, Bool.false_eq_true] at same
      subst same
      exact .itself _

theorem Value.allAlike_of_sameItems (items : List Value) {others : List Value}
    (distinct : Value.AllDistinct items) (same : Value.sameItems items others = true) :
    List.Forall₂ Value.Alike items others :=
  match items with
  | [] => by
      cases others with
      | nil => exact .nil
      | cons other rest => simp [Value.sameItems] at same
  | item :: rest => by
      cases others with
      | nil => simp [Value.sameItems] at same
      | cons other others =>
          rw [Value.sameItems, Bool.and_eq_true] at same
          rw [Value.AllDistinct] at distinct
          exact .cons (Value.alike_of_same item distinct.1 same.1)
            (Value.allAlike_of_sameItems rest distinct.2 same.2)

theorem Value.lookup_of_sameEntries (fields : List (String × Value))
    {others : List (String × Value)} (distinct : Value.EntriesDistinct fields)
    (same : Value.sameEntries fields others = true) :
    ∀ key value, fields.lookup key = some value →
      ∃ other, others.lookup key = some other ∧ Value.Alike value other :=
  match fields with
  | [] => by simp
  | (name, content) :: rest => by
      rw [Value.sameEntries, Bool.and_eq_true] at same
      rw [Value.EntriesDistinct] at distinct
      intro key value looked
      rw [List.lookup_cons] at looked
      split at looked
      · rename_i sameKey
        rw [beq_iff_eq] at sameKey
        subst sameKey
        cases looked
        cases otherLooked : others.lookup key with
        | none => simp [otherLooked] at same
        | some other =>
            simp only [otherLooked] at same
            exact ⟨other, rfl, Value.alike_of_same content distinct.1 same.1⟩
      · exact Value.lookup_of_sameEntries rest distinct.2 same.2 key value looked

end

namespace Value.Alike

variable {first second : Value}

theorem kind? (alike : Alike first second) : first.kind? = second.kind? := by
  cases alike <;> rfl

theorem isPresent (alike : Alike first second) : first.isPresent = second.isPresent := by
  rw [Value.isPresent, Value.isPresent, alike.kind?]

theorem excuses (alike : Alike first second) (clause : Clause) :
    clause.excuses first = clause.excuses second := by
  cases alike with
  | itself => rfl
  | _ => cases clause <;> rfl

theorem items (alike : Alike first second) :
    (∃ items others, first = .array items ∧ second = .array others ∧
      List.Forall₂ Alike items others) ∨ (first.items? = none ∧ second.items? = none) := by
  cases alike with
  | itself =>
      cases first with
      | array items =>
          exact .inl ⟨items, items, rfl, rfl, List.forall₂_same.mpr fun item _ => .itself item⟩
      | _ => exact .inr ⟨rfl, rfl⟩
  | array related => exact .inl ⟨_, _, rfl, rfl, related⟩
  | number _ => exact .inr ⟨rfl, rfl⟩
  | object _ _ => exact .inr ⟨rfl, rfl⟩

theorem entries (alike : Alike first second) :
    (∃ fields others, first = .object fields ∧ second = .object others) ∨
      (first.entries? = none ∧ second.entries? = none) := by
  cases alike with
  | itself =>
      cases first with
      | object fields => exact .inl ⟨fields, fields, rfl, rfl⟩
      | _ => exact .inr ⟨rfl, rfl⟩
  | object _ _ => exact .inl ⟨_, _, rfl, rfl⟩
  | number _ => exact .inr ⟨rfl, rfl⟩
  | array _ => exact .inr ⟨rfl, rfl⟩

theorem getD_getElem? {items others : List Value} (related : List.Forall₂ Alike items others)
    (index : Nat) :
    Alike (items[index]?.getD .undefined) (others[index]?.getD .undefined) := by
  induction related generalizing index with
  | nil => exact .itself .undefined
  | cons head _ ih =>
      cases index with
      | zero => exact head
      | succ index => exact ih index

theorem get (alike : Alike first second) (segment : String) :
    Alike (first.get segment) (second.get segment) := by
  cases alike with
  | itself => exact .itself _
  | number _ => exact .itself .undefined
  | object _ below => exact below segment
  | array related =>
      rw [Value.get, Value.get]
      cases Text.count? segment.toList with
      | none => exact .itself .undefined
      | some index => exact getD_getElem? related index

theorem resolve (alike : Alike first second) (path : String) :
    Alike (first.resolve path) (second.resolve path) :=
  resolve_of_get get alike path

end Value.Alike

variable {first second : Value}

theorem Refinement.accepts_congr {n m : Double} (same : n.same m = true)
    (refinement : Refinement) : refinement.accepts n = refinement.accepts m := by
  cases refinement <;>
    simp only [accepts, Double.isIntegral_congr same, Double.isPositive_congr same,
      Double.isNegative_congr same]

theorem Value.places?_number {n m : Double} (same : n.same m = true) :
    (Value.number n).places? = (Value.number m).places? := by
  have places (d : Double) (ordered : d ≠ .nan) :
      (Value.number d).places? = .ok (some (placesOf d.canonicalText)) := by
    cases d with
    | nan => contradiction
    | ranked negative rank => rfl
  obtain ⟨units, left, right⟩ := Double.same_iff.mp same
  rw [places n (by rintro rfl; cases left), places m (by rintro rfl; cases right),
    Double.canonicalText_congr same]

theorem Constraint.inspect_number {n m : Double} (same : n.same m = true) (declared : Declared)
    (constraint : Constraint) :
    constraint.inspect declared (.number n) = constraint.inspect declared (.number m) := by
  have equality : n.same = m.same := funext fun other => (Double.compares_congr same _ other).1
  have above (limit : Double) : limit.atMost n = limit.atMost m :=
    (Double.compares_congr same _ limit).2
  have below (limit : Double) : n.atMost limit = m.atMost limit :=
    (Double.compares_congr same _ limit).1
  have figures : n.canonicalText = m.canonicalText := Double.canonicalText_congr same
  cases constraint with
  | equal expected => simp only [inspect, Operand.ofValue, Operand.equals, equality]
  | size count => simp only [inspect, Operand.ofValue, Operand.inspectSize, Operand.size?, figures]
  | bound side limit =>
      cases limit with
      | number limit text =>
          cases side <;>
            simp only [inspect, Operand.ofValue, Operand.inspectLimit, Side.admits, above, below]
      | instant limit text => rfl
  | pattern form => rfl
  | places count => simp only [inspect, Value.inspectPlaces, Value.places?_number same]
  | placesBound side count => simp only [inspect, Value.inspectPlaces, Value.places?_number same]
  | oneOf tokens => simp only [inspect, Operand.ofValue, Operand.isListed, equality]

theorem Constraint.inspect_alike (alike : first.Alike second) (declared : Declared)
    (constraint : Constraint) :
    constraint.inspect declared first = constraint.inspect declared second := by
  cases alike with
  | itself => rfl
  | number same => exact inspect_number same declared constraint
  | @array items others related =>
      have operand : Operand.ofValue declared (.array items) =
          Operand.ofValue declared (.array others) := by
        rw [Operand.ofValue, Operand.ofValue, related.length_eq]
      cases constraint with
      | bound side limit =>
          cases limit with
          | number limit text => rw [inspect, inspect, operand]
          | instant limit text => rfl
      | equal expected => rw [inspect, inspect, operand]
      | size count => rw [inspect, inspect, operand]
      | oneOf tokens => rw [inspect, inspect, operand]
      | _ => rfl
  | object _ _ =>
      cases constraint with
      | bound side limit => cases limit <;> rfl
      | _ => rfl

theorem Clause.inspect_alike (alike : first.Alike second) (declared : Declared)
    (clause : Clause) : clause.inspect declared first = clause.inspect declared second := by
  cases clause with
  | constraint expected => exact expected.inspect_alike alike declared
  | kind expected =>
      cases alike with
      | itself => rfl
      | _ => cases expected <;> rfl
  | refinement expected =>
      cases alike with
      | number same =>
          simp only [inspect, Refinement.inspect, Value.number?,
            Refinement.accepts_congr same expected]
          rfl
      | _ => rfl
  | _ => cases alike <;> rfl

namespace Clause

theorem judgeFlat_alike (alike : first.Alike second) (declared : Declared) (label : Label)
    (clause : Clause) :
    clause.judgeFlat declared label first = clause.judgeFlat declared label second := by
  rw [judgeFlat, judgeFlat, alike.isPresent, inspect_alike alike]

theorem excusedBy_alike (alike : first.Alike second) (clauses : List Clause) :
    excusedBy clauses first = excusedBy clauses second := by
  simp only [excusedBy, alike.excuses]

theorem judgeEach_alike {exempt : Value → Bool}
    {judge : Label → Value → Except Fault (List Complaint)}
    (exempts : ∀ {first second : Value}, first.Alike second → exempt first = exempt second)
    (judges : ∀ {first second : Value} (label : Label), first.Alike second →
      judge label first = judge label second)
    {items others : List Value} (related : List.Forall₂ Value.Alike items others)
    (label : Label) :
    judgeEach exempt judge label items.zipIdx = judgeEach exempt judge label others.zipIdx := by
  rw [judgeEach, judgeEach]
  congr 1
  apply Run.mapM_zipIdx_congr _ related
  intro item other index alike
  dsimp only
  rw [exempts alike, judges _ alike]

theorem assess_alike (alike : first.Alike second) (clause : Clause) (earlier : List Clause)
    (label : Label) : clause.assess earlier label first = clause.assess earlier label second := by
  induction clause generalizing earlier first second label with
  | arrayOf element ih =>
      rw [assess, assess, alike.isPresent]
      rcases alike.items with ⟨items, others, rfl, rfl, related⟩ | ⟨none, otherNone⟩
      · split
        · exact judgeEach_alike (fun alike => excusedBy_alike alike _)
            (fun label alike => ih alike (elements earlier) label) related label
        · rfl
      · rw [none, otherNone]
  | _ => exact judgeFlat_alike alike (declaredBy earlier) label _

theorem assessAll_alike (alike : first.Alike second) (label : Label)
    (earlier clauses : List Clause) :
    assessAll label first earlier clauses = assessAll label second earlier clauses := by
  induction clauses generalizing earlier with
  | nil => rfl
  | cons next rest ih =>
      rw [assessAll, assessAll, alike.excuses, assess_alike alike]
      simp only [ih]

end Clause

theorem FieldRules.review_alike (alike : first.Alike second) (field : FieldRules)
    (place : Place) : field.review place first = field.review place second := by
  rw [review, review, complaints, complaints, Clause.judgeAll_eq_assessAll,
    Clause.judgeAll_eq_assessAll, Clause.assessAll_alike alike]

/-- Whether two lists hold the same; in the same order, unless they come of strict reviews. -/
def Reordered {α : Type} (strict : Bool) (found others : List α) : Prop :=
  found.Perm others ∧ (strict = false → found = others)

namespace Reordered

variable {α β : Type} {strict : Bool}

theorem refl (found : List α) : Reordered strict found found :=
  ⟨.refl found, fun _ => rfl⟩

theorem append {found others former latter : List α} (front : Reordered strict found former)
    (back : Reordered strict others latter) :
    Reordered strict (found ++ others) (former ++ latter) := by
  refine ⟨front.1.append back.1, ?_⟩
  intro lenient
  rw [front.2 lenient, back.2 lenient]

theorem map {found others : List α} (reordered : Reordered strict found others)
    (change : α → β) : Reordered strict (found.map change) (others.map change) := by
  refine ⟨reordered.1.map change, ?_⟩
  intro lenient
  rw [reordered.2 lenient]

end Reordered

variable {strict : Bool}

theorem Schema.reviewKeys_alike (alike : first.Alike second) (schema : Schema) (place : Place) :
    Reordered strict (schema.reviewKeys strict first place)
      (schema.reviewKeys strict second place) := by
  rw [reviewKeys, reviewKeys]
  split
  · rename_i strictly
    refine ⟨List.Perm.map _ ?_, fun lenient => absurd strictly (by simp [lenient])⟩
    rw [undeclared, undeclared]
    apply List.Perm.filter
    cases alike with
    | itself => exact .refl _
    | object keys _ => exact keys
    | _ => exact .refl _
  · exact .refl []

theorem Schema.closeLevel_alike (alike : first.Alike second) (schema : Schema) (place : Place)
    {entries others : Except Fault (List Message)}
    (related : Run.Related (Reordered strict) entries others) :
    Run.Related (Reordered strict) (schema.closeLevel strict first place entries)
      (schema.closeLevel strict second place others) := by
  rw [closeLevel, closeLevel]
  apply related.map
  intro found others reordered
  exact reordered.append (schema.reviewKeys_alike alike place)

mutual

theorem Node.review_alike (node : Node) {key : String} {first second : Value}
    (alike : first.Alike second) (place : Place) :
    Run.Related (Reordered strict) (Node.review strict node key first place)
      (Node.review strict node key second place) :=
  match node with
  | .field rules => by
      rw [Node.review, Node.review, rules.review_alike (alike.resolve key)]
      exact .refl Reordered.refl _
  | .presence which groups => by
      rw [Node.review, Node.review, List.filterMap_congr fun group _ =>
        PresenceGroup.review?_congr (fun path _ => (alike.resolve path).isPresent) which place]
      exact .refl Reordered.refl _
  | .nested entries => by
      have below := alike.resolve key
      rcases below.entries with ⟨fields, others, found, otherFound⟩ | ⟨none, otherNone⟩
      · simp only [Node.review, found, otherFound] at below ⊢
        exact Schema.closeLevel_alike below entries _ (Node.reviewEntries_alike entries below _)
      · rw [Node.review_nested_of_not_object none, Node.review_nested_of_not_object otherNone]
        exact .refl Reordered.refl _
  | .each entries => by
      have below := alike.resolve key
      rcases below.items with ⟨items, others, found, otherFound, related⟩ | ⟨none, otherNone⟩
      · simp only [Node.review, found, otherFound]
        apply Run.Related.mapM_flatten (.refl []) Reordered.append
        apply (Run.forall₂_zipIdx related 0).imp
        rintro ⟨item, index⟩ ⟨other, otherIndex⟩ ⟨itemAlike, rfl⟩
        exact Schema.closeLevel_alike itemAlike entries _
          (Node.reviewEntries_alike entries itemAlike _)
      · cases present : (first.resolve key).isPresent with
        | true =>
            rw [Node.review_each_of_not_array present none,
              Node.review_each_of_not_array (below.isPresent ▸ present) otherNone]
            exact .refl Reordered.refl _
        | false =>
            rw [Node.review_each_of_absent present,
              Node.review_each_of_absent (below.isPresent ▸ present)]
            exact .refl Reordered.refl _

theorem Node.reviewEntries_alike (entries : List (String × Node)) {first second : Value}
    (alike : first.Alike second) (place : Place) :
    Run.Related (Reordered strict) (Node.reviewEntries strict entries first place)
      (Node.reviewEntries strict entries second place) :=
  match entries with
  | [] => by
      rw [Node.reviewEntries, Node.reviewEntries]
      exact .finished (.refl [])
  | (key, node) :: rest => by
      rw [Node.reviewEntries, Node.reviewEntries]
      exact .both Reordered.append (Node.review_alike node alike place)
        (Node.reviewEntries_alike rest alike place)

end

theorem Schema.review_alike (alike : first.Alike second) (schema : Schema) :
    Run.Related (Reordered strict) (schema.review strict first) (schema.review strict second) := by
  have level : Run.Related (Reordered strict) (schema.reviewLevel strict first [])
      (schema.reviewLevel strict second []) :=
    schema.closeLevel_alike alike [] (Node.reviewEntries_alike schema alike [])
  cases alike with
  | itself => exact .refl Reordered.refl _
  | number _ => exact .refl Reordered.refl _
  | array _ => exact level
  | object _ _ => exact level

theorem Schema.messages_alike (alike : first.Alike second) (schema : Schema)
    (settings : Settings) :
    Run.Related (Reordered settings.strict) (schema.messages first settings)
      (schema.messages second settings) :=
  (schema.review_alike alike).map fun reordered => reordered.map _

/-- A validation respects equality of data. Equal data stops it by the same fault, or comes to the
same messages: leniently in the same order, strictly in one that may follow the data. -/
theorem Schema.messages_of_same {first second : Value} (distinct : first.Distinct)
    (same : first.same second = true) (schema : Schema) (settings : Settings) :
    Run.Related
      (fun found others => found.Perm others ∧ (settings.strict = false → found = others))
      (schema.messages first settings) (schema.messages second settings) ∧
    Run.Related (fun outcome other => outcome.isValid = other.isValid)
      (schema.tryValidate first settings) (schema.tryValidate second settings) := by
  have related := schema.messages_alike (first.alike_of_same distinct same) settings
  refine ⟨related, related.map ?_⟩
  intro found others reordered
  rw [Outcome.isValid_ofMessages, Outcome.isValid_ofMessages, reordered.1.isEmpty_eq]

theorem Schema.messages_of_same_zeros :
    (Value.object
      [("a", .number (.zero true)), ("b", .object [("x", .null), ("y", .null)])]).Distinct ∧
    (Value.object [("a", .number (.zero true)), ("b", .object [("x", .null), ("y", .null)])]).same
        (.object [("b", .object [("y", .null), ("x", .null)]), ("a", .number (.zero false))]) =
      true ∧
    Run.Related (fun found others => found.Perm others ∧ (true = false → found = others))
      (messages [("a", .field ⟨[.clause (.constraint (.size 2))], none, none⟩), ("b", .nested [])]
        (.object [("a", .number (.zero true)), ("b", .object [("x", .null), ("y", .null)])])
        ⟨.none, true⟩)
      (messages [("a", .field ⟨[.clause (.constraint (.size 2))], none, none⟩), ("b", .nested [])]
        (.object [("b", .object [("y", .null), ("x", .null)]), ("a", .number (.zero false))])
        ⟨.none, true⟩) := by
  have distinct : (Value.object
      [("a", .number (.zero true)), ("b", .object [("x", .null), ("y", .null)])]).Distinct := by
    simp [Value.Distinct, Value.EntriesDistinct]
  have same : (Value.object
      [("a", .number (.zero true)), ("b", .object [("x", .null), ("y", .null)])]).same
        (.object [("b", .object [("y", .null), ("x", .null)]), ("a", .number (.zero false))]) =
      true := by
    decide
  exact ⟨distinct, same, (messages_of_same distinct same _ ⟨.none, true⟩).1⟩

end Rulebook
