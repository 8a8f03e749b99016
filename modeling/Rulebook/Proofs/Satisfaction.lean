import Rulebook.Proofs.Assessment
import Rulebook.Validation

/-!
Satisfaction: what data has to be for a schema to have nothing to say about it, told without
messages and without anything that changes on the way. Data is valid exactly when it is a container
and satisfies the schema.
-/

namespace Rulebook

theorem Finding.ifNot_eq_none_iff {holds : Bool} {finding : Finding} :
    Finding.ifNot holds finding = none ↔ holds = true := by
  cases holds <;> simp [ifNot]

theorem Value.not_isPresent_of_excuses {value : Value} {marker : Clause}
    (excused : marker.excuses value = true) : value.isPresent = false := by
  cases marker <;> cases value <;>
    simp [Clause.excuses, isUndefined, isNull, isPresent, kind?] at excused ⊢

theorem Kind.isPresent_of_admits {declared : Declared} {value : Value} {kind : Kind}
    (admitted : kind.admits declared value = true) : value.isPresent = true := by
  cases value <;> cases kind <;> simp [admits, Value.isPresent, Value.kind?] at admitted ⊢

/-- Whether an operand lies on the right side of a numeric limit: a number by its amount, and a text
or an array by its length. -/
def Operand.Within (side : Side) (limit : Double) : Operand → Prop
  | .number amount _ => side.admits Double.atMost limit amount = true
  | operand => ∀ length, operand.length? = some length →
      side.admits Double.atMost limit (Double.ofNat length) = true

/-- Whether the decimal places of a value are as wanted. Values without a reading are let pass, but
not text that is no number, or NaN. -/
def Value.PlacesMeet (wanted : Nat → Prop) (value : Value) : Prop :=
  match value.places? with
  | .error _ => False
  | .ok none => True
  | .ok (some places) => wanted places

def Constraint.Admits (declared : Declared) (value : Value) : Constraint → Prop
  | .equal expected => (Operand.ofValue declared value).equals expected = true
  | .size count => ∀ size, (Operand.ofValue declared value).size? = some size → size = count
  | .bound side (.number limit _) => (Operand.ofValue declared value).Within side limit
  | .bound .least (.instant limit _) => ∀ millis, value.instant? = some millis → limit ≤ millis
  | .bound .most (.instant limit _) => ∀ millis, value.instant? = some millis → millis ≤ limit
  | .pattern form => ∃ text, value = .string text ∧ form.occurs text = .ok true
  | .places count => value.PlacesMeet fun places => places = count
  | .placesBound .least count => value.PlacesMeet fun places => count ≤ places
  | .placesBound .most count => value.PlacesMeet fun places => places ≤ count
  | .oneOf tokens => (Operand.ofValue declared value).isListed tokens = true

theorem Operand.inspectLimit_eq_none_iff {side : Side} {limit : Double} {text : String}
    {operand : Operand} :
    operand.inspectLimit side limit text = none ↔ operand.Within side limit := by
  cases operand <;>
    simp [inspectLimit, Within, length?, Finding.ifNot_eq_none_iff]

theorem Value.inspectPlaces_eq_none_iff {admits : Nat → Bool} {finding : Finding} {value : Value} :
    value.inspectPlaces admits finding = none ↔
      value.PlacesMeet fun places => admits places = true := by
  rw [inspectPlaces, PlacesMeet]
  split <;> simp [*, Finding.ifNot_eq_none_iff]

theorem Constraint.inspect_eq_none_iff {declared : Declared} {value : Value}
    {constraint : Constraint} :
    constraint.inspect declared value = .ok none ↔ constraint.Admits declared value := by
  cases constraint with
  | bound side limit =>
      cases limit with
      | number limit text => simp [inspect, Admits, Operand.inspectLimit_eq_none_iff]
      | instant limit text =>
          cases side <;>
            simp [inspect, Admits, Value.inspectDate, Finding.ifNot_eq_none_iff, Side.admits]
  | pattern form =>
      cases value <;> simp [inspect, Admits, Value.inspectPattern, Run.map_eq_ok_iff,
        Finding.ifNot_eq_none_iff]
  | size count =>
      simp [inspect, Admits, Operand.inspectSize, Finding.ifNot_eq_none_iff]
  | placesBound side count =>
      cases side <;> simp [inspect, Admits, Value.inspectPlaces_eq_none_iff, Side.admits]
  | _ => simp [inspect, Admits, Value.inspectPlaces_eq_none_iff, Finding.ifNot_eq_none_iff]

def Refinement.Admits (declared : Declared) (value : Value) (refinement : Refinement) : Prop :=
  Kind.number.admits declared value = true ∧
    ∃ found, value.number? = some found ∧ refinement.accepts found.1 = true

theorem Refinement.inspect_eq_none_iff {declared : Declared} {value : Value}
    {refinement : Refinement} :
    refinement.inspect declared value = none ↔ refinement.Admits declared value := by
  rw [inspect, Admits]
  split
  · rename_i admitted
    cases value.number? with
    | none => simp
    | some found => simp [admitted, Finding.ifNot_eq_none_iff]
  · rename_i rejected
    simp [rejected]

namespace Clause

/-- Whether a value is as a clause wants it, given the clauses before it. Items that an earlier
marker excuses are passed over. -/
def Holds : Clause → List Clause → Value → Prop
  | .optional, _, _ | .nullable, _, _ | .unknown _, _, _ => True
  | .kind expected, earlier, value => expected.admits (declaredBy earlier) value = true
  | .format expected, _, value =>
    ∃ text, value = .string text ∧ expected.accepts text.toList = true
  | .refinement expected, earlier, value => expected.Admits (declaredBy earlier) value
  | .constraint expected, earlier, value =>
    value.isPresent = true ∧ expected.Admits (declaredBy earlier) value
  | .arrayOf element, earlier, value =>
    ∃ items, value = .array items ∧ ∀ item ∈ items,
      excusedBy (elements earlier) item = true ∨ element.Holds (elements earlier) item

theorem Holds.isPresent {clause : Clause} {earlier : List Clause} {value : Value}
    (holds : clause.Holds earlier value) (checked : clause.isCheck = true) :
    value.isPresent = true := by
  cases clause with
  | kind expected => exact Kind.isPresent_of_admits holds
  | format expected =>
      obtain ⟨text, rfl, _⟩ := holds
      rfl
  | refinement expected => exact Kind.isPresent_of_admits holds.1
  | constraint expected => exact holds.1
  | arrayOf element =>
      obtain ⟨items, rfl, _⟩ := holds
      rfl
  | optional | nullable | unknown token => simp [isCheck] at checked

theorem judgeFlat_eq_nil_iff {clause : Clause} {declared : Declared} {label : Label}
    {value : Value} :
    clause.judgeFlat declared label value = .ok [] ↔
      (clause.isCheck = true → value.isPresent = true) ∧
        clause.inspect declared value = .ok none := by
  rw [judgeFlat]
  cases clause.isCheck <;> cases value.isPresent <;> simp [Run.map_eq_ok_iff]

theorem assess_eq_nil_iff {clause : Clause} {earlier : List Clause} {label : Label}
    {value : Value} : clause.assess earlier label value = .ok [] ↔ clause.Holds earlier value := by
  induction clause generalizing earlier label value with
  | optional | nullable | unknown token =>
      exact iff_of_true (assess_of_not_isCheck rfl earlier label value) trivial
  | kind expected =>
      simp only [assess, judgeFlat_eq_nil_iff, inspect, Kind.inspect, Except.ok.injEq,
        Finding.ifNot_eq_none_iff]
      exact ⟨fun judged => judged.2,
        fun holds => ⟨fun _ => Kind.isPresent_of_admits holds, holds⟩⟩
  | format expected =>
      cases value <;> simp [assess, judgeFlat_eq_nil_iff, inspect, Format.inspect, Holds,
        Finding.ifNot_eq_none_iff, Value.isPresent, Value.kind?]
  | refinement expected =>
      simp only [assess, judgeFlat_eq_nil_iff, inspect, Except.ok.injEq,
        Refinement.inspect_eq_none_iff]
      exact ⟨fun judged => judged.2,
        fun holds => ⟨fun _ => Kind.isPresent_of_admits holds.1, holds⟩⟩
  | constraint expected =>
      simp [assess, judgeFlat_eq_nil_iff, inspect, Constraint.inspect_eq_none_iff, isCheck, Holds]
  | arrayOf element ih =>
      cases value with
      | array items =>
          change judgeEach _ _ _ _ = _ ↔ _
          rw [judgeEach_eq_nil_iff]
          simp only [ih, Holds, Value.array.injEq, exists_eq_left', ← Bool.not_eq_true,
            ← or_iff_not_imp_left]
          symm
          exact Run.forall_mem_iff_zipIdx
      | _ => simp [assess, Holds, Value.isPresent, Value.kind?, Value.items?]

theorem holds_of_not_isCheck {clause : Clause} (unchecked : clause.isCheck = false)
    (earlier : List Clause) (value : Value) : clause.Holds earlier value := by
  cases clause <;> simp [isCheck, Holds] at unchecked ⊢

/-- Whether a marker that excuses the value stands before every check. -/
def Skip (clauses : List Clause) (value : Value) : Prop :=
  ∃ front marker back, clauses = front ++ marker :: back ∧ marker.excuses value = true ∧
    ∀ clause ∈ front, clause.isCheck = false

def AllHold (earlier clauses : List Clause) (value : Value) : Prop :=
  ∀ front clause back, clauses = front ++ clause :: back → clause.Holds (earlier ++ front) value

theorem skip_cons_iff {next : Clause} {rest : List Clause} {value : Value} :
    Skip (next :: rest) value ↔
      next.excuses value = true ∨ (next.isCheck = false ∧ Skip rest value) := by
  constructor
  · rintro ⟨front, marker, back, split, excused, unchecked⟩
    rcases List.cons_eq_append_iff.mp split with ⟨rfl, head⟩ | ⟨inner, rfl, tail⟩
    · left
      rw [← (List.cons.inj head).1]
      exact excused
    · right
      rw [List.forall_mem_cons] at unchecked
      exact ⟨unchecked.1, inner, marker, back, tail, excused, unchecked.2⟩
  · rintro (excused | ⟨unchecked, front, marker, back, rfl, excused, others⟩)
    · exact ⟨[], next, rest, rfl, excused, by simp⟩
    · exact ⟨next :: front, marker, back, rfl, excused, List.forall_mem_cons.mpr ⟨unchecked, others⟩⟩

theorem Skip.not_isPresent {clauses : List Clause} {value : Value} (skipped : Skip clauses value) :
    value.isPresent = false := by
  obtain ⟨_, _, _, _, excused, _⟩ := skipped
  exact Value.not_isPresent_of_excuses excused

theorem allHold_nil (earlier : List Clause) (value : Value) : AllHold earlier [] value := by
  intro front clause back split
  simp at split

theorem allHold_cons_iff {earlier rest : List Clause} {next : Clause} {value : Value} :
    AllHold earlier (next :: rest) value ↔
      next.Holds earlier value ∧ AllHold (earlier ++ [next]) rest value := by
  constructor
  · intro all
    refine ⟨by simpa using all [] next rest rfl, ?_⟩
    intro front clause back split
    rw [List.append_assoc, List.singleton_append]
    exact all (next :: front) clause back (by rw [split, List.cons_append])
  · rintro ⟨holds, all⟩ front clause back split
    rcases List.cons_eq_append_iff.mp split with ⟨rfl, head⟩ | ⟨inner, rfl, tail⟩
    · rw [(List.cons.inj head).1, List.append_nil]
      exact holds
    · have later := all inner clause back tail
      rwa [List.append_assoc, List.singleton_append] at later

theorem assessAll_eq_nil_iff {label : Label} {value : Value} {earlier clauses : List Clause} :
    assessAll label value earlier clauses = .ok [] ↔
      Skip clauses value ∨ AllHold earlier clauses value := by
  induction clauses generalizing earlier with
  | nil =>
      exact iff_of_true rfl (.inr (allHold_nil earlier value))
  | cons next rest ih =>
      rw [skip_cons_iff, allHold_cons_iff]
      by_cases excused : next.excuses value
      · simp [assessAll, excused]
      · simp only [excused, Bool.false_eq_true, false_or]
        rw [assessAll_cons_eq_nil_iff (by simpa using excused), assess_eq_nil_iff, ih]
        constructor
        · rintro ⟨holds, skipped | all⟩
          · left
            refine ⟨?_, skipped⟩
            -- A check that the value meets needs the value, which a later marker says is missing.
            by_contra checked
            have present := holds.isPresent (by simpa using checked)
            rw [skipped.not_isPresent] at present
            contradiction
          · exact .inr ⟨holds, all⟩
        · rintro (⟨unchecked, skipped⟩ | ⟨holds, all⟩)
          · exact ⟨holds_of_not_isCheck unchecked earlier value, .inl skipped⟩
          · exact ⟨holds, .inr all⟩

end Clause

def FieldRules.Satisfied (field : FieldRules) (value : Value) : Prop :=
  Clause.Skip field.clauses value ∨ Clause.AllHold [] field.clauses value

theorem FieldRules.review_eq_nil_iff {field : FieldRules} {place : Place} {value : Value} :
    field.review place value = .ok [] ↔ field.Satisfied value := by
  rw [review, complaints, Clause.judgeAll_eq_assessAll, Satisfied,
    ← Clause.assessAll_eq_nil_iff, Run.map_eq_ok_iff]
  constructor
  · rintro ⟨found, judged, silent⟩
    rw [judged]
    cases found with
    | nil => rfl
    | cons first others => cases named : field.message <;> simp [named] at silent
  · intro judged
    refine ⟨[], judged, ?_⟩
    cases field.message <;> rfl

def PresenceGroup.Satisfied (which : Presence) (data : Value) (group : PresenceGroup) : Prop :=
  match which with
  | .atLeast => group.threshold ≤ group.present data
  | .atMost => group.present data ≤ group.threshold

theorem PresenceGroup.review?_eq_none_iff {which : Presence} {data : Value} {place : Place}
    {group : PresenceGroup} :
    group.review? which data place = none ↔ group.Satisfied which data := by
  rw [review?]
  cases which <;> simp [Presence.isViolated, Satisfied]

/-- Whether rules of the level name every key of an object, but for keys with a dot. -/
def Schema.CoversKeys (schema : Schema) (data : Value) : Prop :=
  ∀ fields, data = .object fields → ∀ entry ∈ fields,
    '.' ∈ entry.1.toList ∨ ∃ node, (entry.1, node) ∈ schema ∧ node.isDeclaration = true

theorem Schema.declares_iff {schema : Schema} {key : String} :
    schema.declares key = true ↔ ∃ node, (key, node) ∈ schema ∧ node.isDeclaration = true := by
  simp [declares]

theorem Schema.undeclared_eq_nil_iff {schema : Schema} {data : Value} :
    schema.undeclared data = [] ↔ schema.CoversKeys data := by
  cases data with
  | object fields =>
      simp only [undeclared, Value.entries?, Option.getD_some, List.filter_eq_nil_iff,
        List.forall_mem_map, Bool.not_eq_true, Bool.not_eq_false', Bool.or_eq_true, declares_iff,
        List.contains_iff_mem, CoversKeys, Value.object.injEq, forall_eq']
  | _ => simp [undeclared, Value.entries?, CoversKeys]

theorem Schema.closeLevel_lenient (schema : Schema) (data : Value) (place : Place)
    (entries : Except Fault (List Message)) :
    schema.closeLevel false data place entries = entries := by
  cases entries <;> simp [closeLevel, reviewKeys, Except.map]

theorem Schema.closeLevel_eq_nil_iff {schema : Schema} {strict : Bool} {data : Value}
    {place : Place} {entries : Except Fault (List Message)} :
    schema.closeLevel strict data place entries = .ok [] ↔
      entries = .ok [] ∧ (strict = true → schema.CoversKeys data) := by
  rw [closeLevel, reviewKeys, Run.map_eq_ok_iff, ← undeclared_eq_nil_iff]
  cases strict <;> simp

mutual

/-- Whether a level of the data is as the node of a key wants it. -/
def Node.Satisfied (strict : Bool) (node : Node) (key : String) (data : Value) : Prop :=
  match node with
  | .field rules => rules.Satisfied (data.resolve key)
  | .presence which groups => ∀ group ∈ groups, group.Satisfied which data
  | .nested entries =>
    ∃ fields, data.resolve key = .object fields ∧
      Node.AllSatisfied strict entries (.object fields) ∧
      (strict = true → Schema.CoversKeys entries (.object fields))
  | .each entries =>
    ∃ items, data.resolve key = .array items ∧ ∀ item ∈ items,
      Node.AllSatisfied strict entries item ∧ (strict = true → Schema.CoversKeys entries item)

def Node.AllSatisfied (strict : Bool) (entries : List (String × Node)) (data : Value) : Prop :=
  match entries with
  | [] => True
  | (key, node) :: rest =>
    Node.Satisfied strict node key data ∧ Node.AllSatisfied strict rest data

end

def Schema.Satisfied (schema : Schema) (strict : Bool) (data : Value) : Prop :=
  Node.AllSatisfied strict schema data ∧ (strict = true → schema.CoversKeys data)

mutual

theorem Node.review_eq_nil_iff (strict : Bool) (node : Node) (key : String) (data : Value)
    (place : Place) :
    Node.review strict node key data place = .ok [] ↔ Node.Satisfied strict node key data :=
  match node with
  | .field rules => by
      rw [Node.review, Node.Satisfied]
      exact FieldRules.review_eq_nil_iff
  | .presence which groups => by
      simp only [Node.review, Node.Satisfied, Except.ok.injEq, List.filterMap_eq_nil_iff,
        PresenceGroup.review?_eq_none_iff]
  | .nested entries => by
      rw [Node.review, Node.Satisfied]
      split
      · rename_i fields found
        rw [Schema.closeLevel_eq_nil_iff, Node.reviewEntries_eq_nil_iff strict entries]
        simp only [found, Value.object.injEq, exists_eq_left']
      · rename_i other
        refine iff_of_false (by simp) ?_
        rintro ⟨fields, found, _⟩
        exact other fields found
  | .each entries => by
      rw [Node.review, Node.Satisfied]
      split
      · rename_i items found
        rw [Run.mapM_flatten_eq_nil_iff]
        simp only [Schema.closeLevel_eq_nil_iff, Node.reviewEntries_eq_nil_iff strict entries, found,
          Value.array.injEq, exists_eq_left']
        symm
        exact Run.forall_mem_iff_zipIdx
      · rename_i found
        simp [found]
      · rename_i found
        simp [found]
      · rename_i other _ _
        refine iff_of_false (by simp) ?_
        rintro ⟨items, found, _⟩
        exact other items found

theorem Node.reviewEntries_eq_nil_iff (strict : Bool) (entries : List (String × Node))
    (data : Value) (place : Place) :
    Node.reviewEntries strict entries data place = .ok [] ↔
      Node.AllSatisfied strict entries data :=
  match entries with
  | [] => by simp [Node.reviewEntries, Node.AllSatisfied]
  | (key, node) :: rest => by
      rw [Node.reviewEntries, Node.AllSatisfied, ← Node.review_eq_nil_iff strict node key data place,
        ← Node.reviewEntries_eq_nil_iff strict rest data place]
      exact Run.both_eq_nil_iff

end

theorem Schema.reviewLevel_eq_nil_iff {schema : Schema} {strict : Bool} {data : Value}
    {place : Place} :
    schema.reviewLevel strict data place = .ok [] ↔ schema.Satisfied strict data := by
  rw [reviewLevel, closeLevel_eq_nil_iff, Node.reviewEntries_eq_nil_iff, Satisfied]

def Value.IsContainer : Value → Prop
  | .object _ | .array _ => True
  | _ => False

theorem Schema.review_of_isContainer {data : Value} (container : data.IsContainer)
    (schema : Schema) (strict : Bool) :
    schema.review strict data = schema.reviewLevel strict data [] := by
  cases data with
  | object fields => rfl
  | array items => rfl
  | _ => exact container.elim

theorem Schema.review_of_not_isContainer {data : Value} (scalar : ¬ data.IsContainer) :
    ∃ message, ∀ (schema : Schema) (strict : Bool), schema.review strict data = .ok [message] := by
  cases data with
  | object fields => exact absurd trivial scalar
  | array items => exact absurd trivial scalar
  | _ => exact ⟨_, fun _ _ => rfl⟩

theorem Schema.review_eq_nil_iff {schema : Schema} {strict : Bool} {data : Value} :
    schema.review strict data = .ok [] ↔ data.IsContainer ∧ schema.Satisfied strict data := by
  cases data <;> simp [review, Value.IsContainer, reviewLevel_eq_nil_iff]

theorem Outcome.ofMessages_eq_valid_iff {messages : List String} :
    ofMessages messages = .valid ↔ messages = [] := by
  cases messages <;> simp [ofMessages, firstOccurrences]

theorem Schema.tryValidate_eq_valid_iff_review {schema : Schema} {data : Value}
    {settings : Settings} :
    schema.tryValidate data settings = .ok .valid ↔ schema.review settings.strict data = .ok [] := by
  rw [tryValidate, messages, Run.map_map, Run.map_eq_ok_iff]
  simp only [Function.comp_apply, Outcome.ofMessages_eq_valid_iff, List.map_eq_nil_iff,
    exists_eq_right]

/-- Data comes out valid exactly when it is a container and is as the schema wants it. -/
theorem Schema.tryValidate_eq_valid_iff {schema : Schema} {data : Value} {settings : Settings} :
    schema.tryValidate data settings = .ok .valid ↔
      data.IsContainer ∧ schema.Satisfied settings.strict data := by
  rw [tryValidate_eq_valid_iff_review, review_eq_nil_iff]

end Rulebook
