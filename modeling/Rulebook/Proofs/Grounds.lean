import Rulebook.Proofs.Assessment
import Rulebook.Proofs.Tour

/-!
Grounds. Behind every complaint of a field there is a value that one of its clauses finds fault
with: the value of the field, or an item of it, and the label of the complaint is the label of the
field with the indexes that lead to the item. So every message of a review is said at a stop of its
tour, and the labels in it are those of the values that were looked at there.
-/

namespace Rulebook

def Label.items (label : Label) (indexes : List Nat) : Label :=
  indexes.foldl (fun label index => label.item index) label

theorem Label.items_named (name : String) (indexes : List Nat) :
    (Label.named name).items indexes = .named (indexes.foldl Place.itemText name) := by
  induction indexes generalizing name with
  | nil => rfl
  | cons index rest ih => exact ih (Place.itemText name index)

theorem Label.items_place (place : Place) (indexes : List Nat) :
    (Label.place place).items indexes = .place (place ++ indexes.map .item) := by
  induction indexes generalizing place with
  | nil => simp [items]
  | cons index rest ih =>
      change (Label.place (place ++ [.item index])).items rest = _
      rw [ih, List.map_cons, List.append_assoc, List.singleton_append]

namespace Clause

/-- What a clause finds wrong with a value as a whole. -/
inductive Finds (declared : Declared) (value : Value) : Clause → Finding → Prop
  | missing {clause : Clause} : clause.isCheck = true → value.isPresent = false →
      Finds declared value clause .missing
  | notArray {element : Clause} : value.isPresent = true → value.items? = none →
      Finds declared value (.arrayOf element) (.notKind .array)
  | inspected {clause : Clause} {finding : Finding} :
      (clause.isCheck = true → value.isPresent = true) →
      clause.inspect declared value = .ok (some finding) → Finds declared value clause finding

/-- What a clause finds wrong, after the clauses before it, with the item that indexes lead to. -/
inductive Accuses : List Clause → Clause → Value → List Nat → Value → Finding → Prop
  | itself {earlier : List Clause} {clause : Clause} {value : Value} {finding : Finding} :
      Finds (declaredBy earlier) value clause finding →
      Accuses earlier clause value [] value finding
  | item {earlier : List Clause} {element : Clause} {items : List Value} {index : Nat}
      {item examined : Value} {indexes : List Nat} {finding : Finding} :
      items[index]? = some item → excusedBy (elements earlier) item = false →
      Accuses (elements earlier) element item indexes examined finding →
      Accuses earlier (.arrayOf element) (.array items) (index :: indexes) examined finding

variable {label : Label} {value : Value} {complaints : List Complaint} {complaint : Complaint}

theorem finds_of_mem_judgeFlat {clause : Clause} {declared : Declared}
    (run : clause.judgeFlat declared label value = .ok complaints)
    (member : complaint ∈ complaints) :
    complaint.label = label ∧ Finds declared value clause complaint.finding := by
  rw [judgeFlat] at run
  split at run
  · rename_i absent
    cases run
    rw [List.mem_singleton] at member
    subst member
    simp only [Bool.and_eq_true, Bool.not_eq_true'] at absent
    exact ⟨rfl, .missing absent.1 absent.2⟩
  · rename_i looked
    obtain ⟨found, inspected, rfl⟩ := Run.map_eq_ok_iff.mp run
    have present : clause.isCheck = true → value.isPresent = true := by simpa using looked
    cases found with
    | none => cases member
    | some finding =>
        simp only [Option.map_some, Option.toList_some, List.mem_singleton] at member
        subst member
        exact ⟨rfl, .inspected present inspected⟩

theorem exists_of_mem_judgeEach {exempt : Value → Bool}
    {judge : Label → Value → Except Fault (List Complaint)} {items : List Value}
    (run : judgeEach exempt judge label items.zipIdx = .ok complaints)
    (member : complaint ∈ complaints) :
    ∃ item index, items[index]? = some item ∧ exempt item = false ∧
      ∃ found, judge (label.item index) item = .ok found ∧ complaint ∈ found := by
  obtain ⟨⟨item, index⟩, listed, found, judged, inFound⟩ :=
    Run.exists_of_mem_mapM_flatten run member
  have placed : items[index]? = some item := List.mem_zipIdx_iff_getElem?.mp listed
  dsimp only at judged
  split at judged
  · cases judged
    cases inFound
  · rename_i unexempted
    exact ⟨item, index, placed, by simpa using unexempted, found, judged, inFound⟩

theorem accuses_of_mem_assess {clause : Clause} {earlier : List Clause}
    (run : clause.assess earlier label value = .ok complaints) (member : complaint ∈ complaints) :
    ∃ indexes examined, complaint.label = label.items indexes ∧
      Accuses earlier clause value indexes examined complaint.finding := by
  -- An array has its items judged, each under a longer label, by what is asked of the items.
  induction clause generalizing earlier label value complaints with
  | arrayOf element ih =>
      rw [assess] at run
      split at run
      · rename_i present
        split at run
        · rename_i items found
          obtain ⟨item, index, placed, unexempted, others, judged, inOthers⟩ :=
            exists_of_mem_judgeEach run member
          obtain ⟨indexes, examined, labelled, accused⟩ := ih judged inOthers
          have array : value = .array items := by
            cases value <;> simp [Value.items?] at found ⊢
            exact found
          subst array
          exact ⟨index :: indexes, examined, labelled, .item placed unexempted accused⟩
        · rename_i noItems
          cases run
          rw [List.mem_singleton] at member
          subst member
          exact ⟨[], value, rfl, .itself (.notArray present noItems)⟩
      · rename_i absent
        cases run
        rw [List.mem_singleton] at member
        subst member
        exact ⟨[], value, rfl, .itself (.missing rfl (by simpa using absent))⟩
  | _ =>
      rw [assess] at run
      · obtain ⟨labelled, found⟩ := finds_of_mem_judgeFlat run member
        exact ⟨[], value, labelled, .itself found⟩
      · simp

theorem accuses_of_mem_assessAll {earlier clauses : List Clause}
    (run : assessAll label value earlier clauses = .ok complaints)
    (member : complaint ∈ complaints) :
    ∃ front clause back indexes examined, clauses = front ++ clause :: back ∧
      complaint.label = label.items indexes ∧
      Accuses (earlier ++ front) clause value indexes examined complaint.finding := by
  induction clauses generalizing earlier with
  | nil =>
      cases run
      cases member
  | cons next rest ih =>
      rw [assessAll] at run
      split at run
      · cases run
        cases member
      · obtain ⟨found, assessed, run⟩ := Run.bind_eq_ok_iff.mp run
        split at run
        · obtain ⟨front, clause, back, indexes, examined, split, labelled, accused⟩ := ih run
          refine ⟨next :: front, clause, back, indexes, examined, ?_, labelled, ?_⟩
          · rw [split, List.cons_append]
          · rwa [List.append_assoc, List.singleton_append] at accused
        · cases run
          obtain ⟨indexes, examined, labelled, accused⟩ := accuses_of_mem_assess assessed member
          refine ⟨[], next, rest, indexes, examined, rfl, labelled, ?_⟩
          rwa [List.append_nil]

end Clause

theorem FieldRules.accuses_of_mem_complaints {field : FieldRules} {place : Place} {value : Value}
    {complaints : List Complaint} {complaint : Complaint}
    (run : field.complaints place value = .ok complaints) (member : complaint ∈ complaints) :
    ∃ front clause back indexes examined, field.clauses = front ++ clause :: back ∧
      complaint.label = (field.label place).items indexes ∧
      clause.Accuses front value indexes examined complaint.finding := by
  rw [FieldRules.complaints, Clause.judgeAll_eq_assessAll] at run
  exact Clause.accuses_of_mem_assessAll run member

namespace Stop

/-- Which messages are said at a stop itself, and of which labelled values. A key that no rule
declares is reported for its name alone. -/
inductive Tells : Stop → Message → List (Label × Value) → Prop
  | complaint {rules : FieldRules} {place : Place} {value examined : Value}
      {front back : List Clause} {clause : Clause} {indexes : List Nat} {finding : Finding} :
      rules.message = none → rules.clauses = front ++ clause :: back →
      clause.Accuses front value indexes examined finding →
      Tells (.field rules place value) (.complaint ⟨(rules.label place).items indexes, finding⟩)
        [((rules.label place).items indexes, examined)]
  | instead {rules : FieldRules} {place : Place} {value : Value} {text : String} :
      rules.message = some text → Tells (.field rules place value) (.custom text) []
  | presence {which : Presence} {content : PresenceGroup} {place : Place} {data : Value} :
      content.message = none → which.isViolated (content.present data) content.threshold = true →
      Tells (.group which content place data)
        (.presence which content.threshold
          (content.fields.map fun path => .place (place ++ [.key path])))
        (content.fields.map fun path => (.place (place ++ [.key path]), data.resolve path))
  | presenceInstead {which : Presence} {content : PresenceGroup} {place : Place} {data : Value}
      {text : String} : content.message = some text →
      Tells (.group which content place data) (.custom text) []
  | misfit {label : Label} {value : Value} {finding : Finding} :
      Tells (.misfit label value finding) (.complaint ⟨label, finding⟩) [(label, value)]
  | undeclared {schema : Schema} {place : Place} {data : Value} {stops : List Stop}
      {key : String} : key ∈ schema.undeclared data →
      Tells (.level schema place data stops) (.about (place ++ [.key key]) .undeclared) []

variable {strict : Bool} {messages : List Message} {message : Message}

theorem tells_of_mem_field {rules : FieldRules} {place : Place} {value : Value}
    (run : rules.review place value = .ok messages) (member : message ∈ messages) :
    ∃ seen, Tells (.field rules place value) message seen := by
  obtain ⟨found, judged, told⟩ := Run.map_eq_ok_iff.mp run
  cases named : rules.message with
  | some text =>
      simp only [named] at told
      split at told
      · subst told
        cases member
      · subst told
        rw [List.mem_singleton] at member
        subst member
        exact ⟨[], .instead named⟩
  | none =>
      simp only [named] at told
      subst told
      obtain ⟨complaint, listed, rfl⟩ := List.mem_map.mp member
      obtain ⟨front, clause, back, indexes, examined, split, labelled, accused⟩ :=
        FieldRules.accuses_of_mem_complaints judged listed
      obtain ⟨label, finding⟩ := complaint
      dsimp only at labelled accused
      subst labelled
      exact ⟨_, .complaint named split accused⟩

theorem tells_of_review? {which : Presence} {content : PresenceGroup} {place : Place}
    {data : Value} (told : content.review? which data place = some message) :
    ∃ seen, Tells (.group which content place data) message seen := by
  rw [PresenceGroup.review?] at told
  split at told
  · rename_i violated
    cases named : content.message with
    | some text =>
        simp only [named, Option.some.injEq] at told
        subst told
        exact ⟨[], .presenceInstead named⟩
    | none =>
        simp only [named, Option.some.injEq] at told
        subst told
        exact ⟨_, .presence named violated⟩
  · cases told

theorem tells_of_mem_reviewKeys {schema : Schema} {place : Place} {data : Value}
    {stops : List Stop} (member : message ∈ schema.reviewKeys strict data place) :
    Tells (.level schema place data stops) message [] := by
  rw [Schema.reviewKeys] at member
  split at member
  · obtain ⟨key, listed, rfl⟩ := List.mem_map.mp member
    exact .undeclared listed
  · cases member

mutual

/-- Every message of a review is said at a stop. -/
theorem tells_of_mem_review (stop : Stop) {messages : List Message}
    (run : stop.review strict = .ok messages) (member : message ∈ messages) :
    ∃ origin seen, On origin stop ∧ origin.Tells message seen :=
  match stop with
  | .field rules place value => by
      rw [review] at run
      obtain ⟨seen, tells⟩ := tells_of_mem_field run member
      exact ⟨_, seen, .itself _, tells⟩
  | .group which content place data => by
      rw [review] at run
      cases run
      obtain ⟨seen, tells⟩ := tells_of_review? (Option.mem_toList.mp member)
      exact ⟨_, seen, .itself _, tells⟩
  | .misfit label value finding => by
      rw [review] at run
      cases run
      rw [List.mem_singleton] at member
      subst member
      exact ⟨_, _, .itself _, .misfit⟩
  | .level schema place data stops => by
      rw [review, Schema.closeLevel] at run
      obtain ⟨found, below, rfl⟩ := Run.map_eq_ok_iff.mp run
      rcases List.mem_append.mp member with inside | atEnd
      · obtain ⟨next, listed, origin, seen, on, tells⟩ := tells_of_mem_reviewAll stops below inside
        exact ⟨origin, seen, .further listed on, tells⟩
      · exact ⟨_, [], .itself _, tells_of_mem_reviewKeys atEnd⟩

theorem tells_of_mem_reviewAll (stops : List Stop) {messages : List Message}
    (run : reviewAll strict stops = .ok messages) (member : message ∈ messages) :
    ∃ next ∈ stops, ∃ origin seen, On origin next ∧ origin.Tells message seen :=
  match stops with
  | [] => by
      rw [reviewAll] at run
      cases run
      cases member
  | stop :: rest => by
      rw [reviewAll] at run
      rcases Run.exists_of_mem_both run member with ⟨found, ran, inHead⟩ | ⟨others, ran, inRest⟩
      · exact ⟨stop, List.mem_cons_self, tells_of_mem_review stop ran inHead⟩
      · obtain ⟨next, listed, said⟩ := tells_of_mem_reviewAll rest ran inRest
        exact ⟨next, List.mem_cons_of_mem stop listed, said⟩

end

end Stop

end Rulebook
