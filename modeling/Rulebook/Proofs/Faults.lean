import Rulebook.Proofs.PatternTokens
import Rulebook.Proofs.Satisfaction

/-!
Faults. Once rules have been read, the one thing that can still go wrong is a search for a pattern
that is given up, on a text of the data. A fault takes the place of everything that was found before
it.
-/

namespace Rulebook

/-- Whether a text stands anywhere in a data tree. -/
inductive Value.HasText (text : String) : Value → Prop
  | itself : HasText text (.string text)
  | item {item : Value} {items : List Value} : item ∈ items → HasText text item →
      HasText text (.array items)
  | entry {key : String} {value : Value} {fields : List (String × Value)} :
      (key, value) ∈ fields → HasText text value → HasText text (.object fields)

namespace Value.HasText

variable {text : String} {value : Value}

theorem of_get {segment : String} (has : HasText text (value.get segment)) :
    HasText text value := by
  cases value with
  | object fields =>
      rw [get] at has
      cases found : fields.lookup segment with
      | none =>
          rw [found] at has
          cases has
      | some child =>
          rw [found] at has
          obtain ⟨before, after, rfl, _⟩ := List.lookup_eq_some_iff.mp found
          exact .entry List.mem_append_cons_self has
  | array items =>
      rw [get] at has
      cases found : (Text.count? segment.toList).bind fun index => items[index]? with
      | none =>
          rw [found] at has
          cases has
      | some child =>
          rw [found] at has
          obtain ⟨index, _, listed⟩ := Option.bind_eq_some_iff.mp found
          exact .item (List.mem_of_getElem? listed) has
  | _ => cases has

theorem of_descend {segments : List String} (has : HasText text (value.descend segments)) :
    HasText text value := by
  induction segments generalizing value with
  | nil => exact has
  | cons segment rest ih =>
      rw [descend_cons] at has
      exact of_get (ih has)

theorem of_resolve {path : String} (has : HasText text (value.resolve path)) :
    HasText text value := by
  rw [resolve] at has
  split at has
  · exact has
  · exact of_descend has

end Value.HasText

/-- Whether the search for the pattern of a clause is given up on a text in a value. -/
def Clause.GivesUp (clause : Clause) (value : Value) (fault : Fault) : Prop :=
  ∃ form text, clause.pattern? = some form ∧ value.HasText text ∧ form.occurs text = .error fault

theorem Clause.givesUp_of_judgeFlat {clause : Clause} {declared : Declared} {label : Label}
    {value : Value} {fault : Fault}
    (stopped : clause.judgeFlat declared label value = .error fault) :
    clause.GivesUp value fault := by
  rw [judgeFlat] at stopped
  split at stopped
  · cases stopped
  · have inspected := Run.map_eq_error_iff.mp stopped
    cases clause with
    | constraint expected =>
        cases expected with
        | pattern form =>
            cases value with
            | string text =>
                exact ⟨form, text, rfl, .itself, Run.map_eq_error_iff.mp inspected⟩
            | _ => cases inspected
        | bound side limit => cases limit <;> cases inspected
        | _ => cases inspected
    | _ => cases inspected

theorem Clause.givesUp_of_assess {clause : Clause} {earlier : List Clause} {label : Label}
    {value : Value} {fault : Fault} (stopped : clause.assess earlier label value = .error fault) :
    clause.GivesUp value fault := by
  induction clause generalizing earlier label value with
  | arrayOf element ih =>
      rw [assess] at stopped
      split at stopped
      · split at stopped
        · rename_i items found
          obtain ⟨⟨item, index⟩, member, stopped⟩ :=
            Run.exists_of_mapM_eq_error (Run.map_eq_error_iff.mp stopped)
          dsimp only at stopped
          split at stopped
          · cases stopped
          · obtain ⟨form, text, asked, has, gaveUp⟩ := ih stopped
            cases value with
            | array others =>
                cases found
                exact ⟨form, text, asked, .item (List.fst_mem_of_mem_zipIdx member) has, gaveUp⟩
            | _ => cases found
        · cases stopped
      · cases stopped
  | _ => exact givesUp_of_judgeFlat stopped

theorem Clause.exists_givesUp_of_assessAll {label : Label} {value : Value}
    {earlier clauses : List Clause} {fault : Fault}
    (stopped : assessAll label value earlier clauses = .error fault) :
    ∃ clause ∈ clauses, clause.GivesUp value fault := by
  induction clauses generalizing earlier with
  | nil => cases stopped
  | cons next rest ih =>
      rw [assessAll] at stopped
      split at stopped
      · cases stopped
      · rcases Run.bind_eq_error_iff.mp stopped with atNext | ⟨complaints, _, later⟩
        · exact ⟨next, List.mem_cons_self, givesUp_of_assess atNext⟩
        · split at later
          · obtain ⟨clause, member, gaveUp⟩ := ih later
            exact ⟨clause, List.mem_cons_of_mem next member, gaveUp⟩
          · cases later

/-- Whether the search for a pattern that a field asks for is given up on a text in a value. -/
def FieldRules.GivesUp (field : FieldRules) (value : Value) (fault : Fault) : Prop :=
  ∃ clause ∈ field.clauses, clause.GivesUp value fault

theorem FieldRules.GivesUp.mono {field : FieldRules} {part value : Value} {fault : Fault}
    (holds : ∀ {text}, part.HasText text → value.HasText text)
    (gaveUp : field.GivesUp part fault) : field.GivesUp value fault := by
  obtain ⟨clause, member, form, text, asked, has, stopped⟩ := gaveUp
  exact ⟨clause, member, form, text, asked, holds has, stopped⟩

theorem FieldRules.givesUp_of_review {field : FieldRules} {place : Place} {value : Value}
    {fault : Fault} (stopped : field.review place value = .error fault) :
    field.GivesUp value fault := by
  have complaining := Run.map_eq_error_iff.mp stopped
  rw [complaints, Clause.judgeAll_eq_assessAll] at complaining
  exact Clause.exists_givesUp_of_assessAll complaining

mutual

theorem Node.exists_givesUp_of_review {strict : Bool} (node : Node) {key : String} {data : Value}
    {place : Place} {fault : Fault} (stopped : node.review strict key data place = .error fault) :
    ∃ field ∈ node.fields, field.GivesUp data fault :=
  match node with
  | .field rules => by
      rw [Node.review] at stopped
      refine ⟨rules, ?_, (FieldRules.givesUp_of_review stopped).mono .of_resolve⟩
      rw [Node.fields]
      exact List.mem_singleton.mpr rfl
  | .presence which groups => by
      rw [Node.review] at stopped
      cases stopped
  | .nested entries => by
      rw [Node.review] at stopped
      rw [Node.fields]
      split at stopped
      · rename_i fields found
        obtain ⟨field, member, gaveUp⟩ :=
          Node.exists_givesUp_of_reviewEntries entries (Run.map_eq_error_iff.mp stopped)
        rw [← found] at gaveUp
        exact ⟨field, member, gaveUp.mono .of_resolve⟩
      · cases stopped
  | .each entries => by
      rw [Node.review] at stopped
      rw [Node.fields]
      split at stopped
      · rename_i items found
        obtain ⟨⟨item, index⟩, listed, stopped⟩ :=
          Run.exists_of_mapM_eq_error (Run.map_eq_error_iff.mp stopped)
        obtain ⟨field, member, gaveUp⟩ :=
          Node.exists_givesUp_of_reviewEntries entries (Run.map_eq_error_iff.mp stopped)
        refine ⟨field, member, gaveUp.mono ?_⟩
        intro text has
        apply Value.HasText.of_resolve
        rw [found]
        exact .item (List.fst_mem_of_mem_zipIdx listed) has
      · cases stopped
      · cases stopped
      · cases stopped

theorem Node.exists_givesUp_of_reviewEntries {strict : Bool} (entries : List (String × Node))
    {data : Value} {place : Place} {fault : Fault}
    (stopped : Node.reviewEntries strict entries data place = .error fault) :
    ∃ field ∈ Node.allFields entries, field.GivesUp data fault :=
  match entries with
  | [] => by
      rw [Node.reviewEntries] at stopped
      cases stopped
  | (key, node) :: rest => by
      rw [Node.reviewEntries] at stopped
      rw [Node.allFields]
      rcases Run.bind_eq_error_iff.mp stopped with atKey | ⟨messages, _, later⟩
      · obtain ⟨field, member, gaveUp⟩ := Node.exists_givesUp_of_review node atKey
        exact ⟨field, List.mem_append_left _ member, gaveUp⟩
      · rcases Run.bind_eq_error_iff.mp later with inRest | ⟨others, _, finished⟩
        · obtain ⟨field, member, gaveUp⟩ := Node.exists_givesUp_of_reviewEntries rest inRest
          exact ⟨field, List.mem_append_right _ member, gaveUp⟩
        · cases finished

end

theorem Schema.exists_givesUp {schema : Schema} {data : Value} {settings : Settings}
    {fault : Fault} (stopped : schema.tryValidate data settings = .error fault) :
    ∃ field ∈ Node.allFields schema, field.GivesUp data fault := by
  have reviewed := Run.map_eq_error_iff.mp (Run.map_eq_error_iff.mp stopped)
  by_cases container : data.IsContainer
  · rw [review_of_isContainer container] at reviewed
    exact Node.exists_givesUp_of_reviewEntries schema (Run.map_eq_error_iff.mp reviewed)
  · obtain ⟨message, said⟩ := review_of_not_isContainer container
    rw [said] at reviewed
    cases reviewed

theorem Pattern.occurs_eq_error_iff {form : Pattern} {text : String} {fault : Fault} :
    form.occurs text = .error fault ↔
      form.matcher.occurs? text.toList = none ∧ fault = .invalidPattern form.literal := by
  rw [occurs]
  cases form.matcher.occurs? text.toList <;> simp [eq_comm]

theorem Schema.givesUp_of_tryValidate {rules : RuleTree} {schema : Schema}
    (read : Schema.ofRules rules = .ok schema) {data : Value} {settings : Settings} {fault : Fault}
    (stopped : schema.tryValidate data settings = .error fault) :
    ∃ depth literal form text, .token (patternToken depth literal) ∈ rules.parts ∧
      Pattern.read literal.toList = .ok form ∧ data.HasText text ∧
      form.matcher.occurs? text.toList = none ∧ fault = .invalidPattern literal := by
  obtain ⟨field, member, clause, listed, form, text, asked, has, gaveUp⟩ :=
    Schema.exists_givesUp stopped
  obtain ⟨depth, literal, part, patternRead⟩ :=
    Schema.exists_patternToken read member listed asked
  obtain ⟨undecided, rfl⟩ := Pattern.occurs_eq_error_iff.mp gaveUp
  refine ⟨depth, literal, form, text, part, patternRead, has, undecided, ?_⟩
  rw [Pattern.literal_of_read patternRead, String.ofList_toList]

/-- Once rules have been read, only a search for a pattern can be a fault, and a fault leaves no
partial result. It tells the literal of a pattern that the rules ask for, whose search is given up on
a text of the data; without patterns there is none. A validation that does not tell faults has one
message in place of a fault, also of rules that cannot be read, and else the same outcome. -/
theorem RuleTree.faults_leave_no_result :
    (∀ rules schema, Schema.ofRules rules = .ok schema → ∀ data settings,
      (∀ fault, schema.tryValidate data settings = .error fault →
        ∃ depth literal form text, .token (patternToken depth literal) ∈ rules.parts ∧
          Pattern.read literal.toList = .ok form ∧ data.HasText text ∧
          form.matcher.occurs? text.toList = none ∧ fault = .invalidPattern literal) ∧
      ((∀ depth literal, .token (patternToken depth literal) ∉ rules.parts) →
        ∃ outcome, schema.tryValidate data settings = .ok outcome)) ∧
    (∀ (rules : RuleTree) (data : Value) (settings : Settings),
      (∀ fault, rules.tryValidate data settings = .error fault →
        rules.validate data settings = .invalid "error occurred while data validation" []) ∧
      ∀ outcome, rules.tryValidate data settings = .ok outcome →
        rules.validate data settings = outcome) ∧
    ∀ (rules data : Document) (settings : Settings),
      (∀ defect, RuleTree.read rules = .error defect →
        rules.validate data settings = .invalid "error occurred while data validation" []) ∧
      ∀ tree, RuleTree.read rules = .ok tree →
        rules.validate data settings = tree.validate data.toValue settings := by
  refine ⟨?_, ?_, ?_⟩
  · intro rules schema read data settings
    refine ⟨fun fault stopped => Schema.givesUp_of_tryValidate read stopped, ?_⟩
    intro patternless
    cases run : schema.tryValidate data settings with
    | ok outcome => exact ⟨outcome, rfl⟩
    | error fault =>
        obtain ⟨depth, literal, _, _, part, _⟩ := Schema.givesUp_of_tryValidate read run
        exact absurd part (patternless depth literal)
  · intro rules data settings
    rw [validate]
    constructor
    · intro fault stopped
      rw [stopped]
      rfl
    · intro outcome finished
      rw [finished]
      rfl
  · intro rules data settings
    rw [Document.validate, ofDocument]
    constructor
    · intro defect unread
      rw [unread]
      rfl
    · intro tree read
      rw [read]
      rfl

/-- Rounds that take nothing, without end: the message about the name is lost with the search. -/
theorem RuleTree.faults_leave_no_result_rounds :
    (∃ schema fault, Schema.ofRules [("name", .text "string"),
        ("code", .list ["arrayof:regex:/\\K(?:a\x7b2,0\x7d)*/"])] = .ok schema ∧
      schema.tryValidate (.object [("code", .array [.string "b"])]) .plain = .error fault ∧
      ∃ depth literal form text,
        .token (patternToken depth literal) ∈ RuleTree.parts [("name", .text "string"),
          ("code", .list ["arrayof:regex:/\\K(?:a\x7b2,0\x7d)*/"])] ∧
        Pattern.read literal.toList = .ok form ∧
        Value.HasText text (.object [("code", .array [.string "b"])]) ∧
        form.matcher.occurs? text.toList = none ∧ fault = .invalidPattern literal) ∧
    RuleTree.validate [("name", .text "string"),
        ("code", .list ["arrayof:regex:/\\K(?:a\x7b2,0\x7d)*/"])]
        (.object [("code", .array [.string "b"])]) .plain =
      .invalid "error occurred while data validation" [] ∧
    (∃ outcome, Schema.tryValidate [("name", .field ⟨[.clause (.kind .string)], none, none⟩)]
      (.object [("name", .null)]) .plain = .ok outcome) ∧
    Document.validate .null .null .plain =
      .invalid "error occurred while data validation" [] := by
  have readable : (Run.fault? (Schema.ofRules [("name", .text "string"),
      ("code", .list ["arrayof:regex:/\\K(?:a\x7b2,0\x7d)*/"])])).isNone = true := by
    decide +kernel
  have stops : (Run.fault? (RuleTree.tryValidate [("name", .text "string"),
      ("code", .list ["arrayof:regex:/\\K(?:a\x7b2,0\x7d)*/"])]
      (.object [("code", .array [.string "b"])]) .plain)).isSome = true := by
    decide +kernel
  obtain ⟨schema, read⟩ := Run.fault?_eq_none_iff.mp (Option.isNone_iff_eq_none.mp readable)
  obtain ⟨fault, known⟩ := Option.isSome_iff_exists.mp stops
  have stopped := Run.fault?_eq_some_iff.mp known
  have alone := stopped
  rw [RuleTree.tryValidate, read] at alone
  refine ⟨⟨schema, fault, read, alone, ?_⟩, ?_, ?_, ?_⟩
  · exact (faults_leave_no_result.1 _ _ read _ _).1 fault alone
  · exact (faults_leave_no_result.2.1 _ _ _).1 fault stopped
  · apply (faults_leave_no_result.1 [("name", .text "string")] _ rfl _ _).2
    intro depth literal part
    have only : Part.token (patternToken depth literal) = .token "string" :=
      List.mem_singleton.mp part
    have colon : ':' ∈ (patternToken depth literal).toList := by simp [patternToken]
    rw [Part.token.inj only] at colon
    revert colon
    decide
  · exact (faults_leave_no_result.2.2 _ _ _).1 (.notObject .null) rfl

end Rulebook
