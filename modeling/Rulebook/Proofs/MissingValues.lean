import Rulebook.Proofs.Assessment
import Rulebook.Proofs.Rendering

/-!
Missing values. No token says that a field is required. It is when, among its directives, something
to check comes before the marker for values that are missing in the way of this one.
-/

namespace Rulebook

namespace Clause

/-- Whether the clause ends the matter of a missing value, one way or the other. -/
def settles (value : Value) (clause : Clause) : Bool :=
  clause.isCheck || clause.excuses value

theorem judge_of_not_isCheck {clause : Clause} (unchecked : clause.isCheck = false)
    (declared : Declared) (layers : Layers) (label : Label) (value : Value) :
    clause.judge declared layers label value = .ok ([], layers) := by
  cases clause with
  | optional | nullable | unknown => rfl
  | _ => cases unchecked

section

variable {value : Value} (missing : value.isPresent = false) (label : Label)

include missing

theorem judge_of_isCheck {clause : Clause} (checked : clause.isCheck = true) (declared : Declared)
    (layers : Layers) :
    clause.judge declared layers label value = .ok ([⟨label, .missing⟩], layers) := by
  cases clause with
  | optional | nullable | unknown => cases checked
  | arrayOf element =>
      rw [judge, missing]
      rfl
  | _ =>
      simp only [judge, judgeFlat, missing]
      rfl

theorem judgeAll_of_missing (scope : Scope) (clauses : List Clause) :
    judgeAll label value scope clauses =
      .ok (if (clauses.find? (settles value)).any isCheck then [⟨label, .missing⟩] else []) := by
  induction clauses generalizing scope with
  | nil => rfl
  | cons next rest ih =>
      rw [judgeAll]
      -- The marker and a check each end the run at once, and what is neither is passed over. The
      -- scope may be any, since a check looks for the value before all else.
      cases excused : next.excuses value with
      | true =>
          have settled : settles value next = true := by simp [settles, excused]
          rw [List.find?_cons_of_pos settled]
          simp [not_isCheck_of_excuses excused]
      | false =>
          cases checked : next.isCheck with
          | true =>
              have settled : settles value next = true := by simp [settles, checked]
              rw [judge_of_isCheck missing label checked, List.find?_cons_of_pos settled]
              simp [checked, bind, Except.bind, pure, Except.pure]
          | false =>
              have unsettled : settles value next = false := by simp [settles, checked, excused]
              rw [judge_of_not_isCheck checked, List.find?_cons_of_neg (by simp [unsettled])]
              exact ih _

end

end Clause

namespace Directive

def isCheck (directive : Directive) : Bool :=
  directive.clause?.any Clause.isCheck

/-- Whether the directive is the marker for values that are missing in the way of this one. -/
def marks (value : Value) (directive : Directive) : Bool :=
  directive.clause?.any fun clause => clause.excuses value

end Directive

namespace FieldRules

/-- Whether a check comes before the marker for a missing value. -/
def demands (field : FieldRules) (value : Value) : Bool :=
  (field.directives.find? fun directive => directive.isCheck || directive.marks value).any
    Directive.isCheck

theorem demands_eq (field : FieldRules) (value : Value) :
    field.demands value = (field.clauses.find? (Clause.settles value)).any Clause.isCheck := by
  have alike : (fun directive : Directive => directive.isCheck || directive.marks value) =
      fun directive => directive.clause?.any (Clause.settles value) := by
    funext directive
    cases directive <;> rfl
  rw [demands, alike, clauses, List.find?_filterMap, Option.any_bind]
  rfl

/-- What is said of a missing value does not hang on what is asked for. Of all directives only the
first counts that is a check, or the marker for the value: there is one message or none. -/
theorem review_of_missing (field : FieldRules) (place : Place) (quotes : Quotes) {value : Value}
    (missing : value = .undefined ∨ value = .null) :
    rendered quotes (field.review place value) =
      .ok (if field.demands value
        then [field.message.getD (quotes.wrap (field.label place).text ++ " is required")]
        else []) := by
  have absent : value.isPresent = false := by
    rcases missing with rfl | rfl <;> rfl
  rw [review, complaints, Clause.judgeAll_of_missing absent, ← demands_eq, rendered]
  cases demanded : field.demands value with
  | false => cases field.message <;> rfl
  | true =>
      cases custom : field.message with
      | some text => rfl
      | none =>
          have worded : Message.render quotes (.complaint ⟨field.label place, .missing⟩) =
              quotes.wrap (field.label place).text ++ " is required" := by
            rw [Message.render, String.append_assoc]
            rfl
          rw [← worded]
          rfl

/-- An unknown token after `arrayof:` is a check, while one by itself and the other marker are not. -/
theorem review_of_missing_tags :
    (Value.undefined = .undefined ∨ Value.undefined = .null) ∧
    rendered .double (review
      { directives := [.clause (.unknown "tags"), .clause .nullable,
          .clause (.arrayOf (.unknown "tags")), .clause .optional]
        title := none
        message := none } [.key "tags"] .undefined) = .ok ["\"tags\" is required"] := by
  refine ⟨.inl rfl, ?_⟩
  rw [review_of_missing _ _ _ (.inl rfl)]
  rfl

end FieldRules

end Rulebook
