import Rulebook.Proofs.Satisfaction

/-!
Nesting. Rules for an object one level down ask of it just what they ask of data on its own. Rules
for the items of an array go one step further: an item that is no container would be turned away on
its own, but in an array it is looked at all the same, and every field that it does not have counts
as missing.
-/

namespace Rulebook

theorem Node.review_nested_eq_nil_iff {inner : Schema} {settings : Settings} {key : String}
    {data : Value} {place : Place} :
    Node.review settings.strict (.nested inner) key data place = .ok [] ↔
      ∃ fields, data.resolve key = .object fields ∧
        inner.tryValidate (.object fields) settings = .ok .valid := by
  rw [Node.review_eq_nil_iff, Node.Satisfied]
  simp only [Schema.tryValidate_eq_valid_iff_review, Schema.review_eq_nil_iff, Value.IsContainer,
    Schema.Satisfied, true_and]

theorem Schema.satisfied_iff_tryValidate {inner : Schema} {settings : Settings}
    {item : Value} :
    inner.Satisfied settings.strict item ↔
      inner.tryValidate item settings = .ok .valid ∨
        (¬ item.IsContainer ∧ inner.reviewLevel settings.strict item [] = .ok []) := by
  rw [tryValidate_eq_valid_iff_review, review_eq_nil_iff, reviewLevel_eq_nil_iff]
  by_cases container : item.IsContainer
  · simp [container]
  · simp [container]

theorem Node.review_each_eq_nil_iff {inner : Schema} {settings : Settings} {key : String}
    {data : Value} {place : Place} :
    Node.review settings.strict (.each inner) key data place = .ok [] ↔
      ∃ items, data.resolve key = .array items ∧ ∀ item ∈ items,
        inner.tryValidate item settings = .ok .valid ∨
          (¬ item.IsContainer ∧ inner.reviewLevel settings.strict item [] = .ok []) := by
  rw [Node.review_eq_nil_iff, Node.Satisfied]
  simp only [← Schema.satisfied_iff_tryValidate, Schema.Satisfied]

/-- A level below is reviewed as if it stood alone, but for items that are no containers. -/
theorem Node.review_below_eq_nil_iff (inner : Schema) (settings : Settings) (key : String)
    (data : Value) (place : Place) :
    (Node.review settings.strict (.nested inner) key data place = .ok [] ↔
      ∃ fields, data.resolve key = .object fields ∧
        inner.tryValidate (.object fields) settings = .ok .valid) ∧
    (Node.review settings.strict (.each inner) key data place = .ok [] ↔
      ∃ items, data.resolve key = .array items ∧ ∀ item ∈ items,
        inner.tryValidate item settings = .ok .valid ∨
          (¬ item.IsContainer ∧ inner.reviewLevel settings.strict item [] = .ok [])) :=
  ⟨review_nested_eq_nil_iff, review_each_eq_nil_iff⟩

theorem RuleTree.tryValidate_scalar_item :
    RuleTree.tryValidate [("k", .each [("a", .text "optional|string")])]
        (.object [("k", .array [.number (.ofNat 5)])]) .plain = .ok .valid ∧
      RuleTree.tryValidate [("a", .text "optional|string")] (.number (.ofNat 5)) .plain =
        .ok (.invalid "data must be of type object or array" []) := by
  constructor
  · rfl
  · rfl

end Rulebook
