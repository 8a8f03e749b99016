import Rulebook.Proofs.Shapes

/-!
Where patterns come from. Each pattern that a schema searches for stands as a literal in a token of
the rules that it was read from, after `regex:`, and before that any number of times `arrayof:`.
-/

namespace Rulebook

/-- The pattern that a clause asks for, of a value or of the items of arrays. -/
def Clause.pattern? : Clause → Option Pattern
  | .constraint (.pattern form) => some form
  | .arrayOf element => element.pattern?
  | _ => none

theorem Pattern.literal_of_read {literal : List Char} {form : Pattern}
    (read : Pattern.read literal = .ok form) : form.literal = String.ofList literal := by
  rw [Pattern.read.eq_def] at read
  dsimp only at read
  split at read
  · split at read
    · split at read
      · split at read
        · cases read
          rfl
        · cases read
      · cases read
    · cases read
  · cases read

theorem Constraint.eq_regex_of_named? {directive : String} {argument : List Char} {form : Pattern}
    (named : named? directive argument = some (.ok (.pattern form))) :
    directive = "regex" ∧ Pattern.read argument = .ok form := by
  unfold named? at named
  -- Under every other name the constraint is none that is a pattern.
  split at named <;>
    simp only [Option.some.injEq, Except.ok.injEq, Run.map_eq_ok_iff, pattern.injEq, reduceCtorEq,
      and_false, exists_false, exists_eq_right] at named
  exact ⟨rfl, named⟩

theorem Clause.pattern?_of_ofWord? {word : String} {clause : Clause}
    (found : ofWord? word = some clause) : clause.pattern? = none := by
  unfold ofWord? at found
  split at found
  · cases found
    rfl
  · cases found
    rfl
  · split at found <;> cases found <;> rfl

/-- The token that asks for a pattern, of a value or of the items of arrays so many deep. -/
def patternToken (depth : Nat) (literal : String) : String :=
  String.join (List.replicate depth "arrayof:") ++ "regex:" ++ literal

theorem Clause.token_of_readFlat {token : List Char} {clause : Clause} {form : Pattern}
    (read : readFlat token = .ok clause) (asked : clause.pattern? = some form) :
    ∃ literal, token = "regex:".toList ++ literal ∧ Pattern.read literal = .ok form := by
  rw [readFlat] at read
  split at read
  · rename_i word
    cases read
    rw [pattern?_of_ofWord? word] at asked
    cases asked
  · split at read
    · rename_i expected constrained
      obtain ⟨constraint, expectedRead, rfl⟩ := Run.map_eq_ok_iff.mp read
      have isPattern : constraint = .pattern form := by
        cases constraint <;> cases asked
        rfl
      subst isPattern expectedRead
      rw [Constraint.read?] at constrained
      split at constrained
      · rename_i name argument cut
        obtain ⟨named, patternRead⟩ := Constraint.eq_regex_of_named? constrained
        refine ⟨argument, ?_, patternRead⟩
        rw [(Text.cutFirst?_eq_some cut).1, ← String.toList_ofList (l := name), named]
        rfl
      · cases constrained
    · cases read
      cases asked

theorem Clause.token_of_read {token : List Char} {clause : Clause} {form : Pattern}
    (read : Clause.read token = .ok clause) (asked : clause.pattern? = some form) :
    ∃ depth literal, token = (patternToken depth literal).toList ∧
      Pattern.read literal.toList = .ok form := by
  fun_induction Clause.read token generalizing clause with
  | case1 rest ih =>
      obtain ⟨element, elementRead, rfl⟩ := Run.map_eq_ok_iff.mp read
      obtain ⟨depth, literal, rfl, patternRead⟩ := ih elementRead asked
      refine ⟨depth + 1, literal, ?_, patternRead⟩
      simp [patternToken, List.replicate_succ, String.join_cons]
  | case2 token _ =>
      obtain ⟨literal, rfl, patternRead⟩ := token_of_readFlat read asked
      refine ⟨0, String.ofList literal, ?_, ?_⟩
      · simp [patternToken]
      · simpa using patternRead

theorem Directive.read_clause {token : String} {clause : Clause}
    (read : Directive.read token = .ok (.clause clause)) :
    Clause.read token.toList = .ok clause := by
  rw [Directive.read] at read
  split at read
  · cases read
  · split at read
    · cases read
    · obtain ⟨found, clauseRead, same⟩ := Run.map_eq_ok_iff.mp read
      cases same
      exact clauseRead

theorem FieldRules.MadeOf.exists_token {key : String} {tokens : List String} {field : FieldRules}
    (made : field.MadeOf key tokens) {clause : Clause} (listed : clause ∈ field.clauses) :
    ∃ token ∈ tokens, Clause.read token.toList = .ok clause := by
  obtain ⟨directive, member, content⟩ := List.mem_filterMap.mp listed
  obtain ⟨token, fromTokens, read⟩ :=
    Run.exists_of_mem_mapM (Run.mapM_eq_ok_iff.mpr made.directives) member
  cases directive with
  | clause found =>
      cases content
      exact ⟨token, fromTokens, Directive.read_clause read⟩
  | title name => cases content
  | message text => cases content

mutual

/-- The fields under a key, on all levels. -/
def Node.fields : Node → List FieldRules
  | .field rules => [rules]
  | .nested entries | .each entries => Node.allFields entries
  | .presence _ _ => []

def Node.allFields : List (String × Node) → List FieldRules
  | [] => []
  | (_, node) :: rest => node.fields ++ Node.allFields rest

end

mutual

theorem Rule.Makes.exists_token {key : String} {rule : Rule} {node : Node}
    (makes : rule.Makes key node) (front : List String) {field : FieldRules}
    (member : field ∈ node.fields) {clause : Clause} (listed : clause ∈ field.clauses) :
    ∃ token, .token token ∈ rule.parts front key ∧ Clause.read token.toList = .ok clause :=
  match makes with
  | .presence _ _ => by
      rw [Node.fields] at member
      cases member
  | .field plain texts made => by
      rw [Node.fields] at member
      cases List.mem_singleton.mp member
      obtain ⟨token, fromTokens, read⟩ := made.exists_token listed
      refine ⟨token, ?_, read⟩
      rw [Rule.parts.eq_def, Presence.ofKey?_eq_none_iff.mpr plain]
      cases rule with
      | nested => cases texts
      | each => cases texts
      | text directives => exact List.mem_map_of_mem fromTokens
      | list directives => exact List.mem_map_of_mem fromTokens
  | .nested plain below => by
      rw [Node.fields] at member
      rw [Rule.parts.eq_def, Presence.ofKey?_eq_none_iff.mpr plain]
      exact below.exists_token _ member listed
  | .each plain below => by
      rw [Node.fields] at member
      rw [Rule.parts.eq_def, Presence.ofKey?_eq_none_iff.mpr plain]
      exact below.exists_token _ member listed

theorem Rule.AllMake.exists_token {rules : List (String × Rule)} {entries : List (String × Node)}
    (make : Rule.AllMake rules entries) (front : List String) {field : FieldRules}
    (member : field ∈ Node.allFields entries) {clause : Clause} (listed : clause ∈ field.clauses) :
    ∃ token, .token token ∈ Rule.allParts front rules ∧
      Clause.read token.toList = .ok clause :=
  match make with
  | .nil => by
      rw [Node.allFields] at member
      cases member
  | .cons made others => by
      rw [Node.allFields] at member
      rw [Rule.allParts]
      rcases List.mem_append.mp member with here | later
      · obtain ⟨token, part, read⟩ := made.exists_token front here listed
        exact ⟨token, List.mem_append_left _ part, read⟩
      · obtain ⟨token, part, read⟩ := others.exists_token front later listed
        exact ⟨token, List.mem_append_right _ part, read⟩

end

theorem Schema.exists_patternToken {rules : RuleTree} {schema : Schema}
    (read : Schema.ofRules rules = .ok schema) {field : FieldRules}
    (member : field ∈ Node.allFields schema) {clause : Clause} (listed : clause ∈ field.clauses)
    {form : Pattern} (asked : clause.pattern? = some form) :
    ∃ depth literal, .token (patternToken depth literal) ∈ rules.parts ∧
      Pattern.read literal.toList = .ok form := by
  have make := (Node.ofRules_eq_ok_iff "" rules schema).mp read
  obtain ⟨token, part, clauseRead⟩ := make.exists_token [] member listed
  obtain ⟨depth, literal, written, patternRead⟩ := Clause.token_of_read clauseRead asked
  refine ⟨depth, literal, ?_, patternRead⟩
  rw [← String.toList_inj.mp written]
  exact part

end Rulebook
