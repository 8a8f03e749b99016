import Rulebook.Proofs.Parts

/-!
Shapes. What is read from a rule tree has its shape: on every level the same keys in the same order,
and under each the kind of node that the key and its rule call for, made of what its tokens say.
-/

namespace Rulebook

/-- What follows a word in the first token that begins with it. -/
def firstPayload? (word : String) (tokens : List String) : Option String :=
  tokens.findSome? fun token => (Text.after? word.toList token.toList).map String.ofList

/-- Whether a key ends in digits in brackets. -/
def EndsInIndex (key : String) : Prop :=
  ∃ front digits : List Char, key.toList = front ++ '[' :: (digits ++ [']']) ∧ digits ≠ [] ∧
    ∀ digit ∈ digits, digit.isDigit = true

theorem FieldRules.isItemLabel_iff {key : String} : isItemLabel key = true ↔ EndsInIndex key := by
  rw [isItemLabel, EndsInIndex]
  constructor
  · intro labels
    split at labels
    · rename_i back reversed
      split at labels
      · rename_i index front cut
        obtain ⟨written, _⟩ := Text.cutFirst?_eq_some cut
        refine ⟨front.reverse, index.reverse, ?_, ?_, ?_⟩
        · rw [← List.reverse_reverse key.toList, reversed, written]
          simp
        · simpa using (Bool.and_eq_true_iff.mp labels).1
        · simpa using (Bool.and_eq_true_iff.mp labels).2
      · cases labels
    · cases labels
  · rintro ⟨front, digits, written, nonempty, all⟩
    have uncut : Text.cutFirst? '[' digits.reverse = none := by
      rw [Option.eq_none_iff_forall_not_mem]
      rintro ⟨before, after⟩ cut
      have opens : '[' ∈ digits.reverse := by simp [(Text.cutFirst?_eq_some cut).1]
      have digit := all '[' (List.mem_reverse.mp opens)
      simp [Char.isDigit] at digit
    have reversed : key.toList.reverse = ']' :: (digits.reverse ++ '[' :: front.reverse) := by
      simp [written]
    rw [reversed]
    simp only [Text.cutFirst?_append, uncut, Text.cutFirst?]
    simpa [nonempty] using all

/-- Whether a field is what tokens make under a key. -/
structure FieldRules.MadeOf (key : String) (tokens : List String) (field : FieldRules) : Prop where
  directives :
    List.Forall₂ (fun token directive => Directive.read token = .ok directive) tokens
      field.directives
  untitled : EndsInIndex key → field.title = none
  title : ¬ EndsInIndex key → field.title = firstPayload? "field:" tokens
  message : field.message = firstPayload? "error:" tokens

theorem Directive.title?_of_read {token : String} {directive : Directive}
    (read : Directive.read token = .ok directive) :
    directive.title? = (Text.after? "field:".toList token.toList).map String.ofList := by
  rw [Directive.read] at read
  split at read
  · rename_i name begins
    cases read
    rw [begins]
    rfl
  · rename_i begins
    rw [begins]
    split at read
    · cases read
      rfl
    · obtain ⟨clause, _, rfl⟩ := Run.map_eq_ok_iff.mp read
      rfl

theorem Directive.message?_of_read {token : String} {directive : Directive}
    (read : Directive.read token = .ok directive) :
    directive.message? = (Text.after? "error:".toList token.toList).map String.ofList := by
  rw [Directive.read] at read
  split at read
  · rename_i name begins
    cases read
    rw [(Text.after?_eq_some_iff _ _ _).mp begins]
    rfl
  · split at read
    · rename_i text begins
      cases read
      rw [begins]
      rfl
    · rename_i begins
      obtain ⟨clause, _, rfl⟩ := Run.map_eq_ok_iff.mp read
      rw [begins]
      rfl

theorem firstPayload?_eq {α : Type} {stands : String → α → Prop} {word : String}
    {tokens : List String} {made : List α} {payload? : α → Option String}
    (read : List.Forall₂ stands tokens made)
    (payload : ∀ {token directive}, stands token directive →
      payload? directive = (Text.after? word.toList token.toList).map String.ofList) :
    made.findSome? payload? = firstPayload? word tokens := by
  induction read with
  | nil => rfl
  | cons head _ ih =>
      rw [firstPayload?] at ih ⊢
      rw [List.findSome?_cons, List.findSome?_cons, payload head, ih]

theorem FieldRules.madeOf_ofDirectives (key : String) {tokens : List String}
    {directives : List Directive}
    (read : List.Forall₂ (fun token directive => Directive.read token = .ok directive) tokens
      directives) :
    (ofDirectives key directives).MadeOf key tokens where
  directives := read
  untitled indexed := by
    rw [ofDirectives, isItemLabel_iff.mpr indexed, if_pos rfl]
  title unindexed := by
    rw [ofDirectives, if_neg (isItemLabel_iff.not.mpr unindexed),
      firstPayload?_eq read Directive.title?_of_read]
  message := firstPayload?_eq read Directive.message?_of_read

theorem FieldRules.MadeOf.unique {key : String} {tokens : List String} {field other : FieldRules}
    (made : field.MadeOf key tokens) (remade : other.MadeOf key tokens) : field = other := by
  have sameDirectives : field.directives = other.directives := by
    have read := Run.mapM_eq_ok_iff.mpr made.directives
    rw [Run.mapM_eq_ok_iff.mpr remade.directives] at read
    exact (Except.ok.inj read).symm
  have sameTitle : field.title = other.title := by
    by_cases indexed : EndsInIndex key
    · rw [made.untitled indexed, remade.untitled indexed]
    · rw [made.title indexed, remade.title indexed]
  have sameMessage : field.message = other.message := by
    rw [made.message, remade.message]
  cases field
  cases other
  cases sameDirectives
  cases sameTitle
  cases sameMessage
  rfl

theorem FieldRules.read_eq_ok_iff {key : String} {tokens : List String} {field : FieldRules} :
    read key tokens = .ok field ↔ field.MadeOf key tokens := by
  rw [read, Run.map_eq_ok_iff]
  constructor
  · rintro ⟨directives, ran, rfl⟩
    exact madeOf_ofDirectives key (Run.mapM_eq_ok_iff.mp ran)
  · intro made
    refine ⟨field.directives, Run.mapM_eq_ok_iff.mpr made.directives, ?_⟩
    exact (madeOf_ofDirectives key made.directives).unique made

mutual

/-- Whether a node is what a rule makes under its key. -/
inductive Rule.Makes : String → Rule → Node → Prop
  | presence {which : Presence} {rule : Rule} {texts : List String}
      {groups : List PresenceGroup} : rule.groups? = some texts →
      List.Forall₂ (fun text group => PresenceGroup.read text = .ok group) texts groups →
      Makes which.key rule (.presence which groups)
  | field {key : String} {rule : Rule} {field : FieldRules} :
      (∀ which : Presence, key ≠ which.key) → rule.groups?.isSome →
      field.MadeOf key rule.tokens → Makes key rule (.field field)
  | nested {key : String} {rules : List (String × Rule)} {entries : List (String × Node)} :
      (∀ which : Presence, key ≠ which.key) → Rule.AllMake rules entries →
      Makes key (.nested rules) (.nested entries)
  | each {key : String} {rules : List (String × Rule)} {entries : List (String × Node)} :
      (∀ which : Presence, key ≠ which.key) → Rule.AllMake rules entries →
      Makes key (.each rules) (.each entries)

inductive Rule.AllMake : List (String × Rule) → List (String × Node) → Prop
  | nil : AllMake [] []
  | cons {key : String} {rule : Rule} {node : Node} {rules : List (String × Rule)}
      {entries : List (String × Node)} : rule.Makes key node → AllMake rules entries →
      AllMake ((key, rule) :: rules) ((key, node) :: entries)

end

theorem Presence.ofKey?_eq_some_iff {key : String} {which : Presence} :
    ofKey? key = some which ↔ key = which.key := by
  constructor
  · intro called
    simpa [eq_comm] using List.find?_some called
  · rintro rfl
    cases which <;> rfl

theorem Presence.ofKey?_eq_none_iff {key : String} :
    ofKey? key = none ↔ ∀ which : Presence, key ≠ which.key := by
  simp only [Option.eq_none_iff_forall_ne_some, ne_eq, ofKey?_eq_some_iff]

theorem Rule.makes_presence_iff {which : Presence} {rule : Rule} {node : Node} :
    rule.Makes which.key node ↔ ∃ texts, rule.groups? = some texts ∧ ∃ groups,
      List.Forall₂ (fun text group => PresenceGroup.read text = .ok group) texts groups ∧
        .presence which groups = node := by
  constructor
  · intro makes
    generalize named : which.key = key at makes
    cases makes with
    | @presence other _ texts groups grouped read =>
        have called := Presence.ofKey?_eq_some_iff.mpr named
        rw [Presence.ofKey?_eq_some_iff.mpr rfl] at called
        cases called
        exact ⟨texts, grouped, groups, read, rfl⟩
    | field plain => exact absurd named.symm (plain which)
    | nested plain => exact absurd named.symm (plain which)
    | each plain => exact absurd named.symm (plain which)
  · rintro ⟨texts, grouped, groups, read, rfl⟩
    exact .presence grouped read

section

variable {key : String} (plain : ∀ which : Presence, key ≠ which.key) {rule : Rule}
  {rules : List (String × Rule)} {node : Node}

include plain

theorem Rule.makes_field_iff (texts : rule.groups?.isSome) :
    rule.Makes key node ↔ ∃ field : FieldRules, field.MadeOf key rule.tokens ∧
      .field field = node := by
  constructor
  · intro makes
    cases makes with
    | presence => exact absurd rfl (plain _)
    | field _ _ made => exact ⟨_, made, rfl⟩
    | nested => cases texts
    | each => cases texts
  · rintro ⟨field, made, rfl⟩
    exact .field plain texts made

theorem Rule.makes_nested_iff :
    (Rule.nested rules).Makes key node ↔ ∃ entries, Rule.AllMake rules entries ∧
      .nested entries = node := by
  constructor
  · intro makes
    cases makes with
    | presence => exact absurd rfl (plain _)
    | field _ texts => cases texts
    | nested _ made => exact ⟨_, made, rfl⟩
  · rintro ⟨entries, made, rfl⟩
    exact .nested plain made

theorem Rule.makes_each_iff :
    (Rule.each rules).Makes key node ↔ ∃ entries, Rule.AllMake rules entries ∧
      .each entries = node := by
  constructor
  · intro makes
    cases makes with
    | presence => exact absurd rfl (plain _)
    | field _ texts => cases texts
    | each _ made => exact ⟨_, made, rfl⟩
  · rintro ⟨entries, made, rfl⟩
    exact .each plain made

end

theorem Node.ofGroups_eq_ok_iff {which : Presence} {path : String} {rule : Rule} {node : Node} :
    Node.ofGroups which path rule = .ok node ↔ rule.Makes which.key node := by
  rw [ofGroups, Rule.makes_presence_iff]
  cases rule.groups? with
  | none => simp
  | some texts => simp [Run.map_eq_ok_iff, Run.mapM_eq_ok_iff]

mutual

theorem Node.ofRule_eq_ok_iff (path : String) (key : String) (rule : Rule) (node : Node) :
    Node.ofRule path key rule = .ok node ↔ rule.Makes key node := by
  unfold Node.ofRule
  cases called : Presence.ofKey? key with
  | some which =>
      rw [Presence.ofKey?_eq_some_iff.mp called]
      exact Node.ofGroups_eq_ok_iff
  | none =>
      have plain := Presence.ofKey?_eq_none_iff.mp called
      match rule with
      | .nested rules =>
          rw [Rule.makes_nested_iff plain, Run.map_eq_ok_iff]
          exact exists_congr fun entries =>
            and_congr_left' (Node.ofRules_eq_ok_iff _ rules entries)
      | .each rules =>
          rw [Rule.makes_each_iff plain, Run.map_eq_ok_iff]
          exact exists_congr fun entries =>
            and_congr_left' (Node.ofRules_eq_ok_iff _ rules entries)
      | .text directives =>
          rw [Rule.makes_field_iff plain rfl, Run.map_eq_ok_iff]
          exact exists_congr fun field => and_congr_left' FieldRules.read_eq_ok_iff
      | .list directives =>
          rw [Rule.makes_field_iff plain rfl, Run.map_eq_ok_iff]
          exact exists_congr fun field => and_congr_left' FieldRules.read_eq_ok_iff

theorem Node.ofRules_eq_ok_iff (path : String) (rules : List (String × Rule))
    (entries : List (String × Node)) :
    Node.ofRules path rules = .ok entries ↔ Rule.AllMake rules entries := by
  match rules with
  | [] =>
      rw [Node.ofRules]
      constructor
      · rintro ⟨⟩
        exact .nil
      · rintro ⟨⟩
        rfl
  | (key, rule) :: rest =>
      rw [Node.ofRules, Run.bind_eq_ok_iff]
      constructor
      · rintro ⟨node, nodeRead, read⟩
        obtain ⟨others, othersRead, read⟩ := Run.bind_eq_ok_iff.mp read
        cases read
        exact .cons ((Node.ofRule_eq_ok_iff path key rule node).mp nodeRead)
          ((Node.ofRules_eq_ok_iff path rest others).mp othersRead)
      · rintro (_ | ⟨made, others⟩)
        refine ⟨_, (Node.ofRule_eq_ok_iff path key rule _).mpr made, ?_⟩
        rw [(Node.ofRules_eq_ok_iff path rest _).mpr others]
        rfl

end

/-- Reading rules is total, in order, and keeps their shape. A rule tree can be read when each of its
parts can; else the fault is that of the first part that cannot, depth first, in declaration order;
and what is read is what the tree makes, level by level. -/
theorem Schema.ofRules_in_order (rules : RuleTree) :
    ((∃ schema, Schema.ofRules rules = .ok schema) ↔ ∀ part ∈ rules.parts, part.Readable) ∧
    (∀ fault, Schema.ofRules rules = .error fault ↔
      ∃ earlier part later, rules.parts = earlier ++ part :: later ∧
        part.fault? = some fault ∧ ∀ other ∈ earlier, other.Readable) ∧
    ∀ schema, Schema.ofRules rules = .ok schema ↔ Rule.AllMake rules schema := by
  have first := Schema.fault?_ofRules rules
  simp only [← Part.fault?_eq_none_iff]
  refine ⟨?_, ?_, ?_⟩
  · rw [← Run.fault?_eq_none_iff, first, List.findSome?_eq_none_iff]
  · intro fault
    rw [← Run.fault?_eq_some_iff, first, List.findSome?_eq_some_iff]
  · intro schema
    exact Node.ofRules_eq_ok_iff "" rules schema

example : Schema.ofRules [("a", .text "string"),
    ("contact", .nested [("$atleast", .nested [("a", .text "size:ten")]), ("b", .text "size:ten")])] =
      .error (.malformedPresence "contact.$atleast") := by
  rfl

end Rulebook
