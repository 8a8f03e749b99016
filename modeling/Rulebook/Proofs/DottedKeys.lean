import Rulebook.Proofs.DottedPaths
import Rulebook.Proofs.Rendering
import Rulebook.Proofs.Satisfaction

/-!
Dotted keys. Rules for the object under a key may stand one level further up, each under a dotted
key: where there is such an object, that comes to the same messages, and always to the same faults.
-/

namespace Rulebook

/-- A place in a rule tree at which entries can stand. -/
inductive Spot where
  | here (front back : RuleTree)
  | nested (front : RuleTree) (key : String) (below : Spot) (back : RuleTree)
  | each (front : RuleTree) (key : String) (below : Spot) (back : RuleTree)

namespace Spot

def fill : Spot → RuleTree → RuleTree
  | here front back, entries => front ++ entries ++ back
  | nested front key below back, entries => front ++ [(key, .nested (below.fill entries))] ++ back
  | each front key below back, entries => front ++ [(key, .each (below.fill entries))] ++ back

/-- The values whose level of the data meets the level of the spot. -/
def entered : Spot → Value → List Value
  | here _ _, value => [value]
  | nested _ key below _, value =>
    match value.resolve key with
    | .object fields => below.entered (.object fields)
    | _ => []
  | each _ key below _, value =>
    match value.resolve key with
    | .array items => items.flatMap below.entered
    | _ => []

end Spot

def dotted {α : Type} (front : String) (entries : List (String × α)) : List (String × α) :=
  entries.map fun (key, content) => (front ++ "." ++ key, content)

theorem dotted_cons {α : Type} (front key : String) (content : α) (rest : List (String × α)) :
    dotted front ((key, content) :: rest) = (front ++ "." ++ key, content) :: dotted front rest :=
  rfl

/-- Whether a level has the same to say by either schema, of data that fits. -/
def Schema.SameTexts (fits : Value → Prop) (first second : Schema) : Prop :=
  ∀ (quotes : Quotes) (place : Place) (data : Value), fits data →
    rendered quotes (Node.reviewEntries false first data place) =
      rendered quotes (Node.reviewEntries false second data place)

theorem Node.reviewEntries_append (strict : Bool) (first second : Schema) (data : Value)
    (place : Place) :
    Node.reviewEntries strict (first ++ second) data place = do
      let found ← Node.reviewEntries strict first data place
      let others ← Node.reviewEntries strict second data place
      return found ++ others := by
  induction first with
  | nil => exact (Run.both_nil _).symm
  | cons head rest ih =>
      obtain ⟨key, node⟩ := head
      rw [List.cons_append, reviewEntries, reviewEntries, ih, Run.both_assoc]

theorem Node.ofRules_append (path : String) (first second : RuleTree) :
    Node.ofRules path (first ++ second) = do
      let found ← Node.ofRules path first
      let others ← Node.ofRules path second
      return found ++ others := by
  induction first with
  | nil => exact (Run.both_nil _).symm
  | cons head rest ih =>
      obtain ⟨key, rule⟩ := head
      rw [List.cons_append, ofRules, ofRules, ih]
      cases Node.ofRule path key rule with
      | error fault => rfl
      | ok node =>
          cases Node.ofRules path rest with
          | error fault => rfl
          | ok nodes => cases Node.ofRules path second <;> rfl

namespace Schema

theorem sameTexts_refl (fits : Value → Prop) (schema : Schema) : schema.SameTexts fits schema :=
  fun _ _ _ _ => rfl

theorem SameTexts.mono {stronger weaker : Value → Prop} {first second : Schema}
    (implies : ∀ data, stronger data → weaker data) (same : first.SameTexts weaker second) :
    first.SameTexts stronger second :=
  fun quotes place data fits => same quotes place data (implies data fits)

theorem SameTexts.append {fits : Value → Prop} {first second third fourth : Schema}
    (front : first.SameTexts fits second) (back : third.SameTexts fits fourth) :
    SameTexts fits (first ++ third) (second ++ fourth) := by
  intro quotes place data fit
  rw [Node.reviewEntries_append, Node.reviewEntries_append, rendered_both, rendered_both,
    front quotes place data fit, back quotes place data fit]

theorem reviewEntries_singleton (strict : Bool) (key : String) (node : Node) (data : Value)
    (place : Place) :
    Node.reviewEntries strict [(key, node)] data place = node.review strict key data place := by
  rw [Node.reviewEntries]
  cases Node.review strict node key data place with
  | error fault => rfl
  | ok messages => simp [Node.reviewEntries, bind, Except.bind, pure, Except.pure]

theorem SameTexts.nested {below : Value → Prop} {first second : Schema} (key : String)
    (same : first.SameTexts below second) :
    SameTexts (fun data => ∀ fields, data.resolve key = .object fields → below (.object fields))
      [(key, .nested first)] [(key, .nested second)] := by
  intro quotes place data fits
  rw [reviewEntries_singleton, reviewEntries_singleton, Node.review, Node.review]
  simp only [closeLevel_lenient]
  split
  · rename_i fields found
    exact same quotes _ _ (fits fields found)
  · rfl

theorem SameTexts.each {below : Value → Prop} {first second : Schema} (key : String)
    (same : first.SameTexts below second) :
    SameTexts (fun data => ∀ items, data.resolve key = .array items → ∀ item ∈ items, below item)
      [(key, .each first)] [(key, .each second)] := by
  intro quotes place data fits
  rw [reviewEntries_singleton, reviewEntries_singleton, Node.review, Node.review]
  simp only [closeLevel_lenient]
  split
  · rename_i items found
    rw [rendered_flatten, rendered_flatten, Run.mapM_congr]
    intro entry member
    exact same quotes _ _ (fits items found entry.1 (List.fst_mem_of_mem_zipIdx member))
  · rfl
  · rfl
  · rfl

end Schema

variable {front key : String}

theorem Node.rendered_reviewEntries_dotted (frontNonempty : front ≠ "") {entries : Schema}
    (declared : ∀ entry ∈ entries, entry.1 ≠ "" ∧ entry.2.isDeclaration = true)
    (quotes : Quotes) (strict : Bool) (data : Value) (place : Place) :
    rendered quotes (Node.reviewEntries strict (dotted front entries) data place) =
      rendered quotes (Node.reviewEntries strict entries (data.resolve front)
        (place ++ [.key front])) := by
  induction entries with
  | nil => rfl
  | cons head rest ih =>
      obtain ⟨key, node⟩ := head
      rw [List.forall_mem_cons] at declared
      rw [dotted_cons, reviewEntries, reviewEntries, rendered_both, rendered_both, ih declared.2,
        rendered_review (Place.text_dotted frontNonempty place key)
          (Value.resolve_dotted frontNonempty declared.1.1 data) strict node declared.1.2]

theorem Schema.sameTexts_dotted (frontNonempty : front ≠ "") {entries : Schema}
    (declared : ∀ entry ∈ entries, entry.1 ≠ "" ∧ entry.2.isDeclaration = true) :
    SameTexts (fun data => ∃ fields, data.resolve front = .object fields)
      [(front, .nested entries)] (dotted front entries) := by
  rintro quotes place data ⟨fields, found⟩
  rw [reviewEntries_singleton, Node.rendered_reviewEntries_dotted frontNonempty declared, found,
    Node.review, found]
  simp only [closeLevel_lenient]

namespace Node

theorem isDeclaration_of_ofRule {path : String} {rule : Rule} {node : Node}
    (plain : Presence.ofKey? key = none) (read : Node.ofRule path key rule = .ok node) :
    node.isDeclaration = true := by
  cases rule <;>
    · simp only [ofRule, plain] at read
      obtain ⟨content, _, rfl⟩ := Run.map_eq_ok_iff.mp read
      rfl

theorem declared_of_ofRules {path : String} {rules : RuleTree} {entries : Schema}
    (plain : ∀ entry ∈ rules, entry.1 ≠ "" ∧ Presence.ofKey? entry.1 = none)
    (read : Node.ofRules path rules = .ok entries) :
    ∀ entry ∈ entries, entry.1 ≠ "" ∧ entry.2.isDeclaration = true := by
  induction rules generalizing entries with
  | nil =>
      cases read
      simp
  | cons head rest ih =>
      obtain ⟨key, rule⟩ := head
      rw [List.forall_mem_cons] at plain
      rw [ofRules] at read
      obtain ⟨node, nodeRead, read⟩ := Run.bind_eq_ok_iff.mp read
      obtain ⟨others, othersRead, read⟩ := Run.bind_eq_ok_iff.mp read
      cases read
      rw [List.forall_mem_cons]
      exact ⟨⟨plain.1.1, isDeclaration_of_ofRule plain.1.2 nodeRead⟩, ih plain.2 othersRead⟩

theorem ofRule_dotted (frontNonempty : front ≠ "") (keyNonempty : key ≠ "")
    (plain : Presence.ofKey? key = none) (path : String) (rule : Rule) :
    Node.ofRule path (front ++ "." ++ key) rule =
      Node.ofRule (Place.qualify path front) key rule := by
  have sameField (tokens : List String) :
      FieldRules.read (front ++ "." ++ key) tokens = FieldRules.read key tokens := by
    rw [FieldRules.read, FieldRules.read]
    congr 1
    funext directives
    rw [FieldRules.ofDirectives, FieldRules.ofDirectives, FieldRules.isItemLabel_dotted keyNonempty]
  cases rule <;>
    simp only [ofRule, plain, Presence.ofKey?_dotted, Place.qualify_dotted frontNonempty, sameField]

theorem ofRules_dotted (frontNonempty : front ≠ "") {rules : RuleTree}
    (plain : ∀ entry ∈ rules, entry.1 ≠ "" ∧ Presence.ofKey? entry.1 = none) (path : String) :
    Node.ofRules path (dotted front rules) =
      (Node.ofRules (Place.qualify path front) rules).map (dotted front) := by
  induction rules with
  | nil => rfl
  | cons head rest ih =>
      obtain ⟨key, rule⟩ := head
      rw [List.forall_mem_cons] at plain
      rw [dotted_cons, ofRules, ofRules, ofRule_dotted frontNonempty plain.1.1 plain.1.2,
        ih plain.2, Run.map_bind]
      apply Run.bind_congr
      intro node _
      rw [Run.bind_map, Run.map_bind]
      rfl

theorem ofRules_singleton (path key : String) (rule : Rule) :
    Node.ofRules path [(key, rule)] =
      (Node.ofRule path key rule).map fun node => [(key, node)] := by
  rw [ofRules]
  cases Node.ofRule path key rule <;> rfl

end Node

namespace RuleTree

def SameTexts (path : String) (fits : Value → Prop) (first second : RuleTree) : Prop :=
  Run.Related (Schema.SameTexts fits) (Node.ofRules path first) (Node.ofRules path second)

variable {path : String} {fits below : Value → Prop} {first second third fourth : RuleTree}

theorem sameTexts_refl (rules : RuleTree) : rules.SameTexts path fits rules :=
  .refl (Schema.sameTexts_refl fits) (Node.ofRules path rules)

theorem SameTexts.mono {stronger weaker : Value → Prop}
    (implies : ∀ data, stronger data → weaker data) (same : first.SameTexts path weaker second) :
    first.SameTexts path stronger second :=
  Run.Related.mono (Schema.SameTexts.mono implies) same

theorem SameTexts.append (front : first.SameTexts path fits second)
    (back : third.SameTexts path fits fourth) :
    SameTexts path fits (first ++ third) (second ++ fourth) := by
  rw [SameTexts, Node.ofRules_append, Node.ofRules_append]
  apply front.bind
  intro _ _ same
  apply back.bind
  intro _ _ others
  exact .finished (same.append others)

theorem SameTexts.surround (middle : first.SameTexts path fits second) (front back : RuleTree) :
    SameTexts path fits (front ++ first ++ back) (front ++ second ++ back) :=
  ((sameTexts_refl front).append middle).append (sameTexts_refl back)

theorem SameTexts.nested (key : String)
    (same : first.SameTexts (Place.qualify path key) below second) :
    SameTexts path
      (fun data => ∀ fields, data.resolve key = .object fields → below (.object fields))
      [(key, .nested first)] [(key, .nested second)] := by
  rw [SameTexts, Node.ofRules_singleton, Node.ofRules_singleton, Node.ofRule, Node.ofRule]
  cases Presence.ofKey? key with
  | some which => exact .faulted _
  | none =>
      simp only [Run.map_map]
      exact Run.Related.map same fun same => same.nested key

theorem SameTexts.each (key : String)
    (same : first.SameTexts (Place.qualify path key) below second) :
    SameTexts path
      (fun data => ∀ items, data.resolve key = .array items → ∀ item ∈ items, below item)
      [(key, .each first)] [(key, .each second)] := by
  rw [SameTexts, Node.ofRules_singleton, Node.ofRules_singleton, Node.ofRule, Node.ofRule]
  cases Presence.ofKey? key with
  | some which => exact .faulted _
  | none =>
      simp only [Run.map_map]
      exact Run.Related.map same fun same => same.each key

theorem sameTexts_dotted (frontNonempty : front ≠ "") (frontPlain : Presence.ofKey? front = none)
    {rules : RuleTree}
    (plain : ∀ entry ∈ rules, entry.1 ≠ "" ∧ Presence.ofKey? entry.1 = none) (path : String) :
    SameTexts path (fun data => ∃ fields, data.resolve front = .object fields)
      [(front, .nested rules)] (dotted front rules) := by
  rw [SameTexts, Node.ofRules_singleton, Node.ofRules_dotted frontNonempty plain, Node.ofRule,
    frontPlain]
  cases read : Node.ofRules (Place.qualify path front) rules with
  | error fault => exact .faulted fault
  | ok entries =>
      exact .finished (Schema.sameTexts_dotted frontNonempty (Node.declared_of_ofRules plain read))

end RuleTree

namespace Spot

theorem sameTexts_fill {fits : Value → Prop} {first second : RuleTree} (spot : Spot)
    (path : String) (same : ∀ path, first.SameTexts path fits second) :
    (spot.fill first).SameTexts path (fun data => ∀ level ∈ spot.entered data, fits level)
      (spot.fill second) := by
  induction spot generalizing path with
  | here before after =>
      apply RuleTree.SameTexts.surround
      apply (same path).mono
      intro data fits
      exact fits data (List.mem_singleton.mpr rfl)
  | nested before key below after ih =>
      apply RuleTree.SameTexts.surround
      apply ((ih (Place.qualify path key)).nested key).mono
      intro data fits fields found level member
      apply fits level
      rw [entered, found]
      exact member
  | each before key below after ih =>
      apply RuleTree.SameTexts.surround
      apply ((ih (Place.qualify path key)).each key).mono
      intro data fits items found item itemMember level member
      apply fits level
      rw [entered, found]
      exact List.mem_flatMap.mpr ⟨item, itemMember, member⟩

end Spot

theorem Schema.messages_of_isContainer {data : Value} (container : data.IsContainer)
    {settings : Settings} (lenient : settings.strict = false) (schema : Schema) :
    schema.messages data settings =
      rendered settings.quotes (Node.reviewEntries false schema data []) := by
  rw [messages, lenient, review_of_isContainer container, reviewLevel, closeLevel_lenient, rendered]

theorem Schema.messages_of_not_isContainer {data : Value} (scalar : ¬ data.IsContainer)
    (settings : Settings) (first second : Schema) :
    first.messages data settings = second.messages data settings := by
  cases data with
  | object fields => exact absurd trivial scalar
  | array items => exact absurd trivial scalar
  | _ => rfl

namespace RuleTree

theorem SameTexts.messages {fits : Value → Prop} {first second : RuleTree}
    (same : first.SameTexts "" fits second) {data : Value} {settings : Settings}
    (lenient : settings.strict = false) (fit : data.IsContainer → fits data) :
    (Schema.ofRules first >>= fun schema => schema.messages data settings) =
      Schema.ofRules second >>= fun schema => schema.messages data settings := by
  apply Run.Related.bind_eq same
  intro former latter alike
  by_cases container : data.IsContainer
  · rw [Schema.messages_of_isContainer container lenient,
      Schema.messages_of_isContainer container lenient]
    exact alike settings.quotes [] data (fit container)
  · exact Schema.messages_of_not_isContainer container settings former latter

theorem tryValidate_eq_map_messages (rules : RuleTree) (data : Value) (settings : Settings) :
    rules.tryValidate data settings =
      (Schema.ofRules rules >>= fun schema => schema.messages data settings).map
        Outcome.ofMessages := by
  rw [Run.map_bind]
  rfl

end RuleTree

/-- Rules for the object under a key may as well stand one level up, under dotted keys: there are
the same faults, and for data that has the object there are the same messages. -/
theorem Spot.fill_dotted (spot : Spot) (front : String) (rules : RuleTree)
    (frontNonempty : front ≠ "") (frontPlain : Presence.ofKey? front = none)
    (plain : ∀ entry ∈ rules, entry.1 ≠ "" ∧ Presence.ofKey? entry.1 = none) :
    (∀ fault, Schema.ofRules (spot.fill [(front, .nested rules)]) = .error fault ↔
      Schema.ofRules (spot.fill (dotted front rules)) = .error fault) ∧
    ∀ (data : Value) (settings : Settings), settings.strict = false →
      (data.IsContainer → ∀ level ∈ spot.entered data,
        ∃ fields, level.resolve front = .object fields) →
      (Schema.ofRules (spot.fill [(front, .nested rules)]) >>= fun schema =>
          schema.messages data settings) =
        (Schema.ofRules (spot.fill (dotted front rules)) >>= fun schema =>
          schema.messages data settings) ∧
      RuleTree.tryValidate (spot.fill [(front, .nested rules)]) data settings =
        RuleTree.tryValidate (spot.fill (dotted front rules)) data settings := by
  have same := spot.sameTexts_fill "" (RuleTree.sameTexts_dotted frontNonempty frontPlain plain)
  refine ⟨same.error_iff, ?_⟩
  intro data settings lenient fits
  have sameMessages := same.messages lenient fits
  refine ⟨sameMessages, ?_⟩
  rw [RuleTree.tryValidate_eq_map_messages, RuleTree.tryValidate_eq_map_messages, sameMessages]

theorem Spot.fill_dotted_users :
    RuleTree.tryValidate
        [("users", .each [("name", .nested [("first", .text "string")])])]
        (.object [("users", .array [.object [("name", .object [("first", .bool true)])]])]) .plain =
      RuleTree.tryValidate [("users", .each [("name.first", .text "string")])]
        (.object [("users", .array [.object [("name", .object [("first", .bool true)])]])])
        .plain := by
  have users : (Spot.each [] "users" (.here [] []) []).entered
      (.object [("users", .array [.object [("name", .object [("first", .bool true)])]])]) =
        [.object [("name", .object [("first", .bool true)])]] := rfl
  refine ((Spot.fill_dotted (.each [] "users" (.here [] []) []) "name" [("first", .text "string")]
    (by decide) (by decide) (by decide)).2 _ _ rfl ?_).2
  intro _
  rw [users, List.forall_mem_singleton]
  exact ⟨[("first", .bool true)], rfl⟩

end Rulebook
