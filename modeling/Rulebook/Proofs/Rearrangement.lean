import Rulebook.Proofs.DottedKeys

/-!
The order of keys. What a level has to say is what each of its keys has to say alone, one after the
other. The order of the keys, on any level, is only the order of what is said: it neither makes a
fault nor keeps one away, and changes no verdict.
-/

namespace Rulebook

/-- Rule trees with the same keys and rules on every level, in whatever order. -/
inductive RuleTree.Rearranged : RuleTree → RuleTree → Prop
  | level {rules others : RuleTree} : rules.Perm others → Rearranged rules others
  | nested {rules others : RuleTree} (key : String) (rest : RuleTree) : Rearranged rules others →
      Rearranged ((key, .nested rules) :: rest) ((key, .nested others) :: rest)
  | each {rules others : RuleTree} (key : String) (rest : RuleTree) : Rearranged rules others →
      Rearranged ((key, .each rules) :: rest) ((key, .each others) :: rest)
  | trans {first second third : RuleTree} : Rearranged first second → Rearranged second third →
      Rearranged first third

theorem Schema.declares_append (first second : Schema) (key : String) :
    Schema.declares (first ++ second) key = (first.declares key || second.declares key) :=
  List.any_append

/-- Whether two schemas declare the same keys and have the same to say of a level of any data, in
some order. -/
structure Schema.Agrees (first second : Schema) : Prop where
  declares : ∀ key, first.declares key = second.declares key
  entries : ∀ strict data place, Run.Akin List.Perm (Node.reviewEntries strict first data place)
    (Node.reviewEntries strict second data place)

namespace Schema.Agrees

theorem refl (schema : Schema) : schema.Agrees schema where
  declares _ := rfl
  entries _ _ _ := .refl .refl _

theorem trans {first second third : Schema} (former : first.Agrees second)
    (latter : second.Agrees third) : first.Agrees third where
  declares key := (former.declares key).trans (latter.declares key)
  entries strict data place :=
    (former.entries strict data place).trans .trans (latter.entries strict data place)

theorem append {first second third fourth : Schema} (front : first.Agrees second)
    (back : third.Agrees fourth) : Schema.Agrees (first ++ third) (second ++ fourth) where
  declares key := by
    rw [declares_append, declares_append, front.declares key, back.declares key]
  entries strict data place := by
    rw [Node.reviewEntries_append, Node.reviewEntries_append]
    exact .both .append (front.entries strict data place) (back.entries strict data place)

theorem append_comm (first second : Schema) :
    Schema.Agrees (first ++ second) (second ++ first) where
  declares key := by
    rw [declares_append, declares_append, Bool.or_comm]
  entries strict data place := by
    rw [Node.reviewEntries_append, Node.reviewEntries_append]
    exact .both_comm (fun _ _ => List.perm_append_comm) _ _

theorem reviewLevel {first second : Schema} (agree : first.Agrees second) (strict : Bool)
    (data : Value) (place : Place) :
    Run.Akin List.Perm (Schema.closeLevel first strict data place
        (Node.reviewEntries strict first data place))
      (Schema.closeLevel second strict data place
        (Node.reviewEntries strict second data place)) := by
  have sameKeys : Schema.reviewKeys first strict data place =
      Schema.reviewKeys second strict data place := by
    simp only [Schema.reviewKeys, Schema.undeclared, agree.declares]
  apply (agree.entries strict data place).map
  intro found others permuted
  rw [sameKeys]
  exact permuted.append_right _

theorem nested {first second : Schema} (key : String) (agree : first.Agrees second) :
    Schema.Agrees [(key, .nested first)] [(key, .nested second)] where
  declares _ := rfl
  entries strict data place := by
    rw [Schema.reviewEntries_singleton, Schema.reviewEntries_singleton, Node.review, Node.review]
    split
    · exact agree.reviewLevel strict _ _
    · exact .refl .refl _

theorem each {first second : Schema} (key : String) (agree : first.Agrees second) :
    Schema.Agrees [(key, .each first)] [(key, .each second)] where
  declares _ := rfl
  entries strict data place := by
    rw [Schema.reviewEntries_singleton, Schema.reviewEntries_singleton, Node.review, Node.review]
    split
    · exact .mapM_flatten .nil .append fun entry _ => agree.reviewLevel strict entry.1 _
    · exact .refl .refl _
    · exact .refl .refl _
    · exact .refl .refl _

theorem review {first second : Schema} (agree : first.Agrees second) (strict : Bool)
    (data : Value) : Run.Akin List.Perm (first.review strict data) (second.review strict data) := by
  by_cases container : data.IsContainer
  · rw [Schema.review_of_isContainer container, Schema.review_of_isContainer container]
    exact agree.reviewLevel strict data []
  · obtain ⟨message, said⟩ := Schema.review_of_not_isContainer container
    rw [said, said]
    exact .refl .refl _

theorem messages {first second : Schema} (agree : first.Agrees second) (data : Value)
    (settings : Settings) :
    Run.Akin List.Perm (first.messages data settings) (second.messages data settings) :=
  (agree.review settings.strict data).map fun permuted => permuted.map _

end Schema.Agrees

/-- Two outcomes that hold the same messages, and come to the same verdict. -/
structure Outcome.SaysSame (first second : Outcome) : Prop where
  messages : ∀ text, text ∈ first.messages ↔ text ∈ second.messages
  isValid : first.isValid = second.isValid

theorem Outcome.saysSame_of_perm {first second : List String} (permuted : first.Perm second) :
    (ofMessages first).SaysSame (ofMessages second) where
  messages text := by
    rw [messages_ofMessages, messages_ofMessages, mem_firstOccurrences, mem_firstOccurrences]
    exact permuted.mem_iff
  isValid := by
    rw [isValid_ofMessages, isValid_ofMessages, permuted.isEmpty_eq]

namespace RuleTree

/-- Whether both trees can be read, or neither, and then agree as schemas. -/
def Agrees (path : String) (rules others : RuleTree) : Prop :=
  Run.Akin Schema.Agrees (Node.ofRules path rules) (Node.ofRules path others)

variable {path : String} {first second third fourth : RuleTree}

namespace Agrees

theorem refl (rules : RuleTree) : rules.Agrees path rules :=
  Run.Akin.refl Schema.Agrees.refl _

theorem trans (former : first.Agrees path second) (latter : second.Agrees path third) :
    first.Agrees path third :=
  Run.Akin.trans .trans former latter

theorem append (front : first.Agrees path second) (back : third.Agrees path fourth) :
    Agrees path (first ++ third) (second ++ fourth) := by
  rw [Agrees, Node.ofRules_append, Node.ofRules_append]
  exact .both .append front back

theorem append_comm (rules others : RuleTree) :
    Agrees path (rules ++ others) (others ++ rules) := by
  rw [Agrees, Node.ofRules_append, Node.ofRules_append]
  exact .both_comm Schema.Agrees.append_comm _ _

theorem nested (key : String) (agree : first.Agrees (Place.qualify path key) second) :
    Agrees path [(key, .nested first)] [(key, .nested second)] := by
  rw [Agrees, Node.ofRules_singleton, Node.ofRules_singleton, Node.ofRule, Node.ofRule]
  cases Presence.ofKey? key with
  | some which => exact .faulted _ _
  | none =>
      simp only [Run.map_map]
      exact Run.Akin.map agree fun agree => agree.nested key

theorem each (key : String) (agree : first.Agrees (Place.qualify path key) second) :
    Agrees path [(key, .each first)] [(key, .each second)] := by
  rw [Agrees, Node.ofRules_singleton, Node.ofRules_singleton, Node.ofRule, Node.ofRule]
  cases Presence.ofKey? key with
  | some which => exact .faulted _ _
  | none =>
      simp only [Run.map_map]
      exact Run.Akin.map agree fun agree => agree.each key

theorem of_perm (permuted : first.Perm second) : first.Agrees path second := by
  induction permuted with
  | nil => exact refl []
  | cons entry _ ih => exact (refl [entry]).append ih
  | swap entry other rest => exact (append_comm [other] [entry]).append (refl rest)
  | trans _ _ former latter => exact former.trans latter

end Agrees

theorem Rearranged.agrees (rearranged : first.Rearranged second) (path : String) :
    first.Agrees path second := by
  induction rearranged generalizing path with
  | level permuted => exact .of_perm permuted
  | nested key rest _ ih => exact ((ih (Place.qualify path key)).nested key).append (.refl rest)
  | each key rest _ ih => exact ((ih (Place.qualify path key)).each key).append (.refl rest)
  | trans _ _ former latter => exact (former path).trans (latter path)

/-- The messages of a level, leniently, are what its keys have to say alone, in declaration order. -/
theorem reviewLevel_of_ofRules {rules : RuleTree} {schema : Schema}
    (read : Node.ofRules path rules = .ok schema) (data : Value) (place : Place) :
    schema.reviewLevel false data place =
      (rules.mapM fun entry => do
        let alone ← Node.ofRules path [entry]
        Schema.reviewLevel alone false data place).map List.flatten := by
  simp only [Schema.reviewLevel, Schema.closeLevel_lenient]
  induction rules generalizing schema with
  | nil =>
      cases read
      rfl
  | cons entry rest ih =>
      rw [← List.singleton_append, Node.ofRules_append] at read
      obtain ⟨alone, aloneRead, read⟩ := Run.bind_eq_ok_iff.mp read
      obtain ⟨others, othersRead, read⟩ := Run.bind_eq_ok_iff.mp read
      cases read
      rw [Run.mapM_flatten_cons, Node.reviewEntries_append, ← ih othersRead, aloneRead]
      rfl

theorem messages_of_ofRules {rules : RuleTree} {schema : Schema}
    (read : Schema.ofRules rules = .ok schema) {data : Value} (container : data.IsContainer)
    {settings : Settings} (lenient : settings.strict = false) :
    schema.messages data settings =
      (rules.mapM fun entry => do
        let alone ← Schema.ofRules [entry]
        alone.messages data settings).map List.flatten := by
  have texts (schema : Schema) : schema.messages data settings =
      rendered settings.quotes (schema.reviewLevel false data []) := by
    rw [Schema.messages, lenient, Schema.review_of_isContainer container, rendered]
  rw [texts, reviewLevel_of_ofRules read, rendered_flatten]
  simp only [texts, rendered, Run.map_bind]
  rfl

theorem Agrees.tryValidate (agree : first.Agrees "" second) (data : Value) (settings : Settings) :
    Run.Akin Outcome.SaysSame (first.tryValidate data settings)
      (second.tryValidate data settings) :=
  agree.bind fun agree =>
    (agree.messages data settings).map fun permuted => Outcome.saysSame_of_perm permuted

/-- Keys are independent, and their order is only presentation. The messages of a level are, without
strictness, what its keys have to say alone, in declaration order. However the keys are reordered, on
any levels, both trees can be read or neither, a validation stops by a fault with both or neither,
and else it comes to the same messages and the same verdict. -/
theorem independent_of_order (rules : RuleTree) :
    (∀ path schema, Node.ofRules path rules = .ok schema →
      ∀ data place, schema.reviewLevel false data place =
        (rules.mapM fun entry => do
          let alone ← Node.ofRules path [entry]
          Schema.reviewLevel alone false data place).map List.flatten) ∧
    (∀ schema, Schema.ofRules rules = .ok schema →
      ∀ data settings, data.IsContainer → settings.strict = false →
        schema.messages data settings =
          (rules.mapM fun entry => do
            let alone ← Schema.ofRules [entry]
            alone.messages data settings).map List.flatten) ∧
    ∀ others, rules.Rearranged others →
      ((∃ fault, Schema.ofRules rules = .error fault) ↔
        ∃ fault, Schema.ofRules others = .error fault) ∧
      ∀ data settings, Run.Akin Outcome.SaysSame (rules.tryValidate data settings)
        (others.tryValidate data settings) := by
  refine ⟨?_, ?_, ?_⟩
  · intro path schema read data place
    exact reviewLevel_of_ofRules read data place
  · intro schema read data settings container lenient
    exact messages_of_ofRules read container lenient
  · intro others rearranged
    have agree := rearranged.agrees ""
    exact ⟨Run.Akin.error_iff agree, agree.tryValidate⟩

theorem independent_of_order_user :
    Schema.messages [("name", .field ⟨[.clause (.kind .string)], none, none⟩),
        ("user", .nested [("age", .field ⟨[.clause (.kind .number)], none, none⟩),
          ("mail", .field ⟨[.clause (.kind .string)], none, none⟩)])]
        (.object [("user", .object [("fax", .null)])]) ⟨.double, false⟩ =
      (List.mapM
        (fun entry => do
          let alone ← Schema.ofRules [entry]
          alone.messages (.object [("user", .object [("fax", .null)])]) ⟨.double, false⟩)
        [("name", .text "string"),
          ("user", .nested [("age", .text "number"), ("mail", .text "string")])]).map
            List.flatten ∧
    Run.Akin Outcome.SaysSame
      (RuleTree.tryValidate [("name", .text "string"),
          ("user", .nested [("age", .text "number"), ("mail", .text "string")])]
        (.object [("user", .object [("fax", .null)])]) ⟨.double, true⟩)
      (RuleTree.tryValidate [("user", .nested [("mail", .text "string"), ("age", .text "number")]),
          ("name", .text "string")]
        (.object [("user", .object [("fax", .null)])]) ⟨.double, true⟩) := by
  have rearranged : Rearranged [("name", .text "string"),
        ("user", .nested [("age", .text "number"), ("mail", .text "string")])]
      [("user", .nested [("mail", .text "string"), ("age", .text "number")]),
        ("name", .text "string")] :=
    .trans (.level (.swap _ _ [])) (.nested "user" _ (.level (.swap _ _ [])))
  refine ⟨?_, ((independent_of_order _).2.2 _ rearranged).2 _ _⟩
  exact (independent_of_order _).2.1 _ rfl _ _ trivial rfl

end RuleTree

end Rulebook
