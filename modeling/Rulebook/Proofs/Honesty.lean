import Rulebook.Proofs.Grounds
import Rulebook.Proofs.Places

/-!
Honest labels. A walk carries a place along with every value, and nothing on the way compares the
two. They stay in step all the same: read as a path, the place of a level leads from the root to the
data of the level, and the label of a message leads to the value that the message is about.
-/

namespace Rulebook

mutual

/-- Whether no key is empty, on any level. -/
def Rule.Named : Rule → Prop
  | .text _ | .list _ => True
  | .nested rules | .each rules => Rule.AllNamed rules

def Rule.AllNamed : List (String × Rule) → Prop
  | [] => True
  | (key, rule) :: rest => key ≠ "" ∧ rule.Named ∧ Rule.AllNamed rest

end

def RuleTree.Named (rules : RuleTree) : Prop :=
  Rule.AllNamed rules

def PresenceGroup.Named (group : PresenceGroup) : Prop :=
  ∀ path ∈ group.fields, path ≠ ""

mutual

/-- Whether no key and no field of a group is empty, on any level. -/
def Node.Named : Node → Prop
  | .field _ => True
  | .presence _ groups => ∀ group ∈ groups, group.Named
  | .nested entries | .each entries => Node.AllNamed entries

def Node.AllNamed : List (String × Node) → Prop
  | [] => True
  | (key, node) :: rest => key ≠ "" ∧ node.Named ∧ Node.AllNamed rest

end

theorem Node.AllNamed.of_mem {entries : Schema} (named : Node.AllNamed entries) {key : String}
    {node : Node} (member : (key, node) ∈ entries) : key ≠ "" ∧ node.Named := by
  induction entries with
  | nil => cases member
  | cons head rest ih =>
      rw [Node.AllNamed] at named
      rcases List.mem_cons.mp member with first | later
      · subst first
        exact ⟨named.1, named.2.1⟩
      · exact ih named.2.2 later

theorem PresenceToken.ne_empty_of_read {group token path : String}
    (read : PresenceToken.read group token = .ok (.field path)) : path ≠ "" := by
  rw [PresenceToken.read] at read
  split at read
  · obtain ⟨count, _, sized⟩ := Run.map_eq_ok_iff.mp read
    cases sized
  · split at read
    · cases read
    · split at read
      · cases read
      · rename_i nonempty
        cases read
        simpa using nonempty

theorem PresenceGroup.named_of_read {text : String} {group : PresenceGroup}
    (read : PresenceGroup.read text = .ok group) : group.Named := by
  rw [PresenceGroup.read] at read
  obtain ⟨tokens, tokensRead, read⟩ := Run.bind_eq_ok_iff.mp read
  dsimp only at read
  split at read
  · cases read
  · cases read
    intro path member
    obtain ⟨token, listed, field⟩ := List.mem_filterMap.mp member
    obtain ⟨source, _, tokenRead⟩ := Run.exists_of_mem_mapM tokensRead listed
    cases token with
    | field found =>
        cases field
        exact PresenceToken.ne_empty_of_read tokenRead
    | size count => cases field
    | message text => cases field

theorem Node.named_of_ofGroups {which : Presence} {key : String} {rule : Rule} {node : Node}
    (read : Node.ofGroups which key rule = .ok node) : node.Named := by
  rw [Node.ofGroups] at read
  split at read
  · obtain ⟨groups, groupsRead, rfl⟩ := Run.map_eq_ok_iff.mp read
    rw [Node.Named]
    intro group member
    obtain ⟨text, _, groupRead⟩ := Run.exists_of_mem_mapM groupsRead member
    exact PresenceGroup.named_of_read groupRead
  · cases read

mutual

theorem Node.named_of_ofRule {path key : String} {rule : Rule} {node : Node}
    (read : Node.ofRule path key rule = .ok node) (named : rule.Named) : node.Named := by
  unfold Node.ofRule at read
  split at read
  · exact Node.named_of_ofGroups read
  · match rule with
    | .nested rules =>
        obtain ⟨entries, entriesRead, rfl⟩ := Run.map_eq_ok_iff.mp read
        rw [Rule.Named] at named
        rw [Node.Named]
        exact Node.named_of_ofRules entriesRead named
    | .each rules =>
        obtain ⟨entries, entriesRead, rfl⟩ := Run.map_eq_ok_iff.mp read
        rw [Rule.Named] at named
        rw [Node.Named]
        exact Node.named_of_ofRules entriesRead named
    | .text directives =>
        obtain ⟨field, _, rfl⟩ := Run.map_eq_ok_iff.mp read
        rw [Node.Named]
        trivial
    | .list directives =>
        obtain ⟨field, _, rfl⟩ := Run.map_eq_ok_iff.mp read
        rw [Node.Named]
        trivial

theorem Node.named_of_ofRules {path : String} {rules : List (String × Rule)} {entries : Schema}
    (read : Node.ofRules path rules = .ok entries) (named : Rule.AllNamed rules) :
    Node.AllNamed entries := by
  match rules with
  | [] =>
      rw [Node.ofRules] at read
      cases read
      rw [Node.AllNamed]
      trivial
  | (key, rule) :: rest =>
      rw [Node.ofRules] at read
      rw [Rule.AllNamed] at named
      obtain ⟨node, nodeRead, read⟩ := Run.bind_eq_ok_iff.mp read
      obtain ⟨others, othersRead, read⟩ := Run.bind_eq_ok_iff.mp read
      cases read
      rw [Node.AllNamed]
      exact ⟨named.1, Node.named_of_ofRule nodeRead named.2.1,
        Node.named_of_ofRules othersRead named.2.2⟩

end

/-- Whether a place is named, and its path leads from the root to a value. -/
structure Place.Reaches (root : Value) (place : Place) (value : Value) : Prop where
  named : place.Named
  leads : place.LeadsTo root value

namespace Place.Reaches

variable {root value : Value} {place : Place}

theorem start (root : Value) : Reaches root [] root := by
  refine ⟨?_, .start root⟩
  intro name member
  cases member

theorem key (reached : place.Reaches root value) {name : String} (nonempty : name ≠ "") :
    Reaches root (place ++ [.key name]) (value.resolve name) := by
  refine ⟨reached.named.concat ?_, reached.leads.key reached.named nonempty⟩
  intro other same
  cases same
  exact nonempty

theorem item {items : List Value} (reached : place.Reaches root (.array items)) {index : Nat}
    {item : Value} (found : items[index]? = some item) :
    Reaches root (place ++ [.item index]) item := by
  refine ⟨reached.named.concat ?_, reached.leads.item reached.named found⟩
  intro name same
  cases same

theorem items {earlier : List Clause} {clause : Clause} {indexes : List Nat} {examined : Value}
    {finding : Finding} (accused : clause.Accuses earlier value indexes examined finding)
    (reached : place.Reaches root value) :
    Reaches root (place ++ indexes.map .item) examined := by
  induction accused generalizing place with
  | itself found => simpa using reached
  | item placed unexcused accused ih =>
      have further := ih (reached.item placed)
      rwa [List.append_assoc, List.singleton_append] at further

end Place.Reaches

namespace Stop

/-- Whether a walk that started at the root can have come to the stop: where it is leads to what is
found there, and a level holds the stops of its schema. -/
def Rooted (root : Value) : Stop → Prop
  | .field _ place value => place.Reaches root value
  | .group _ content place data => place.Reaches root data ∧ content.Named
  | .misfit label value _ => ∀ place, label = .place place → place.Reaches root value
  | .level schema place data stops =>
    place.Reaches root data ∧ Node.AllNamed schema ∧ stops = Node.stopsAll schema data place

variable {root : Value}

theorem rooted_levelAt {schema : Schema} {place : Place} {data : Value}
    (reached : place.Reaches root data) (named : Node.AllNamed schema) :
    Rooted root (schema.levelAt data place) :=
  ⟨reached, named, rfl⟩

theorem Rooted.of_leads {schema : Schema} {place : Place} {data : Value} {next : Stop}
    (reached : place.Reaches root data) (named : Node.AllNamed schema)
    (leads : schema.Leads data place next) : next.Rooted root := by
  cases leads with
  | field entry => exact reached.key (named.of_mem entry).1
  | group entry listed =>
      have groups := (named.of_mem entry).2
      rw [Node.Named] at groups
      exact ⟨reached, groups _ listed⟩
  | notObject entry _ =>
      intro other same
      cases same
      exact reached.key (named.of_mem entry).1
  | notArray entry _ =>
      intro other same
      cases same
      exact reached.key (named.of_mem entry).1
  | object entry found =>
      obtain ⟨nonempty, inner⟩ := named.of_mem entry
      rw [Node.Named] at inner
      have further := reached.key nonempty
      rw [found] at further
      exact rooted_levelAt further inner
  | item entry found placed =>
      obtain ⟨nonempty, inner⟩ := named.of_mem entry
      rw [Node.Named] at inner
      have further := reached.key nonempty
      rw [found] at further
      exact rooted_levelAt (further.item placed) inner

theorem Rooted.of_on {stop start : Stop} (rooted : start.Rooted root) (on : On stop start) :
    stop.Rooted root := by
  induction on with
  | itself => exact rooted
  | further listed _ ih =>
      -- The stops of a level are those of its schema, so the entries tell what each can be.
      obtain ⟨reached, named, rfl⟩ := rooted
      exact ih (.of_leads reached named (Node.leads_of_mem_stopsAll listed))

theorem rooted_tour {schema : Schema} (named : Node.AllNamed schema) (root : Value) :
    (schema.tour root).Rooted root := by
  have unplaced (value : Value) (finding : Finding) :
      Rooted root (.misfit (.named "data") value finding) := fun _ same => nomatch same
  cases root with
  | object fields => exact rooted_levelAt (.start _) named
  | array items => exact rooted_levelAt (.start _) named
  | _ => exact unplaced _ _

theorem Rooted.reaches_of_tells {stop : Stop} (rooted : stop.Rooted root) {message : Message}
    {seen : List (Label × Value)} (tells : stop.Tells message seen) {place : Place}
    {value : Value} (looked : (Label.place place, value) ∈ seen) : place.Reaches root value := by
  cases tells with
  | @complaint rules _ _ _ _ _ _ _ _ _ _ accused =>
      rw [List.mem_singleton, FieldRules.label] at looked
      cases titled : rules.title with
      | some name =>
          rw [titled, Label.items_named] at looked
          cases looked
      | none =>
          rw [titled, Label.items_place] at looked
          cases looked
          exact rooted.items accused
  | presence _ _ =>
      obtain ⟨path, listed, same⟩ := List.mem_map.mp looked
      cases same
      exact rooted.1.key (rooted.2 path listed)
  | misfit =>
      rw [List.mem_singleton] at looked
      cases looked
      exact rooted place rfl
  | instead _ => cases looked
  | presenceInstead _ => cases looked
  | undeclared _ => cases looked

end Stop

/-- Labels are honest. The walk makes the stops of the tour; every level on it is found where its
place leads from the root, written as the place says; and what a message tells of under a place is
found there too. -/
theorem Schema.labels_lead_to_examined {rules : RuleTree} {schema : Schema}
    (read : Schema.ofRules rules = .ok schema) (named : rules.Named) (root : Value) :
    (∀ strict, schema.review strict root = (schema.tour root).review strict) ∧
    (∀ inner place data stops, Stop.On (.level inner place data stops) (schema.tour root) →
      place.LeadsTo root data ∧ place.text = place.written) ∧
    ∀ strict messages, schema.review strict root = .ok messages → ∀ message ∈ messages,
      ∃ stop seen, Stop.On stop (schema.tour root) ∧ stop.Tells message seen ∧
        ∀ place value, (Label.place place, value) ∈ seen →
          place.LeadsTo root value ∧ place.text = place.written := by
  have rooted := Stop.rooted_tour (Node.named_of_ofRules read named) root
  refine ⟨fun strict => review_eq_tour schema strict root, ?_, ?_⟩
  · intro inner place data stops on
    have reached := (rooted.of_on on).1
    exact ⟨reached.leads, Place.text_eq_written reached.named⟩
  · intro strict messages run message member
    rw [review_eq_tour] at run
    obtain ⟨stop, seen, on, tells⟩ := Stop.tells_of_mem_review _ run member
    refine ⟨stop, seen, on, tells, ?_⟩
    intro place value looked
    have reached := (rooted.of_on on).reaches_of_tells tells looked
    exact ⟨reached.leads, Place.text_eq_written reached.named⟩

theorem Schema.labels_lead_to_examined_tags :
    ∃ schema, Schema.ofRules [("users", .each [("tags", .text "arrayof:string")])] = .ok schema ∧
      RuleTree.Named [("users", .each [("tags", .text "arrayof:string")])] ∧
      Place.LeadsTo (.object [("users", .array [.object [("tags", .array [.bool true])]])])
        [.key "users", .item 0] (.object [("tags", .array [.bool true])]) ∧
      ∃ stop seen, Stop.Tells stop
          (.complaint ⟨.place [.key "users", .item 0, .key "tags", .item 0], .notKind .string⟩)
          seen ∧
        ∀ place value, (Label.place place, value) ∈ seen →
          place.LeadsTo (.object [("users", .array [.object [("tags", .array [.bool true])]])])
            value ∧ place.text = place.written := by
  have named : RuleTree.Named [("users", .each [("tags", .text "arrayof:string")])] := by
    simp [RuleTree.Named, Rule.AllNamed, Rule.Named]
  obtain ⟨_, levels, messages⟩ := Schema.labels_lead_to_examined rfl named
    (.object [("users", .array [.object [("tags", .array [.bool true])]])])
  refine ⟨_, rfl, named, ?_, ?_⟩
  · exact (levels _ _ _ _ (.further List.mem_cons_self (.itself _))).1
  · obtain ⟨stop, seen, _, tells, honest⟩ := messages false _ rfl _ List.mem_cons_self
    exact ⟨stop, seen, tells, honest⟩

end Rulebook
