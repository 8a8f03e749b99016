import Rulebook.Proofs.Run
import Rulebook.Review

/-!
Tours. What a walk comes to is settled by the schema and the data: the fields it looks at, the
groups it counts, the values that cannot be walked, and the levels it enters. A review says at each
of these stops, in order, what there is to say; only the end of a level depends on whether it is
strict.
-/

namespace Rulebook

/-- Where a walk comes to, with what it finds there. -/
inductive Stop where
  | field (rules : FieldRules) (place : Place) (value : Value)
  | group (which : Presence) (content : PresenceGroup) (place : Place) (data : Value)
  /-- A value in which there is no level to enter. -/
  | misfit (label : Label) (value : Value) (finding : Finding)
  | level (schema : Schema) (place : Place) (data : Value) (stops : List Stop)

mutual

def Node.stops (node : Node) (key : String) (data : Value) (place : Place) : List Stop :=
  match node with
  | .field rules => [.field rules (place ++ [.key key]) (data.resolve key)]
  | .presence which groups => groups.map fun content => .group which content place data
  | .nested entries =>
    let place : Place := place ++ [.key key]
    match data.resolve key with
    | .object fields =>
      [.level entries place (.object fields) (Node.stopsAll entries (.object fields) place)]
    | value => [.misfit (.place place) value .notObject]
  | .each entries =>
    let place : Place := place ++ [.key key]
    match data.resolve key with
    | .array items =>
      items.zipIdx.map fun (item, index) =>
        let place : Place := place ++ [Step.item index]
        .level entries place item (Node.stopsAll entries item place)
    | value => [.misfit (.place place) value (if value.isPresent then .notArray else .missing)]

def Node.stopsAll (entries : List (String × Node)) (data : Value) (place : Place) : List Stop :=
  match entries with
  | [] => []
  | (key, node) :: rest => Node.stops node key data place ++ Node.stopsAll rest data place

end

namespace Schema

def levelAt (schema : Schema) (data : Value) (place : Place) : Stop :=
  .level schema place data (Node.stopsAll schema data place)

/-- The tour of a walk over data on its own: one level with all stops on it, or none to enter. -/
def tour (schema : Schema) (data : Value) : Stop :=
  match data with
  | .object _ | .array _ => schema.levelAt data []
  | .undefined | .null => .misfit (.named "data") data .missing
  | _ => .misfit (.named "data") data .notContainer

end Schema

mutual

def Stop.review (strict : Bool) (stop : Stop) : Except Fault (List Message) :=
  match stop with
  | .field rules place value => rules.review place value
  | .group which content place data => .ok (content.review? which data place).toList
  | .misfit label _ finding => .ok [.complaint ⟨label, finding⟩]
  | .level schema place data stops =>
    schema.closeLevel strict data place (Stop.reviewAll strict stops)

def Stop.reviewAll (strict : Bool) (stops : List Stop) : Except Fault (List Message) :=
  match stops with
  | [] => .ok []
  | stop :: rest => do
    let messages ← Stop.review strict stop
    let others ← Stop.reviewAll strict rest
    return messages ++ others

end

namespace Stop

/-- Whether one stop is another, or lies somewhere on the levels of it. -/
inductive On : Stop → Stop → Prop
  | itself (stop : Stop) : On stop stop
  | further {stop next : Stop} {schema : Schema} {place : Place} {data : Value}
      {stops : List Stop} : next ∈ stops → On stop next → On stop (.level schema place data stops)

theorem reviewAll_append (strict : Bool) (first second : List Stop) :
    reviewAll strict (first ++ second) = do
      let found ← reviewAll strict first
      let others ← reviewAll strict second
      return found ++ others := by
  induction first with
  | nil => exact (Run.both_nil _).symm
  | cons head rest ih => rw [List.cons_append, reviewAll, reviewAll, ih, Run.both_assoc]

theorem reviewAll_singleton (strict : Bool) (stop : Stop) :
    reviewAll strict [stop] = stop.review strict := by
  rw [reviewAll]
  cases review strict stop with
  | error fault => rfl
  | ok messages => simp [reviewAll, bind, Except.bind, pure, Except.pure]

theorem reviewAll_map {α : Type} (strict : Bool) (stop : α → Stop) (items : List α) :
    reviewAll strict (items.map stop) =
      (items.mapM fun item => (stop item).review strict).map List.flatten := by
  induction items with
  | nil => rfl
  | cons head rest ih => rw [List.map_cons, reviewAll, ih, Run.mapM_flatten_cons]

theorem reviewAll_groups (strict : Bool) (which : Presence) (groups : List PresenceGroup)
    (place : Place) (data : Value) :
    reviewAll strict (groups.map fun content => .group which content place data) =
      .ok (groups.filterMap (PresenceGroup.review? which data place)) := by
  induction groups with
  | nil => rfl
  | cons head rest ih =>
      rw [List.map_cons, reviewAll, ih, review, List.filterMap_cons]
      cases PresenceGroup.review? which data place head <;> rfl

end Stop

mutual

theorem Node.review_eq_stops (strict : Bool) (node : Node) (key : String) (data : Value)
    (place : Place) :
    Node.review strict node key data place =
      Stop.reviewAll strict (Node.stops node key data place) :=
  match node with
  | .field rules => by
      rw [Node.review, Node.stops, Stop.reviewAll_singleton, Stop.review]
  | .presence which groups => by
      rw [Node.review, Node.stops, Stop.reviewAll_groups]
  | .nested entries => by
      rw [Node.review, Node.stops]
      cases data.resolve key with
      | object fields =>
          dsimp only
          rw [Stop.reviewAll_singleton, Stop.review, Node.reviewEntries_eq_stops strict entries]
      | _ => rw [Stop.reviewAll_singleton, Stop.review, Message.about]
  | .each entries => by
      rw [Node.review, Node.stops]
      cases data.resolve key with
      | array items =>
          dsimp only
          rw [Stop.reviewAll_map]
          congr 2
          funext entry
          rw [Stop.review, Node.reviewEntries_eq_stops strict entries]
      | _ => rw [Stop.reviewAll_singleton, Stop.review, Message.about]; rfl

theorem Node.reviewEntries_eq_stops (strict : Bool) (entries : List (String × Node))
    (data : Value) (place : Place) :
    Node.reviewEntries strict entries data place =
      Stop.reviewAll strict (Node.stopsAll entries data place) :=
  match entries with
  | [] => by rw [Node.reviewEntries, Node.stopsAll, Stop.reviewAll]
  | (key, node) :: rest => by
      rw [Node.reviewEntries, Node.stopsAll, Stop.reviewAll_append,
        Node.review_eq_stops strict node key data place,
        Node.reviewEntries_eq_stops strict rest data place]

end

/-- A review says what there is to say at the stops of the tour, in their order. -/
theorem Schema.review_eq_tour (schema : Schema) (strict : Bool) (data : Value) :
    schema.review strict data = (schema.tour data).review strict := by
  cases data with
  | object fields =>
      rw [review, tour, reviewLevel, levelAt, Stop.review, Node.reviewEntries_eq_stops]
  | array items =>
      rw [review, tour, reviewLevel, levelAt, Stop.review, Node.reviewEntries_eq_stops]
  | _ => rfl

/-- Which stops there are on a level, by the entries of its schema. -/
inductive Schema.Leads (schema : Schema) (data : Value) (place : Place) : Stop → Prop
  | field {key : String} {rules : FieldRules} : (key, .field rules) ∈ schema →
      Leads schema data place (.field rules (place ++ [.key key]) (data.resolve key))
  | group {key : String} {which : Presence} {groups : List PresenceGroup}
      {content : PresenceGroup} : (key, .presence which groups) ∈ schema → content ∈ groups →
      Leads schema data place (.group which content place data)
  | notObject {key : String} {inner : Schema} : (key, .nested inner) ∈ schema →
      (∀ fields, data.resolve key ≠ .object fields) →
      Leads schema data place
        (.misfit (.place (place ++ [.key key])) (data.resolve key) .notObject)
  | notArray {key : String} {inner : Schema} : (key, .each inner) ∈ schema →
      (∀ items, data.resolve key ≠ .array items) →
      Leads schema data place
        (.misfit (.place (place ++ [.key key])) (data.resolve key)
          (if (data.resolve key).isPresent then .notArray else .missing))
  | object {key : String} {inner : Schema} {fields : List (String × Value)} :
      (key, .nested inner) ∈ schema → data.resolve key = .object fields →
      Leads schema data place (inner.levelAt (.object fields) (place ++ [.key key]))
  | item {key : String} {inner : Schema} {items : List Value} {item : Value} {index : Nat} :
      (key, .each inner) ∈ schema → data.resolve key = .array items →
      items[index]? = some item →
      Leads schema data place (inner.levelAt item (place ++ [.key key] ++ [.item index]))

namespace Node

theorem mem_stopsAll_iff {entries : Schema} {data : Value} {place : Place} {stop : Stop} :
    stop ∈ stopsAll entries data place ↔
      ∃ entry ∈ entries, stop ∈ entry.2.stops entry.1 data place := by
  induction entries with
  | nil => simp [stopsAll]
  | cons head rest ih => simp [stopsAll, ih]

theorem leads_of_mem_stopsAll {schema : Schema} {data : Value} {place : Place} {stop : Stop}
    (member : stop ∈ stopsAll schema data place) : schema.Leads data place stop := by
  obtain ⟨⟨key, node⟩, entry, member⟩ := mem_stopsAll_iff.mp member
  cases node with
  | field rules =>
      rw [stops, List.mem_singleton] at member
      subst member
      exact .field entry
  | presence which groups =>
      rw [stops] at member
      obtain ⟨content, listed, rfl⟩ := List.mem_map.mp member
      exact .group entry listed
  | nested inner =>
      rw [stops] at member
      dsimp only at member
      split at member
      · rename_i fields found
        rw [List.mem_singleton] at member
        subst member
        exact .object entry found
      · rename_i other
        rw [List.mem_singleton] at member
        subst member
        exact .notObject entry other
  | each inner =>
      rw [stops] at member
      dsimp only at member
      split at member
      · rename_i items found
        obtain ⟨⟨item, index⟩, listed, rfl⟩ := List.mem_map.mp member
        exact .item entry found (List.mem_zipIdx_iff_getElem?.mp listed)
      · rename_i other
        rw [List.mem_singleton] at member
        subst member
        exact .notArray entry other

end Node

end Rulebook
