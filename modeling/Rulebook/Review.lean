import Rulebook.Check.Clause
import Rulebook.Schema

/-!
The walk over a schema and a data tree: what there is to say, in declaration order, repeats
included. A key under which an object or array of objects is expected leads one level down. On every
level that is walked, a strict review reports the keys of an object that no rule declares, after
everything else.
-/

namespace Rulebook

namespace FieldRules

def label (field : FieldRules) (place : Place) : Label :=
  match field.title with
  | some name => .named name
  | none => .place place

def complaints (field : FieldRules) (place : Place) (value : Value) :
    Except Fault (List Complaint) :=
  Clause.judgeAll (field.label place) value .fresh field.clauses

/-- What the field has to say. Its own message takes the place of all complaints. -/
def review (field : FieldRules) (place : Place) (value : Value) : Except Fault (List Message) :=
  (field.complaints place value).map fun complaints =>
    match field.message with
    | some text => if complaints.isEmpty then [] else [.custom text]
    | none => complaints.map .complaint

end FieldRules

namespace PresenceGroup

/-- How many fields of the group are there; one that is listed twice counts twice. -/
def present (group : PresenceGroup) (data : Value) : Nat :=
  group.fields.countP fun path => (data.resolve path).isPresent

def review? (which : Presence) (data : Value) (place : Place) (group : PresenceGroup) :
    Option Message :=
  if which.isViolated (group.present data) group.threshold then
    some <| match group.message with
      | some text => .custom text
      | none =>
        .presence which group.threshold
          (group.fields.map fun path => .place (place ++ [.key path]))
  else none

end PresenceGroup

def Message.about (place : Place) (finding : Finding) : Message :=
  .complaint ⟨.place place, finding⟩

/-- The keys of an object that no rule of its level declares. Keys with a dot are let pass. -/
def Schema.undeclared (schema : Schema) (data : Value) : List String :=
  ((data.entries?.getD []).map Prod.fst).filter fun key =>
    !(key.toList.contains '.' || schema.declares key)

def Schema.reviewKeys (schema : Schema) (strict : Bool) (data : Value) (place : Place) :
    List Message :=
  if strict then
    (schema.undeclared data).map fun key => .about (place ++ [.key key]) .undeclared
  else []

def Schema.closeLevel (schema : Schema) (strict : Bool) (data : Value) (place : Place)
    (entries : Except Fault (List Message)) : Except Fault (List Message) :=
  entries.map (· ++ schema.reviewKeys strict data place)

mutual

def Node.review (strict : Bool) (node : Node) (key : String) (data : Value) (place : Place) :
    Except Fault (List Message) :=
  match node with
  | .field rules => rules.review (place ++ [.key key]) (data.resolve key)
  | .presence which groups => .ok (groups.filterMap (PresenceGroup.review? which data place))
  | .nested entries =>
    let place : Place := place ++ [.key key]
    match data.resolve key with
    | .object fields =>
      Schema.closeLevel entries strict (.object fields) place
        (Node.reviewEntries strict entries (.object fields) place)
    | _ => .ok [.about place .notObject]
  | .each entries =>
    let place : Place := place ++ [.key key]
    match data.resolve key with
    | .array items =>
      (items.zipIdx.mapM fun (item, index) =>
        let place : Place := place ++ [Step.item index]
        Schema.closeLevel entries strict item place
          (Node.reviewEntries strict entries item place)).map List.flatten
    | .undefined | .null => .ok [.about place .missing]
    | _ => .ok [.about place .notArray]

def Node.reviewEntries (strict : Bool) (entries : List (String × Node)) (data : Value)
    (place : Place) : Except Fault (List Message) :=
  match entries with
  | [] => .ok []
  | (key, node) :: rest => do
    let messages ← Node.review strict node key data place
    let others ← Node.reviewEntries strict rest data place
    return messages ++ others

end

def Schema.reviewLevel (schema : Schema) (strict : Bool) (data : Value) (place : Place) :
    Except Fault (List Message) :=
  schema.closeLevel strict data place (Node.reviewEntries strict schema data place)

def Schema.review (schema : Schema) (strict : Bool) (data : Value) : Except Fault (List Message) :=
  match data with
  | .object _ | .array _ => schema.reviewLevel strict data []
  | .undefined | .null => .ok [.complaint ⟨.named "data", .missing⟩]
  | _ => .ok [.complaint ⟨.named "data", .notContainer⟩]

end Rulebook
