import Rulebook.Directive
import Rulebook.PresenceGroup

/-!
Schemas: rule trees whose tokens have all been read. A schema has the keys of its rule tree in the
same order. Making one finds every fault that the rules have by themselves, before any data is seen;
the first in declaration order, depth first, is the one that is told.
-/

namespace Rulebook

inductive Node where
  | field (rules : FieldRules)
  | nested (entries : List (String × Node))
  | each (entries : List (String × Node))
  | presence (which : Presence) (groups : List PresenceGroup)
  deriving Inhabited

/-- Keys and what they stand for, in declaration order. The keys are distinct. -/
abbrev Schema := List (String × Node)

def Node.ofGroups (which : Presence) (key : String) (rule : Rule) : Except Fault Node :=
  match rule.groups? with
  | some groups => (groups.mapM PresenceGroup.read).map (.presence which)
  | none => .error (.malformedPresence key)

mutual

/-- Reads the tokens of the rule under a key. `path` leads to the level of the key. -/
def Node.ofRule (path key : String) (rule : Rule) : Except Fault Node :=
  match Presence.ofKey? key with
  | some which => Node.ofGroups which (Place.qualify path key) rule
  | none =>
    match rule with
    | .nested rules => (Node.ofRules (Place.qualify path key) rules).map .nested
    | .each rules => (Node.ofRules (Place.qualify path key) rules).map .each
    | rule => (FieldRules.read key rule.tokens).map .field

def Node.ofRules (path : String) : RuleTree → Except Fault Schema
  | [] => .ok []
  | (key, rule) :: rest => do
    let node ← Node.ofRule path key rule
    let others ← Node.ofRules path rest
    return (key, node) :: others

end

mutual

def Node.same : Node → Node → Bool
  | .field a, .field b => a == b
  | .nested a, .nested b => Node.sameEntries a b
  | .each a, .each b => Node.sameEntries a b
  | .presence which groups, .presence other others => which == other && groups == others
  | _, _ => false

def Node.sameEntries : List (String × Node) → List (String × Node) → Bool
  | [], [] => true
  | (key, a) :: restA, (other, b) :: restB =>
    key == other && a.same b && Node.sameEntries restA restB
  | _, _ => false

end

def Node.isDeclaration : Node → Bool
  | .presence _ _ => false
  | _ => true

namespace Schema

def ofRules (rules : RuleTree) : Except Fault Schema :=
  Node.ofRules "" rules

def same (a b : Schema) : Bool :=
  Node.sameEntries a b

def get? (schema : Schema) (key : String) : Option Node :=
  schema.lookup key

def keys (schema : Schema) : List String :=
  schema.map Prod.fst

/-- Whether a key names a field here. Keys are compared as they stand, dots included. -/
def declares (schema : Schema) (key : String) : Bool :=
  schema.any fun (name, node) => name == key && node.isDeclaration

end Schema

end Rulebook
