import Rulebook.Proofs.DottedPaths
import Rulebook.Proofs.Run
import Rulebook.Schema

/-!
Reading rules. A rule tree is read part by part, depth first, in declaration order. It can be read
when each of its parts can, and else the first that cannot tells the fault.
-/

namespace Rulebook

/-- What has to be read in a rule tree. -/
inductive Part where
  | token (text : String)
  | group (text : String)
  /-- A presence key that has rules below it, after the keys that lead to it from the root. -/
  | misplaced (keys : List String)

/-- Keys as one path, joined by dots. Empty keys in front lead nowhere and leave no trace. -/
def dottedPath (keys : List String) : String :=
  ".".intercalate (keys.dropWhile String.isEmpty)

/-- The fault of a part that cannot be read. -/
def Part.fault? : Part → Option Fault
  | .token text => Run.fault? (Directive.read text)
  | .group text => Run.fault? (PresenceGroup.read text)
  | .misplaced keys => some (.malformedPresence (dottedPath keys))

def Part.Readable : Part → Prop
  | .token text => ∃ directive, Directive.read text = .ok directive
  | .group text => ∃ group, PresenceGroup.read text = .ok group
  | .misplaced _ => False

theorem Part.fault?_eq_none_iff {part : Part} : part.fault? = none ↔ part.Readable := by
  cases part with
  | token text => exact Run.fault?_eq_none_iff
  | group text => exact Run.fault?_eq_none_iff
  | misplaced keys => simp [fault?, Readable]

mutual

/-- The parts of the rule under a key. `front` leads from the root to the level of the key. -/
def Rule.parts (front : List String) (key : String) (rule : Rule) : List Part :=
  match Presence.ofKey? key with
  | some _ =>
    match rule with
    | .text group => [.group group]
    | .list groups => groups.map .group
    | .nested _ | .each _ => [.misplaced (front ++ [key])]
  | none =>
    match rule with
    | .nested rules | .each rules => Rule.allParts (front ++ [key]) rules
    | rule => rule.tokens.map .token

def Rule.allParts (front : List String) : List (String × Rule) → List Part
  | [] => []
  | (key, rule) :: rest => rule.parts front key ++ Rule.allParts front rest

end

/-- The parts of a rule tree, depth first, in declaration order. -/
def RuleTree.parts (rules : RuleTree) : List Part :=
  Rule.allParts [] rules

theorem Place.qualify_dottedPath (keys : List String) (key : String) :
    Place.qualify (dottedPath keys) key = dottedPath (keys ++ [key]) := by
  rw [dottedPath, dottedPath, List.dropWhile_append]
  cases kept : keys.dropWhile String.isEmpty with
  | nil => by_cases empty : key = "" <;> simp [qualify, empty]
  | cons head rest =>
      have named : head ≠ "" := by
        have remains : keys.dropWhile String.isEmpty ≠ [] := by simp [kept]
        have notEmpty := List.head_dropWhile_not String.isEmpty remains
        simpa [kept] using notEmpty
      have nonempty : ".".intercalate (head :: rest) ≠ "" := by
        cases rest <;> simp [String.intercalate_cons_cons, named]
      rw [qualify, if_neg (by simpa using nonempty), if_neg (by simp),
        String.intercalate_append_of_ne_nil (by simp) (by simp), String.intercalate_singleton]

theorem FieldRules.fault?_read (key : String) (tokens : List String) :
    Run.fault? (FieldRules.read key tokens) =
      (tokens.map Part.token).findSome? Part.fault? := by
  rw [read, Run.fault?_map, Run.fault?_mapM, List.findSome?_map]
  rfl

theorem PresenceGroup.fault?_mapM_read (texts : List String) :
    Run.fault? (texts.mapM read) = (texts.map Part.group).findSome? Part.fault? := by
  rw [Run.fault?_mapM, List.findSome?_map]
  rfl

theorem Node.fault?_ofGroups (which : Presence) (front : List String) (key : String)
    (rule : Rule) (called : Presence.ofKey? key = some which) :
    Run.fault? (Node.ofGroups which (dottedPath (front ++ [key])) rule) =
      (rule.parts front key).findSome? Part.fault? := by
  unfold Rule.parts
  rw [called]
  cases rule with
  | text group =>
      rw [ofGroups, Rule.groups?, Run.fault?_map, PresenceGroup.fault?_mapM_read]
      rfl
  | list groups => rw [ofGroups, Rule.groups?, Run.fault?_map, PresenceGroup.fault?_mapM_read]
  | nested rules => rfl
  | each rules => rfl

mutual

theorem Node.fault?_ofRule (front : List String) (key : String) (rule : Rule) :
    Run.fault? (Node.ofRule (dottedPath front) key rule) =
      (rule.parts front key).findSome? Part.fault? := by
  unfold Node.ofRule
  rw [Place.qualify_dottedPath]
  cases called : Presence.ofKey? key with
  | some which => exact Node.fault?_ofGroups which front key rule called
  | none =>
      unfold Rule.parts
      rw [called]
      match rule with
      | .nested rules => exact (Run.fault?_map _ _).trans (Node.fault?_ofRules _ rules)
      | .each rules => exact (Run.fault?_map _ _).trans (Node.fault?_ofRules _ rules)
      | .text directives => exact (Run.fault?_map _ _).trans (FieldRules.fault?_read key _)
      | .list directives => exact (Run.fault?_map _ _).trans (FieldRules.fault?_read key _)

theorem Node.fault?_ofRules (front : List String) (rules : List (String × Rule)) :
    Run.fault? (Node.ofRules (dottedPath front) rules) =
      (Rule.allParts front rules).findSome? Part.fault? := by
  match rules with
  | [] =>
      rw [Node.ofRules, Rule.allParts]
      rfl
  | (key, rule) :: rest =>
      rw [Node.ofRules, Rule.allParts, Run.fault?_both, List.findSome?_append,
        Node.fault?_ofRule front key rule, Node.fault?_ofRules front rest]

end

theorem Schema.fault?_ofRules (rules : RuleTree) :
    Run.fault? (Schema.ofRules rules) = rules.parts.findSome? Part.fault? :=
  Node.fault?_ofRules [] rules

end Rulebook
