/-!
Rule trees: what is attached to each key, in declaration order. The two presence keys stand beside
the field keys and count how many fields of a group are there.
-/

namespace Rulebook

inductive Rule where
  | text (directives : String)
  /-- Directives one by one, for those that hold a bar. -/
  | list (directives : List String)
  | nested (rules : List (String × Rule))
  | each (rules : List (String × Rule))
  deriving Inhabited

/-- Keys and their rules. The keys are distinct. -/
abbrev RuleTree := List (String × Rule)

mutual

/-- Equality of rules in which the order of keys does not count. -/
def Rule.same : Rule → Rule → Bool
  | .text a, .text b => a == b
  | .list a, .list b => a == b
  | .nested a, .nested b => a.length == b.length && Rule.sameKeys a b
  | .each a, .each b => a.length == b.length && Rule.sameKeys a b
  | _, _ => false

def Rule.sameKeys : List (String × Rule) → List (String × Rule) → Bool
  | [], _ => true
  | (key, a) :: rest, rules =>
    (match rules.lookup key with
      | some b => a.same b
      | none => false) && Rule.sameKeys rest rules

end

def RuleTree.same (a b : RuleTree) : Bool :=
  a.length == b.length && Rule.sameKeys a b

inductive Presence where
  | atLeast | atMost
  deriving DecidableEq, Repr

namespace Presence

def key : Presence → String
  | .atLeast => "$atleast"
  | .atMost => "$atmost"

def ofKey? (key : String) : Option Presence :=
  [Presence.atLeast, .atMost].find? fun presence => presence.key = key

def isViolated (presence : Presence) (present threshold : Nat) : Bool :=
  match presence with
  | .atLeast => decide (present < threshold)
  | .atMost => decide (threshold < present)

end Presence

end Rulebook
