import Rulebook.Fault
import Rulebook.Rule

/-!
Reading rule trees from documents. A rule is a string of directives, a list of directives, an object
of rules, or a list that holds just one object of rules. What is wrong further down only shows as
something that is no rule; at the top a list of several rule trees is told apart.
-/

namespace Rulebook

def Document.strings? (items : List Document) : Option (List String) :=
  items.mapM fun
    | .string text => some text
    | _ => none

mutual

/-- The rule that a document is, if it is one. The empty list is a list of directives. -/
def Rule.read? : Document → Option Rule
  | .string directives => some (.text directives)
  | .list items =>
    match Document.strings? items with
    | some directives => some (.list directives)
    | none =>
      match Rule.readTrees? items with
      | some [rules] => some (.each rules)
      | _ => none
  | .object entries => (Rule.readEntries? entries).map .nested
  | _ => none

def Rule.readTrees? : List Document → Option (List RuleTree)
  | [] => some []
  | .object entries :: rest => do
    let rules ← Rule.readEntries? entries
    let others ← Rule.readTrees? rest
    return rules :: others
  | _ :: _ => none

def Rule.readEntries? : List (String × Document) → Option RuleTree
  | [] => some []
  | (key, document) :: rest => do
    let rule ← Rule.read? document
    let others ← Rule.readEntries? rest
    return (key, rule) :: others

end

def TreeDefect.ofDocument : Document → TreeDefect
  | .list items =>
    match Rule.readTrees? items with
    | some trees => .severalTrees trees.length
    | none => .notRule
  | _ => .notRule

def Rule.read (document : Document) : Except TreeDefect Rule :=
  match Rule.read? document with
  | some rule => .ok rule
  | none => .error (.ofDocument document)

/-- Reads a rule tree. The first key whose rule cannot be read decides what is wrong. -/
def RuleTree.read : Document → Except TreeDefect RuleTree
  | .object entries => entries.mapM fun (key, document) => (Rule.read document).map (key, ·)
  | found => .error (.notObject found)

end Rulebook
