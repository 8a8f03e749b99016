import Rulebook.Clause
import Rulebook.Rule

/-!
Directives: the tokens that the rule of a field is made of. Each is read once, and its parameter is
checked then. Besides clauses there are two that are about messages: the title of the field in them,
and a message in place of all of them. The first of each counts.
-/

namespace Rulebook

inductive Directive where
  | title (name : String)
  /-- The message in place of all others of the field. -/
  | message (text : String)
  | clause (content : Clause)
  deriving BEq

namespace Directive

def read (token : String) : Except Fault Directive :=
  match Text.after? "field:".toList token.toList with
  | some name => .ok (.title (String.ofList name))
  | none =>
    match Text.after? "error:".toList token.toList with
    | some text => .ok (.message (String.ofList text))
    | none => (Clause.read token.toList).map .clause

def title? : Directive → Option String
  | .title name => some name
  | _ => none

def message? : Directive → Option String
  | .message text => some text
  | _ => none

def clause? : Directive → Option Clause
  | .clause content => some content
  | _ => none

end Directive

def Rule.tokens : Rule → List String
  | .text directives => if directives.isEmpty then [] else splitText '|' directives
  | .list directives => directives
  | .nested _ | .each _ => []

/-- The directives of a field, with the first title and the first message among them. -/
structure FieldRules where
  directives : List Directive
  title : Option String
  message : Option String
  deriving BEq

namespace FieldRules

/-- Whether a key is written like the label of an item: digits in brackets at its end. -/
def isItemLabel (key : String) : Bool :=
  match key.toList.reverse with
  | ']' :: front =>
    match Text.cutFirst? '[' front with
    | some (index, _) => !index.isEmpty && index.all Char.isDigit
    | none => false
  | _ => false

/-- The field of a key with its directives. A key written like the label of an item is not renamed.
-/
def ofDirectives (key : String) (directives : List Directive) : FieldRules :=
  { directives
    title := if isItemLabel key then none else directives.findSome? Directive.title?
    message := directives.findSome? Directive.message? }

def read (key : String) (tokens : List String) : Except Fault FieldRules :=
  (tokens.mapM Directive.read).map (ofDirectives key)

def clauses (field : FieldRules) : List Clause :=
  field.directives.filterMap Directive.clause?

end FieldRules

end Rulebook
