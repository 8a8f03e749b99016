import Rulebook.Finding
import Rulebook.Path
import Rulebook.Rule
import Rulebook.Settings

/-!
Messages: what a validation has to say. A message is put together without regard to quotes, and only
`Message.render` puts them around the labels in it, so the choice of quotes cannot change what is
said.
-/

namespace Rulebook

/-- What a value is called: by a name of its own, or by its place. -/
inductive Label where
  | named (name : String)
  | place (steps : Place)
  deriving DecidableEq, Repr

namespace Label

def item (index : Nat) : Label → Label
  | .named name => .named (Place.itemText name index)
  | .place steps => .place (steps ++ [.item index])

def text : Label → String
  | .named name => name
  | .place steps => Place.text steps

end Label

structure Complaint where
  label : Label
  finding : Finding
  deriving DecidableEq, Repr

inductive Message where
  | custom (text : String)
  | complaint (content : Complaint)
  | presence (which : Presence) (threshold : Nat) (labels : List Label)
  deriving DecidableEq, Repr

namespace Message

/-- A list in prose: commas, and the last item after an "and". -/
def enumeration : List String → String
  | [] => ""
  | [only] => only
  | items => ", ".intercalate items.dropLast ++ " and " ++ items.getLastD ""

def presenceText (which : Presence) (threshold : Nat) (fields : String) : String :=
  let count := if threshold = 1 then "one" else threshold.repr
  let verb := if threshold = 1 then "is" else "are"
  match which with
  | .atLeast => "at least " ++ count ++ " of " ++ fields ++ " " ++ verb ++ " required"
  | .atMost => "at most " ++ count ++ " of " ++ fields ++ " " ++ verb ++ " allowed"

def render (quotes : Quotes) : Message → String
  | .custom text => text
  | .complaint content => quotes.wrap content.label.text ++ " " ++ content.finding.text
  | .presence which threshold labels =>
    presenceText which threshold (enumeration (labels.map fun label => quotes.wrap label.text))

end Message

end Rulebook
