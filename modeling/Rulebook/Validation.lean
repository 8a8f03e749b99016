import Rulebook.Outcome
import Rulebook.Review
import Rulebook.Rule.Reading

/-!
Validation: rules, data and settings make an outcome. The rules are read as a whole before the data
is looked at. A fault of the rules leaves no partial result; where faults are not told, one message
stands for all of them.
-/

namespace Rulebook

namespace Schema

/-- The messages about data as they arise, between quotes, repeats included. -/
def messages (schema : Schema) (data : Value) (settings : Settings) :
    Except Fault (List String) :=
  (schema.review settings.strict data).map fun messages =>
    messages.map (Message.render settings.quotes)

def tryValidate (schema : Schema) (data : Value) (settings : Settings) : Except Fault Outcome :=
  (schema.messages data settings).map Outcome.ofMessages

end Schema

def faultMessage : String :=
  "error occurred while data validation"

/-- The outcome, in which one message stands for a fault. -/
def Outcome.ofResult : Except Fault Outcome → Outcome
  | .ok outcome => outcome
  | .error _ => .ofMessages [faultMessage]

def Schema.validate (schema : Schema) (data : Value) (settings : Settings) : Outcome :=
  .ofResult (schema.tryValidate data settings)

namespace RuleTree

def tryValidate (rules : RuleTree) (data : Value) (settings : Settings) : Except Fault Outcome := do
  let schema ← Schema.ofRules rules
  schema.tryValidate data settings

/-- Validates data by a rule tree. A fault yields one message in place of all others. -/
def validate (rules : RuleTree) (data : Value) (settings : Settings) : Outcome :=
  .ofResult (rules.tryValidate data settings)

end RuleTree

def RuleTree.ofDocument (document : Document) : Except Fault RuleTree :=
  match RuleTree.read document with
  | .ok rules => .ok rules
  | .error defect => .error (.invalidTree defect)

def Document.validate (rules data : Document) (settings : Settings) : Outcome :=
  .ofResult do
    let tree ← RuleTree.ofDocument rules
    tree.tryValidate data.toValue settings

end Rulebook
