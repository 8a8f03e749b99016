import Rulebook.Document

/-!
Faults: rules that cannot be read or carried out. A fault is not a finding about the data, and it
takes the place of all findings.
-/

namespace Rulebook

inductive Defect where
  | notCount
  | notBound
  | noOpeningSlash
  | noClosingSlash
  | unsupportedFlag
  deriving DecidableEq, Repr

def Defect.text : Defect → String
  | .notCount => "expected a non-negative integer"
  | .notBound => "expected a number or a date"
  | .noOpeningSlash => "expected /pattern/flags"
  | .noClosingSlash => "missing closing `/`"
  | .unsupportedFlag => "unsupported flag"

inductive TreeDefect where
  | notObject (found : Document)
  | severalTrees (count : Nat)
  | notRule

def TreeDefect.text : TreeDefect → String
  | .notObject found => "invalid type: " ++ found.describe ++ ", expected a map"
  | .severalTrees count => "array rule must hold exactly one object rule, found " ++ count.repr
  | .notRule => "data did not match any variant of untagged enum RawRule"

inductive Fault where
  | malformedParameter (directive parameter : String) (defect : Defect)
  /-- A pattern that does not read, or one whose search took too many steps back. Which of the two
  it was, and where, is told in the words of whatever reads patterns. No check looks at these, and
  they change with its versions, so they are not kept. -/
  | invalidPattern (pattern : String)
  | malformedPresence (key : String)
  | invalidTree (defect : TreeDefect)

/-- The text of a fault. That of an invalid pattern ends before the colon and the reason, which is
not kept. -/
def Fault.message : Fault → String
  | .malformedParameter directive parameter defect =>
    "directive `" ++ directive ++ "` has malformed parameter `" ++ parameter ++ "`: " ++ defect.text
  | .invalidPattern pattern => "invalid regular expression `" ++ pattern ++ "`"
  | .malformedPresence key => "malformed presence rule `" ++ key ++ "`"
  | .invalidTree defect => "invalid rule tree: " ++ defect.text

end Rulebook
