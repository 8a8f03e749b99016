import Rulebook.Calendar.Instant
import Rulebook.Path
import Rulebook.Pattern.Literal

/-!
Demands on a value beyond its kind: refinements of numbers, and constraints with a parameter. The
parameter is read once, with the rule, and a parameter that cannot be read is a fault of the rule.
-/

namespace Rulebook

inductive Refinement where
  | int | positive | negative | natural | whole
  deriving DecidableEq, Repr

namespace Refinement

def all : List Refinement :=
  [.int, .positive, .negative, .natural, .whole]

def directive : Refinement → String
  | .int => "int"
  | .positive => "positive"
  | .negative => "negative"
  | .natural => "natural"
  | .whole => "whole"

def ofDirective? (name : String) : Option Refinement :=
  all.find? fun refinement => refinement.directive = name

end Refinement

/-- The limit of a `min:` or `max:` directive, which itself is admitted. -/
inductive Bound where
  | number (limit : Double) (text : String)
  | instant (millis : Int) (text : String)
  deriving BEq

namespace Bound

def text : Bound → String
  | .number _ text | .instant _ text => text

/-- A number if the text spells one, and else a date. -/
def read? (text : List Char) : Option Bound :=
  match readNumber? text with
  | some limit => some (.number limit (String.ofList text))
  | none => (Instant.read? text).map fun millis => .instant millis (String.ofList text)

end Bound

inductive Side where
  | least | most
  deriving DecidableEq, Repr

inductive Constraint where
  | equal (expected : String)
  | size (count : Nat)
  | bound (side : Side) (limit : Bound)
  | pattern (form : Pattern)
  | places (count : Nat)
  | placesBound (side : Side) (count : Nat)
  | oneOf (tokens : List String)
  deriving BEq

namespace Constraint

def readCount (directive : String) (argument : List Char) : Except Fault Nat :=
  match Text.count? (Text.trim argument) with
  | some count => .ok count
  | none => .error (.malformedParameter directive (String.ofList argument) .notCount)

def readBound (directive : String) (argument : List Char) : Except Fault Bound :=
  match Bound.read? argument with
  | some limit => .ok limit
  | none => .error (.malformedParameter directive (String.ofList argument) .notBound)

def named? (directive : String) (argument : List Char) : Option (Except Fault Constraint) :=
  match directive with
  | "equal" => some (.ok (.equal (String.ofList argument)))
  | "size" => some ((readCount directive argument).map .size)
  | "min" => some ((readBound directive argument).map (.bound .least))
  | "max" => some ((readBound directive argument).map (.bound .most))
  | "regex" => some ((Pattern.read argument).map .pattern)
  | "decimalsize" => some ((readCount directive argument).map .places)
  | "decimalmin" => some ((readCount directive argument).map (.placesBound .least))
  | "decimalmax" => some ((readCount directive argument).map (.placesBound .most))
  | "enums" => some (.ok (.oneOf ((argument.splitOn ',').map String.ofList)))
  | _ => none

def read? (token : List Char) : Option (Except Fault Constraint) :=
  match Text.cutFirst? ':' token with
  | some (name, argument) => named? (String.ofList name) argument
  | none => none

end Constraint

end Rulebook
