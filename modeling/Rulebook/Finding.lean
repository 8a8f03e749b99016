import Rulebook.Format
import Rulebook.Constraint

/-!
Findings: what can be wrong with a value, apart from where the value is. The wording is a predicate
that follows the label of the value.
-/

namespace Rulebook

inductive Finding where
  | missing
  | notKind (expected : Kind)
  | notFormat (expected : Format)
  /-- A number, or a text that spells one when `textual`, lacks a refinement. -/
  | notRefined (expected : Refinement) (textual : Bool)
  | notEqual (expected : String)
  | notSize (count : Nat)
  | outside (side : Side) (limit : String)
  | lengthOutside (side : Side) (limit : String)
  | notText
  | notNumeral
  | notPlaces (count : Nat)
  | placesOutside (side : Side) (count : Nat)
  /-- A text that a pattern does not occur in, or a value that is none of those listed. -/
  | invalid
  | notObject
  | notArray
  | notContainer
  | undeclared
  deriving DecidableEq, Repr

def Side.phrase : Side → String
  | .least => "at least"
  | .most => "at most"

def Refinement.noun : Refinement → String
  | .int => "integer"
  | .positive => "positive"
  | .negative => "negative"
  | .natural => "natural"
  | .whole => "whole"

def Refinement.description (refinement : Refinement) (textual : Bool) : String :=
  if textual then refinement.noun ++ " numeric string"
  else if refinement = .int then refinement.noun
  else refinement.noun ++ " number"

def Finding.text : Finding → String
  | .missing => "is required"
  | .notKind expected => "must be a valid " ++ expected.name
  | .notFormat expected => expected.demand
  | .notRefined expected textual => "must be a valid " ++ expected.description textual
  | .notEqual expected => "must be equal to " ++ expected
  | .notSize count => "must have length " ++ count.repr
  | .outside side limit => "must be " ++ side.phrase ++ " " ++ limit
  | .lengthOutside side limit => "must have length of " ++ side.phrase ++ " " ++ limit
  | .notText => "must be of type string"
  | .notNumeral => "must be a valid numeric string"
  | .notPlaces count => "must have " ++ count.repr ++ " decimal places"
  | .placesOutside side count =>
    "must have " ++ side.phrase ++ " " ++ count.repr ++ " decimal places"
  | .invalid => "is invalid"
  | .notObject => "must be of type object"
  | .notArray => "must be of type array"
  | .notContainer => "must be of type object or array"
  | .undeclared => "is not required"

end Rulebook
