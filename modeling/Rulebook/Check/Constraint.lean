import Rulebook.Check.Operand
import Rulebook.Finding

/-!
Constraints on a value that is there. Limits belong to what they admit. A constraint passes what it
has no reading for, but a pattern wants text. Only a pattern can be a fault here, when its search is
given up.
-/

namespace Rulebook

def Side.admits {α : Type} (side : Side) (atMost : α → α → Bool) (limit amount : α) : Bool :=
  match side with
  | .least => atMost limit amount
  | .most => atMost amount limit

def Finding.ifNot (holds : Bool) (finding : Finding) : Option Finding :=
  if holds then none else some finding

namespace Operand

def inspectSize (count : Nat) (operand : Operand) : Option Finding :=
  operand.size?.bind fun size => Finding.ifNot (size == count) (.notSize count)

def inspectLimit (side : Side) (limit : Double) (text : String) : Operand → Option Finding
  | .number amount _ => Finding.ifNot (side.admits Double.atMost limit amount) (.outside side text)
  | operand =>
    operand.length?.bind fun length =>
      Finding.ifNot (side.admits Double.atMost limit (Double.ofNat length))
        (.lengthOutside side text)

end Operand

namespace Value

def instant? (value : Value) : Option Int :=
  value.text?.bind fun text => Instant.read? text.toList

/-- What is wrong with a value by a date. A value that gives no instant is neither before nor after.
-/
def inspectDate (side : Side) (limit : Int) (text : String) (value : Value) : Option Finding :=
  value.instant?.bind fun millis =>
    Finding.ifNot (side.admits (fun a b => decide (a ≤ b)) limit millis) (.outside side text)

def inspectPattern (form : Pattern) : Value → Except Fault (Option Finding)
  | .string text => (form.occurs text).map fun found => Finding.ifNot found .invalid
  | _ => .ok (some .notText)

/-- The characters after the first point of a text; an exponent counts along. -/
def placesOf (canonical : List Char) : Nat :=
  match Text.cutFirst? '.' canonical with
  | some (_, fraction) => fraction.length
  | none => 0

/-- The decimal places of a number or of a text that spells one, in canonical text. Other text and
NaN are wrong, and values of other kinds have no places. -/
def places? : Value → Except Finding (Option Nat)
  | .string text =>
    match readNumber? text.toList with
    | some n => .ok (some (placesOf n.canonicalText))
    | none => .error .notNumeral
  | .number .nan => .error (.notKind .number)
  | .number n => .ok (some (placesOf n.canonicalText))
  | .bigint n => .ok (some (placesOf n.repr.toList))
  | _ => .ok none

def inspectPlaces (admits : Nat → Bool) (finding : Finding) (value : Value) : Option Finding :=
  match value.places? with
  | .error found => some found
  | .ok none => none
  | .ok (some places) => Finding.ifNot (admits places) finding

end Value

def Constraint.inspect (declared : Declared) (value : Value) :
    Constraint → Except Fault (Option Finding)
  | .equal expected =>
    .ok (Finding.ifNot ((Operand.ofValue declared value).equals expected) (.notEqual expected))
  | .size count => .ok ((Operand.ofValue declared value).inspectSize count)
  | .bound side (.number limit text) =>
    .ok ((Operand.ofValue declared value).inspectLimit side limit text)
  | .bound side (.instant limit text) => .ok (value.inspectDate side limit text)
  | .pattern form => value.inspectPattern form
  | .places count => .ok (value.inspectPlaces (· == count) (.notPlaces count))
  | .placesBound side count =>
    .ok (value.inspectPlaces (side.admits Nat.ble count) (.placesOutside side count))
  | .oneOf tokens =>
    .ok (Finding.ifNot ((Operand.ofValue declared value).isListed tokens) .invalid)

end Rulebook
