import Rulebook.Check.Constraint
import Rulebook.Message

/-!
Judging a value by clauses. A clause that checks something wants a value to be there. Clauses about
the items of an array judge one item after the other, writing to the layers as they go, and complain
of all of them; the clauses of a field are judged one after the other until one complains.
-/

namespace Rulebook

/-- Whether a value is of a kind. Once text is asked for, it may stand for a number or a boolean. -/
def Kind.admits (declared : Declared) (value : Value) (kind : Kind) : Bool :=
  value.kind? == some kind ||
    match kind, value with
    | .number, .string text => declared.string && (readNumber? text.toList).isSome
    | .boolean, .string text => declared.string && (text == "true" || text == "false")
    | _, _ => false

def Kind.inspect (declared : Declared) (value : Value) (kind : Kind) : Option Finding :=
  Finding.ifNot (kind.admits declared value) (.notKind kind)

def Format.inspect (format : Format) : Value → Option Finding
  | .string text => Finding.ifNot (format.accepts text.toList) (.notFormat format)
  | _ => some (.notKind .string)

def Refinement.accepts (n : Double) : Refinement → Bool
  | .int => n.isIntegral
  | .positive => n.isPositive
  | .negative => n.isNegative
  | .natural => n.isIntegral && n.isPositive
  | .whole => n.isIntegral && !n.isNegative

def Value.number? : Value → Option (Double × Bool)
  | .number n => some (n, false)
  | .string text => (readNumber? text.toList).map (·, true)
  | _ => none

def Refinement.inspect (declared : Declared) (value : Value) (refinement : Refinement) :
    Option Finding :=
  if Kind.number.admits declared value then
    match value.number? with
    | some (n, textual) =>
      Finding.ifNot (refinement.accepts n) (.notRefined refinement textual)
    | none => some (.notKind .number)
  else some (.notKind .number)

namespace Clause

def inspect (declared : Declared) (value : Value) : Clause → Except Fault (Option Finding)
  | .kind expected => .ok (expected.inspect declared value)
  | .format expected => .ok (expected.inspect value)
  | .refinement expected => .ok (expected.inspect declared value)
  | .constraint expected => expected.inspect declared value
  | .optional | .nullable | .arrayOf _ | .unknown _ => .ok none

/-- The complaints about a labelled value by a clause about the value itself. For a check the value
has to be there. -/
def judgeFlat (declared : Declared) (label : Label) (value : Value) (clause : Clause) :
    Except Fault (List Complaint) :=
  if clause.isCheck && !value.isPresent then .ok [⟨label, .missing⟩]
  else
    (clause.inspect declared value).map fun found => (found.map (Complaint.mk label)).toList

/-- Judges the items of an array in order, but for the exempt ones. Each is judged with the layers
that the one before it has left. -/
def judgeItems (exempt : Value → Bool)
    (judge : Layers → Label → Value → Except Fault (List Complaint × Layers)) (label : Label) :
    Layers → List (Value × Nat) → Except Fault (List Complaint × Layers)
  | layers, [] => .ok ([], layers)
  | layers, (item, index) :: rest =>
    if exempt item then judgeItems exempt judge label layers rest
    else do
      let (complaints, layers) ← judge layers (label.item index) item
      let (others, layers) ← judgeItems exempt judge label layers rest
      return (complaints ++ others, layers)

def judge : Clause → Declared → Layers → Label → Value → Except Fault (List Complaint × Layers)
  | .arrayOf element, _, layers, label, value =>
    if value.isPresent then
      match value.items? with
      | some items =>
        let layer := layers.first
        if element.isCheck then
          (judgeItems layer.exempts (element.judge layer.declared) label layers.below
            items.zipIdx).map fun (complaints, below) => (complaints, layer.record element :: below)
        else .ok ([], layer.record element :: layers.below)
      | none => .ok ([⟨label, .notKind .array⟩], layers)
    else .ok ([⟨label, .missing⟩], layers)
  | flat, declared, layers, label, value =>
    (flat.judgeFlat declared label value).map fun complaints => (complaints, layers)

/-- The complaints about a labelled value by the first of the clauses that has any. A marker for a
value that is missing in its way ends the matter. -/
def judgeAll (label : Label) (value : Value) :
    Scope → List Clause → Except Fault (List Complaint)
  | _, [] => .ok []
  | scope, next :: rest =>
    if next.excuses value then .ok []
    else do
      let (complaints, layers) ← next.judge scope.declared scope.layers label value
      if complaints.isEmpty then judgeAll label value ⟨scope.declared.record next, layers⟩ rest
      else return complaints

end Clause

end Rulebook
