import Rulebook.Constraint
import Rulebook.Format

/-!
Clauses: what a directive can ask of a value, and what it can ask of the items of an array after
`arrayof:`. Two of them only mark what may be missing. A token that is no clause is kept as unknown;
it asks for nothing, but after `arrayof:` there still has to be an array.
-/

namespace Rulebook

inductive Clause where
  | optional
  | nullable
  | kind (expected : Kind)
  | format (expected : Format)
  | refinement (expected : Refinement)
  | constraint (expected : Constraint)
  | arrayOf (element : Clause)
  | unknown (token : String)
  deriving BEq

namespace Clause

def ofWord? (word : String) : Option Clause :=
  match word with
  | "optional" => some .optional
  | "nullable" => some .nullable
  | _ =>
    match Kind.ofName? word, Format.ofDirective? word, Refinement.ofDirective? word with
    | some expected, _, _ => some (.kind expected)
    | none, some expected, _ => some (.format expected)
    | none, none, some expected => some (.refinement expected)
    | none, none, none => none

def readFlat (token : List Char) : Except Fault Clause :=
  match ofWord? (String.ofList token) with
  | some found => .ok found
  | none =>
    match Constraint.read? token with
    | some expected => expected.map .constraint
    | none => .ok (.unknown (String.ofList token))

/-- Reads a clause: any number of times `arrayof:`, and then what is asked of the items. -/
def read : List Char → Except Fault Clause
  | 'a' :: 'r' :: 'r' :: 'a' :: 'y' :: 'o' :: 'f' :: ':' :: rest => (read rest).map .arrayOf
  | token => readFlat token

/-- Whether the clause inspects the value, rather than allowing something or being unknown. -/
def isCheck : Clause → Bool
  | .optional | .nullable | .unknown _ => false
  | _ => true

end Clause

end Rulebook
