import Rulebook.Check.Context

/-!
Operands: how a constraint sees a value. Text is itself, unless text is asked for that spells a
number: then it is that number, written as it stands there. Numbers of both kinds have a value and
the digits they are written with, and of arrays only the length is seen. Everything else shows
nothing.
-/

namespace Rulebook

inductive Operand where
  | text (content : String)
  | number (amount : Double) (digits : List Char)
  | flag (on : Bool)
  | sequence (length : Nat)
  | other

namespace Operand

/-- A text, as the number it spells when text is asked for that spells one. -/
def ofText (declared : Declared) (content : String) : Operand :=
  match readNumber? content.toList with
  | some amount =>
    if declared.numericText then .number amount (Text.trim content.toList) else .text content
  | none => .text content

def ofValue (declared : Declared) : Value → Operand
  | .string content => ofText declared content
  | .number n => .number n n.canonicalText
  | .bigint n => .number (Double.ofInt n) n.repr.toList
  | .bool on => .flag on
  | .array items => .sequence items.length
  | _ => .other

def length? : Operand → Option Nat
  | .text content => some content.length
  | .sequence length => some length
  | _ => none

def isMark (c : Char) : Bool :=
  ['e', 'E', '-', '+', '.'].contains c

/-- The size: the length, or how many digits a number is written with. -/
def size? : Operand → Option Nat
  | .number _ digits => some (digits.countP fun c => !isMark c)
  | operand => operand.length?

def flagText (on : Bool) : String :=
  if on then "true" else "false"

/-- Whether the operand equals what a text stands for. A flag differs from the other flag only. -/
def equals (expected : String) : Operand → Bool
  | .text content => content == expected
  | .number amount _ => (readNumber? expected.toList).any amount.same
  | .flag on => expected != flagText !on
  | .sequence _ | .other => true

def isListed (tokens : List String) : Operand → Bool
  | .text content => tokens.contains content
  | .number amount _ => (tokens.filterMap fun token => readNumber? token.toList).any amount.same
  | .flag on => tokens.contains (flagText on)
  | .sequence _ | .other => true

end Operand

end Rulebook
