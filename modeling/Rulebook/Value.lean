import Rulebook.Number.Canonical
import Rulebook.Text

/-!
The data that rules are checked against: a tree of scalars, arrays and objects in which a missing
value is told apart from an explicit null, and integers of any width have a kind of their own.
Objects keep their keys in document order; `Value.same` does not look at that order.
-/

namespace Rulebook

/-- A data tree. The keys of an object are distinct. -/
inductive Value where
  | undefined
  | null
  | bool (flag : Bool)
  | number (n : Double)
  | bigint (n : Int)
  | string (text : String)
  | symbol (description : String)
  | array (items : List Value)
  | object (entries : List (String × Value))
  deriving Inhabited

inductive Kind where
  | string | number | boolean | array | object | bigint | symbol
  deriving DecidableEq, Repr

namespace Kind

def all : List Kind :=
  [.string, .number, .boolean, .array, .object, .bigint, .symbol]

def name : Kind → String
  | .string => "string"
  | .number => "number"
  | .boolean => "boolean"
  | .array => "array"
  | .object => "object"
  | .bigint => "bigint"
  | .symbol => "symbol"

def ofName? (name : String) : Option Kind :=
  all.find? fun kind => kind.name = name

end Kind

namespace Value

def kind? : Value → Option Kind
  | .undefined | .null => none
  | .bool _ => some .boolean
  | .number _ => some .number
  | .bigint _ => some .bigint
  | .string _ => some .string
  | .symbol _ => some .symbol
  | .array _ => some .array
  | .object _ => some .object

def describe : Value → String
  | .undefined => "undefined"
  | .null => "null"
  | value => (value.kind?.map Kind.name).getD ""

/-- Whether there is a value: neither undefined nor null. -/
def isPresent (value : Value) : Bool :=
  value.kind?.isSome

def isUndefined : Value → Bool
  | .undefined => true
  | _ => false

def isNull : Value → Bool
  | .null => true
  | _ => false

def text? : Value → Option String
  | .string text => some text
  | _ => none

def items? : Value → Option (List Value)
  | .array items => some items
  | _ => none

def entries? : Value → Option (List (String × Value))
  | .object entries => some entries
  | _ => none

def length? : Value → Option Nat
  | .array items => some items.length
  | .object entries => some entries.length
  | _ => none

/-- The value one path segment below: of an object by key, of an array by an index that reads as a
count. Everything else has nothing below it. -/
def get (value : Value) (segment : String) : Value :=
  match value with
  | .object entries => (entries.lookup segment).getD .undefined
  | .array items => ((Text.count? segment.toList).bind fun index => items[index]?).getD .undefined
  | _ => .undefined

def display : Value → String
  | .undefined => "undefined"
  | .null => "null"
  | .bool flag => if flag then "true" else "false"
  | .number n => String.ofList n.canonicalText
  | .bigint n => n.repr
  | .string text => text
  | .symbol description => "Symbol(" ++ description ++ ")"
  | .array _ => "[array]"
  | .object _ => "[object]"

mutual

/-- Structural equality: numbers by value, objects as finite maps. -/
def same : Value → Value → Bool
  | .undefined, .undefined => true
  | .null, .null => true
  | .bool a, .bool b => a == b
  | .number a, .number b => a.same b
  | .bigint a, .bigint b => a == b
  | .string a, .string b => a == b
  | .symbol a, .symbol b => a == b
  | .array a, .array b => sameItems a b
  | .object a, .object b => a.length == b.length && sameEntries a b
  | _, _ => false

def sameItems : List Value → List Value → Bool
  | [], [] => true
  | a :: restA, b :: restB => same a b && sameItems restA restB
  | _, _ => false

def sameEntries : List (String × Value) → List (String × Value) → Bool
  | [], _ => true
  | (key, a) :: rest, entries =>
    (match entries.lookup key with
      | some b => same a b
      | none => false) && sameEntries rest entries

end

end Value

end Rulebook
