import Rulebook.Value
import Rulebook.Unicode.Property

/-!
Plain documents, as they arrive: null, booleans, numbers, strings, lists and objects whose keys keep
their order. Rule trees and settings are read from documents, and a document is also data as it
stands. A number keeps whether it was written as an integer, because descriptions of it show that.
Descriptions also show texts, between double quotes and with backslash escapes for quotes,
backslashes and characters that do not show by themselves.
-/

namespace Rulebook

namespace Text

def hex (n : Nat) : List Char :=
  Nat.toDigits 16 n

def escape (c : Char) : List Char :=
  if c = '"' ∨ c = '\\' then ['\\', c]
  else if c = '\n' then ['\\', 'n']
  else if c = '\r' then ['\\', 'r']
  else if c = '\t' then ['\\', 't']
  else if c.toNat = 0 then ['\\', '0']
  else if Unicode.isExtending c || !Unicode.isPrintable c then
    "\\u\x7b".toList ++ hex c.toNat ++ ['\x7d']
  else [c]

def quoted (text : String) : String :=
  String.ofList ('"' :: text.toList.flatMap escape ++ ['"'])

end Text

/-- A document. The keys of an object are distinct. -/
inductive Document where
  | null
  | bool (flag : Bool)
  | integer (n : Int)
  | float (n : Double)
  | string (text : String)
  | list (items : List Document)
  | object (entries : List (String × Document))
  deriving Inhabited

namespace Document

/-- The integers that a document number can hold as such: those of 64 bits, signed or not. -/
def holdsInteger (n : Int) : Bool :=
  decide (-(Nat.pow 2 63 : Int) ≤ n) && decide (n < (Nat.pow 2 64 : Int))

/-- The number that a numeral stands for: an integer when it is written as one, fits and is not a
negative zero, and else the nearest double. -/
def ofNumeral? (text : List Char) : Option Document := do
  let decimal ← Decimal.read? text
  let magnitude : Int := decimal.coefficient
  let value := if decimal.negative then -magnitude else magnitude
  let written := text.all fun c => c.isDigit || c == '-'
  if written && holdsInteger value && !(decimal.negative && value == 0) then
    return .integer value
  else return .float decimal.toDouble

def describesPositionally (point : Int) : Bool :=
  decide (-5 < point) && decide (point ≤ 16)

def floatText : Double → List Char
  | .nan => "NaN".toList
  | .ranked negative rank =>
    let sign := if negative then ['-'] else []
    if rank.val = 0 then sign ++ ['0', '.', '0']
    else if rank.val = infinityRank then sign ++ "inf".toList
    else
      let figures := Shortest.ofRank .toEven rank
      let body := figures.positional
      sign ++ if !describesPositionally figures.point then figures.scientific false
        else if body.contains '.' then body
        else body ++ ['.', '0']

def describe : Document → String
  | .null => "null"
  | .bool flag => "boolean `" ++ (if flag then "true" else "false") ++ "`"
  | .integer n => "integer `" ++ n.repr ++ "`"
  | .float n => "floating point `" ++ String.ofList (floatText n) ++ "`"
  | .string text => "string " ++ Text.quoted text
  | .list _ => "sequence"
  | .object _ => "map"

def integerValue (n : Int) : Value :=
  .number (Double.ofInt n)

mutual

def toValue : Document → Value
  | .null => .null
  | .bool flag => .bool flag
  | .integer n => integerValue n
  | .float n => .number n
  | .string text => .string text
  | .list items => .array (toValues items)
  | .object entries => .object (toEntries entries)

def toValues : List Document → List Value
  | [] => []
  | item :: rest => item.toValue :: toValues rest

def toEntries : List (String × Document) → List (String × Value)
  | [] => []
  | (key, item) :: rest => (key, item.toValue) :: toEntries rest

end

end Document

end Rulebook
