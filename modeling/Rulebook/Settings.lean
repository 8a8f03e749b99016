import Rulebook.Document

/-!
Settings of a validation: the quotes around labels in messages, and whether keys that no rule
declares are reported. Settings are read from an object, in which both may be left out and other
keys do not matter, or from a list that gives them in order.
-/

namespace Rulebook

inductive Quotes where
  | none | single | double | backtick
  deriving DecidableEq, Repr

namespace Quotes

def all : List Quotes :=
  [.none, .single, .double, .backtick]

def name : Quotes → String
  | .none => "none"
  | .single => "single-quotes"
  | .double => "double-quotes"
  | .backtick => "backtick"

def ofName? (name : String) : Option Quotes :=
  all.find? fun quotes => quotes.name = name

def mark? : Quotes → Option Char
  | .none => Option.none
  | .single => some '\''
  | .double => some '"'
  | .backtick => some '\x60'

def wrap (quotes : Quotes) (label : String) : String :=
  match quotes.mark? with
  | some mark => String.singleton mark ++ label ++ String.singleton mark
  | Option.none => label

end Quotes

structure Settings where
  quotes : Quotes
  strict : Bool
  deriving DecidableEq, Repr

inductive SettingsFault where
  | notSettings (found : Document)
  | tooLong (length : Nat)
  | unknownQuotes (name : String)
  | notQuotes (found : Document)
  | severalQuotes
  | quotesWithContent (found : Document)
  | notStrict (found : Document)

def SettingsFault.message : SettingsFault → String
  | .notSettings found =>
    "invalid type: " ++ found.describe ++ ", expected struct ValidatorConfig"
  | .tooLong length =>
    "invalid length " ++ length.repr ++ ", expected fewer elements in array"
  | .unknownQuotes name =>
    "unknown variant `" ++ name ++ "`, expected one of " ++
      ", ".intercalate (Quotes.all.map fun quotes => "`" ++ quotes.name ++ "`")
  | .notQuotes found => "invalid type: " ++ found.describe ++ ", expected string or map"
  | .severalQuotes => "invalid value: map, expected map with a single key"
  | .quotesWithContent found => "invalid type: " ++ found.describe ++ ", expected unit"
  | .notStrict found => "invalid type: " ++ found.describe ++ ", expected a boolean"

namespace Settings

/-- No quotes, and undeclared keys are let pass. -/
def plain : Settings := ⟨.none, false⟩

def readQuotesName (name : String) : Except SettingsFault Quotes :=
  match Quotes.ofName? name with
  | some quotes => .ok quotes
  | none => .error (.unknownQuotes name)

/-- Reads quotes by name, or by an object with null under the name. -/
def readQuotes : Document → Except SettingsFault Quotes
  | .string name => readQuotesName name
  | .object [(name, content)] => do
    let quotes ← readQuotesName name
    match content with
    | .null => return quotes
    | found => throw (.quotesWithContent found)
  | .object _ => .error .severalQuotes
  | found => .error (.notQuotes found)

def readStrict : Document → Except SettingsFault Bool
  | .bool strict => .ok strict
  | found => .error (.notStrict found)

def readEntry (settings : Settings) (entry : String × Document) : Except SettingsFault Settings :=
  match entry with
  | ("quotes", document) => (readQuotes document).map fun quotes => { settings with quotes }
  | ("strict", document) => (readStrict document).map fun strict => { settings with strict }
  | _ => .ok settings

def read : Document → Except SettingsFault Settings
  | .object entries => entries.foldlM readEntry plain
  | .list items =>
    match items with
    | [] => .ok plain
    | [quotes] => (readQuotes quotes).map fun quotes => { plain with quotes }
    | quotes :: strict :: rest => do
      let settings : Settings := ⟨← readQuotes quotes, ← readStrict strict⟩
      if rest.isEmpty then return settings else throw (.tooLong items.length)
  | found => .error (.notSettings found)

end Settings

end Rulebook
