import Rulebook.Value

/-!
Paths into a data tree. A path is written as segments joined by dots, and the empty path leads to
the tree itself. A place is how a walk got to a value: the rule keys and item indexes on the way,
from which the label of the value is written.
-/

namespace Rulebook

def splitText (separator : Char) (text : String) : List String :=
  (text.toList.splitOn separator).map String.ofList

namespace Value

def descend (value : Value) : List String → Value
  | [] => value
  | segment :: rest =>
    match value.get segment with
    | .undefined => .undefined
    | child => descend child rest

/-- The value at a path. A missing parent reads as a missing value. -/
def resolve (value : Value) (path : String) : Value :=
  if path.isEmpty then value else value.descend (splitText '.' path)

end Value

inductive Step where
  | key (name : String)
  | item (index : Nat)
  deriving DecidableEq, Repr

abbrev Place := List Step

namespace Place

def qualify (path key : String) : String :=
  if path.isEmpty then key else path ++ "." ++ key

def itemText (label : String) (index : Nat) : String :=
  label ++ "[" ++ index.repr ++ "]"

def extend (path : String) : Step → String
  | .key name => qualify path name
  | .item index => itemText path index

/-- The place in writing: keys joined by dots, indexes in brackets. -/
def text (place : Place) : String :=
  place.foldl extend ""

end Place

end Rulebook
