import Rulebook.Pattern.Escape
import Rulebook.Pattern.Tree

/-!
Writing plain trees as the text of plain patterns. Parentheses are put where the surroundings bind
more tightly than what is written. Text left as it is goes in as it is, so a bracket in it may end
sooner or later than its author meant.
-/

namespace Rulebook

def Anchor.sign : Anchor → String
  | textStart => "^"
  | textEnd => "$"
  | lineStart => "(?m:^)"
  | lineEnd => "(?m:$)"
  | wordBoundary => "\\b"
  | noWordBoundary => "\\B"

namespace Tree

def enclosedIf (needed : Bool) (text : List Char) : List Char :=
  if needed then "(?:".toList ++ text ++ [')'] else text

def caseScope (ignoreCase : Bool) (text : List Char) : List Char :=
  if ignoreCase then "(?i:".toList ++ text ++ [')'] else text

def writeNumber (n : Nat) : List Char :=
  Nat.toDigits 10 n

def writeBounds (least : Nat) (most : Option Nat) : List Char :=
  match least, most with
  | 0, some 1 => ['?']
  | 0, none => ['*']
  | 1, none => ['+']
  | least, none => '\x7b' :: writeNumber least ++ [',', '\x7d']
  | least, some most =>
    if least = most then '\x7b' :: writeNumber least ++ ['\x7d']
    else '\x7b' :: writeNumber least ++ ',' :: writeNumber most ++ ['\x7d']

mutual

/-- The text of a plain tree where branches, sequences and repetitions need parentheses from a
binding of one, two and three on. Trees that are not plain have no text. -/
def write (binding : Nat) : Tree → List Char
  | .literal c ignoreCase => caseScope ignoreCase (Escape.quote Escape.signs c)
  | .dot all => if all then "(?s:.)".toList else ['.']
  | .anchor position => position.sign.toList
  | .verbatim text _ ignoreCase => caseScope ignoreCase text
  | .seq parts => enclosedIf (decide (2 ≤ binding)) (writeAll parts)
  | .alt branches => enclosedIf (decide (1 ≤ binding)) (writeBranches branches)
  | .loop body least most greedy =>
    enclosedIf (decide (3 ≤ binding))
      (body.write 3 ++ writeBounds least most ++ if greedy then [] else ['?'])
  | .group _ body => '(' :: body.write 0 ++ [')']
  | .empty | .reference _ | .look .. | .atomic _ | .matchStart | .searchStart => []

def writeAll : List Tree → List Char
  | [] => []
  | part :: rest => part.write 2 ++ writeAll rest

def writeBranches : List Tree → List Char
  | [] => []
  | [branch] => branch.write 1
  | branch :: rest => branch.write 1 ++ '|' :: writeBranches rest

end

end Tree

end Rulebook
