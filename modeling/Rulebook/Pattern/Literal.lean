import Rulebook.Fault
import Rulebook.Pattern.Reader
import Rulebook.Pattern.Search

/-!
Pattern literals: a pattern between slashes and the letters of flags after it. The last slash ends
the pattern, so it may hold slashes itself. Of the flags only those for case, lines and the dot
change what matches; the others are there because literals are written with them.
-/

namespace Rulebook

inductive Matcher where
  | plain (pattern : Plain)
  | planned (plan : Plan)

namespace Matcher

/-- The matcher of a pattern with its flags in front, if it reads as a pattern. No part of a plan
counts as the last one, so its choices are kept up to the end of the match. -/
def read? (source : List Char) : Option Matcher := do
  let (tree, referred) ← Reader.read? source
  if tree.isPlain referred then (Plain.compile? (tree.write 0)).map .plain
  else (tree.plan? referred false).map .planned

/-- Whether there is a match in the text, or nothing when the search is given up. -/
def occurs? (matcher : Matcher) (text : List Char) : Option Bool :=
  match matcher with
  | .plain pattern => some (pattern.occurs none text)
  | .planned plan => plan.occurs? text

end Matcher

structure Pattern where
  literal : String
  matcher : Matcher

namespace Pattern

def effectiveFlags : List Char := ['i', 'm', 's']

def idleFlags : List Char := ['g', 'u', 'y', 'd']

def isFlag (c : Char) : Bool :=
  effectiveFlags.contains c || idleFlags.contains c

/-- Takes up a flag that changes what matches, unless it is there. -/
def addFlag (inline : List Char) (flag : Char) : List Char :=
  if effectiveFlags.contains flag && !inline.contains flag then inline ++ [flag] else inline

/-- The flags that change what matches, each once, in the order in which they are first written. -/
def inlineFlags (flags : List Char) : List Char :=
  flags.foldl addFlag []

/-- A pattern with those of its flags in front that change what matches. -/
def withFlags (flags source : List Char) : List Char :=
  match inlineFlags flags with
  | [] => source
  | inline => '(' :: '?' :: inline ++ ')' :: source

def read (literal : List Char) : Except Fault Pattern :=
  let malformed (defect : Defect) : Except Fault Pattern :=
    .error (.malformedParameter "regex" (String.ofList literal) defect)
  match literal with
  | '/' :: body =>
    match Text.cutLast? '/' body with
    | some (source, flags) =>
      if flags.all isFlag then
        match Matcher.read? (withFlags flags source) with
        | some matcher => .ok ⟨String.ofList literal, matcher⟩
        | none => .error (.invalidPattern (String.ofList source))
      else malformed .unsupportedFlag
    | none => malformed .noClosingSlash
  | _ => malformed .noOpeningSlash

/-- Whether the pattern occurs in a text. A search that is given up is a fault. -/
def occurs (pattern : Pattern) (text : String) : Except Fault Bool :=
  match pattern.matcher.occurs? text.toList with
  | some found => .ok found
  | none => .error (.invalidPattern pattern.literal)

/-- Patterns are compared by their literals. -/
instance : BEq Pattern := ⟨fun a b => a.literal == b.literal⟩

end Pattern

end Rulebook
