import Rulebook.Pattern.Layout
import Rulebook.Pattern.PlainReader
import Rulebook.Pattern.PlainWriter

/-!
Plans: patterns arranged for matching. The plain parts that nothing after them can make unsuitable
are taken once, at their preferred length; the others are kept as choices to come back to. A look
behind has to know how far back it begins, so all matches of its body have one length, or those of
each of its branches do.
-/

namespace Rulebook

inductive Plan where
  /-- The preferred match in what is left of the text, never given back. A pattern that looks left
  has a second form, which begins with any one character and is matched from one further back, where
  there is a character before. -/
  | once (pattern : Plain) (fromLeft : Option Plain)
  | one (set : CharSet)
  | seq (first second : Plan)
  | alt (first second : Plan)
  /-- So many rounds of the body. Where there is no most, a round that takes nothing is the last one
  if the loop is guarded, and goes on for ever if it is not. -/
  | loop (body : Plan) (least : Nat) (most : Option Nat) (greedy guarded : Bool)
  | capture (index : Nat) (body : Plan)
  | reference (index : Nat)
  /-- The body matches from so many characters back; the position stays. -/
  | look (back : Nat) (body : Plan)
  | lookNot (back : Nat) (body : Plan)
  /-- The first match of the body, never given back. -/
  | atomic (body : Plan)
  | start
  deriving Repr

namespace Plan

def empty : Plan :=
  once .empty none

def ofPlain (pattern : Plain) (fromLeft : Option Plain) : Plan :=
  match pattern with
  | .seq (.anchor .textStart) (.one set) => .one set
  | pattern => .once pattern fromLeft

def looking (negated : Bool) (back : Nat) (body : Plan) : Plan :=
  if negated then lookNot back body else look back body

/-- Several looks behind in one: any of them, or all refusals. -/
def joinLooks (negated : Bool) : List Plan → Plan
  | [] => empty
  | [plan] => plan
  | plan :: rest =>
    if negated then seq plan (joinLooks negated rest) else alt plan (joinLooks negated rest)

end Plan

def Plain.compile? (text : List Char) : Option Plain :=
  (Plain.read? text).filter Plain.fits

namespace Tree

def takeOnce? (parts : List Tree) : Option Plan :=
  match parts with
  | [] => some Plan.empty
  | parts => do
    let text := parts.flatMap (write 1)
    let pattern ← Plain.compile? ('^' :: text)
    if anyLooksLeft parts then
      let fromLeft ← Plain.compile? ("^(?s:.)".toList ++ text)
      some (.ofPlain pattern (some fromLeft))
    else some (.ofPlain pattern none)

def isPlainFixed (referred : List Nat) (tree : Tree) : Bool :=
  tree.isPlain referred && tree.isFixed

mutual

/-- Arranges a pattern. `last` says that nothing comes after it that could reject its match. -/
def plan? (referred : List Nat) (last : Bool) (tree : Tree) : Option Plan :=
  if last && tree.isPlain referred then takeOnce? [tree]
  else
    match tree with
    | .empty | .matchStart => some Plan.empty
    | .searchStart => some .start
    | .literal c false => some (.one (.single c))
    | .dot all => some (.one (.dot all))
    | .literal _ true | .anchor _ | .verbatim .. => takeOnce? [tree]
    | .seq parts => do
      let front := parts.takeWhile (isPlainFixed referred)
      let first ← takeOnce? front
      let second ← planParts? referred last front.length parts
      some (.seq first second)
    | .alt branches => planBranches? referred last branches
    | .loop body least most greedy =>
      (body.plan? referred (last && least == 0 && most == some 1)).map
        fun plan => .loop plan least most greedy (body.minSize == 0)
    | .group index body =>
      (body.plan? referred last).map fun body =>
        if referred.contains index then .capture index body else body
    | .reference index => some (.reference index)
    | .look behind negated body =>
      if !behind then (body.plan? referred true).map (Plan.looking negated 0)
      else if body.isFixed then (body.plan? referred true).map (Plan.looking negated body.minSize)
      else
        match body with
        | .alt branches => (planLooks? referred negated branches).map (Plan.joinLooks negated)
        | _ => none
    | .atomic body => (body.plan? referred true).map .atomic

/-- Arranges the parts of a sequence after the first `done` ones. What can be taken once at its end
is taken together: all that is plain, if nothing comes after the sequence that could reject it, and
otherwise what has only one length too. -/
def planParts? (referred : List Nat) (last : Bool) (done : Nat) (parts : List Tree) :
    Option Plan :=
  match parts with
  | [] => some Plan.empty
  | part :: rest =>
    match done with
    | done + 1 => planParts? referred last done rest
    | 0 =>
      if (part :: rest).all fun part => if last then part.isPlain referred
          else part.isPlainFixed referred then
        takeOnce? (part :: rest)
      else
        match part.plan? referred false, planParts? referred last 0 rest with
        | some first, some second => some (.seq first second)
        | _, _ => none

def planBranches? (referred : List Nat) (last : Bool) : List Tree → Option Plan
  | [] => some (.one .none)
  | [branch] => branch.plan? referred last
  | branch :: rest =>
    match branch.plan? referred last, planBranches? referred last rest with
    | some first, some second => some (.alt first second)
    | _, _ => none

def planLooks? (referred : List Nat) (negated : Bool) : List Tree → Option (List Plan)
  | [] => some []
  | branch :: rest =>
    if branch.isFixed then
      match branch.plan? referred true, planLooks? referred negated rest with
      | some body, some looks => some (Plan.looking negated branch.minSize body :: looks)
      | _, _ => none
    else none

end

end Tree

end Rulebook
