import Rulebook.Pattern.Leaf
import Rulebook.Pattern.Repetition
import Rulebook.Pattern.Tree

/-!
Reading a pattern. The text is read from the front, one element at a time, onto a stack of the
groups that are open. An element that may be repeated waits until the next one shows whether it is.
-/

namespace Rulebook

namespace Reader

inductive Opener where
  /-- No more than parentheses; the flags before it come back after it. -/
  | scope (flags : Flags)
  | capture (index : Nat)
  | look (behind negated : Bool)
  | atomic
  deriving Repr

/-- The pattern up to now on one level: the branches before the last bar and the parts after it,
both in reverse, and the element that waits to be repeated. -/
structure Level where
  branches : List Tree := []
  parts : List Tree := []
  waiting : Option Tree := none

namespace Level

/-- Puts the waiting element with the parts, unless it is empty. -/
def settle (level : Level) : Level :=
  match level.waiting with
  | some tree =>
    { level with
      parts := if tree.isEmpty then level.parts else tree :: level.parts
      waiting := none }
  | none => level

def push (level : Level) (tree : Tree) : Level :=
  { level.settle with waiting := some tree }

def branch (level : Level) : Tree :=
  Tree.ofParts level.settle.parts.reverse

def bar (level : Level) : Level :=
  { branches := level.branch :: level.branches }

def tree (level : Level) : Tree :=
  Tree.ofBranches (level.branch :: level.branches).reverse

end Level

/-- A reading in progress. Groups are numbered from one as they open. -/
structure State where
  flags : Flags := {}
  level : Level := {}
  outer : List (Opener × Level) := []
  groups : Nat := 0
  names : List (String × Nat) := []
  referred : List Nat := []
  numbered : Bool := false
  numberLimit : Nat

namespace State

def push (state : State) (tree : Tree) : State :=
  { state with level := state.level.push tree }

def pushChar (state : State) (c : Char) : State :=
  state.push (.literal c state.flags.ignoreCase)

def pushVerbatim (state : State) (text : List Char) (size : Nat) : State :=
  state.push (.verbatim text size state.flags.ignoreCase)

def refer? (state : State) (index : Nat) : Option State :=
  if index ≤ state.groups then
    some { (state.push (.reference index)) with referred := index :: state.referred }
  else none

def referByName? (state : State) (name : String) : Option State :=
  match state.names.lookup name with
  | some index => state.refer? index
  | none => (Text.numeral? name.toList).bind state.refer?

def opened (state : State) (opener : Opener) : State :=
  { state with level := {}, outer := (opener, state.level) :: state.outer }

def openedCapture (state : State) : State :=
  { state with groups := state.groups + 1 }.opened (.capture (state.groups + 1))

def openedNamed (state : State) (name : String) : State :=
  { state with names := (name, state.groups + 1) :: state.names }.openedCapture

/-- Whether a level may end here. Groups are referred to by number only where none has a name, which
is looked at where a level has no bar. -/
def mayEnd (state : State) : Bool :=
  !(state.level.branches.isEmpty && state.numbered && !state.names.isEmpty)

def closed? (state : State) : Option State :=
  match state.outer with
  | [] => none
  | (opener, parent) :: outer =>
    if state.mayEnd then
      let body := state.level.tree
      let tree := match opener with
        | .scope _ => body
        | .capture index => .group index body
        | .look behind negated => .look behind negated body
        | .atomic => .atomic body
      let flags := match opener with
        | .scope flags => flags
        | _ => state.flags
      some { state with flags, outer, level := parent.push tree }
    else none

def repeat? (state : State) (repetition : Repetition) : Option State :=
  match state.level.waiting with
  | some tree =>
    if tree.isRepeatable then
      let greedy := repetition.lazy == state.flags.swapGreed
      let loop : Tree := .loop tree repetition.least repetition.most greedy
      let repeated := if repetition.possessive then Tree.atomic loop else loop
      some
        { state with
          level :=
            { state.level with parts := repeated :: state.level.parts, waiting := none } }
    else none
  | none => none

end State

/-- The flags between an opening question mark and a closing parenthesis or a colon: letters, and
from a hyphen on letters of flags to take back, with gaps anywhere. A parenthesis directly after the
question mark or a leading hyphen closes nothing, and neither does a colon after such a hyphen.
Gives the character that ended the flags and the number of characters used since the question mark.
-/
def readFlags? (flags : Flags) (on : Bool) (used : Nat) (text : List Char) :
    Option (Flags × Char × Nat) :=
  match gapLength? flags.extended text with
  | none => none
  | some gap =>
    match _found : text.drop gap with
    | [] => none
    | c :: rest =>
      let place := used + gap
      let bare := !on && place == 1
      if c = ')' then if bare || place == 0 then none else some (flags, c, place + 1)
      else if c = ':' then if bare then none else some (flags, c, place + 1)
      else if c = '-' then if on then readFlags? flags false (place + 1) rest else none
      else
        match flags.set? on c with
        | some flags => readFlags? flags on (place + 1) rest
        | none => none
termination_by text.length
decreasing_by
  all_goals
    have lengths := congrArg List.length _found
    simp only [List.length_drop, List.length_cons] at lengths
    omega

def readOpening? (state : State) (text : List Char) : Option (State × Nat) :=
  match text with
  | '?' :: '=' :: _ => some (state.opened (.look false false), 2)
  | '?' :: '!' :: _ => some (state.opened (.look false true), 2)
  | '?' :: '<' :: '=' :: _ => some (state.opened (.look true false), 3)
  | '?' :: '<' :: '!' :: _ => some (state.opened (.look true true), 3)
  | '?' :: '<' :: rest =>
    (Leaf.readName? rest '>').map fun (name, used) => (state.openedNamed name, used + 2)
  | '?' :: 'P' :: '<' :: rest =>
    (Leaf.readName? rest '>').map fun (name, used) => (state.openedNamed name, used + 3)
  | '?' :: 'P' :: '=' :: rest => do
    let (name, used) ← Leaf.readName? rest ')'
    (state.referByName? name).map (·, used + 3)
  | '?' :: '>' :: _ => some (state.opened .atomic, 2)
  | '?' :: rest => do
    let (flags, ending, used) ← readFlags? state.flags true 0 rest
    if ending = ':' then some ({ state.opened (.scope state.flags) with flags }, used + 1)
    else some ({ state.push .empty with flags }, used + 1)
  | _ => some (state.openedCapture, 0)

def depthLimit : Nat := 64

def readGroup? (state : State) (text : List Char) : Option (State × Nat) := do
  let gap ← gapLength? state.flags.extended text
  let (state', used) ← readOpening? state (text.drop gap)
  if state.outer.length + 1 < depthLimit then some (state', gap + used) else none

def readEscape? (state : State) (text : List Char) : Option (State × Nat) := do
  let (leaf, used) ← Leaf.readEscape? state.numberLimit text
  let state ← match leaf with
    | .literal c => some (state.pushChar c)
    | .verbatim text size => some (state.pushVerbatim text size)
    | .reference index => State.refer? { state with numbered := true } index
    | .namedReference name => state.referByName? name
    | .matchStart => some (state.push .matchStart)
    | .searchStart => some (state.push .searchStart)
  some (state, used)

def readRepetition? (state : State) (bounds : Repetition) (used : Nat) (text : List Char) :
    Option (State × Nat) := do
  let (repetition, more) ← bounds.withManner? state.flags.extended (text.drop used)
  (state.repeat? repetition).map (·, used + more)

def readElement? (state : State) (c : Char) (rest : List Char) : Option (State × Nat) :=
  match c with
  | '.' => some (state.push (.dot state.flags.dotAll), 0)
  | '^' => some (state.push (.anchor (if state.flags.multiline then .lineStart else .textStart)), 0)
  | '$' => some (state.push (.anchor (if state.flags.multiline then .lineEnd else .textEnd)), 0)
  | '|' => some ({ state with level := state.level.bar }, 0)
  | '(' => readGroup? state rest
  | ')' => state.closed?.map (·, 0)
  | '\\' => readEscape? state rest
  | '[' => (Leaf.readBrackets? rest).map fun (text, used) => (state.pushVerbatim text 1, used)
  | '?' => readRepetition? state { least := 0, most := some 1 } 0 rest
  | '*' => readRepetition? state { least := 0, most := none } 0 rest
  | '+' => readRepetition? state { least := 1, most := none } 0 rest
  | '\x7b' =>
    match state.level.waiting, Repetition.readBounds? state.flags.extended rest with
    | some _, some (bounds, used) => readRepetition? state bounds used rest
    | _, _ => some (state.pushChar c, 0)
  | c => some (state.pushChar c, 0)

def step? (state : State) (c : Char) (rest : List Char) : Option (State × Nat) :=
  match gapLength? state.flags.extended (c :: rest) with
  | some 0 => readElement? state c rest
  | some (further + 1) => some (state, further)
  | none => none

def run? (state : State) (text : List Char) : Option State :=
  match text with
  | [] => some state
  | c :: rest =>
    match step? state c rest with
    | some (state, used) => run? state (rest.drop used)
    | none => none
termination_by text.length
decreasing_by simp only [List.length_cons, List.length_drop]; omega

def encodedSize (text : List Char) : Nat :=
  (text.map Char.utf8Size).foldl (· + ·) 0

def read? (text : List Char) : Option (Tree × List Nat) := do
  let state ← run? { numberLimit := encodedSize text / 2 } text
  if state.outer.isEmpty && state.mayEnd then some (state.level.tree, state.referred) else none

end Reader

end Rulebook
