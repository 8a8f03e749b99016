import Rulebook.Pattern.CharSet

/-!
Plain patterns: character sets, positions, sequence, choice and repetition. Whether a plain pattern
matches somewhere depends on nothing but the text there, so it is matched without ever stepping
back: the pattern unfolds into the moves it can begin with, in order of preference, and after each
character a list of distinct patterns is left.
-/

namespace Rulebook

inductive Anchor where
  | textStart | textEnd | lineStart | lineEnd | wordBoundary | noWordBoundary
  deriving DecidableEq, Repr

namespace Anchor

def atWordBoundary (before next : Option Char) : Bool :=
  before.any Unicode.isWord != next.any Unicode.isWord

def holds (before next : Option Char) : Anchor → Bool
  | textStart => before.isNone
  | textEnd => next.isNone
  | lineStart => before.all (· == '\n')
  | lineEnd => next.all (· == '\n')
  | wordBoundary => atWordBoundary before next
  | noWordBoundary => !atWordBoundary before next

end Anchor

inductive Plain where
  | empty
  | one (set : CharSet)
  | anchor (position : Anchor)
  | seq (first second : Plain)
  | alt (first second : Plain)
  /-- The body at least and at most so many times, as often or as seldom as possible. -/
  | loop (body : Plain) (least : Nat) (most : Option Nat) (greedy : Bool)
  /-- The body in parentheses that tell it apart, which makes no difference to what matches. -/
  | group (body : Plain)
  /-- What the body matches, unless it begins with the word. -/
  | barred (word : List Char) (body : Plain)
  deriving DecidableEq, Repr

/-- The beginning of a match: it is complete, or a character is taken and the rest is to match. -/
inductive Move where
  | stop
  | take (set : CharSet) (rest : Plain)
  deriving DecidableEq, Repr

def Plain.andThen (first second : Plain) : Plain :=
  if first = .empty then second else .seq first second

namespace Move

/-- The moves of a pattern and what follows it that come from one of the pattern: where the pattern
is complete, those that what follows can go on with. -/
@[macro_inline]
def followedBy (further : List Move) (next : Plain) : Move → List Move
  | stop => further
  | take set rest => [take set (rest.andThen next)]

/-- The moves of a barred pattern that come from one of its body: a text that goes on as the word
does stays barred, and any other is free. -/
def barred (word : List Char) : Move → List Move
  | stop => if word.isEmpty then [] else [stop]
  | take set rest =>
    match word with
    | [] => []
    | letter :: word =>
      [take (.inter set (.single letter)) (.barred word rest),
        take (.diff set (.single letter)) rest]

def after? (c : Char) : Move → Option Plain
  | stop => none
  | take set rest => if set.contains c then some rest else none

end Move

namespace Plain

def again (body : Plain) (least : Nat) (most : Option Nat) (greedy : Bool) : Plain :=
  .loop body (least - 1) (most.map (· - 1)) greedy

/-- The moves of a loop, given the distinct ones of its body. A round that takes no character ends
the loop, unless more rounds are owed: the next of these then begins where it stands. -/
def loopMoves (body : Plain) (greedy : Bool) (turn : List Move) : Nat → Option Nat → List Move
  | 0, most =>
    if most = some 0 then [.stop]
    else
      let rounds := turn.flatMap fun move => move.followedBy [.stop] (again body 0 most greedy)
      if greedy then rounds ++ [.stop] else .stop :: rounds
  | least + 1, most =>
    if most = some 0 then [.stop]
    else
      turn.flatMap fun move =>
        move.followedBy (loopMoves body greedy turn least (most.map (· - 1)))
          (again body (least + 1) most greedy)

/-- The moves a match can begin with between two characters, the preferred ones first. -/
def moves (before next : Option Char) : Plain → List Move
  | empty => [.stop]
  | one set => [.take set .empty]
  | anchor a => if a.holds before next then [.stop] else []
  | seq first second =>
    (first.moves before next).flatMap fun move =>
      move.followedBy (second.moves before next) second
  | alt first second => first.moves before next ++ second.moves before next
  | loop body least most greedy =>
    loopMoves body greedy (body.moves before next).eraseDups least most
  | group body => body.moves before next
  | barred word body => (body.moves before next).flatMap (Move.barred word)

def residuals (c : Char) (choices : List Move) : List Plain :=
  (choices.filterMap (Move.after? c)).eraseDups

def coverAny (before : Option Char) (patterns : List Plain) : List Char → Bool
  | [] => (patterns.flatMap (moves before none)).contains .stop
  | c :: rest =>
    coverAny (some c) (residuals c (patterns.flatMap (moves before (some c)))) rest

def covers (pattern : Plain) (text : List Char) : Bool :=
  coverAny none [pattern] text

def leadAny (before : Option Char) (patterns : List Plain) : List Char → Bool
  | [] => (patterns.flatMap (moves before none)).contains .stop
  | c :: rest =>
    let choices := patterns.flatMap (moves before (some c))
    choices.contains .stop ||
      (!choices.isEmpty && leadAny (some c) (residuals c choices) rest)

def occurs (pattern : Plain) (before : Option Char) : List Char → Bool
  | [] => leadAny before [pattern] []
  | c :: rest => leadAny before [pattern] (c :: rest) || occurs pattern (some c) rest

/-- The length of the preferred match of the patterns at the front of the text, given how many
characters were taken and the best length up to now. A complete match rules out what is less
preferred than it. -/
def preferredLength (taken : Nat) (best : Option Nat) (before : Option Char)
    (patterns : List Plain) : List Char → Option Nat
  | [] => if (patterns.flatMap (moves before none)).contains .stop then some taken else best
  | c :: rest =>
    let choices := patterns.flatMap (moves before (some c))
    let best := if choices.contains .stop then some taken else best
    match residuals c (choices.takeWhile (· != .stop)) with
    | [] => best
    | left => preferredLength (taken + 1) best (some c) left rest

def matchLength? (pattern : Plain) (before : Option Char) (text : List Char) : Option Nat :=
  preferredLength 0 none before [pattern] text

def isAnchored : Plain → Bool
  | anchor position => position == .textStart
  | seq first _ => first.isAnchored
  | alt first second => first.isAnchored && second.isAnchored
  | group body => body.isAnchored
  | _ => false

def endFrom? (pattern : Plain) (before : Option Char) (taken : Nat) : List Char → Option Nat
  | [] => (pattern.matchLength? before []).map (taken + ·)
  | c :: rest =>
    match pattern.matchLength? before (c :: rest) with
    | some length => some (taken + length)
    | none => if pattern.isAnchored then none else endFrom? pattern (some c) (taken + 1) rest

/-- Where the first preferred match in the text ends. -/
def endOf? (pattern : Plain) (text : List Char) : Option Nat :=
  pattern.endFrom? none 0 text

def sequence : List Plain → Plain
  | [] => .empty
  | [pattern] => pattern
  | pattern :: rest => .seq pattern (sequence rest)

def choice : List Plain → Plain
  | [] => .one .none
  | [pattern] => pattern
  | pattern :: rest => .alt pattern (choice rest)

end Plain

end Rulebook
