import Rulebook.Pattern.Plan
import Rulebook.Text

/-!
Searching a text by a plan. Where a plan leaves a choice the preferred way is tried first, and
coming back to another way costs one step of a budget. A search says whether there is a match, or
that its budget did not suffice.
-/

namespace Rulebook

/-- A position in a text, with the characters before it in reverse, and the positions at which groups
last began and last ended. -/
structure Cursor where
  before : List Char
  after : List Char
  taken : Nat
  begun : List (Nat × Nat)
  ended : List (Nat × Nat)

namespace Cursor

def advance (cursor : Cursor) (count : Nat) : Cursor :=
  { cursor with
    before := (cursor.after.take count).reverse ++ cursor.before
    after := cursor.after.drop count
    taken := cursor.taken + count }

def goBack? (cursor : Cursor) (count : Nat) : Option Cursor :=
  if count ≤ cursor.taken then
    some
      { cursor with
        before := cursor.before.drop count
        after := (cursor.before.take count).reverse ++ cursor.after
        taken := cursor.taken - count }
  else none

/-- Moves to where a match of a plain pattern in what is left of the text ends. The second form of
the pattern is matched from one character further back, where there is one. -/
def pass? (cursor : Cursor) (pattern : Plain) (fromLeft : Option Plain) : Option Cursor :=
  match fromLeft, cursor.goBack? 1 with
  | some pattern, some earlier => (pattern.endOf? earlier.after).map earlier.advance
  | _, _ => (pattern.endOf? cursor.after).map cursor.advance

def beginGroup (cursor : Cursor) (index : Nat) : Cursor :=
  { cursor with begun := (index, cursor.taken) :: cursor.begun }

def endGroup (cursor : Cursor) (index : Nat) : Cursor :=
  { cursor with ended := (index, cursor.taken) :: cursor.ended }

def between? (cursor : Cursor) (first last : Nat) : Option (List Char) :=
  if last < first then none
  else if last ≤ cursor.taken then
    some ((cursor.before.drop (cursor.taken - last)).take (last - first)).reverse
  else some (((cursor.before.reverse ++ cursor.after).drop first).take (last - first))

def captured? (cursor : Cursor) (index : Nat) : Option (List Char) := do
  let first ← cursor.begun.lookup index
  let last ← cursor.ended.lookup index
  cursor.between? first last

def returnTo (cursor earlier : Cursor) : Cursor :=
  { earlier with begun := cursor.begun, ended := cursor.ended }

end Cursor

/-- An attempt to match, given the steps that are left: where the match ends, if there is one, and
the steps left then, or nothing when the steps do not suffice. -/
abbrev Attempt := Nat → Option (Option Cursor × Nat)

namespace Attempt

def fail : Attempt :=
  fun left => some (none, left)

def succeed (cursor : Cursor) : Attempt :=
  fun left => some (some cursor, left)

/-- Takes more steps than there ever are. -/
def giveUp : Attempt :=
  fun _ => none

def step (attempt : Attempt) : Attempt
  | 0 => none
  | left + 1 => attempt left

def orElse (first second : Attempt) : Attempt := fun left =>
  match first left with
  | some (none, left) => step second left
  | decided => decided

end Attempt

/-- A part of a plan: from a position on it matches something and leaves the rest to what follows.
-/
abbrev Stage := (Cursor → Attempt) → Cursor → Attempt

namespace Stage

def times (round : Stage) : Nat → Stage
  | 0, next, cursor => next cursor
  | count + 1, next, cursor => round (times round count next) cursor

def choose (greedy : Bool) (more stop : Attempt) : Attempt :=
  if greedy then more.orElse stop else stop.orElse more

def upTo (round : Stage) (greedy : Bool) : Nat → Stage
  | 0, next, cursor => next cursor
  | count + 1, next, cursor =>
    choose greedy (round (upTo round greedy count next) cursor) (next cursor)

/-- Any number of rounds, less than `count` of which take a character. After a round that takes none
a guarded loop is left, and one that is not guarded goes on until the steps are used up. -/
def many (round : Stage) (greedy guarded : Bool) : Nat → Stage
  | 0, next, cursor => next cursor
  | count + 1, next, cursor =>
    let onward (later : Cursor) : Attempt :=
      if cursor.taken < later.taken then many round greedy guarded count next later
      else if guarded then next later
      else .giveUp
    choose greedy (round onward cursor) (next cursor)

end Stage

namespace Plan

def run : Plan → Stage
  | once pattern fromLeft, next, cursor =>
    match cursor.pass? pattern fromLeft with
    | some later => next later
    | none => .fail
  | one set, next, cursor =>
    match cursor.after with
    | c :: _ => if set.contains c then next (cursor.advance 1) else .fail
    | [] => .fail
  | seq first second, next, cursor => first.run (second.run next) cursor
  | alt first second, next, cursor => (first.run next cursor).orElse (second.run next cursor)
  | loop body least most greedy guarded, next, cursor =>
    match most with
    | some most =>
      Stage.times body.run (min least most) (Stage.upTo body.run greedy (most - least) next) cursor
    | none =>
      let more (next : Cursor → Attempt) (cursor : Cursor) : Attempt :=
        Stage.many body.run greedy guarded (cursor.after.length + 1) next cursor
      Stage.times body.run least (more next) cursor
  | capture index body, next, cursor =>
    body.run (fun later => next (later.endGroup index)) (cursor.beginGroup index)
  | reference index, next, cursor =>
    match cursor.captured? index with
    | some text =>
      match Text.after? text cursor.after with
      | some _ => next (cursor.advance text.length)
      | none => .fail
    | none => .fail
  | look back body, next, cursor =>
    match cursor.goBack? back with
    | some earlier => body.run (fun later => next (later.returnTo cursor)) earlier
    | none => .fail
  | lookNot back body, next, cursor =>
    match cursor.goBack? back with
    | some earlier => fun left =>
      match body.run .succeed earlier left with
      | some (none, left) => (next cursor).step left
      | some (some _, left) => some (none, left)
      | none => none
    | none => (next cursor).step
  | atomic body, next, cursor => fun left =>
    match body.run .succeed cursor left with
    | some (some later, left) => next later left
    | undecided => undecided
  | start, next, cursor => if cursor.taken = 0 then next cursor else .fail

/-- Tries every position from the cursor on, and at last gives up. To go on costs a step. -/
def seek (plan : Plan) (before : List Char) (taken : Nat) (text : List Char) (left : Nat) :
    Option Bool :=
  match plan.run .succeed ⟨before, text, taken, [], []⟩ left with
  | some (some _, _) => some true
  | some (none, 0) | none => none
  | some (none, left + 1) =>
    match text with
    | [] => some false
    | c :: rest => seek plan (c :: before) (taken + 1) rest left

end Plan

/-- The steps that a search may take back. -/
def stepLimit : Nat := 1000000

def Plan.occurs? (plan : Plan) (text : List Char) : Option Bool :=
  plan.seek [] 0 text stepLimit

end Rulebook
