import Rulebook.Pattern.Brackets

/-!
Reading a plain pattern. The text is read from the front, one element at a time, onto a stack of the
groups that are open. A repetition is put after the last element before it.
-/

namespace Rulebook

namespace PlainReader

/-- The pattern up to now on one level: the branches before the last bar and the elements after it,
both in reverse. An element that only sets flags is none to repeat. -/
structure Level where
  branches : List Plain := []
  elements : List (Option Plain) := []

namespace Level

def push (level : Level) (pattern : Plain) : Level :=
  { level with elements := some pattern :: level.elements }

def branch (level : Level) : Plain :=
  Plain.sequence (level.elements.reverse.filterMap id)

def bar (level : Level) : Level :=
  { branches := level.branch :: level.branches }

def pattern (level : Level) : Plain :=
  Plain.choice (level.branch :: level.branches).reverse

end Level

/-- An open group: whether it is told apart, the flags to come back to, and the level around it. -/
structure Group where
  distinct : Bool
  flags : Flags
  level : Level

structure State where
  flags : Flags := {}
  level : Level := {}
  outer : List Group := []

namespace State

def push (state : State) (pattern : Plain) : State :=
  { state with level := state.level.push pattern }

def pushChar (state : State) (c : Char) : State :=
  state.push (.one (.foldedIf state.flags.ignoreCase (.single c)))

def opened (state : State) (distinct : Bool) (flags : Flags) : State :=
  { flags, level := {}, outer := ⟨distinct, state.flags, state.level⟩ :: state.outer }

def closed? (state : State) : Option State :=
  match state.outer with
  | [] => none
  | ⟨distinct, flags, parent⟩ :: outer =>
    let body := state.level.pattern
    some { flags, outer, level := parent.push (if distinct then .group body else body) }

def repeat? (state : State) (least : Nat) (most : Option Nat) (lazy : Bool) : Option State :=
  match state.level.elements with
  | some pattern :: elements =>
    let loop : Plain := .loop pattern least most (lazy == state.flags.swapGreed)
    some { state with level := { state.level with elements := some loop :: elements } }
  | _ => none

end State

def boundLimit : Nat := Nat.pow 2 32

def readBound? (text : List Char) : Option (Nat × Nat) :=
  let digits := text.takeWhile Char.isDigit
  ((Text.numeral? digits).filter (· < boundLimit)).map (·, digits.length)

/-- The bounds in braces, from the text after the opening one: a number, a number and a comma, or
two in order. Gives the number of characters up to and with the closing brace. -/
def readBounds? (text : List Char) : Option (Nat × Option Nat × Nat) := do
  let (least, used) ← readBound? text
  match text.drop used with
  | '\x7d' :: _ => some (least, some least, used + 1)
  | ',' :: '\x7d' :: _ => some (least, none, used + 2)
  | ',' :: rest => do
    let (most, more) ← readBound? rest
    if (rest.drop more).head? = some '\x7d' ∧ least ≤ most then
      some (least, some most, used + more + 2)
    else none
  | _ => none

def readRepetition? (state : State) (least : Nat) (most : Option Nat) (used : Nat)
    (text : List Char) : Option (State × Nat) :=
  let lazy := (text.drop used).head? = some '?'
  (state.repeat? least most lazy).map (·, if lazy then used + 1 else used)

/-- The flags between a question mark and a closing parenthesis or a colon: letters, and after a
hyphen the letters of flags to take back, none of them twice. There are no gaps in plain patterns,
nor is there a flag for them. Gives the character that ended the flags and the number of characters
used. -/
def readFlags? (flags : Flags) (seen : List Char) (used : Nat) :
    List Char → Option (Flags × Char × Nat)
  | [] => none
  | c :: rest =>
    if c = ')' ∨ c = ':' then
      if seen.head? = some '-' ∨ (c = ')' ∧ seen.isEmpty) then none else some (flags, c, used + 1)
    else if seen.contains c ∨ c = 'x' then none
    else if c = '-' then readFlags? flags (c :: seen) (used + 1) rest
    else
      match flags.set? (!seen.contains '-') c with
      | some flags => readFlags? flags (c :: seen) (used + 1) rest
      | none => none

def readOpening? (state : State) (text : List Char) : Option (State × Nat) :=
  match text with
  | '?' :: rest => do
    let (flags, ending, used) ← readFlags? state.flags [] 1 rest
    if ending = ':' then some (state.opened false flags, used)
    else
      let level := { state.level with elements := none :: state.level.elements }
      some ({ state with flags, level }, used)
  | _ => some (state.opened true state.flags, 0)

def readEscape? (state : State) (text : List Char) : Option (State × Nat) := do
  let (escape, used) ← Escape.read? state.flags.ignoreCase text
  let state := match escape with
    | .literal c => state.pushChar c
    | .oneOf set => state.push (.one set)
    | .anchor position => state.push (.anchor position)
  some (state, used)

def step? (state : State) (c : Char) (rest : List Char) : Option (State × Nat) :=
  match c with
  | '.' => some (state.push (.one (.dot state.flags.dotAll)), 0)
  | '^' => some (state.push (.anchor (if state.flags.multiline then .lineStart else .textStart)), 0)
  | '$' => some (state.push (.anchor (if state.flags.multiline then .lineEnd else .textEnd)), 0)
  | '|' => some ({ state with level := state.level.bar }, 0)
  | '(' => readOpening? state rest
  | ')' => state.closed?.map (·, 0)
  | '\\' => readEscape? state rest
  | '[' =>
    (Brackets.read? state.flags.ignoreCase rest).map
      fun (set, used) => (state.push (.one set), used)
  | '?' => readRepetition? state 0 (some 1) 0 rest
  | '*' => readRepetition? state 0 none 0 rest
  | '+' => readRepetition? state 1 none 0 rest
  | '\x7b' => do
    let (least, most, used) ← readBounds? rest
    readRepetition? state least most used rest
  | c => some (state.pushChar c, 0)

def run? (state : State) (text : List Char) : Option State :=
  match text with
  | [] => some state
  | c :: rest =>
    match step? state c rest with
    | some (state, used) => run? state (rest.drop used)
    | none => none
termination_by text.length
decreasing_by simp only [List.length_cons, List.length_drop]; omega

end PlainReader

def Plain.read? (text : List Char) : Option Plain := do
  let state ← PlainReader.run? {} text
  if state.outer.isEmpty then some state.level.pattern else none

end Rulebook
