import Rulebook.Pattern.Escape

/-!
Bracketed sets of characters in plain patterns: single characters, ranges, escapes, named sets such
as `[:alpha:]`, inner brackets, and the operators for intersection, difference and symmetric
difference, all of which bind less tightly than writing sets side by side. The text is read from the
front onto a stack of the brackets that are open.
-/

namespace Rulebook

namespace Brackets

inductive Operator where
  | inter | diff | symmDiff
  deriving DecidableEq, Repr

def Operator.apply : Operator → CharSet → CharSet → CharSet
  | .inter => .inter
  | .diff => .diff
  | .symmDiff => .symmDiff

/-- An open bracket: whether it is negated, the left operand of an operator that waits for its right
one, and what has been read since. -/
structure Level where
  negated : Bool
  pending : Option (Operator × CharSet)
  items : CharSet

namespace Level

def add (level : Level) (set : CharSet) : Level :=
  { level with items := .union level.items set }

def value (ignoreCase : Bool) (level : Level) : CharSet :=
  match level.pending with
  | some (operator, left) =>
    operator.apply (.foldedIf ignoreCase left) (.foldedIf ignoreCase level.items)
  | none => level.items

def operate (ignoreCase : Bool) (level : Level) (operator : Operator) : Level :=
  { level with pending := some (operator, level.value ignoreCase), items := .none }

def close (ignoreCase : Bool) (level : Level) : CharSet :=
  .complIf level.negated (.foldedIf ignoreCase (level.value ignoreCase))

end Level

/-- Opens a bracket, given the text after it: a circumflex negates it, hyphens at its beginning
stand for themselves, and so does a closing bracket that comes first. Gives the number of characters
used. -/
def openLevel (text : List Char) : Level × Nat :=
  let (negated, body) := match text with
    | '^' :: rest => (true, rest)
    | rest => (false, rest)
  let hyphens := (body.takeWhile (· == '-')).length
  let start := if negated then 1 else 0
  let level : Level := ⟨negated, none, .none⟩
  if 0 < hyphens then (level.add (.single '-'), start + hyphens)
  else if body.head? = some ']' then (level.add (.single ']'), start + 1)
  else (level, start)

def namedSets : List (String × List (Char × Char)) :=
  [("alnum", [('0', '9'), ('A', 'Z'), ('a', 'z')]),
    ("alpha", [('A', 'Z'), ('a', 'z')]),
    ("ascii", [('\x00', '\x7f')]),
    ("blank", [('\t', '\t'), (' ', ' ')]),
    ("cntrl", [('\x00', '\x1f'), ('\x7f', '\x7f')]),
    ("digit", [('0', '9')]),
    ("graph", [('!', '~')]),
    ("lower", [('a', 'z')]),
    ("print", [(' ', '~')]),
    ("punct", [('!', '/'), (':', '@'), ('[', '\x60'), ('\x7b', '~')]),
    ("space", [('\t', '\r'), (' ', ' ')]),
    ("upper", [('A', 'Z')]),
    ("word", [('0', '9'), ('A', 'Z'), ('_', '_'), ('a', 'z')]),
    ("xdigit", [('0', '9'), ('A', 'F'), ('a', 'f')])]

def namedSet? (ignoreCase : Bool) (text : List Char) : Option (CharSet × Nat) := do
  let afterColon ← Text.after? [':'] text
  let (name, back) ← Text.cutFirst? ':' afterColon
  let _ ← Text.after? [']'] back
  let (negated, bare) := match name with
    | '^' :: rest => (true, rest)
    | rest => (false, rest)
  let ranges ← namedSets.lookup (String.ofList bare)
  some (.complIf negated (.foldedIf ignoreCase (.ofRanges ranges)), name.length + 3)

def readItem? (ignoreCase : Bool) (c : Char) (rest : List Char) :
    Option ((Char ⊕ CharSet) × Nat) :=
  if c = '\\' then
    match Escape.read? ignoreCase rest with
    | some (.literal c, used) => some (.inl c, used + 1)
    | some (.oneOf set, used) => some (.inr set, used + 1)
    | _ => none
  else some (.inl c, 1)

/-- A single item, or the first and last character of a range around a hyphen. A hyphen before a
closing bracket or another hyphen makes no range. Gives the number of characters used. -/
def readRange? (ignoreCase : Bool) (c : Char) (rest : List Char) : Option (CharSet × Nat) := do
  let (first, used) ← readItem? ignoreCase c rest
  let alone : Option (CharSet × Nat) := match first with
    | .inl c => some (.single c, used)
    | .inr set => some (set, used)
  match (c :: rest).drop used with
  | '-' :: ']' :: _ | '-' :: '-' :: _ => alone
  | '-' :: d :: rest => do
    let (last, more) ← readItem? ignoreCase d rest
    match first, last with
    | .inl low, .inl high => if low ≤ high then some (.range low high, used + 1 + more) else none
    | _, _ => none
  | _ => alone

/-- One step of reading: the bracket is complete, or the open brackets are these and so many further
characters were used. -/
inductive Progress where
  | complete (set : CharSet)
  | more (level : Level) (outer : List Level) (used : Nat)

def step? (ignoreCase : Bool) (level : Level) (outer : List Level) (c : Char)
    (rest : List Char) : Option Progress :=
  match c, rest with
  | '[', _ =>
    match namedSet? ignoreCase rest with
    | some (set, used) => some (.more (level.add set) outer used)
    | none =>
      let (inner, used) := openLevel rest
      some (.more inner (level :: outer) used)
  | ']', _ =>
    let set := level.close ignoreCase
    match outer with
    | [] => some (.complete set)
    | parent :: outer => some (.more (parent.add set) outer 0)
  | '&', '&' :: _ => some (.more (level.operate ignoreCase .inter) outer 1)
  | '-', '-' :: _ => some (.more (level.operate ignoreCase .diff) outer 1)
  | '~', '~' :: _ => some (.more (level.operate ignoreCase .symmDiff) outer 1)
  | c, rest =>
    (readRange? ignoreCase c rest).map fun (set, used) => .more (level.add set) outer (used - 1)

def run? (ignoreCase : Bool) (level : Level) (outer : List Level) (used : Nat)
    (text : List Char) : Option (CharSet × Nat) :=
  match text with
  | [] => none
  | c :: rest =>
    match step? ignoreCase level outer c rest with
    | some (.complete set) => some (set, used + 1)
    | some (.more level outer more) =>
      run? ignoreCase level outer (used + 1 + more) (rest.drop more)
    | none => none
termination_by text.length
decreasing_by simp only [List.length_cons, List.length_drop]; omega

def read? (ignoreCase : Bool) (text : List Char) : Option (CharSet × Nat) :=
  let (level, used) := openLevel text
  run? ignoreCase level [] used (text.drop used)

end Brackets

end Rulebook
