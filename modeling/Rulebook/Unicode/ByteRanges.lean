/-!
The encoding of code points in bytes, a range of code points at a time: as sequences of ranges of
bytes that together take in exactly the encodings of the code points. Surrogates have none.
-/

namespace Rulebook.Unicode

def bytesOf (code : Nat) : List Nat :=
  if code < 0x80 then [code]
  else if code < 0x800 then [0xC0 + code / 0x40, 0x80 + code % 0x40]
  else if code < 0x10000 then
    [0xE0 + code / 0x1000, 0x80 + code / 0x40 % 0x40, 0x80 + code % 0x40]
  else
    [0xF0 + code / 0x40000, 0x80 + code / 0x1000 % 0x40, 0x80 + code / 0x40 % 0x40,
      0x80 + code % 0x40]

def lengthEnds : List Nat :=
  [0x7F, 0x7FF, 0xFFFF]

/-- Where to cut a range so that its ends agree on the bits above the given number of them or take
in all values of those below. -/
def alignment? (first last block : Nat) : Option Nat :=
  if first / block = last / block then none
  else if first % block ≠ 0 then some (first / block * block + (block - 1))
  else if last % block ≠ block - 1 then some (last / block * block - 1)
  else none

/-- The last code point before a cut, if a range has to be cut to be one sequence. -/
def cut? (first last : Nat) : Option Nat :=
  match lengthEnds.find? fun code => decide (first ≤ code) && decide (code < last) with
  | some code => some code
  | none =>
    if last ≤ 0x7F then none
    else [0x40, 0x1000, 0x40000].findSome? (alignment? first last)

def sequencesBetween (first last : Nat) : List (List (Nat × Nat)) :=
  if last < first then []
  else
    match cut? first last with
    | some code =>
      if _inside : first ≤ code ∧ code < last then
        sequencesBetween first code ++ sequencesBetween (code + 1) last
      else []
    | none => [(bytesOf first).zip (bytesOf last)]
termination_by last - first

def byteSequences (first last : Nat) : List (List (Nat × Nat)) :=
  sequencesBetween first (min last 0xD7FF) ++ sequencesBetween (max first 0xE000) last

/-- Sequences one after another, put together by their first ranges. -/
def byHead (sequences : List (List (Nat × Nat))) :
    List ((Nat × Nat) × List (List (Nat × Nat))) :=
  sequences.foldr
    (fun sequence groups =>
      match sequence, groups with
      | [], groups => groups
      | head :: tail, (head', tails) :: groups =>
        if head = head' then (head, tail :: tails) :: groups
        else (head, [tail]) :: (head', tails) :: groups
      | head :: tail, [] => [(head, [tail])])
    []

def countBeginnings : Nat → List (List (Nat × Nat)) → Nat
  | 0, _ => 0
  | length + 1, sequences =>
    (byHead sequences).foldl (fun count (_, tails) => count + 1 + countBeginnings length tails) 0

/-- The ranges a sequence can go on with, each with the number of what comes after it. -/
abbrev Fork := List ((Nat × Nat) × Nat)

/-- Numbers the forks of sequences no longer than `length`, equal ones alike, in addition to the
forks known; zero is the number of the end. -/
def numberForks : Nat → Array Fork → List (List (Nat × Nat)) → Nat × Array Fork
  | 0, known, _ => (0, known)
  | length + 1, known, sequences =>
    match byHead sequences with
    | [] => (0, known)
    | groups =>
      let (fork, known) := groups.foldl
        (fun (fork, known) (head, tails) =>
          let (number, known) := numberForks length known tails
          ((head, number) :: fork, known))
        (([] : Fork), known)
      match known.idxOf? fork with
      | some index => (index + 1, known)
      | none => (known.size + 1, known.push fork)

end Rulebook.Unicode
