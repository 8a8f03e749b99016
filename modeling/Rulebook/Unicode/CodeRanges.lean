import Rulebook.Unicode.Folding
import Rulebook.Unicode.Property

/-!
Sets of code points as lists of ranges, in order and with gaps between them: unions, complements,
the closure under variants in case, and the ranges of a property.
-/

namespace Rulebook.Unicode

abbrev CodeRanges := List (Nat × Nat)

namespace CodeRanges

/-- Ranges in order of their beginnings, those that touch joined with the range before them. -/
def joinFrom (first last : Nat) : CodeRanges → CodeRanges
  | [] => [(first, last)]
  | (first', last') :: rest =>
    if first' ≤ last + 1 then joinFrom first (max last last') rest
    else (first, last) :: joinFrom first' last' rest

def ofRanges (ranges : List (Nat × Nat)) : CodeRanges :=
  match ranges.mergeSort fun a b => decide (a.1 ≤ b.1) with
  | [] => []
  | (first, last) :: rest => joinFrom first last rest

def union (left right : CodeRanges) : CodeRanges :=
  ofRanges (left ++ right)

def gapsFrom (start : Nat) : CodeRanges → CodeRanges
  | [] => if start ≤ 0x10FFFF then [(start, 0x10FFFF)] else []
  | (first, last) :: rest =>
    if start < first then (start, first - 1) :: gapsFrom (last + 1) rest
    else gapsFrom (last + 1) rest

def compl (ranges : CodeRanges) : CodeRanges :=
  gapsFrom 0 ranges

def inter (left right : CodeRanges) : CodeRanges :=
  compl (union (compl left) (compl right))

def folded (ranges : CodeRanges) : CodeRanges :=
  let variants := foldRuns.flatMap fun run =>
    (List.range' run.first ((run.last - run.first) / run.step + 1) run.step).flatMap fun code =>
      let codes := (caseVariants (Char.ofNat code)).map Char.toNat
      if codes.any (inRanges ranges) then codes else []
  ofRanges (ranges ++ variants.map fun code => (code, code))

/-- Ends of ranges that are no ends of runs with one category or one script. -/
def innerBreaks : List Nat :=
  let lists := ["otheridstart", "otheridcontinue", "patternsyntax", "patternwhitespace"]
  let listed := lists.flatMap fun name => (listedRanges.lookup name).getD []
  let others := otherUppercase ++ otherLowercase ++ otherAlphabetic ++ otherExtending ++
    otherCaseIgnorable ++ unstableInIdentifiers ++ unstableAtBeginnings
  [0x09, 0x0E, 0x80, 0x85, 0x86, 0x200C, 0x200E] ++
    (listed ++ others).flatMap fun (first, last) => [first, last + 1]

def spans : List Nat → CodeRanges
  | [] => []
  | [first] => [(first, 0x10FFFF)]
  | first :: next :: rest => (first, next - 1) :: spans (next :: rest)

def constantRanges : CodeRanges :=
  let breaks := Category.table.starts.toList ++ Script.table.starts.toList ++ innerBreaks
  spans (breaks.mergeSort).eraseReps

def ofConstant (property : Property) : CodeRanges :=
  ofRanges (constantRanges.filter fun (first, _) => property.holds (Char.ofNat first))

def ofProperty : Property → CodeRanges
  | .listed name => ofRanges ((listedRanges.lookup name).getD [])
  | .extendedScript name =>
    let others := ofRanges (extensionRanges.flatMap fun (_, ranges) => ranges)
    union (ofRanges ((extensionRanges.lookup name).getD []))
      (inter (ofConstant (.script name)) (compl others))
  | property => ofConstant property

end CodeRanges

end Rulebook.Unicode
