import Rulebook.Unicode.Folding
import Rulebook.Unicode.Property

/-!
Sets of characters, as classes in patterns write them.
-/

namespace Rulebook

inductive CharSet where
  | none
  | range (first last : Char)
  | property (property : Unicode.Property)
  | union (left right : CharSet)
  | inter (left right : CharSet)
  | compl (set : CharSet)
  /-- With every character its variants in case. -/
  | folded (set : CharSet)
  deriving DecidableEq, Repr

namespace CharSet

def contains (c : Char) : CharSet → Bool
  | none => false
  | range first last => decide (first ≤ c) && decide (c ≤ last)
  | property p => p.holds c
  | union left right => left.contains c || right.contains c
  | inter left right => left.contains c && right.contains c
  | compl set => !set.contains c
  | folded set => set.contains c || (Unicode.caseVariants c).any fun variant => set.contains variant

def single (c : Char) : CharSet :=
  range c c

def ofList (characters : List Char) : CharSet :=
  characters.foldr (fun c set => union (single c) set) none

def ofRanges (ranges : List (Char × Char)) : CharSet :=
  ranges.foldr (fun (first, last) set => union (range first last) set) none

def hexDigits : CharSet :=
  ofRanges [('0', '9'), ('A', 'F'), ('a', 'f')]

def any : CharSet :=
  compl none

def dot (all : Bool) : CharSet :=
  if all then any else compl (single '\n')

def diff (left right : CharSet) : CharSet :=
  inter left (compl right)

def symmDiff (left right : CharSet) : CharSet :=
  union (diff left right) (diff right left)

def foldedIf (ignoreCase : Bool) (set : CharSet) : CharSet :=
  if ignoreCase then folded set else set

def complIf (negated : Bool) (set : CharSet) : CharSet :=
  if negated then compl set else set

@[simp] theorem contains_single (c d : Char) : (single d).contains c = true ↔ c = d := by
  simp only [single, contains, Bool.and_eq_true, decide_eq_true_eq]
  exact ⟨fun bounds => Char.le_antisymm bounds.2 bounds.1, fun same => by simp [same]⟩

@[simp] theorem contains_ofList (c : Char) (characters : List Char) :
    (ofList characters).contains c = true ↔ c ∈ characters := by
  induction characters with
  | nil => simp [ofList, contains]
  | cons d rest ih =>
      have unfolded : ofList (d :: rest) = union (single d) (ofList rest) := rfl
      simp only [unfolded, contains, Bool.or_eq_true, contains_single, ih, List.mem_cons]

end CharSet

end Rulebook
