import Rulebook.Number.Shortest
import Rulebook.Text

/-!
The canonical text of a number, on which digits and decimal places are counted, and the reading of
numeric text. Canonical text has the shortest figures, from the middle the ones above, and is
positional from a millionth up to, and without, ten to the twenty-first; outside it has an exponent
with a sign. Numeric text may have blanks around it. It has to begin as a numeral does, be one that
doubles are read from, infinity and NaN by name among them, and give a finite one.
-/

namespace Rulebook

namespace Double

def positionalFrom : Double := Decimal.toDouble ⟨false, 1, -6⟩

def positionalBelow : Double := Decimal.toDouble ⟨false, 1, 21⟩

def needsExponent (d : Double) : Bool :=
  !(atMost positionalFrom d.abs) || atMost positionalBelow d.abs

/-- The canonical text. The sign of zero is not shown. -/
def canonicalText : Double → List Char
  | .nan => "NaN".toList
  | .ranked negative rank =>
    let sign := if negative then ['-'] else []
    if rank.val = 0 then ['0']
    else if rank.val = infinityRank then sign ++ "inf".toList
    else
      let figures := Shortest.ofRank .above rank
      sign ++ if needsExponent (.ranked negative rank) then figures.scientific true
        else figures.positional

/-- The double that a text stands for: infinity or NaN by name, with a sign and in letters of any
case, or the nearest to a decimal numeral. -/
def read? (text : List Char) : Option Double :=
  let (negative, body) := Decimal.readSign text
  let name := body.map Char.toLower
  if name = "inf".toList ∨ name = "infinity".toList then some (infinity negative)
  else if name = "nan".toList then some .nan
  else (Decimal.read? text).map Decimal.toDouble

end Double

def isSign (c : Char) : Bool :=
  c == '+' || c == '-'

def beginsBody (c : Char) : Bool :=
  c.isDigit || c == '.'

/-- The number that a text spells, between blanks: its first character and the first one after all
signs show whether it is read at all, and what is read has to be finite. -/
def readNumber? (text : List Char) : Option Double :=
  let trimmed := Text.trim text
  if !(trimmed.head?.any fun c => isSign c || beginsBody c) then none
  else if !(trimmed.dropWhile isSign).head?.any beginsBody then none
  else (Double.read? trimmed).filter Double.isFinite

theorem isFinite_of_readNumber? {text : List Char} {n : Double}
    (spelled : readNumber? text = some n) : n.isFinite = true := by
  rw [readNumber?] at spelled
  split at spelled
  · cases spelled
  · split at spelled
    · cases spelled
    · exact (Option.filter_eq_some_iff.mp spelled).2

end Rulebook
