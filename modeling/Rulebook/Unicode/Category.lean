import Rulebook.Text
import Rulebook.Unicode.CategoryTable

/-!
General categories of characters, and the tables over all code points that they are kept in. A table
is a list of runs: so many code points in a row share a label. The run of a code point is found by
bisection on the first code points of the runs.
-/

namespace Rulebook.Unicode

/-- Runs in order: where each begins, and what its code points share. -/
structure Runs (α : Type) where
  starts : Array Nat
  labels : Array α

namespace Runs

def ofLengths {α : Type} (runs : List (α × Nat)) : Runs α :=
  let (table, _) := runs.foldl
    (fun (table, start) (label, length) =>
      (⟨table.starts.push start, table.labels.push label⟩, start + length))
    (⟨#[], #[]⟩, 0)
  table

/-- The last position from `low` up to, and without, `high` whose entry is at most `code`, given
that the entries ascend and the one at `low` is. -/
def bisect (starts : Array Nat) (code low high : Nat) : Nat :=
  if _h : low + 1 < high then
    let middle := (low + high) / 2
    if starts.getD middle 0 ≤ code then bisect starts code middle high
    else bisect starts code low middle
  else low
termination_by high - low

def label? {α : Type} (table : Runs α) (code : Nat) : Option α :=
  table.labels[bisect table.starts code 0 table.starts.size]?

def ofWords {α : Type} (read? : List Char → Option (α × Nat)) (lines : List String) : Runs α :=
  ofLengths (lines.flatMap fun line => (line.toList.splitOn ' ').filterMap read?)

end Runs

inductive Category where
  | lu | ll | lt | lm | lo | mn | mc | me | nd | nl | no | pc | pd | ps | pe | pi | pf | po
  | sm | sc | sk | so | zs | zl | zp | cc | cf | cs | co | cn
  deriving DecidableEq, Repr

namespace Category

def all : List Category :=
  [.lu, .ll, .lt, .lm, .lo, .mn, .mc, .me, .nd, .nl, .no, .pc, .pd, .ps, .pe, .pi, .pf, .po,
    .sm, .sc, .sk, .so, .zs, .zl, .zp, .cc, .cf, .cs, .co, .cn]

def shortName : Category → String
  | .lu => "lu" | .ll => "ll" | .lt => "lt" | .lm => "lm" | .lo => "lo"
  | .mn => "mn" | .mc => "mc" | .me => "me"
  | .nd => "nd" | .nl => "nl" | .no => "no"
  | .pc => "pc" | .pd => "pd" | .ps => "ps" | .pe => "pe" | .pi => "pi" | .pf => "pf" | .po => "po"
  | .sm => "sm" | .sc => "sc" | .sk => "sk" | .so => "so"
  | .zs => "zs" | .zl => "zl" | .zp => "zp"
  | .cc => "cc" | .cf => "cf" | .cs => "cs" | .co => "co" | .cn => "cn"

/-- The long names, as a property is written with: in lower case, without blanks and hyphens. -/
def longNames : Category → List String
  | .lu => ["uppercaseletter"] | .ll => ["lowercaseletter"] | .lt => ["titlecaseletter"]
  | .lm => ["modifierletter"] | .lo => ["otherletter"]
  | .mn => ["nonspacingmark"] | .mc => ["spacingmark"] | .me => ["enclosingmark"]
  | .nd => ["decimalnumber", "digit"] | .nl => ["letternumber"] | .no => ["othernumber"]
  | .pc => ["connectorpunctuation"] | .pd => ["dashpunctuation"]
  | .ps => ["openpunctuation"] | .pe => ["closepunctuation"]
  | .pi => ["initialpunctuation"] | .pf => ["finalpunctuation"] | .po => ["otherpunctuation"]
  | .sm => ["mathsymbol"] | .sc => ["currencysymbol"] | .sk => ["modifiersymbol"]
  | .so => ["othersymbol"]
  | .zs => ["spaceseparator"] | .zl => ["lineseparator"] | .zp => ["paragraphseparator"]
  | .cc => ["control", "cntrl"] | .cf => ["format"] | .cs => ["surrogate"]
  | .co => ["privateuse"] | .cn => ["unassigned"]

def names (category : Category) : List String :=
  category.shortName :: category.longNames

/-- The groups of categories that have a name of their own, by the first letter of their members;
the cased letters are named apart. -/
def groups : List (List String × List Category) :=
  [(["l", "letter"], [.lu, .ll, .lt, .lm, .lo]),
    (["lc", "casedletter"], [.lu, .ll, .lt]),
    (["m", "mark", "combiningmark"], [.mn, .mc, .me]),
    (["n", "number"], [.nd, .nl, .no]),
    (["p", "punctuation", "punct"], [.pc, .pd, .ps, .pe, .pi, .pf, .po]),
    (["s", "symbol"], [.sm, .sc, .sk, .so]),
    (["z", "separator"], [.zs, .zl, .zp]),
    (["c", "other"], [.cc, .cf, .cs, .co, .cn]),
    (["any"], all),
    (["assigned"], all.filter (· != .cn))]

/-- The categories that a name stands for. Surrogates are no characters, so no set is named for
them. -/
def named? (name : String) : Option (List Category) :=
  match groups.find? fun (names, _) => names.contains name with
  | some (_, members) => some members
  | none =>
    (all.find? fun category => category.names.contains name && category != .cs).map
      fun category => [category]

def readRun? : List Char → Option (Category × Nat)
  | major :: minor :: length => do
    let name := String.ofList [major.toLower, minor]
    let category ← all.find? fun category => category.shortName = name
    return (category, ← Text.hexNumeral? length)
  | _ => none

def table : Runs Category :=
  Runs.ofWords readRun? categoryRuns

def of (c : Char) : Category :=
  (table.label? c.toNat).getD .cn

end Category

end Rulebook.Unicode
