import Rulebook.Pattern.Plain
import Rulebook.Unicode.ByteRanges
import Rulebook.Unicode.CodeRanges

/-!
The size of plain patterns. A pattern is laid out as a graph of states over the bytes of a text,
once to be followed forward and once backward, with every repetition written out. A pattern is
refused when one of the two layouts takes more than ten mebibytes: a state takes 32 bytes, a way out
of a state with several takes 8 more, and a way to an alternative 4.
-/

namespace Rulebook

structure Layout where
  forward : Nat
  backward : Nat
  deriving DecidableEq, Repr

namespace Layout

def both (size : Nat) : Layout :=
  ⟨size, size⟩

def add (first second : Layout) : Layout :=
  ⟨first.forward + second.forward, first.backward + second.backward⟩

def times (count : Nat) (layout : Layout) : Layout :=
  ⟨count * layout.forward, count * layout.backward⟩

def limit : Nat := 10485760

end Layout

namespace CharSet

def codes : CharSet → Unicode.CodeRanges
  | none => []
  | range first last => if first ≤ last then [(first.toNat, last.toNat)] else []
  | property p => .ofProperty p
  | union left right => left.codes.union right.codes
  | inter left right => left.codes.inter right.codes
  | compl set => set.codes.compl
  | folded set => set.codes.folded

/-- The layout of one character of the set. The alternatives for a character of several bytes share
their ends on the way forward and their beginnings on the way backward. -/
def layout (set : CharSet) : Layout :=
  match set.codes with
  | [] => .both 32
  | [(first, last)] =>
    if first = last then .both (32 * (Unicode.bytesOf first).length) else ofCodes [(first, last)]
  | codes => ofCodes codes
where
  ofCodes (codes : Unicode.CodeRanges) : Layout :=
    if codes.all fun (_, last) => decide (last < 0x80) then .both (64 + 8 * codes.length)
    else
      let sequences := codes.flatMap fun (first, last) => Unicode.byteSequences first last
      let (_, forks) := Unicode.numberForks 4 #[] sequences
      ⟨forks.foldl (fun size fork => size + 32 + 8 * fork.length) 32,
        64 + 4 * sequences.length + 32 * Unicode.countBeginnings 4 sequences⟩

def isAscii : CharSet → Bool
  | none => true
  | range _ last => decide (last.toNat < 0x80)
  | union left right => left.isAscii && right.isAscii
  | inter left _ => left.isAscii
  | _ => false

/-- A size that the layout of one character of the set keeps to. -/
def layoutBound (set : CharSet) : Layout :=
  .both (if set.isAscii then 1088 else 163840)

end CharSet

namespace Plain

def asSet? : Plain → Option CharSet
  | one set => some set
  | alt first second =>
    match first.asSet?, second.asSet? with
    | some left, some right => some (.union left right)
    | _, _ => none
  | _ => none

def takesNothing : Plain → Bool
  | empty | anchor _ => true
  | one _ => false
  | seq first second | alt first second => first.takesNothing && second.takesNothing
  | loop body _ most _ => most == some 0 || body.takesNothing
  | group body | barred _ body => body.takesNothing

def takesSomething : Plain → Bool
  | empty | anchor _ => false
  | one _ => true
  | seq first second => first.takesSomething || second.takesSomething
  | alt first second => first.takesSomething && second.takesSomething
  | loop body least most _ => least != 0 && most != some 0 && body.takesSomething
  | group body | barred _ body => body.takesSomething

/-- The layout of a loop. A body that takes nothing need not be repeated. -/
def loopLayout (body : Plain) (one : Layout) (least : Nat) (most : Option Nat) : Layout :=
  let (least, most) :=
    if body.takesNothing then (min least 1, some (min (most.getD 1) 1)) else (least, most)
  match least, most with
  | 0, some 0 => .both 32
  | 0, some 1 => one.add (.both 72)
  | 0, none => one.add (.both (if body.takesSomething then 40 else 112))
  | least, none => (one.times least).add (.both 40)
  | least, some most =>
    if least < most then
      (one.times most).add (.both ((if least = 0 then 64 else 32) + 40 * (most - least)))
    else one.times least

def layoutBy (ofSet : CharSet → Layout) (pattern : Plain) : Layout :=
  match pattern.asSet? with
  | some set => ofSet set
  | none =>
    match pattern with
    | empty | anchor _ => .both 32
    | one set => ofSet set
    | seq first second => (first.layoutBy ofSet).add (second.layoutBy ofSet)
    | alt first second =>
      let further := match second with
        | alt .. => 4
        | _ => 72
      ((first.layoutBy ofSet).add (second.layoutBy ofSet)).add (.both further)
    | loop body least most _ => loopLayout body (body.layoutBy ofSet) least most
    | group body => (body.layoutBy ofSet).add ⟨64, 0⟩
    | barred _ body => body.layoutBy ofSet

def isEndAnchored : Plain → Bool
  | anchor position => position == .textEnd
  | seq _ second => second.isEndAnchored
  | alt first second => first.isEndAnchored && second.isEndAnchored
  | group body => body.isEndAnchored
  | _ => false

/-- What surrounds a pattern: the way to where it begins, the marks of the match on the way forward,
and the end. -/
def frame (pattern : Plain) : Layout :=
  ⟨if pattern.isAnchored then 128 else 208, if pattern.isEndAnchored then 64 else 144⟩

def fits (pattern : Plain) : Bool :=
  within CharSet.layoutBound || within CharSet.layout
where
  within (ofSet : CharSet → Layout) : Bool :=
    let whole := (pattern.layoutBy ofSet).add pattern.frame
    decide (whole.forward ≤ Layout.limit) && decide (whole.backward ≤ Layout.limit)

end Plain

end Rulebook
