import Rulebook.Pattern.Plain

/-!
Patterns as they are written: beside the plain parts there are references to what a group captured,
looks ahead and behind, groups that are never stepped back into, and marks for where a match or a
search begins. What uses none of these is plain, unless a group in it is referred to.
-/

namespace Rulebook

inductive Tree where
  | empty
  | literal (c : Char) (ignoreCase : Bool)
  | dot (all : Bool)
  | anchor (position : Anchor)
  /-- Text that plain patterns have too and that is left as it is: a set of characters, which takes
  one, or an escape for a position, which takes none. -/
  | verbatim (text : List Char) (size : Nat) (ignoreCase : Bool)
  | seq (parts : List Tree)
  | alt (branches : List Tree)
  | loop (body : Tree) (least : Nat) (most : Option Nat) (greedy : Bool)
  | group (index : Nat) (body : Tree)
  | reference (index : Nat)
  | look (behind negated : Bool) (body : Tree)
  | atomic (body : Tree)
  /-- Sets where the reported match begins, which makes no difference to whether there is one. -/
  | matchStart
  /-- The position at which the search began. -/
  | searchStart
  deriving Inhabited, Repr

namespace Tree

def ofParts : List Tree → Tree
  | [] => .empty
  | [part] => part
  | parts => .seq parts

def ofBranches : List Tree → Tree
  | [branch] => branch
  | branches => .alt branches

def isEmpty : Tree → Bool
  | .empty => true
  | _ => false

/-- Whether a repetition can be put after the pattern: there has to be something to repeat that is
no look around and no sign for a position. -/
def isRepeatable : Tree → Bool
  | .empty | .look .. | .anchor _ => false
  | _ => true

mutual

/-- The least number of characters in a match, where no loop has less rounds at most than at
least. -/
def minSize : Tree → Nat
  | .literal .. | .dot _ => 1
  | .verbatim _ size _ => size
  | .seq parts => sumSizes parts
  | .alt branches => (leastSize? branches).getD 0
  | .loop body least _ _ => body.minSize * least
  | .group _ body | .atomic body => body.minSize
  | .empty | .anchor _ | .reference _ | .look .. | .matchStart | .searchStart => 0

def sumSizes : List Tree → Nat
  | [] => 0
  | part :: rest => part.minSize + sumSizes rest

def leastSize? : List Tree → Option Nat
  | [] => none
  | branch :: rest =>
    match leastSize? rest with
    | some size => some (min branch.minSize size)
    | none => some branch.minSize

end

mutual

def isFixed : Tree → Bool
  | .reference _ => false
  | .seq parts => allFixed parts
  | .alt branches =>
    allFixed branches && branches.all fun branch => branch.minSize == (leastSize? branches).getD 0
  | .loop body least most _ => body.isFixed && most == some least
  | .group _ body | .atomic body => body.isFixed
  | .empty | .literal .. | .dot _ | .anchor _ | .verbatim .. | .look .. | .matchStart
  | .searchStart => true

def allFixed : List Tree → Bool
  | [] => true
  | part :: rest => part.isFixed && allFixed rest

end

mutual

def isPlain (referred : List Nat) : Tree → Bool
  | .seq parts => allPlain referred parts
  | .alt branches => allPlain referred branches
  | .loop body _ _ _ => body.isPlain referred
  | .group index body => !referred.contains index && body.isPlain referred
  | .reference _ | .look .. | .atomic _ | .matchStart | .searchStart => false
  | .empty | .literal .. | .dot _ | .anchor _ | .verbatim .. => true

def allPlain (referred : List Nat) : List Tree → Bool
  | [] => true
  | part :: rest => part.isPlain referred && allPlain referred rest

end

mutual

def looksLeft : Tree → Bool
  | .anchor position => position == .textStart || position == .lineStart
  | .verbatim _ size _ => size == 0
  | .seq parts => anyLooksLeft parts
  | .alt branches => anyLooksLeft branches
  | .loop body _ _ _ | .group _ body | .look _ _ body | .atomic body => body.looksLeft
  | .empty | .literal .. | .dot _ | .reference _ | .matchStart | .searchStart => false

def anyLooksLeft : List Tree → Bool
  | [] => false
  | part :: rest => part.looksLeft || anyLooksLeft rest

end

end Tree

end Rulebook
