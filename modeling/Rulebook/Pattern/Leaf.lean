import Rulebook.Pattern.Escape

/-!
The smallest parts of patterns that take more than one character to write: what a backslash begins,
and brackets. Much of it is left as it is written, for plain patterns to give it a meaning. Inside
brackets an escape is written out in the way plain patterns write it, without a look at what stands
around it.
-/

namespace Rulebook

inductive Leaf where
  | literal (c : Char)
  /-- Text that plain patterns have too, for so many characters. -/
  | verbatim (text : List Char) (size : Nat)
  | reference (index : Nat)
  | namedReference (name : String)
  | matchStart
  | searchStart
  deriving Repr

namespace Leaf

def readName? (text : List Char) (close : Char) : Option (String × Nat) :=
  let name := text.takeWhile fun c => Unicode.isAlphanumeric c || c == '_'
  if name.isEmpty then none
  else if (text.drop name.length).head? = some close then
    some (String.ofList name, name.length + 1)
  else none

def hexDigits (negated : Bool) : List Char :=
  (if negated then "[^0-9A-Fa-f]" else "[0-9A-Fa-f]").toList

def nameLength? (text : List Char) : Option Nat :=
  match text with
  | '\x7b' :: rest => (Text.cutFirst? '\x7d' rest).map fun (inner, _) => inner.length + 2
  | _ :: _ => some 1
  | [] => none

/-- What a backslash begins, from the text after it, and the number of characters used. Numbers of
groups stay below a limit. -/
def readEscape? (numberLimit : Nat) (text : List Char) : Option (Leaf × Nat) :=
  match text with
  | [] => none
  | c :: rest =>
    if c.isDigit then
      let digits := text.takeWhile Char.isDigit
      let index := Nat.ofDigitChars 10 digits 0
      if index < numberLimit then some (.reference index, digits.length) else none
    else
      match Escape.letterSet? c, Escape.control? c, Escape.anchor? c, Escape.codeWidth? c with
      | some _, _, _, _ | _, some _, _, _ => some (.verbatim ['\\', c] 1, 1)
      | _, _, some _, _ => some (.verbatim ['\\', c] 0, 1)
      | _, _, _, some width =>
        (Escape.readCode? width rest).map fun (c, used) => (.literal c, used + 1)
      | none, none, none, none =>
        match c, rest with
        | 'k', '<' :: rest =>
          (readName? rest '>').map fun (name, used) => (.namedReference name, used + 2)
        | 'e', _ => some (.verbatim "\\x1B".toList 1, 1)
        | 'h', _ => some (.verbatim (hexDigits false) 1, 1)
        | 'H', _ => some (.verbatim (hexDigits true) 1, 1)
        | 'p', _ | 'P', _ =>
          (nameLength? rest).map fun used => (.verbatim ('\\' :: c :: rest.take used) 1, used + 1)
        | 'K', _ => some (.matchStart, 1)
        | 'G', _ => some (.searchStart, 1)
        | _, _ =>
          if c.isAlpha then none
          else if ' ' ≤ c ∧ c ≤ '\x7f' then some (.literal c, 1)
          else some (.verbatim ['\\', c] 1, 1)

def bracketText? : Leaf → Option (List Char)
  | literal c => some (Escape.quote Escape.allSigns c)
  | verbatim text _ => some text
  | _ => none

/-- Reads up to and with the bracket that closes the outermost of `depth` open ones. What has been
written out before is given in reverse; the number of characters used comes with the whole. -/
def copyBrackets? (depth used : Nat) (written : List Char) (text : List Char) :
    Option (List Char × Nat) :=
  match text with
  | [] => none
  | '\\' :: rest =>
    match readEscape? 0 rest with
    | some (leaf, length) =>
      match leaf.bracketText? with
      | some text =>
        copyBrackets? depth (used + 1 + length) (text.reverse ++ written) (rest.drop length)
      | none => none
    | none => none
  | '[' :: rest => copyBrackets? (depth + 1) (used + 1) ('[' :: written) rest
  | ']' :: rest =>
    if depth ≤ 1 then some ((']' :: written).reverse, used + 1)
    else copyBrackets? (depth - 1) (used + 1) (']' :: written) rest
  | c :: rest => copyBrackets? depth (used + 1) (c :: written) rest
termination_by text.length
decreasing_by all_goals simp only [List.length_cons, List.length_drop]; omega

/-- The text of brackets as plain patterns write it, from the text after the opening one, and the
number of characters used. A closing bracket that comes first stands for itself. -/
def readBrackets? (text : List Char) : Option (List Char × Nat) :=
  match text with
  | '^' :: ']' :: rest => copyBrackets? 1 2 [']', '^', '['] rest
  | '^' :: rest => copyBrackets? 1 1 ['^', '['] rest
  | ']' :: rest => copyBrackets? 1 1 [']', '['] rest
  | text => copyBrackets? 1 0 ['['] text

end Leaf

end Rulebook
