import Rulebook.Pattern.Plain
import Rulebook.Text

/-!
What readers of patterns have in common: flags, which say how the text of a pattern is to be read
from some place on, and escapes, which are what a backslash and the characters after it stand for in
a plain pattern. A reader of an escape gets the text after the backslash and gives the number of
characters it used.
-/

namespace Rulebook

structure Flags where
  ignoreCase : Bool := false
  multiline : Bool := false
  dotAll : Bool := false
  swapGreed : Bool := false
  /-- Blanks and the rest of a line after a number sign count for nothing. -/
  extended : Bool := false
  deriving DecidableEq, Repr

/-- Sets the flag of a letter. The letter `u` is there for what holds anyway. -/
def Flags.set? (flags : Flags) (on : Bool) : Char → Option Flags
  | 'i' => some { flags with ignoreCase := on }
  | 'm' => some { flags with multiline := on }
  | 's' => some { flags with dotAll := on }
  | 'U' => some { flags with swapGreed := on }
  | 'x' => some { flags with extended := on }
  | 'u' => if on then some flags else none
  | _ => none

inductive Escape where
  | literal (c : Char)
  | oneOf (set : CharSet)
  | anchor (position : Anchor)
  deriving Repr

namespace Escape

def charOfHex? (digits : List Char) : Option Char := do
  let code ← Text.hexNumeral? digits
  if code.isValidChar then some (Char.ofNat code) else none

/-- A code of exactly `width` digits, or of one to eight digits in braces. -/
def readCode? (width : Nat) (text : List Char) : Option (Char × Nat) :=
  let digits := text.take width
  if digits.length = width && digits.all fun c => (Text.hexDigit? c).isSome then
    (charOfHex? digits).map fun c => (c, width)
  else
    match text with
    | '\x7b' :: rest => do
      let (digits, _) ← Text.cutFirst? '\x7d' rest
      if digits.length ≤ 8 then
        let c ← charOfHex? digits
        some (c, digits.length + 2)
      else none
    | _ => none

def codeWidth? : Char → Option Nat
  | 'x' => some 2
  | 'u' => some 4
  | 'U' => some 8
  | _ => none

def cutUnequal? : List Char → Option (List Char × List Char)
  | '!' :: '=' :: rest => some ([], rest)
  | c :: rest => (cutUnequal? rest).map fun (front, back) => (c :: front, back)
  | [] => none

/-- The set of a property in braces: a name, or a key and a value with a sign between them that says
whether the value is meant or all others. -/
def propertySet? (ignoreCase : Bool) (text : List Char) : Option CharSet :=
  let ofProperty (property : Unicode.Property) : CharSet :=
    .foldedIf ignoreCase (.property property)
  match cutUnequal? text with
  | some (key, value) => (Unicode.Property.valued? key value).map fun p => .compl (ofProperty p)
  | none =>
    match (Text.cutFirst? ':' text).or (Text.cutFirst? '=' text) with
    | some (key, value) => (Unicode.Property.valued? key value).map ofProperty
    | none => (Unicode.Property.named? text).map ofProperty

def readProperty? (ignoreCase : Bool) (text : List Char) : Option (CharSet × Nat) :=
  match text with
  | '\x7b' :: rest => do
    let (inner, _) ← Text.cutFirst? '\x7d' rest
    let set ← propertySet? ignoreCase inner
    some (set, inner.length + 2)
  | letter :: _ => do
    let property ← Unicode.Property.named? [letter]
    some (.foldedIf ignoreCase (.property property), 1)
  | [] => none

def letterSet? : Char → Option CharSet
  | 'd' => some (.property .digit)
  | 'D' => some (.compl (.property .digit))
  | 's' => some (.property .blank)
  | 'S' => some (.compl (.property .blank))
  | 'w' => some (.property .word)
  | 'W' => some (.compl (.property .word))
  | _ => none

def control? : Char → Option Char
  | 'a' => some '\x07'
  | 'f' => some '\x0c'
  | 'n' => some '\n'
  | 'r' => some '\r'
  | 't' => some '\t'
  | 'v' => some '\x0b'
  | _ => none

def anchor? : Char → Option Anchor
  | 'A' => some .textStart
  | 'z' => some .textEnd
  | 'b' => some .wordBoundary
  | 'B' => some .noWordBoundary
  | _ => none

/-- Whether a backslash before the character makes it stand for itself: letters, digits and what is
not ASCII are kept for other meanings. -/
def isQuotable (c : Char) : Bool :=
  decide (c.toNat < 0x80) && !c.isAlphanum && c != '<' && c != '>'

def read? (ignoreCase : Bool) (text : List Char) : Option (Escape × Nat) :=
  match text with
  | [] => none
  | c :: rest =>
    match letterSet? c, control? c, anchor? c, codeWidth? c with
    | some set, _, _, _ => some (.oneOf set, 1)
    | _, some c, _, _ => some (.literal c, 1)
    | _, _, some position, _ => some (.anchor position, 1)
    | _, _, _, some width => (readCode? width rest).map fun (c, used) => (.literal c, used + 1)
    | none, none, none, none =>
      if c = 'p' then
        (readProperty? ignoreCase rest).map fun (set, used) => (.oneOf set, used + 1)
      else if c = 'P' then
        (readProperty? ignoreCase rest).map fun (set, used) => (.oneOf (.compl set), used + 1)
      else if isQuotable c then some (.literal c, 1)
      else none

def signs : List Char :=
  ['\\', '.', '+', '*', '?', '(', ')', '|', '[', ']', '\x7b', '\x7d', '^', '$', '#']

def allSigns : List Char :=
  signs ++ ['&', '-', '~']

def quote (signs : List Char) (c : Char) : List Char :=
  if signs.contains c then ['\\', c] else [c]

end Escape

end Rulebook
