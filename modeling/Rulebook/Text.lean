/-!
Texts as lists of characters: white space at their ends, numerals, and cutting a text in two. A
character is blank when it has the Unicode property White_Space, which takes in the no-break space
and the ideographic space and leaves out the zero-width ones. A decimal numeral is one or more ASCII
digits; a count is a decimal numeral with an optional plus sign whose value fits 64 bits, which is
what a length argument or a list index may be. Whatever is cut away can be put back: see
`after?_eq_some_iff`, `cutFirst?_eq_some` and `cutLast?_eq_some`.
-/

namespace Rulebook.Text

/-! ### White space -/

/-- The characters with the Unicode property White_Space. -/
def isBlank (c : Char) : Bool :=
  let code := c.toNat
  (0x09 ≤ code && code ≤ 0x0D) || code == 0x20 || code == 0x85 || code == 0xA0 ||
    code == 0x1680 || (0x2000 ≤ code && code ≤ 0x200A) || code == 0x2028 || code == 0x2029 ||
    code == 0x202F || code == 0x205F || code == 0x3000

def trimStart (text : List Char) : List Char :=
  text.dropWhile isBlank

def trim (text : List Char) : List Char :=
  (trimStart (trimStart text).reverse).reverse

/-! ### Numerals -/

def numeral? (text : List Char) : Option Nat :=
  if !text.isEmpty && text.all Char.isDigit then some (Nat.ofDigitChars 10 text 0) else none

def countLimit : Nat := Nat.pow 2 64

/-- The value of an optional plus sign and a numeral, when it fits 64 bits. -/
def count? (text : List Char) : Option Nat :=
  let digits := match text with
    | '+' :: rest => rest
    | other => other
  (numeral? digits).filter (· < countLimit)

def hexDigit? (c : Char) : Option Nat :=
  if c.isDigit then some (c.toNat - '0'.toNat)
  else if 'a' ≤ c ∧ c ≤ 'f' then some (c.toNat - 'a'.toNat + 10)
  else if 'A' ≤ c ∧ c ≤ 'F' then some (c.toNat - 'A'.toNat + 10)
  else none

def hexNumeral? : List Char → Option Nat
  | [] => none
  | digits => (digits.mapM hexDigit?).map fun values => values.foldl (fun n d => 16 * n + d) 0

theorem numeral?_toDigits (n : Nat) : numeral? (Nat.toDigits 10 n) = some n := by
  have nonempty : Nat.toDigits 10 n ≠ [] := Nat.toDigits_ne_nil
  have digits : (Nat.toDigits 10 n).all Char.isDigit = true :=
    List.all_eq_true.mpr fun _ member =>
      Nat.isDigit_of_mem_toDigits (by decide) (by decide) member
  simp [numeral?, nonempty, digits, Nat.ofDigitChars_ten_toDigits]

/-! ### Cuts -/

/-- What follows `word` in a text that begins with it. -/
def after? : List Char → List Char → Option (List Char)
  | [], text => some text
  | _ :: _, [] => none
  | letter :: word, c :: text => if letter = c then after? word text else none

def cutFirst? (separator : Char) : List Char → Option (List Char × List Char)
  | [] => none
  | c :: rest =>
    if c = separator then some ([], rest)
    else (cutFirst? separator rest).map fun (front, back) => (c :: front, back)

def cutLast? (separator : Char) : List Char → Option (List Char × List Char)
  | [] => none
  | c :: rest =>
    match cutLast? separator rest with
    | some (front, back) => some (c :: front, back)
    | none => if c = separator then some ([], rest) else none

theorem after?_eq_some_iff (word text rest : List Char) :
    after? word text = some rest ↔ text = word ++ rest := by
  induction word generalizing text with
  | nil => simp [after?, eq_comm]
  | cons letter word ih =>
      cases text with
      | nil => simp [after?]
      | cons c text =>
          by_cases same : letter = c
          · simp [after?, same, ih]
          · simp [after?, same, Ne.symm same]

theorem cutFirst?_eq_some {separator : Char} {text front back : List Char}
    (cut : cutFirst? separator text = some (front, back)) :
    text = front ++ separator :: back ∧ separator ∉ front := by
  induction text generalizing front back with
  | nil => simp [cutFirst?] at cut
  | cons c rest ih =>
      by_cases same : c = separator
      · simp only [cutFirst?, same, ↓reduceIte, Option.some.injEq, Prod.mk.injEq] at cut
        simp [same, ← cut.1, ← cut.2]
      · simp only [cutFirst?, same, ↓reduceIte, Option.map_eq_some_iff, Prod.mk.injEq,
          Prod.exists] at cut
        obtain ⟨inner, outer, found, frontEq, backEq⟩ := cut
        have split := ih found
        subst frontEq backEq
        simp [split.1, split.2, Ne.symm same]

theorem cutFirst?_append (separator : Char) (text more : List Char) :
    cutFirst? separator (text ++ more) =
      match cutFirst? separator text with
      | some (front, back) => some (front, back ++ more)
      | none => (cutFirst? separator more).map fun (front, back) => (text ++ front, back) := by
  induction text with
  | nil => cases more <;> simp [cutFirst?]
  | cons c rest ih =>
      by_cases same : c = separator
      · simp [cutFirst?, same]
      · simp only [List.cons_append, cutFirst?, same, if_false, ih]
        cases cutFirst? separator rest with
        | none => simp [Function.comp_def]
        | some pair => rfl

theorem cutLast?_eq_some {separator : Char} {text front back : List Char}
    (cut : cutLast? separator text = some (front, back)) :
    text = front ++ separator :: back := by
  induction text generalizing front back with
  | nil => simp [cutLast?] at cut
  | cons c rest ih =>
      simp only [cutLast?] at cut
      split at cut
      · rename_i inner outer found
        simp only [Option.some.injEq, Prod.mk.injEq] at cut
        simp [ih found, ← cut.1, ← cut.2]
      · split at cut
        · rename_i same
          simp only [Option.some.injEq, Prod.mk.injEq] at cut
          simp [same, ← cut.1, ← cut.2]
        · simp at cut

end Rulebook.Text
