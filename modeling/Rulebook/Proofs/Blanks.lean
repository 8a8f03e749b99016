import Mathlib.Data.List.TakeWhile
import Mathlib.Tactic.SplitIfs
import Rulebook.Text

/-!
White space: which characters are blank, and what trimming takes away at the ends of texts and what
it leaves.
-/

namespace Rulebook

namespace Text

theorem trimStart_of_unblank {text : List Char} (unblank : ∀ c ∈ text, isBlank c = false) :
    trimStart text = text := by
  cases text with
  | nil => rfl
  | cons c rest =>
      have first : ¬isBlank c = true := by simp [unblank c List.mem_cons_self]
      rw [trimStart, List.dropWhile_cons_of_neg first]

theorem trim_of_unblank {text : List Char} (unblank : ∀ c ∈ text, isBlank c = false) :
    trim text = text := by
  have back : ∀ c ∈ text.reverse, isBlank c = false := by simpa using unblank
  rw [trim, trimStart_of_unblank unblank, trimStart_of_unblank back, List.reverse_reverse]

theorem isBlank_of_isDigit {c : Char} (digit : c.isDigit = true) : isBlank c = false := by
  have range : 48 ≤ c.toNat ∧ c.toNat ≤ 57 := by
    simpa [Char.isDigit, UInt32.le_iff_toNat_le] using digit
  rw [← Bool.not_eq_true]
  intro blank
  simp only [isBlank, Bool.or_eq_true, Bool.and_eq_true, decide_eq_true_eq, beq_iff_eq] at blank
  omega

/-- The codes of the white space characters. -/
def blankCodes : List Nat :=
  List.range' 0x09 5 ++ [0x20, 0x85, 0xA0, 0x1680] ++ List.range' 0x2000 11 ++
    [0x2028, 0x2029, 0x202F, 0x205F, 0x3000]

theorem isBlank_iff_mem {c : Char} : isBlank c = true ↔ c.toNat ∈ blankCodes := by
  simp only [isBlank, blankCodes, Bool.or_eq_true, Bool.and_eq_true, decide_eq_true_eq, beq_iff_eq,
    List.mem_append, List.mem_range'_1, List.mem_cons, List.not_mem_nil, or_false]
  omega

theorem trimStart_append {front : List Char} (blank : ∀ c ∈ front, isBlank c = true)
    (text : List Char) : trimStart (front ++ text) = trimStart text :=
  List.dropWhile_append_of_pos blank

theorem trim_append {back : List Char} (blank : ∀ c ∈ back, isBlank c = true)
    (text : List Char) : trim (text ++ back) = trim text := by
  have nothing : trimStart back = [] := List.dropWhile_eq_nil_iff.mpr blank
  have reversed : ∀ c ∈ back.reverse, isBlank c = true := by simpa using blank
  have split : trimStart (text ++ back) =
      if (trimStart text).isEmpty then trimStart back else trimStart text ++ back :=
    List.dropWhile_append
  rw [trim, trim, split]
  split_ifs with empty
  · rw [nothing, List.isEmpty_iff.mp empty]
  · rw [List.reverse_append, trimStart_append reversed]

/-- Blanks around a text are trimmed. -/
theorem trim_surrounded {front back : List Char} (frontBlank : ∀ c ∈ front, isBlank c = true)
    (backBlank : ∀ c ∈ back, isBlank c = true) (text : List Char) :
    trim (front ++ text ++ back) = trim text := by
  rw [trim_append backBlank, trim, trimStart_append frontBlank, trim]

/-- A text that begins and ends with something else than white space is as it is. -/
theorem trim_of_unblank_ends {front back : List Char} (frontNonempty : front ≠ [])
    (backNonempty : back ≠ []) (frontUnblank : ∀ c ∈ front, isBlank c = false)
    (backUnblank : ∀ c ∈ back, isBlank c = false) (middle : List Char) :
    trim (front ++ middle ++ back) = front ++ middle ++ back := by
  have begins (text : List Char) (nonempty : text ≠ []) (unblank : ∀ c ∈ text, isBlank c = false)
      (rest : List Char) : trimStart (text ++ rest) = text ++ rest := by
    obtain ⟨c, others, rfl⟩ := List.exists_cons_of_ne_nil nonempty
    have first : ¬isBlank c = true := by simp [unblank c List.mem_cons_self]
    rw [List.cons_append, trimStart, List.dropWhile_cons_of_neg first]
  have reversed : ∀ c ∈ back.reverse, isBlank c = false := by simpa using backUnblank
  have reversedNonempty : back.reverse ≠ [] := by simpa using backNonempty
  rw [trim, List.append_assoc, begins front frontNonempty frontUnblank, ← List.append_assoc,
    List.reverse_append, begins _ reversedNonempty reversed, ← List.reverse_append,
    List.reverse_reverse]

end Text

end Rulebook
