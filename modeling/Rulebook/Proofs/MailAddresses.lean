import Mathlib.Data.Bool.AllAny
import Rulebook.Proofs.CaseVariants
import Rulebook.Proofs.FormatShapes

/-!
Mail addresses. The format accepts a mailbox and a host with an at sign between them, each of them
names with dots between. Names are of ASCII characters but for two letters, which come in because
the pattern ignores case.
-/

namespace Rulebook

namespace Format

variable {text : List Char} {c : Char}

def IsAtomChar (c : Char) : Prop :=
  c.isAlphanum = true ∨ c ∈ atomMarks

/-- The letters outside ASCII that are variants in case of letters inside, of s and of k. -/
def asciiVariants : List Char :=
  ['\u017f', '\u212a']

/-- Whether a text is an address of ASCII characters and some others. -/
def IsAddress (others : List Char) (text : List Char) : Prop :=
  ∃ mailbox host, text = mailbox ++ '@' :: host ∧
    IsDotted 1 (fun c => IsAtomChar c ∨ c ∈ others) mailbox ∧
    IsDotted 2 (fun c => IsLabelChar c ∨ c ∈ others) host

theorem isAlphanum_iff_alpha : c.isAlphanum = true ↔ c.isAlpha = true ∨ c.isDigit = true := by
  have either : c.isAlphanum = (c.isAlpha || c.isDigit) := rfl
  rw [either, Bool.or_eq_true]

theorem contains_upperLetters : upperLetters.contains c = true ↔ c.isUpper = true := by
  rw [upperLetters, CharSet.contains, Bool.and_eq_true, decide_eq_true_iff, decide_eq_true_iff]
  exact Unicode.isUpper_iff.symm

/-- The characters that a class in the pattern is written with. -/
def IsWritten (marks : List Char) (c : Char) : Prop :=
  (c.isUpper = true ∨ c.isDigit = true) ∨ c ∈ marks

section Written

variable {marks : List Char}

theorem contains_addressChars_iff_variant :
    (addressChars marks).contains c = true ↔
      IsWritten marks c ∨ ∃ variant ∈ Unicode.caseVariants c, IsWritten marks variant := by
  simp only [addressChars, CharSet.contains, Bool.or_eq_true, List.any_eq_true, IsWritten,
    contains_upperLetters, contains_digits, CharSet.contains_ofList]

theorem IsWritten.isAlphanum_or_mem (written : IsWritten marks c) :
    c.isAlphanum = true ∨ c ∈ marks := by
  rw [isAlphanum_iff_alpha, Unicode.isAlpha_iff]
  exact written.imp_left (Or.imp_left .inl)

variable (ascii : ∀ mark ∈ marks, 0 < mark.toNat ∧ mark.toNat < 128)

include ascii

theorem IsWritten.toNat_lt (written : IsWritten marks c) : 0 < c.toNat ∧ c.toNat < 128 := by
  rcases written with (upper | digit) | mark
  · have bounds := Unicode.isUpper_iff.mp upper
    omega
  · have bounds : 48 ≤ c.toNat ∧ c.toNat ≤ 57 := Char.isDigit_iff_toNat.mp digit
    omega
  · exact ascii c mark

/-- What capitals, digits and marks come to when case is ignored: letters of both cases and two more
are added. -/
theorem contains_addressChars :
    (addressChars marks).contains c = true ↔
      (c.isAlphanum = true ∨ c ∈ marks) ∨ c ∈ asciiVariants := by
  rw [contains_addressChars_iff_variant]
  constructor
  · rintro (written | ⟨variant, member, written⟩)
    · exact .inl written.isAlphanum_or_mem
    · obtain ⟨positive, below⟩ := written.toNat_lt ascii
      rcases Unicode.eq_or_isAlpha_of_mem_caseVariants member positive below with rfl | letter
      · exact .inl written.isAlphanum_or_mem
      · refine letter.imp_left fun alpha => .inl ?_
        exact isAlphanum_iff_alpha.mpr (.inl alpha)
  · intro shown
    have capital (letter : c.isLower = true ∨ c ∈ asciiVariants) :
        ∃ variant ∈ Unicode.caseVariants c, IsWritten marks variant := by
      obtain ⟨variant, member, upper⟩ := Unicode.exists_isUpper_caseVariant letter
      exact ⟨variant, member, .inl (.inl upper)⟩
    rcases shown with (alphanumeric | mark) | other
    · rw [isAlphanum_iff_alpha, Unicode.isAlpha_iff] at alphanumeric
      rcases alphanumeric with (upper | lower) | digit
      · exact .inl (.inl (.inl upper))
      · exact .inr (capital (.inl lower))
      · exact .inl (.inl (.inr digit))
    · exact .inl (.inr mark)
    · exact .inr (capital (.inr other))

end Written

theorem contains_atomChars :
    atomChars.contains c = true ↔ IsAtomChar c ∨ c ∈ asciiVariants :=
  contains_addressChars (List.all_iff_forall_prop.mp (by decide))

theorem contains_hostChars :
    hostChars.contains c = true ↔ IsLabelChar c ∨ c ∈ asciiVariants := by
  have ascii : ∀ mark ∈ ['-'], 0 < mark.toNat ∧ mark.toNat < 128 := by simp
  rw [hostChars, contains_addressChars ascii, List.mem_singleton, IsLabelChar]

theorem accepts_email_iff : email.accepts text = true ↔ IsAddress asciiVariants text := by
  have free : emailPattern.isFree = true := by decide
  rw [accepts, Plain.covers_iff free, emailPattern, IsAddress]
  simp only [Plain.matches_sequence_cons, ← contains_atomChars, ← contains_hostChars,
    ← matches_dotted, matches_char]
  constructor
  · rintro ⟨name, _, rfl, first, names, _, rfl, others, _, _, rfl, rfl, label, _, rfl, third,
      labels, _, rfl, fourth, rfl⟩
    refine ⟨name ++ names, label ++ labels, ?_, ⟨name, names, rfl, first, others⟩,
      ⟨label, labels, rfl, third, fourth⟩⟩
    simp
  · rintro ⟨_, _, rfl, ⟨name, names, rfl, first, others⟩, label, labels, rfl, third, fourth⟩
    exact ⟨name, _, List.append_assoc _ _ _, first, names, _, rfl, others, ['@'], _, rfl, rfl,
      label, labels, rfl, third, labels, [], (List.append_nil _).symm, fourth, rfl⟩

theorem IsAtomChar.toNat_lt (atomChar : IsAtomChar c) : c.toNat < 128 := by
  have marks : ∀ mark ∈ atomMarks, mark.toNat < 128 := List.all_iff_forall_prop.mp (by decide)
  rcases atomChar with alphanumeric | mark
  · exact toNat_lt_of_isAlphanum alphanumeric
  · exact marks c mark

theorem IsLabelChar.toNat_lt (labelChar : IsLabelChar c) : c.toNat < 128 := by
  rcases labelChar with alphanumeric | rfl
  · exact toNat_lt_of_isAlphanum alphanumeric
  · decide

theorem isAtomChar_ne_at (atomChar : IsAtomChar c) : c ≠ '@' := by
  rintro rfl
  revert atomChar
  rw [IsAtomChar]
  decide

theorem isLabelChar_ne_at (labelChar : IsLabelChar c) : c ≠ '@' := by
  rintro rfl
  revert labelChar
  rw [IsLabelChar]
  decide

namespace IsAddress

variable {others : List Char}

/-- The at sign between mailbox and host is the only one. -/
theorem count_at (address : IsAddress others text) (none : '@' ∉ others) : text.count '@' = 1 := by
  obtain ⟨mailbox, host, rfl, atoms, labels⟩ := address
  have mailboxFree : '@' ∉ mailbox := by
    intro member
    rcases atoms.eq_dot_or_allowed member with dot | atomChar | other
    · cases dot
    · exact isAtomChar_ne_at atomChar rfl
    · exact none other
  have hostFree : '@' ∉ host := by
    intro member
    rcases labels.eq_dot_or_allowed member with dot | labelChar | other
    · cases dot
    · exact isLabelChar_ne_at labelChar rfl
    · exact none other
  rw [List.count_append, List.count_cons_self, List.count_eq_zero.mpr mailboxFree,
    List.count_eq_zero.mpr hostFree]

theorem toNat_lt_or_mem (address : IsAddress others text) (member : c ∈ text) :
    c.toNat < 128 ∨ c ∈ others := by
  obtain ⟨mailbox, host, rfl, atoms, labels⟩ := address
  have dotSmall : '.'.toNat < 128 := by decide
  have atSmall : '@'.toNat < 128 := by decide
  rw [List.mem_append, List.mem_cons] at member
  rcases member with inMailbox | rfl | inHost
  · rcases atoms.eq_dot_or_allowed inMailbox with rfl | atomChar | other
    · exact .inl dotSmall
    · exact .inl atomChar.toNat_lt
    · exact .inr other
  · exact .inl atSmall
  · rcases labels.eq_dot_or_allowed inHost with rfl | labelChar | other
    · exact .inl dotSmall
    · exact .inl labelChar.toNat_lt
    · exact .inr other

theorem of_forall_mem {more : List Char} (address : IsAddress others text)
    (also : ∀ c ∈ text, c ∈ others → c ∈ more) : IsAddress more text := by
  obtain ⟨mailbox, host, rfl, atoms, labels⟩ := address
  refine ⟨mailbox, host, rfl, atoms.of_forall_mem ?_, labels.of_forall_mem ?_⟩
  · intro c member
    exact Or.imp_right (also c (List.mem_append_left _ member))
  · intro c member
    exact Or.imp_right (also c (List.mem_append_right _ (List.mem_cons_of_mem _ member)))

end IsAddress

/-- What is accepted has the shape of an address, with one at sign and in ASCII but for two letters
that count as variants of s and k. In ASCII alone, the addresses are accepted and nothing else. -/
theorem email_accepts_addresses (text : List Char) :
    (email.accepts text = true ↔ IsAddress asciiVariants text) ∧
    (email.accepts text = true → text.count '@' = 1 ∧
      ∀ c ∈ text, c.toNat < 128 ∨ c ∈ asciiVariants) ∧
    ((∀ c ∈ text, c.toNat < 128) → (email.accepts text = true ↔ IsAddress [] text)) := by
  have unlisted : '@' ∉ asciiVariants := by decide
  refine ⟨accepts_email_iff, ?_, ?_⟩
  · intro accepted
    have address := accepts_email_iff.mp accepted
    exact ⟨address.count_at unlisted, fun c member => address.toNat_lt_or_mem member⟩
  · intro ascii
    have outside : ∀ c ∈ asciiVariants, ¬c.toNat < 128 := List.all_iff_forall_prop.mp (by decide)
    rw [accepts_email_iff]
    constructor
    · intro address
      exact address.of_forall_mem fun c member variant =>
        absurd (ascii c member) (outside c variant)
    · intro address
      exact address.of_forall_mem fun c member none => absurd none List.not_mem_nil

theorem email_accepts_addresses_tag :
    email.accepts "a+b.c@d-e.f".toList = true ∧ (∀ c ∈ "a+b.c@d-e.f".toList, c.toNat < 128) ∧
      "a+b.c@d-e.f".toList.count '@' = 1 ∧ IsAddress [] "a+b.c@d-e.f".toList := by
  have ascii : ∀ c ∈ "a+b.c@d-e.f".toList, c.toNat < 128 :=
    List.all_iff_forall_prop.mp (by decide)
  have accepted : email.accepts "a+b.c@d-e.f".toList = true := by decide +kernel
  obtain ⟨-, one, same⟩ := email_accepts_addresses "a+b.c@d-e.f".toList
  exact ⟨accepted, ascii, (one accepted).1, (same ascii).mp accepted⟩

/-- The long s is no ASCII letter, but it is a variant of one. -/
theorem email_accepts_long_s :
    email.accepts "\u017f@b.c".toList = true ∧ ¬IsAddress [] "\u017f@b.c".toList := by
  constructor
  · decide +kernel
  · intro address
    have member : '\u017f' ∈ "\u017f@b.c".toList := by decide
    rcases address.toNat_lt_or_mem member with small | none
    · revert small
      decide
    · cases none

end Format

end Rulebook
