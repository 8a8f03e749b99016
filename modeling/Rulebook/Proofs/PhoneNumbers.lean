import Rulebook.Proofs.Blanks
import Rulebook.Proofs.DigitPatterns

/-!
Phone numbers. The format accepts a country code after a plus sign, an area code in parentheses and
a local number, the first two of which may be missing. A local number is of digits with single
blanks among them, however the pattern groups them.
-/

namespace Rulebook

namespace Text.Apart

variable {kind : Char → Prop} {text : List Char}

theorem append_of_forall_not {front : List Char} (none : ∀ c ∈ front, ¬kind c)
    (apart : Apart kind text) : Apart kind (front ++ text) := by
  induction front with
  | nil => exact apart
  | cons c front ih =>
      rw [List.forall_mem_cons] at none
      refine List.isChain_cons.mpr ⟨?_, ih none.2⟩
      rintro d _ ⟨first, _⟩
      exact none.1 first

end Text.Apart

namespace Format

variable {text : List Char} {c : Char}

/-- At most one blank. -/
def IsGap (text : List Char) : Prop :=
  text.length ≤ 1 ∧ ∀ c ∈ text, Text.isBlank c = true

/-- A plus sign, one to three digits and perhaps a blank. -/
def IsCountryCode (text : List Char) : Prop :=
  ∃ digits gap, text = '+' :: (digits ++ gap) ∧ Text.IsDigits digits ∧ digits.length ≤ 3 ∧ IsGap gap

def IsAreaCode (text : List Char) : Prop :=
  ∃ digits, text = '(' :: (digits ++ [')']) ∧ Text.IsDigits digits

/-- Digits and blanks, no two of which are side by side. -/
structure IsSpaced (text : List Char) : Prop where
  allowed : ∀ c ∈ text, c.isDigit = true ∨ Text.isBlank c = true
  apart : Text.Apart (Text.isBlank · = true) text

/-- Digits and single blanks with no blank in front. -/
structure IsRun (text : List Char) : Prop where
  spaced : IsSpaced text
  first : ∀ c, text.head? = some c → c.isDigit = true

structure IsLocalNumber (text : List Char) : Prop extends IsRun text where
  last : ∀ c, text.getLast? = some c → c.isDigit = true
  enough : 2 ≤ text.countP Char.isDigit

def IsPhoneNumber (text : List Char) : Prop :=
  ∃ country area number, text = country ++ (area ++ number) ∧
    (country = [] ∨ IsCountryCode country) ∧ (area = [] ∨ IsAreaCode area) ∧ IsLocalNumber number

/-! ### The parts of the pattern -/

theorem matches_gap : (optional (.one blanks)).Matches text ↔ IsGap text := by
  have matched : (between 0 1 (.one blanks)).Matches text ↔ _ := matches_between_one (Nat.zero_le 1)
  refine matched.trans ?_
  simp only [Nat.zero_le, true_and]
  rfl

theorem matches_digits : (oneOrMore anyDigit).Matches text ↔ Text.IsDigits text := by
  rw [anyDigit, matches_oneOrMore_one, Text.IsDigits]
  simp only [contains_digits]

theorem matches_fewDigits {most : Nat} (some : 1 ≤ most) :
    (between 1 most anyDigit).Matches text ↔ Text.IsDigits text ∧ text.length ≤ most := by
  rw [anyDigit, matches_between_one some, Text.IsDigits, ← List.length_pos_iff]
  simp only [contains_digits]
  tauto

theorem matches_countryCode :
    (Plain.sequence [char '+', between 1 3 anyDigit, optional (.one blanks)]).Matches text ↔
      IsCountryCode text := by
  have some : 1 ≤ 3 := by decide
  simp only [Plain.matches_sequence_cons, matches_char, matches_fewDigits some, matches_gap]
  constructor
  · rintro ⟨_, _, rfl, rfl, digits, _, rfl, ⟨areDigits, few⟩, gap, _, rfl, isGap, rfl⟩
    exact ⟨digits, gap, by simp, areDigits, few, isGap⟩
  · rintro ⟨digits, gap, rfl, areDigits, few, isGap⟩
    exact ⟨['+'], _, rfl, rfl, digits, gap, rfl, ⟨areDigits, few⟩, gap, [], by simp, isGap, rfl⟩

theorem matches_areaCode :
    (Plain.sequence [char '(', oneOrMore anyDigit, char ')']).Matches text ↔ IsAreaCode text := by
  simp only [Plain.matches_sequence_cons, matches_char, matches_digits]
  constructor
  · rintro ⟨_, _, rfl, rfl, digits, _, rfl, areDigits, _, _, rfl, rfl, rfl⟩
    exact ⟨digits, rfl, areDigits⟩
  · rintro ⟨digits, rfl, areDigits⟩
    exact ⟨['('], _, rfl, rfl, digits, _, rfl, areDigits, [')'], [], rfl, rfl, rfl⟩

/-- Digits and perhaps a blank after them. -/
def IsGroup (text : List Char) : Prop :=
  ∃ digits gap, text = digits ++ gap ∧ Text.IsDigits digits ∧ IsGap gap

theorem matches_groups :
    (oneOrMore (.seq (oneOrMore anyDigit) (optional (.one blanks)))).Matches text ↔
      ∃ groups : List (List Char), groups ≠ [] ∧ (∀ group ∈ groups, IsGroup group) ∧
        text = groups.flatten := by
  have group (text : List Char) :
      (Plain.seq (oneOrMore anyDigit) (optional (.one blanks))).Matches text ↔ IsGroup text := by
    simp only [Plain.Matches, matches_digits, matches_gap, IsGroup]
  have pieces : (atLeast 1 (.seq (oneOrMore anyDigit) (optional (.one blanks)))).Matches text ↔ _ :=
    matches_atLeast
  refine pieces.trans ?_
  simp only [group, Nat.one_le_iff_ne_zero, List.length_eq_zero_iff, ne_eq]

/-! ### Local numbers in groups -/

theorem not_isBlank_of_isDigits (digits : Text.IsDigits text) :
    ∀ c ∈ text, ¬Text.isBlank c = true := by
  intro c member
  rw [Text.isBlank_of_isDigit (digits.2 c member)]
  exact Bool.false_ne_true

theorem IsSpaced.append_digits {digits : List Char} (areDigits : Text.IsDigits digits)
    (spaced : IsSpaced text) : IsSpaced (digits ++ text) where
  allowed := by
    rw [List.forall_mem_append]
    exact ⟨fun c member => .inl (areDigits.2 c member), spaced.allowed⟩
  apart := spaced.apart.append_of_forall_not (not_isBlank_of_isDigits areDigits)

theorem IsRun.append_gap {gap : List Char} (isGap : IsGap gap) (run : IsRun text) :
    IsSpaced (gap ++ text) where
  allowed := by
    rw [List.forall_mem_append]
    exact ⟨fun c member => .inr (isGap.2 c member), run.spaced.allowed⟩
  apart := by
    cases gap with
    | nil => exact run.spaced.apart
    | cons b more =>
        have single : more = [] := List.length_eq_zero_iff.mp (by simpa using isGap.1)
        subst single
        refine List.isChain_cons.mpr ⟨?_, run.spaced.apart⟩
        rintro c found ⟨_, blank⟩
        rw [Text.isBlank_of_isDigit (run.first c found)] at blank
        cases blank

theorem IsGroup.append {group : List Char} (isGroup : IsGroup group) (run : IsRun text) :
    IsRun (group ++ text) := by
  obtain ⟨digits, gap, rfl, areDigits, isGap⟩ := isGroup
  rw [List.append_assoc]
  refine ⟨(run.append_gap isGap).append_digits areDigits, ?_⟩
  intro c found
  rw [List.head?_append_of_ne_nil _ areDigits.1] at found
  exact areDigits.2 c (List.mem_of_head? found)

theorem isRun_of_groups {groups : List (List Char)} (all : ∀ group ∈ groups, IsGroup group)
    (run : IsRun text) : IsRun (groups.flatten ++ text) := by
  induction groups with
  | nil => exact run
  | cons group groups ih =>
      rw [List.forall_mem_cons] at all
      rw [List.flatten_cons, List.append_assoc]
      exact all.1.append (ih all.2)

theorem IsSpaced.exists_groups (spaced : IsSpaced text) :
    ∃ (gap : List Char) (groups : List (List Char)), text = gap ++ groups.flatten ∧ IsGap gap ∧
      ∀ group ∈ groups, IsGroup group := by
  induction text with
  | nil => exact ⟨[], [], rfl, by simp [IsGap], List.forall_mem_nil _⟩
  | cons c rest ih =>
      obtain ⟨before, apart⟩ := List.isChain_cons.mp spaced.apart
      have allowed := List.forall_mem_cons.mp spaced.allowed
      obtain ⟨gap, groups, rfl, isGap, all⟩ := ih ⟨allowed.2, apart⟩
      -- A digit is made a group of its own, with the blank after it. A blank in front is left over.
      rcases allowed.1 with digit | blank
      · refine ⟨[], (c :: gap) :: groups, by simp, by simp [IsGap], ?_⟩
        refine List.forall_mem_cons.mpr ⟨⟨[c], gap, rfl, ?_, isGap⟩, all⟩
        exact ⟨List.cons_ne_nil _ _, List.forall_mem_singleton.mpr digit⟩
      · have none : gap = [] := by
          by_contra filled
          obtain ⟨b, more, rfl⟩ := List.exists_cons_of_ne_nil filled
          exact before b rfl ⟨blank, isGap.2 b List.mem_cons_self⟩
        subst none
        refine ⟨[c], groups, rfl, ⟨Nat.le_refl 1, ?_⟩, all⟩
        exact List.forall_mem_singleton.mpr blank

theorem isRun_of_isDigits (digits : Text.IsDigits text) : IsRun text := by
  have none : IsSpaced [] := ⟨List.forall_mem_nil _, List.isChain_nil⟩
  have spaced : IsSpaced (text ++ []) := none.append_digits digits
  rw [List.append_nil] at spaced
  exact ⟨spaced, fun c found => digits.2 c (List.mem_of_head? found)⟩

theorem countP_isDigit_pos (digits : Text.IsDigits text) : 0 < text.countP Char.isDigit := by
  obtain ⟨c, rest, rfl⟩ := List.exists_cons_of_ne_nil digits.1
  exact List.countP_pos_iff.mpr ⟨c, List.mem_cons_self, digits.2 c List.mem_cons_self⟩

theorem isLocalNumber_of_groups {groups : List (List Char)} {ending : List Char}
    (some : groups ≠ []) (all : ∀ group ∈ groups, IsGroup group) (digits : Text.IsDigits ending) :
    IsLocalNumber (groups.flatten ++ ending) := by
  refine ⟨isRun_of_groups all (isRun_of_isDigits digits), ?_, ?_⟩
  · intro c found
    rw [List.getLast?_append_of_ne_nil _ digits.1] at found
    exact digits.2 c (List.mem_of_getLast? found)
  · obtain ⟨group, others, rfl⟩ := List.exists_cons_of_ne_nil some
    obtain ⟨front, gap, rfl, frontDigits, _⟩ := all group List.mem_cons_self
    have early := countP_isDigit_pos frontDigits
    have late := countP_isDigit_pos digits
    simp only [List.flatten_cons, List.countP_append]
    omega

theorem IsLocalNumber.exists_groups (number : IsLocalNumber text) :
    ∃ (groups : List (List Char)) (last : Char), text = groups.flatten ++ [last] ∧ groups ≠ [] ∧
      (∀ group ∈ groups, IsGroup group) ∧ last.isDigit = true := by
  have enough := number.enough
  rcases List.eq_nil_or_concat text with rfl | ⟨front, last, rfl⟩
  · simp at enough
  · rw [List.concat_eq_append] at number enough ⊢
    have digit : last.isDigit = true := number.last last List.getLast?_concat
    have spaced : IsSpaced front :=
      ⟨fun c member => number.spaced.allowed c (List.mem_append_left _ member),
        number.spaced.apart.left_of_append⟩
    -- The last digit is enough for the end of the pattern, and the rest falls into groups.
    obtain ⟨gap, groups, rfl, isGap, all⟩ := spaced.exists_groups
    have none : gap = [] := by
      by_contra filled
      obtain ⟨b, more, rfl⟩ := List.exists_cons_of_ne_nil filled
      have blank := isGap.2 b List.mem_cons_self
      rw [Text.isBlank_of_isDigit (number.first b rfl)] at blank
      cases blank
    subst none
    refine ⟨groups, last, rfl, ?_, all, digit⟩
    rintro rfl
    have single : List.countP Char.isDigit [last] ≤ 1 := List.countP_le_length
    simp only [List.flatten_nil, List.nil_append] at enough
    omega

theorem matches_localNumber :
    (Plain.sequence [oneOrMore (.seq (oneOrMore anyDigit) (optional (.one blanks))),
        between 1 4 anyDigit]).Matches text ↔ IsLocalNumber text := by
  have some : 1 ≤ 4 := by decide
  simp only [Plain.sequence, Plain.Matches, matches_groups, matches_fewDigits some]
  constructor
  · rintro ⟨_, ending, rfl, ⟨groups, filled, all, rfl⟩, digits, _⟩
    exact isLocalNumber_of_groups filled all digits
  · intro number
    obtain ⟨groups, last, rfl, filled, all, digit⟩ := number.exists_groups
    refine ⟨_, [last], rfl, ⟨groups, filled, all, rfl⟩, ⟨List.cons_ne_nil _ _, ?_⟩, ?_⟩
    · exact List.forall_mem_singleton.mpr digit
    · exact Nat.le_of_ble_eq_true rfl

/-- Whatever digits and blanks the parts of the pattern could share, the format accepts phone
numbers and nothing else. -/
theorem phone_accepts_numbers (text : List Char) :
    phone.accepts text = true ↔ IsPhoneNumber text := by
  have free : phonePattern.isFree = true := by decide
  have cut : phonePattern = Plain.sequence
      ([optional (Plain.sequence [char '+', between 1 3 anyDigit, optional (.one blanks)]),
        optional (Plain.sequence [char '(', oneOrMore anyDigit, char ')'])] ++
        [oneOrMore (.seq (oneOrMore anyDigit) (optional (.one blanks))),
          between 1 4 anyDigit]) := rfl
  rw [accepts, Plain.covers_iff free, cut, Plain.matches_sequence_append]
  simp only [matches_localNumber]
  constructor
  · rintro ⟨_, number, rfl, ⟨country, area, rfl, coded, areaCoded⟩, isNumber⟩
    refine ⟨country, area, number, List.append_assoc _ _ _, ?_, ?_, isNumber⟩
    · exact (matches_optional.mp coded).imp_right matches_countryCode.mp
    · exact (matches_optional.mp areaCoded).imp_right matches_areaCode.mp
  · rintro ⟨country, area, number, rfl, coded, areaCoded, isNumber⟩
    refine ⟨country ++ area, number, (List.append_assoc _ _ _).symm, ⟨country, area, rfl, ?_, ?_⟩,
      isNumber⟩
    · exact matches_optional.mpr (coded.imp_right matches_countryCode.mpr)
    · exact matches_optional.mpr (areaCoded.imp_right matches_areaCode.mpr)

end Format

end Rulebook
