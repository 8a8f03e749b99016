import Mathlib.Data.List.Chain
import Rulebook.Proofs.PlainLanguage

/-!
What the parts of format patterns match: words, runs of characters of one set, and names with single
dots between them; and the shapes of texts that this is told by.
-/

namespace Rulebook

/-- No two adjacent characters are both of a kind. -/
def Text.Apart (kind : Char → Prop) (text : List Char) : Prop :=
  text.IsChain fun a b => ¬(kind a ∧ kind b)

namespace Text.Apart

variable {kind : Char → Prop} {text : List Char}

theorem reverse_iff : Apart kind text.reverse ↔ Apart kind text := by
  rw [Apart, Apart, List.isChain_reverse]
  simp only [and_comm]

/-- Two adjacent characters are a part of a text of length two. -/
theorem iff_forall_part : Apart kind text ↔
    ∀ part, part <:+: text → part.length = 2 → ¬∀ c ∈ part, kind c := by
  constructor
  · intro apart part inside two both
    obtain ⟨a, b, rfl⟩ := List.length_eq_two.mp two
    have pair := List.isChain_pair.mp <| List.IsChain.infix apart inside
    exact pair ⟨both a (by simp), both b (by simp)⟩
  · intro never
    refine (List.isChain_isInfix text).imp ?_
    rintro a b inside ⟨first, second⟩
    apply never [a, b] inside rfl
    simp [first, second]

end Text.Apart

namespace Text

theorem getLast?_ends (first : Char) (middle : List Char) (last : Char) :
    (first :: (middle ++ [last])).getLast? = some last := by
  rw [← List.cons_append, List.getLast?_concat]

theorem exists_ends {text : List Char} (enough : 2 ≤ text.length) :
    ∃ first middle last, text = first :: (middle ++ [last]) := by
  cases text with
  | nil => simp at enough
  | cons first tail =>
      rcases List.eq_nil_or_concat tail with rfl | ⟨middle, last, rfl⟩
      · simp at enough
      · exact ⟨first, middle, last, by rw [List.concat_eq_append]⟩

end Text

namespace Rounds

variable {language : List Char → Prop}

theorem iff_exists_pieces {count : Nat} {text : List Char} : Rounds language count text ↔
    ∃ pieces : List (List Char), pieces.length = count ∧ (∀ piece ∈ pieces, language piece) ∧
      text = pieces.flatten := by
  constructor
  · intro rounds
    induction rounds with
    | none => exact ⟨[], rfl, List.forall_mem_nil _, rfl⟩
    | @more count front back first others ih =>
        obtain ⟨pieces, rfl, all, rfl⟩ := ih
        exact ⟨front :: pieces, rfl, List.forall_mem_cons.mpr ⟨first, all⟩, rfl⟩
  · rintro ⟨pieces, rfl, all, rfl⟩
    induction pieces with
    | nil => exact none
    | cons piece pieces ih =>
        rw [List.forall_mem_cons] at all
        exact more all.1 (ih all.2)

end Rounds

namespace Format

variable {text : List Char}

theorem matches_word {letters : String} :
    (word letters).Matches text ↔ text = letters.toList := by
  rw [word]
  generalize letters.toList = expected
  induction expected generalizing text with
  | nil => rfl
  | cons c expected ih =>
      rw [List.map_cons, Plain.matches_sequence_cons]
      simp only [matches_char, ih]
      constructor
      · rintro ⟨_, _, rfl, rfl, rfl⟩
        rfl
      · rintro rfl
        exact ⟨[c], expected, rfl, rfl, rfl⟩

theorem matches_seq_optional {first second : Plain} :
    (Plain.seq (optional first) second).Matches text ↔
      second.Matches text ∨ (Plain.seq first second).Matches text := by
  simp only [Plain.Matches, matches_optional]
  constructor
  · rintro ⟨front, back, rfl, rfl | matched, others⟩
    · exact .inl others
    · exact .inr ⟨front, back, rfl, matched, others⟩
  · rintro (matched | ⟨front, back, rfl, matched, others⟩)
    · exact ⟨[], text, rfl, .inl rfl, matched⟩
    · exact ⟨front, back, rfl, .inr matched, others⟩

theorem matches_atLeast {least : Nat} {pattern : Plain} :
    (atLeast least pattern).Matches text ↔
      ∃ pieces : List (List Char), least ≤ pieces.length ∧
        (∀ piece ∈ pieces, pattern.Matches piece) ∧ text = pieces.flatten := by
  rw [atLeast, Plain.Matches]
  simp only [Plain.Allows, Rounds.iff_exists_pieces]
  constructor
  · rintro ⟨_, enough, pieces, rfl, matched, rfl⟩
    exact ⟨pieces, enough, matched, rfl⟩
  · rintro ⟨pieces, enough, matched, rfl⟩
    exact ⟨_, enough, pieces, rfl, matched, rfl⟩

theorem matches_atLeast_one {least : Nat} {set : CharSet} :
    (atLeast least (.one set)).Matches text ↔
      least ≤ text.length ∧ ∀ c ∈ text, set.contains c = true := by
  rw [atLeast, Plain.Matches]
  simp only [Plain.Allows, Plain.rounds_one_iff]
  constructor
  · rintro ⟨_, enough, rfl, members⟩
    exact ⟨enough, members⟩
  · rintro ⟨enough, members⟩
    exact ⟨_, enough, rfl, members⟩

theorem matches_oneOrMore_one {set : CharSet} :
    (oneOrMore (.one set)).Matches text ↔ text ≠ [] ∧ ∀ c ∈ text, set.contains c = true := by
  rw [← List.length_pos_iff]
  exact matches_atLeast_one

theorem matches_between_one {least most : Nat} {set : CharSet} (ordered : least ≤ most) :
    (between least most (.one set)).Matches text ↔
      least ≤ text.length ∧ text.length ≤ most ∧ ∀ c ∈ text, set.contains c = true := by
  rw [between, Plain.Matches]
  simp only [Plain.Allows, Plain.rounds_one_iff, Nat.min_eq_left ordered]
  constructor
  · rintro ⟨_, ⟨enough, bounded⟩, rfl, members⟩
    exact ⟨enough, bounded, members⟩
  · rintro ⟨enough, bounded, members⟩
    exact ⟨_, ⟨enough, bounded⟩, rfl, members⟩

/-- Names in allowed characters, at least so many, with single dots between them. -/
def IsDotted (least : Nat) (allowed : Char → Prop) (text : List Char) : Prop :=
  ∃ names : List (List Char), least ≤ names.length ∧
    (∀ name ∈ names, name ≠ [] ∧ ∀ c ∈ name, allowed c) ∧ text = ['.'].intercalate names

theorem intercalate_dots (name : List Char) (names : List (List Char)) :
    ['.'].intercalate (name :: names) = name ++ (names.map ('.' :: ·)).flatten := by
  induction names generalizing name with
  | nil => simp
  | cons second names ih =>
      rw [List.intercalate_cons_cons, ih, List.map_cons, List.flatten_cons]
      simp

theorem mem_intercalate_dots {c : Char} {name : List Char} {names : List (List Char)} :
    c ∈ ['.'].intercalate (name :: names) ↔ c ∈ name ∨ ∃ other ∈ names, c = '.' ∨ c ∈ other := by
  simp [intercalate_dots]

namespace IsDotted

variable {least : Nat} {allowed other : Char → Prop} {c : Char}

theorem eq_dot_or_allowed (dotted : IsDotted least allowed text) (member : c ∈ text) :
    c = '.' ∨ allowed c := by
  obtain ⟨names, _, spelled, rfl⟩ := dotted
  cases names with
  | nil => cases member
  | cons name names =>
      rw [List.forall_mem_cons] at spelled
      rcases mem_intercalate_dots.mp member with first | ⟨later, listed, dot | inside⟩
      · exact .inr (spelled.1.2 c first)
      · exact .inl dot
      · exact .inr ((spelled.2 later listed).2 c inside)

/-- Only the characters of the text itself matter. -/
theorem of_forall_mem (dotted : IsDotted least allowed text)
    (also : ∀ c ∈ text, allowed c → other c) : IsDotted least other text := by
  obtain ⟨names, enough, spelled, rfl⟩ := dotted
  refine ⟨names, enough, ?_, rfl⟩
  intro name listed
  refine ⟨(spelled name listed).1, ?_⟩
  intro c inside
  apply also c _ ((spelled name listed).2 c inside)
  cases names with
  | nil => cases listed
  | cons first names =>
      rcases List.mem_cons.mp listed with rfl | later
      · exact mem_intercalate_dots.mpr (.inl inside)
      · exact mem_intercalate_dots.mpr (.inr ⟨name, later, .inr inside⟩)

end IsDotted

theorem exists_names {spelled : List Char → Prop} {pieces : List (List Char)}
    (dotted : ∀ piece ∈ pieces, ∃ name, '.' :: name = piece ∧ spelled name) :
    ∃ names : List (List Char), names.map ('.' :: ·) = pieces ∧ ∀ name ∈ names, spelled name := by
  induction pieces with
  | nil => exact ⟨[], rfl, List.forall_mem_nil _⟩
  | cons piece pieces ih =>
      rw [List.forall_mem_cons] at dotted
      obtain ⟨⟨name, rfl, first⟩, others⟩ := dotted
      obtain ⟨names, rfl, rest⟩ := ih others
      exact ⟨name :: names, rfl, List.forall_mem_cons.mpr ⟨first, rest⟩⟩

/-- A name, and more names with a dot before each, are names with dots between them. -/
theorem matches_dotted {least : Nat} {set : CharSet} :
    (∃ front back, text = front ++ back ∧ (oneOrMore (.one set)).Matches front ∧
        (atLeast least (.seq (char '.') (oneOrMore (.one set)))).Matches back) ↔
      IsDotted (least + 1) (fun c => set.contains c = true) text := by
  have dot (piece : List Char) : (Plain.seq (char '.') (oneOrMore (.one set))).Matches piece ↔
      ∃ name, '.' :: name = piece ∧ name ≠ [] ∧ ∀ c ∈ name, set.contains c = true := by
    simp only [Plain.Matches, matches_char, matches_oneOrMore_one]
    constructor
    · rintro ⟨_, name, rfl, rfl, spelled⟩
      exact ⟨name, rfl, spelled⟩
    · rintro ⟨name, rfl, spelled⟩
      exact ⟨['.'], name, rfl, rfl, spelled⟩
  simp only [matches_oneOrMore_one, matches_atLeast, dot]
  constructor
  · rintro ⟨name, _, rfl, spelled, pieces, enough, dotted, rfl⟩
    obtain ⟨names, rfl, others⟩ := exists_names dotted
    rw [List.length_map] at enough
    exact ⟨name :: names, Nat.succ_le_succ enough, List.forall_mem_cons.mpr ⟨spelled, others⟩,
      (intercalate_dots name names).symm⟩
  · rintro ⟨names, enough, spelled, rfl⟩
    cases names with
    | nil => cases enough
    | cons name names =>
        rw [List.forall_mem_cons] at spelled
        refine ⟨name, _, intercalate_dots name names, spelled.1, names.map ('.' :: ·), ?_, ?_, rfl⟩
        · rw [List.length_map]
          exact Nat.le_of_succ_le_succ enough
        · intro piece member
          obtain ⟨other, listed, same⟩ := List.mem_map.mp member
          exact ⟨other, same, spelled.2 other listed⟩

theorem isAlphanum_iff {c : Char} : c.isAlphanum = true ↔
    'A' ≤ c ∧ c ≤ 'Z' ∨ 'a' ≤ c ∧ c ≤ 'z' ∨ '0' ≤ c ∧ c ≤ '9' := by
  have ranges : c.isAlphanum = (decide ('A' ≤ c ∧ c ≤ 'Z') ||
      (decide ('a' ≤ c) && decide (c ≤ 'z')) || (decide ('0' ≤ c) && decide (c ≤ '9'))) := rfl
  simp only [ranges, Bool.or_eq_true, Bool.and_eq_true, decide_eq_true_eq, or_assoc]

theorem contains_alphanumerics {c : Char} :
    alphanumerics.contains c = true ↔ c.isAlphanum = true := by
  simp only [alphanumerics, letters, lowerLetters, upperLetters, digits, CharSet.contains,
    isAlphanum_iff, Bool.or_eq_true, Bool.and_eq_true, decide_eq_true_eq]
  exact or_right_comm.trans or_comm

theorem contains_digits {c : Char} : digits.contains c = true ↔ c.isDigit = true := by
  simp only [digits, CharSet.contains, Char.isDigit, Bool.and_eq_true, decide_eq_true_eq,
    Char.le_def, ge_iff_le]

/-- The characters of the labels that hosts are made of. -/
def IsLabelChar (c : Char) : Prop :=
  c.isAlphanum = true ∨ c = '-'

theorem toNat_lt_of_isAlphanum {c : Char} (alphanumeric : c.isAlphanum = true) : c.toNat < 128 := by
  have below {last : Char} (small : last.toNat < 128) (bounded : c ≤ last) : c.toNat < 128 :=
    Nat.lt_of_le_of_lt bounded small
  rcases isAlphanum_iff.mp alphanumeric with ⟨_, upper⟩ | ⟨_, lower⟩ | ⟨_, digit⟩
  · exact below (by decide) upper
  · exact below (by decide) lower
  · exact below (by decide) digit

end Format

end Rulebook
