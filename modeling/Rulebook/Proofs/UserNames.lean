import Rulebook.Proofs.FormatShapes

/-!
User names. The format accepts eight to twenty letters, digits and separators with a letter or a
digit at either end and no two separators side by side. Nothing of this has a direction, so a name
is as good when it is read backwards.
-/

namespace Rulebook

namespace Format

variable {text : List Char} {c : Char}

def IsSeparator (c : Char) : Prop :=
  c = '_' ∨ c = '.'

structure IsUserName (text : List Char) : Prop where
  enough : 8 ≤ text.length
  bounded : text.length ≤ 20
  allowed : ∀ c ∈ text, c.isAlphanum = true ∨ IsSeparator c
  first : ∀ c, text.head? = some c → c.isAlphanum = true
  last : ∀ c, text.getLast? = some c → c.isAlphanum = true
  apart : Text.Apart IsSeparator text

theorem contains_separators : (CharSet.ofList separators).contains c = true ↔ IsSeparator c := by
  rw [CharSet.contains_ofList, separators, IsSeparator, List.mem_cons, List.mem_singleton]

theorem contains_nameChars : (alphanumericsAnd separators).contains c = true ↔
    c.isAlphanum = true ∨ IsSeparator c := by
  rw [alphanumericsAnd, CharSet.contains, Bool.or_eq_true, contains_alphanumerics,
    contains_separators]

theorem matches_usernamePattern : usernamePattern.Matches text ↔ ∃ first middle last,
    text = first :: (middle ++ [last]) ∧ first.isAlphanum = true ∧ last.isAlphanum = true ∧
      6 ≤ middle.length ∧ middle.length ≤ 18 ∧ ∀ c ∈ middle, c.isAlphanum = true ∨ IsSeparator c := by
  have ordered : 6 ≤ 18 := by decide
  simp only [usernamePattern, Plain.matches_sequence_cons, matches_between_one ordered,
    contains_nameChars]
  constructor
  · rintro ⟨_, _, rfl, ⟨first, rfl, firstMember⟩, middle, _, rfl, ⟨enough, bounded, allowed⟩, _, _,
      rfl, ⟨last, rfl, lastMember⟩, rfl⟩
    exact ⟨first, middle, last, rfl, contains_alphanumerics.mp firstMember,
      contains_alphanumerics.mp lastMember, enough, bounded, allowed⟩
  · rintro ⟨first, middle, last, rfl, firstMember, lastMember, enough, bounded, allowed⟩
    exact ⟨[first], _, rfl, ⟨first, rfl, contains_alphanumerics.mpr firstMember⟩, middle, _, rfl,
      ⟨enough, bounded, allowed⟩, [last], [], rfl,
      ⟨last, rfl, contains_alphanumerics.mpr lastMember⟩, rfl⟩

theorem occurs_doubleSeparator_iff (before : Option Char) :
    doubleSeparator.occurs before text = true ↔ ¬Text.Apart IsSeparator text := by
  have free : doubleSeparator.isFree = true := by decide
  rw [Plain.occurs_iff free, Text.Apart.iff_forall_part]
  simp only [doubleSeparator, matches_times, Plain.rounds_one_iff, contains_separators]
  push Not
  rfl

theorem accepts_username_iff : username.accepts text = true ↔ IsUserName text := by
  have free : usernamePattern.isFree = true := by decide
  rw [accepts, Bool.and_eq_true, Plain.covers_iff free, Bool.not_eq_true', ← Bool.not_eq_true,
    occurs_doubleSeparator_iff, not_not, matches_usernamePattern]
  constructor
  · rintro ⟨⟨first, middle, last, rfl, firstMember, lastMember, enough, bounded, allowed⟩, apart⟩
    have length : (first :: (middle ++ [last])).length = middle.length + 2 := by simp
    refine ⟨by omega, by omega, ?_, ?_, ?_, apart⟩
    · rw [List.forall_mem_cons, List.forall_mem_append]
      exact ⟨.inl firstMember, allowed, List.forall_mem_singleton.mpr (.inl lastMember)⟩
    · intro c found
      cases found
      exact firstMember
    · intro c found
      rw [Text.getLast?_ends] at found
      cases found
      exact lastMember
  · intro name
    have enough := name.enough
    have bounded := name.bounded
    obtain ⟨first, middle, last, rfl⟩ := Text.exists_ends (by omega : 2 ≤ text.length)
    have length : (first :: (middle ++ [last])).length = middle.length + 2 := by simp
    have lastMember := name.last last (Text.getLast?_ends first middle last)
    refine ⟨⟨first, middle, last, rfl, name.first first rfl, lastMember, by omega, by omega, ?_⟩,
      name.apart⟩
    intro c member
    exact name.allowed c (List.mem_cons_of_mem _ (List.mem_append_left _ member))

theorem IsUserName.reverse (name : IsUserName text) : IsUserName text.reverse where
  enough := by
    rw [List.length_reverse]
    exact name.enough
  bounded := by
    rw [List.length_reverse]
    exact name.bounded
  allowed := by
    intro c member
    exact name.allowed c (List.mem_reverse.mp member)
  first := by
    intro c found
    rw [List.head?_reverse] at found
    exact name.last c found
  last := by
    intro c found
    rw [List.getLast?_reverse] at found
    exact name.first c found
  apart := Text.Apart.reverse_iff.mpr name.apart

/-- The format for user names accepts what has the shape of one, forwards and backwards alike. -/
theorem username_accepts_names (text : List Char) :
    (username.accepts text = true ↔ IsUserName text) ∧
      username.accepts text.reverse = username.accepts text := by
  refine ⟨accepts_username_iff, ?_⟩
  rw [Bool.eq_iff_iff, accepts_username_iff, accepts_username_iff]
  constructor
  · intro backwards
    rw [← List.reverse_reverse text]
    exact backwards.reverse
  · intro name
    exact name.reverse

end Format

end Rulebook
