import Mathlib.Data.List.Basic
import Rulebook.Pattern.Literal

/-!
Pattern literals. A literal is a slash, the pattern, a slash and letters for flags, among which there
is no slash; so the last slash ends the pattern, whatever is in it. What is no such literal, has
letters that mean nothing or a pattern that does not read is refused, and each in its own way.
-/

namespace Rulebook

namespace Text

variable {separator : Char} {text front back : List Char}

theorem cutLast?_eq_none_iff : cutLast? separator text = none ↔ separator ∉ text := by
  induction text with
  | nil => simp [cutLast?]
  | cons c rest ih =>
      rw [cutLast?]
      cases cut : cutLast? separator rest with
      | none =>
          have absent : separator ∉ rest := ih.mp cut
          simp [absent, eq_comm]
      | some pair =>
          have held : separator ∈ rest := by
            by_contra absent
            rw [ih.mpr absent] at cut
            cases cut
          simp [held]

theorem cutLast?_append (absent : separator ∉ back) :
    cutLast? separator (front ++ separator :: back) = some (front, back) := by
  induction front with
  | nil =>
      rw [List.nil_append, cutLast?, cutLast?_eq_none_iff.mpr absent]
      simp
  | cons c rest ih => rw [List.cons_append, cutLast?, ih]

theorem not_mem_of_cutLast? (cut : cutLast? separator text = some (front, back)) :
    separator ∉ back := by
  induction text generalizing front back with
  | nil => cases cut
  | cons c rest ih =>
      rw [cutLast?] at cut
      cases later : cutLast? separator rest with
      | some pair =>
          obtain ⟨inner, outer⟩ := pair
          simp only [later, Option.some.injEq, Prod.mk.injEq] at cut
          rw [← cut.2]
          exact ih later
      | none =>
          by_cases same : c = separator
          · simp only [later, same, if_true, Option.some.injEq, Prod.mk.injEq] at cut
            rw [← cut.2]
            exact cutLast?_eq_none_iff.mp later
          · simp [later, same] at cut

end Text

namespace Pattern

/-- The letters that may stand behind a pattern. -/
def flagLetters : List Char :=
  effectiveFlags ++ idleFlags

theorem isFlag_iff {letter : Char} : isFlag letter = true ↔ letter ∈ flagLetters := by
  simp [isFlag, flagLetters]

/-- What a literal stands for, if its pattern reads with the flags in front. -/
inductive Spells : String → Pattern → Prop
  | literal {source flags : String} {matcher : Matcher} : '/' ∉ flags.toList →
      (∀ letter ∈ flags.toList, letter ∈ flagLetters) →
      Matcher.read? (withFlags flags.toList source.toList) = some matcher →
      Spells ("/" ++ source ++ "/" ++ flags) ⟨"/" ++ source ++ "/" ++ flags, matcher⟩

/-- Why a text is refused as a literal. Only a pattern that does not read is told by itself. -/
inductive Refuses : String → Fault → Prop
  | noOpening {literal : String} : (∀ body, literal ≠ "/" ++ body) →
      Refuses literal (.malformedParameter "regex" literal .noOpeningSlash)
  | noClosing {body : String} : '/' ∉ body.toList →
      Refuses ("/" ++ body) (.malformedParameter "regex" ("/" ++ body) .noClosingSlash)
  | unsupported {source flags : String} {letter : Char} : '/' ∉ flags.toList →
      letter ∈ flags.toList → letter ∉ flagLetters →
      Refuses ("/" ++ source ++ "/" ++ flags)
        (.malformedParameter "regex" ("/" ++ source ++ "/" ++ flags) .unsupportedFlag)
  | unreadable {source flags : String} : '/' ∉ flags.toList →
      (∀ letter ∈ flags.toList, letter ∈ flagLetters) →
      Matcher.read? (withFlags flags.toList source.toList) = none →
      Refuses ("/" ++ source ++ "/" ++ flags) (.invalidPattern source)

theorem read_literal {source flags : String} (slashless : '/' ∉ flags.toList) :
    read ("/" ++ source ++ "/" ++ flags).toList =
      if flags.toList.all isFlag then
        (Matcher.read? (withFlags flags.toList source.toList)).elim
          (.error (.invalidPattern source)) fun matcher =>
            .ok ⟨"/" ++ source ++ "/" ++ flags, matcher⟩
      else .error (.malformedParameter "regex" ("/" ++ source ++ "/" ++ flags) .unsupportedFlag) := by
  have written : ("/" ++ source ++ "/" ++ flags).toList =
      '/' :: (source.toList ++ '/' :: flags.toList) := by simp
  have back : String.ofList ('/' :: (source.toList ++ '/' :: flags.toList)) =
      "/" ++ source ++ "/" ++ flags := by rw [← written, String.ofList_toList]
  rw [written]
  simp only [read, Text.cutLast?_append slashless, back, String.ofList_toList]
  cases Matcher.read? (withFlags flags.toList source.toList) <;> rfl

theorem all_isFlag_iff {flags : String} :
    flags.toList.all isFlag = true ↔ ∀ letter ∈ flags.toList, letter ∈ flagLetters := by
  simp only [List.all_eq_true, isFlag_iff]

theorem read_of_spells {literal : String} {form : Pattern} (spells : Spells literal form) :
    read literal.toList = .ok form := by
  cases spells with
  | literal slashless known compiled =>
      rw [read_literal slashless, if_pos (all_isFlag_iff.mpr known), compiled, Option.elim_some]

theorem read_of_refuses {literal : String} {fault : Fault} (refuses : Refuses literal fault) :
    read literal.toList = .error fault := by
  cases refuses with
  | noOpening unopened =>
      have other : ∀ body, literal.toList ≠ '/' :: body := by
        intro body same
        apply unopened (String.ofList body)
        rw [← String.toList_inj, same]
        simp
      rw [read]
      · rw [String.ofList_toList]
      · exact other
  | @noClosing body unclosed =>
      have written : ("/" ++ body).toList = '/' :: body.toList := by simp
      have back : String.ofList ('/' :: body.toList) = "/" ++ body := by
        rw [← written, String.ofList_toList]
      rw [written]
      simp only [read, Text.cutLast?_eq_none_iff.mpr unclosed, back]
  | unsupported slashless member unknown =>
      have unflagged : ¬ _ := fun all => unknown (all_isFlag_iff.mp all _ member)
      rw [read_literal slashless, if_neg unflagged]
  | unreadable slashless known failed =>
      rw [read_literal slashless, if_pos (all_isFlag_iff.mpr known), failed, Option.elim_none]

/-- Every text is a literal or refused as one. -/
theorem spells_or_refuses (literal : String) :
    (∃ form, Spells literal form) ∨ ∃ fault, Refuses literal fault := by
  by_cases opened : ∃ body, literal = "/" ++ body
  · obtain ⟨body, rfl⟩ := opened
    cases cut : Text.cutLast? '/' body.toList with
    | none => exact .inr ⟨_, .noClosing (Text.cutLast?_eq_none_iff.mp cut)⟩
    | some pair =>
        obtain ⟨source, flags⟩ := pair
        have written : "/" ++ body = "/" ++ String.ofList source ++ "/" ++ String.ofList flags := by
          rw [← String.toList_inj]
          simp [Text.cutLast?_eq_some cut]
        have slashless : '/' ∉ (String.ofList flags).toList := by
          rw [String.toList_ofList]
          exact Text.not_mem_of_cutLast? cut
        rw [written]
        by_cases known : ∀ letter ∈ (String.ofList flags).toList, letter ∈ flagLetters
        · cases compiled : Matcher.read?
              (withFlags (String.ofList flags).toList (String.ofList source).toList) with
          | some matcher => exact .inl ⟨_, .literal slashless known compiled⟩
          | none => exact .inr ⟨_, .unreadable slashless known compiled⟩
        · simp only [not_forall] at known
          obtain ⟨letter, member, unknown⟩ := known
          exact .inr ⟨_, .unsupported slashless member unknown⟩
  · exact .inr ⟨_, .noOpening (not_exists.mp opened)⟩

end Pattern

end Rulebook
