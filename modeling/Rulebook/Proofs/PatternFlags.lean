import Mathlib.Data.List.Nodup
import Mathlib.Data.List.Perm.Basic
import Rulebook.Proofs.PatternLiterals

/-!
Flags of pattern literals. The flags that change what matches are put in front of the pattern, and
the reader takes them in one by one; so neither their order nor how often each was written makes a
difference, and the other flags make none at all.
-/

namespace Rulebook

namespace Pattern

variable {inline flags other : List Char} {flag letter : Char}

/-! ### Collecting flags -/

theorem mem_effectiveFlags :
    letter ∈ effectiveFlags ↔ letter = 'i' ∨ letter = 'm' ∨ letter = 's' := by
  simp only [effectiveFlags, List.mem_cons, List.not_mem_nil, or_false]

theorem mem_addFlag :
    letter ∈ addFlag inline flag ↔ letter ∈ inline ∨ letter = flag ∧ flag ∈ effectiveFlags := by
  rw [addFlag]
  split
  · rename_i added
    simp only [Bool.and_eq_true, List.contains_iff_mem] at added
    simp [added.1]
  · rename_i skipped
    constructor
    · exact .inl
    · rintro (present | ⟨rfl, effective⟩)
      · exact present
      · by_contra absent
        apply skipped
        simp [effective, absent]

theorem nodup_addFlag (distinct : inline.Nodup) : (addFlag inline flag).Nodup := by
  rw [addFlag]
  split
  · rename_i added
    have absent : flag ∉ inline := by
      intro present
      simp [present] at added
    exact List.Nodup.append distinct (List.nodup_singleton flag) (by simpa using absent)
  · exact distinct

theorem mem_foldl_addFlag : letter ∈ flags.foldl addFlag inline ↔
    letter ∈ inline ∨ letter ∈ flags ∧ letter ∈ effectiveFlags := by
  induction flags generalizing inline with
  | nil => simp
  | cons flag flags ih =>
      rw [List.foldl_cons, ih, mem_addFlag, List.mem_cons]
      constructor
      · rintro ((present | ⟨rfl, effective⟩) | ⟨later, effective⟩)
        · exact .inl present
        · exact .inr ⟨.inl rfl, effective⟩
        · exact .inr ⟨.inr later, effective⟩
      · rintro (present | ⟨rfl | later, effective⟩)
        · exact .inl (.inl present)
        · exact .inl (.inr ⟨rfl, effective⟩)
        · exact .inr ⟨later, effective⟩

theorem nodup_foldl_addFlag (distinct : inline.Nodup) : (flags.foldl addFlag inline).Nodup := by
  induction flags generalizing inline with
  | nil => exact distinct
  | cons flag flags ih => exact ih (nodup_addFlag distinct)

theorem mem_inlineFlags : letter ∈ inlineFlags flags ↔ letter ∈ flags ∧ letter ∈ effectiveFlags := by
  rw [inlineFlags, mem_foldl_addFlag]
  simp

theorem nodup_inlineFlags : (inlineFlags flags).Nodup :=
  nodup_foldl_addFlag List.nodup_nil

theorem inlineFlags_perm (same : ∀ letter ∈ effectiveFlags, letter ∈ flags ↔ letter ∈ other) :
    (inlineFlags flags).Perm (inlineFlags other) := by
  rw [List.perm_ext_iff_of_nodup nodup_inlineFlags nodup_inlineFlags]
  intro letter
  rw [mem_inlineFlags, mem_inlineFlags]
  exact and_congr_left fun effective => same letter effective

end Pattern

/-! ### Reading flags -/

namespace Flags

variable {flags : Flags} {letter : Char} {letters other : List Char}

/-- The flags with those of some letters set. -/
def withLetters (flags : Flags) (letters : List Char) : Flags :=
  { flags with
    ignoreCase := flags.ignoreCase || letters.contains 'i'
    multiline := flags.multiline || letters.contains 'm'
    dotAll := flags.dotAll || letters.contains 's' }

theorem withLetters_perm (same : letters.Perm other) :
    flags.withLetters letters = flags.withLetters other := by
  simp only [withLetters, List.contains_eq_mem, same.mem_iff]

theorem withLetters_cons :
    flags.withLetters (letter :: letters) = (flags.withLetters [letter]).withLetters letters := by
  simp [withLetters, Bool.or_assoc]

theorem set?_of_effective (effective : letter ∈ Pattern.effectiveFlags) :
    flags.set? true letter = some (flags.withLetters [letter]) := by
  rcases Pattern.mem_effectiveFlags.mp effective with rfl | rfl | rfl <;> simp [set?, withLetters]

end Flags

namespace Reader

variable {letters : List Char}

theorem gapLength?_unextended {text : List Char}
    (uncommented : ∀ comment, text ≠ '(' :: '?' :: '#' :: comment) :
    gapLength? false text = some 0 := by
  unfold gapLength?
  split
  · rename_i comment
    exact absurd rfl (uncommented comment)
  · simp
  · rfl

theorem readFlags?_of_gapless {flags : Flags} {used : Nat} {c : Char} {rest : List Char}
    (gapless : gapLength? flags.extended (c :: rest) = some 0) :
    readFlags? flags true used (c :: rest) =
      if c = ')' then if used = 0 then none else some (flags, c, used + 1)
      else if c = ':' then some (flags, c, used + 1)
      else if c = '-' then readFlags? flags false (used + 1) rest
      else (flags.set? true c).bind fun flags => readFlags? flags true (used + 1) rest := by
  rw [readFlags?, gapless]
  dsimp only
  split
  · rename_i found
    cases found
  · rename_i found
    cases found
    cases flags.set? true c <;> simp

theorem readFlags?_letters (flags : Flags) (used : Nat) (source : List Char)
    (unextended : flags.extended = false) (nonempty : 0 < used + letters.length)
    (effective : ∀ letter ∈ letters, letter ∈ Pattern.effectiveFlags) :
    readFlags? flags true used (letters ++ ')' :: source) =
      some (flags.withLetters letters, ')', used + letters.length + 1) := by
  -- The first letter may not be the end, so the count of what was used goes along.
  induction letters generalizing flags used with
  | nil =>
      have gapless : gapLength? flags.extended (')' :: source) = some 0 := by
        rw [unextended]
        exact gapLength?_unextended (by simp)
      have later : used ≠ 0 := by simpa [Nat.pos_iff_ne_zero] using nonempty
      rw [List.nil_append, readFlags?_of_gapless gapless, if_pos rfl, if_neg later]
      simp [Flags.withLetters]
  | cons letter letters ih =>
      have first : letter ∈ Pattern.effectiveFlags := effective letter List.mem_cons_self
      have others : letter ≠ '(' ∧ letter ≠ ')' ∧ letter ≠ ':' ∧ letter ≠ '-' := by
        rcases Pattern.mem_effectiveFlags.mp first with rfl | rfl | rfl <;> decide
      obtain ⟨noGroup, noEnd, noColon, noHyphen⟩ := others
      have gapless : gapLength? flags.extended (letter :: (letters ++ ')' :: source)) = some 0 := by
        rw [unextended]
        apply gapLength?_unextended
        intro comment same
        exact noGroup (List.cons.inj same).1
      have rest := ih (flags.withLetters [letter]) (used + 1) unextended (by omega)
        fun later member => effective later (List.mem_cons_of_mem letter member)
      have length : used + 1 + letters.length + 1 = used + (letter :: letters).length + 1 := by
        rw [List.length_cons]
        omega
      rw [List.cons_append, readFlags?_of_gapless gapless, if_neg noEnd, if_neg noColon,
        if_neg noHyphen, Flags.set?_of_effective first, Option.bind_some, rest,
        ← Flags.withLetters_cons, length]

/-- The state after a group that holds nothing but flags. -/
def State.withFlags (state : State) (letters : List Char) : State :=
  { state.push .empty with flags := state.flags.withLetters letters }

section FlagGroup

variable {state : State} {first : Char} {more : List Char} (source : List Char)
  (unextended : state.flags.extended = false)
  (effective : ∀ letter ∈ first :: more, letter ∈ Pattern.effectiveFlags)

include unextended effective

theorem readOpening?_flags : readOpening? state ('?' :: first :: (more ++ ')' :: source)) =
    some (state.withFlags (first :: more), (first :: more).length + 2) := by
  have read := readFlags?_letters state.flags 0 source unextended (by simp) effective
  rw [List.cons_append] at read
  -- Only a letter makes sure that no other kind of group opens.
  rcases Pattern.mem_effectiveFlags.mp (effective first List.mem_cons_self) with rfl | rfl | rfl
  all_goals simp [readOpening?, read, State.withFlags]

theorem readGroup?_flags (shallow : state.outer.length + 1 < depthLimit) :
    readGroup? state ('?' :: first :: (more ++ ')' :: source)) =
      some (state.withFlags (first :: more), (first :: more).length + 2) := by
  have gapless : gapLength? false ('?' :: first :: (more ++ ')' :: source)) = some 0 :=
    gapLength?_unextended (by simp)
  have opening := readOpening?_flags source unextended effective
  simp [readGroup?, unextended, gapless, opening, shallow]

theorem run?_flags (shallow : state.outer.length + 1 < depthLimit) :
    run? state ('(' :: '?' :: first :: (more ++ ')' :: source)) =
      run? (state.withFlags (first :: more)) source := by
  have gapless : gapLength? false ('(' :: '?' :: first :: (more ++ ')' :: source)) = some 0 := by
    apply gapLength?_unextended
    intro comment same
    have uncommented : first ≠ '#' := by
      rcases Pattern.mem_effectiveFlags.mp (effective first List.mem_cons_self) with
        rfl | rfl | rfl <;> decide
    simp only [List.cons.injEq] at same
    exact uncommented same.2.2.1
  have group := readGroup?_flags source unextended effective shallow
  have left : ('?' :: first :: (more ++ ')' :: source)).drop ((first :: more).length + 2) =
      source := by simp
  rw [run?, step?, unextended, gapless]
  simp only [readElement?, group, left]

end FlagGroup

theorem encodedSize_perm {text other : List Char} (same : text.Perm other) :
    encodedSize text = encodedSize other :=
  (same.map Char.utf8Size).foldl_eq 0

theorem read?_flags_perm {other : List Char} (source : List Char) (nonempty : letters ≠ [])
    (effective : ∀ letter ∈ letters, letter ∈ Pattern.effectiveFlags) (same : letters.Perm other) :
    read? ('(' :: '?' :: letters ++ ')' :: source) =
      read? ('(' :: '?' :: other ++ ')' :: source) := by
  have otherEffective : ∀ letter ∈ other, letter ∈ Pattern.effectiveFlags :=
    fun letter member => effective letter (same.mem_iff.mpr member)
  have size : encodedSize ('(' :: '?' :: letters ++ ')' :: source) =
      encodedSize ('(' :: '?' :: other ++ ')' :: source) :=
    encodedSize_perm (((same.append_right _).cons '?').cons '(')
  have shallow : ([] : List (Opener × Level)).length + 1 < depthLimit := by decide
  have otherNonempty : other ≠ [] := by
    rintro rfl
    exact nonempty (List.perm_nil.mp same)
  obtain ⟨first, more, rfl⟩ := List.exists_cons_of_ne_nil nonempty
  obtain ⟨otherFirst, otherMore, rfl⟩ := List.exists_cons_of_ne_nil otherNonempty
  rw [read?, read?, size]
  simp only [List.cons_append]
  rw [run?_flags source rfl effective shallow, run?_flags source rfl otherEffective shallow,
    State.withFlags, State.withFlags, Flags.withLetters_perm same]

end Reader

namespace Pattern

variable {flags other : List Char}

/-- A pattern reads alike behind flags that are the same but for order and repetition, and but for
letters that change nothing. -/
theorem read?_withFlags (source : List Char)
    (same : ∀ letter ∈ effectiveFlags, letter ∈ flags ↔ letter ∈ other) :
    Matcher.read? (withFlags flags source) = Matcher.read? (withFlags other source) := by
  have perm : (inlineFlags flags).Perm (inlineFlags other) := inlineFlags_perm same
  have effective : ∀ letter ∈ inlineFlags flags, letter ∈ effectiveFlags :=
    fun letter member => (mem_inlineFlags.mp member).2
  unfold withFlags
  cases first : inlineFlags flags with
  | nil =>
      rw [first] at perm
      rw [List.nil_perm.mp perm]
  | cons letter letters =>
      cases second : inlineFlags other with
      | nil =>
          rw [first, second] at perm
          exact absurd (List.perm_nil.mp perm) (List.cons_ne_nil letter letters)
      | cons otherLetter otherLetters =>
          rw [first] at perm effective
          rw [second] at perm
          have nonempty : letter :: letters ≠ [] := List.cons_ne_nil letter letters
          rw [Matcher.read?, Matcher.read?, Reader.read?_flags_perm source nonempty effective perm]

/-! ### Literals -/

/-- A text is refused as no literal at all. -/
def Malformed (literal : String) : Prop :=
  ∃ defect, read literal.toList = .error (.malformedParameter "regex" literal defect)

/-- Two literals come to the same: to one fault, or to patterns that occur in the same texts. -/
inductive Alike : Except Fault Pattern → Except Fault Pattern → Prop
  | refused {fault : Fault} : Alike (.error fault) (.error fault)
  | read {form other : Pattern} : form.matcher = other.matcher →
      (∀ text found, form.occurs text = .ok found ↔ other.occurs text = .ok found) →
      Alike (.ok form) (.ok other)

theorem occurs_eq_ok_iff {form : Pattern} {text : String} {found : Bool} :
    form.occurs text = .ok found ↔ form.matcher.occurs? text.toList = some found := by
  rw [occurs]
  cases form.matcher.occurs? text.toList <;> simp

theorem malformed_of_few_slashes {literal : String}
    (few : literal.toList.head? ≠ some '/' ∨ literal.toList.count '/' ≤ 1) : Malformed literal := by
  by_cases opened : ∃ body, literal = "/" ++ body
  · obtain ⟨body, rfl⟩ := opened
    have written : ("/" ++ body).toList = '/' :: body.toList := by simp
    rw [written] at few
    have unclosed : '/' ∉ body.toList := by
      rcases few with unopened | single
      · simp at unopened
      · rw [List.count_cons_self] at single
        rw [← List.count_eq_zero]
        omega
    exact ⟨_, read_of_refuses (.noClosing unclosed)⟩
  · exact ⟨_, read_of_refuses (.noOpening (not_exists.mp opened))⟩

theorem malformed_literal_iff {source flags : String} (slashless : '/' ∉ flags.toList) :
    Malformed ("/" ++ source ++ "/" ++ flags) ↔
      ∃ letter ∈ flags.toList, letter ∉ flagLetters := by
  constructor
  · rintro ⟨defect, refused⟩
    by_contra known
    simp only [not_exists, not_and, not_not] at known
    rw [read_literal slashless, if_pos (all_isFlag_iff.mpr known)] at refused
    cases compiled : Matcher.read? (withFlags flags.toList source.toList) <;>
      simp [compiled] at refused
  · rintro ⟨letter, member, unknown⟩
    exact ⟨_, read_of_refuses (.unsupported slashless member unknown)⟩

theorem slashless_of_known {flags : String}
    (known : ∀ letter ∈ flags.toList, letter ∈ flagLetters) : '/' ∉ flags.toList := by
  intro member
  have slash := known '/' member
  simp [flagLetters, effectiveFlags, idleFlags] at slash

theorem alike_of_flags {source flags other : String}
    (known : ∀ letter ∈ flags.toList, letter ∈ flagLetters)
    (otherKnown : ∀ letter ∈ other.toList, letter ∈ flagLetters)
    (same : ∀ letter ∈ effectiveFlags, letter ∈ flags.toList ↔ letter ∈ other.toList) :
    Alike (Pattern.read ("/" ++ source ++ "/" ++ flags).toList)
      (Pattern.read ("/" ++ source ++ "/" ++ other).toList) := by
  rw [read_literal (slashless_of_known known), if_pos (all_isFlag_iff.mpr known),
    read_literal (slashless_of_known otherKnown), if_pos (all_isFlag_iff.mpr otherKnown),
    read?_withFlags source.toList same]
  cases Matcher.read? (withFlags other.toList source.toList) with
  | none => exact .refused
  | some matcher =>
      apply Alike.read
      · rfl
      · intro text found
        rw [occurs_eq_ok_iff, occurs_eq_ok_iff]

/-- The last slash parts a literal, its letters are told apart by which of those for case, lines and
the dot are there, and only a pattern that does not read is a fault of its own. -/
theorem literal_by_source_and_flags :
    (∀ literal : String, literal.toList.head? ≠ some '/' ∨ literal.toList.count '/' ≤ 1 →
      Malformed literal) ∧
    ∀ source flags : String, '/' ∉ flags.toList →
      Text.cutLast? '/' (source ++ "/" ++ flags).toList = some (source.toList, flags.toList) ∧
      (Malformed ("/" ++ source ++ "/" ++ flags) ↔
        ∃ letter ∈ flags.toList, letter ∉ flagLetters) ∧
      ((∀ letter ∈ flags.toList, letter ∈ flagLetters) →
        (∀ matcher, Matcher.read? (withFlags flags.toList source.toList) = some matcher →
          Pattern.read ("/" ++ source ++ "/" ++ flags).toList =
            .ok ⟨"/" ++ source ++ "/" ++ flags, matcher⟩) ∧
        (Matcher.read? (withFlags flags.toList source.toList) = none →
          Pattern.read ("/" ++ source ++ "/" ++ flags).toList =
            .error (.invalidPattern source)) ∧
        ∀ other : String, (∀ letter ∈ other.toList, letter ∈ flagLetters) →
          (∀ letter ∈ effectiveFlags, letter ∈ flags.toList ↔ letter ∈ other.toList) →
          Alike (Pattern.read ("/" ++ source ++ "/" ++ flags).toList)
            (Pattern.read ("/" ++ source ++ "/" ++ other).toList)) := by
  refine ⟨fun literal few => malformed_of_few_slashes few, ?_⟩
  intro source flags slashless
  refine ⟨?_, malformed_literal_iff slashless, ?_⟩
  · have written : (source ++ "/" ++ flags).toList = source.toList ++ '/' :: flags.toList := by simp
    rw [written]
    exact Text.cutLast?_append slashless
  · intro known
    refine ⟨?_, ?_, ?_⟩
    · intro matcher compiled
      exact read_of_spells (.literal slashless known compiled)
    · intro failed
      exact read_of_refuses (.unreadable slashless known failed)
    · intro other otherKnown same
      exact alike_of_flags known otherKnown same

theorem slashes_and_repeated_flags :
    '/' ∉ "gssm".toList ∧
    Text.cutLast? '/' ("a/b" ++ "/" ++ "gssm").toList = some ("a/b".toList, "gssm".toList) ∧
    (∃ form, Pattern.read ("/" ++ "a/b" ++ "/" ++ "gssm").toList = .ok form) ∧
    Alike (Pattern.read ("/" ++ "a/b" ++ "/" ++ "gssm").toList)
      (Pattern.read ("/" ++ "a/b" ++ "/" ++ "ms").toList) ∧
    Malformed "/ab" := by
  have slashless : '/' ∉ "gssm".toList := by decide
  have compiled : (Matcher.read? (withFlags "gssm".toList "a/b".toList)).isSome = true := by
    decide +kernel
  have known : ∀ letter ∈ "gssm".toList, letter ∈ flagLetters := by
    simp [flagLetters, effectiveFlags, idleFlags]
  have otherKnown : ∀ letter ∈ "ms".toList, letter ∈ flagLetters := by
    simp [flagLetters, effectiveFlags]
  have same : ∀ letter ∈ effectiveFlags, letter ∈ "gssm".toList ↔ letter ∈ "ms".toList := by
    simp [effectiveFlags]
  obtain ⟨matcher, read⟩ := Option.isSome_iff_exists.mp compiled
  obtain ⟨few, literals⟩ := literal_by_source_and_flags
  obtain ⟨cut, -, kept⟩ := literals "a/b" "gssm" slashless
  obtain ⟨reads, -, alike⟩ := kept known
  exact ⟨slashless, cut, ⟨_, reads matcher read⟩, alike "ms" otherKnown same,
    few "/ab" (.inr (by decide))⟩

end Pattern

end Rulebook
