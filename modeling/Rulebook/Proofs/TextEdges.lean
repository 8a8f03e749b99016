import Rulebook.Proofs.Blanks
import Rulebook.Proofs.FormatShapes

/-!
The ends of the texts that formats accept. A pattern is read for the sets that its matches can begin
and end with; where none of them has a blank, no match has one there. Full names alone may end in
one, if they have two names and not three.
-/

namespace Rulebook

/-- One of the two ends of a text. -/
inductive Edge where
  | start | finish
  deriving DecidableEq, Repr

namespace Edge

variable {edge : Edge} {front back : List Char} {c : Char}

def of (text : List Char) : Edge → Option Char
  | start => text.head?
  | finish => text.getLast?

theorem of_nil (edge : Edge) : edge.of [] = none := by
  cases edge <;> rfl

theorem of_singleton (edge : Edge) (c : Char) : edge.of [c] = some c := by
  cases edge <;> rfl

/-- The end of a text is that of its outer part, unless nothing stands there. -/
theorem of_append (found : edge.of (front ++ back) = some c) :
    match edge with
    | .start => edge.of front = some c ∨ front = [] ∧ edge.of back = some c
    | .finish => edge.of back = some c ∨ back = [] ∧ edge.of front = some c := by
  cases edge with
  | start =>
      cases front with
      | nil => exact .inr ⟨rfl, found⟩
      | cons first front => exact .inl found
  | finish =>
      rcases List.eq_nil_or_concat back with rfl | ⟨back, last, rfl⟩
      · rw [List.append_nil] at found
        exact .inr ⟨rfl, found⟩
      · rw [of, List.concat_eq_append, ← List.append_assoc, List.getLast?_concat] at found
        exact .inl (by rw [of, List.concat_eq_append, List.getLast?_concat, found])

theorem of_append_or (found : edge.of (front ++ back) = some c) :
    edge.of front = some c ∨ edge.of back = some c := by
  have parts := of_append found
  cases edge with
  | start => exact parts.imp_right And.right
  | finish => exact (parts.imp_right And.right).symm

end Edge

/-- What stands at the end of several rounds stood at the end of one. -/
theorem Rounds.exists_edge {language : List Char → Prop} {count : Nat} {text : List Char}
    {edge : Edge} {c : Char} (rounds : Rounds language count text)
    (found : edge.of text = some c) : ∃ piece, language piece ∧ edge.of piece = some c := by
  induction rounds with
  | none =>
      rw [edge.of_nil] at found
      cases found
  | more first _ ih =>
      rcases Edge.of_append_or found with inFirst | inOthers
      · exact ⟨_, first, inFirst⟩
      · exact ih inOthers

/-- Whether a set has no blank. -/
def CharSet.isSolid (set : CharSet) : Bool :=
  Text.blankCodes.all fun code => !set.contains (Char.ofNat code)

theorem CharSet.isBlank_of_contains {set : CharSet} (solid : set.isSolid = true) {c : Char}
    (member : set.contains c = true) : Text.isBlank c = false := by
  rw [← Bool.not_eq_true]
  intro blank
  have outside := List.all_eq_true.mp solid c.toNat (Text.isBlank_iff_mem.mp blank)
  rw [Char.ofNat_toNat, member] at outside
  cases outside

namespace Plain

/-- Whether a pattern may match the empty text. -/
def isNullable : Plain → Bool
  | empty => true
  | one _ | anchor _ => false
  | seq first second => first.isNullable && second.isNullable
  | alt first second => first.isNullable || second.isNullable
  | loop body least most _ => least == 0 || most == some 0 || body.isNullable
  | group body | barred _ body => body.isNullable

/-- The sets of which one has the character at the given end of a match. -/
def edgeSets (edge : Edge) : Plain → List CharSet
  | empty | anchor _ => []
  | one set => [set]
  | seq first second =>
    match edge with
    | .start => first.edgeSets edge ++ if first.isNullable then second.edgeSets edge else []
    | .finish => second.edgeSets edge ++ if second.isNullable then first.edgeSets edge else []
  | alt first second => first.edgeSets edge ++ second.edgeSets edge
  | loop body _ _ _ | group body | barred _ body => body.edgeSets edge

variable {pattern : Plain} {text : List Char} {edge : Edge} {c : Char}

theorem isNullable_of_matches_nil (matched : pattern.Matches []) : pattern.isNullable = true := by
  induction pattern with
  | empty => rfl
  | one set =>
      obtain ⟨_, impossible, _⟩ := matched
      cases impossible
  | anchor position => cases matched
  | seq first second firstIh secondIh =>
      obtain ⟨front, back, split, first, second⟩ := matched
      obtain ⟨rfl, rfl⟩ := List.append_eq_nil_iff.mp split.symm
      rw [isNullable, firstIh first, secondIh second]
      rfl
  | alt first second firstIh secondIh =>
      rw [isNullable, Bool.or_eq_true]
      exact matched.imp firstIh secondIh
  | loop body least most greedy ih =>
      obtain ⟨count, allowed, rounds⟩ := matched
      simp only [isNullable, Bool.or_eq_true, beq_iff_eq]
      rcases rounds.nil_or_cons with ⟨_, rfl | nothing⟩ | ⟨_, _, _, _, _, impossible, _⟩
      · by_cases someRound : most = some 0
        · exact .inl (.inr someRound)
        · exact .inl (.inl ((allows_zero_iff someRound).mp allowed))
      · exact .inr (ih nothing)
      · cases impossible
  | group body ih => exact ih matched
  | barred word body ih => exact ih matched.1

/-- The character at an end of a match is in one of the sets read off the pattern. -/
theorem exists_mem_edgeSets (matched : pattern.Matches text) (found : edge.of text = some c) :
    ∃ set ∈ pattern.edgeSets edge, set.contains c = true := by
  induction pattern generalizing text with
  | empty =>
      rw [matched, edge.of_nil] at found
      cases found
  | one set =>
      obtain ⟨d, rfl, member⟩ := matched
      rw [edge.of_singleton] at found
      cases found
      exact ⟨set, List.mem_singleton_self set, member⟩
  | anchor position => cases matched
  | seq first second firstIh secondIh =>
      -- The inner part counts only where the outer one matched nothing, so may match nothing.
      obtain ⟨front, back, rfl, firstMatched, secondMatched⟩ := matched
      have parts := Edge.of_append found
      cases edge with
      | start =>
          simp only [edgeSets, List.mem_append, or_and_right, exists_or]
          refine parts.imp (firstIh firstMatched) ?_
          rintro ⟨rfl, inSecond⟩
          rw [if_pos (isNullable_of_matches_nil firstMatched)]
          exact secondIh secondMatched inSecond
      | finish =>
          simp only [edgeSets, List.mem_append, or_and_right, exists_or]
          refine parts.imp (secondIh secondMatched) ?_
          rintro ⟨rfl, inFirst⟩
          rw [if_pos (isNullable_of_matches_nil secondMatched)]
          exact firstIh firstMatched inFirst
  | alt first second firstIh secondIh =>
      simp only [edgeSets, List.mem_append, or_and_right, exists_or]
      exact matched.imp (fun left => firstIh left found) fun right => secondIh right found
  | loop body least most greedy ih =>
      obtain ⟨count, _, rounds⟩ := matched
      obtain ⟨piece, one, inPiece⟩ := rounds.exists_edge found
      exact ih one inPiece
  | group body ih => exact ih matched found
  | barred word body ih => exact ih matched.1 found

/-- Whether every set that a match can have at an end is without blanks. -/
def isSolidAt (edge : Edge) (pattern : Plain) : Bool :=
  (pattern.edgeSets edge).all CharSet.isSolid

theorem isBlank_edge (solid : pattern.isSolidAt edge = true) (matched : pattern.Matches text)
    (found : edge.of text = some c) : Text.isBlank c = false := by
  obtain ⟨set, member, contained⟩ := exists_mem_edgeSets matched found
  exact CharSet.isBlank_of_contains (List.all_eq_true.mp solid set member) contained

end Plain

namespace Format

variable {format : Format} {pattern : Plain} {text : List Char} {c : Char}

/-- The pattern that every text of a format matches, where there is one. -/
def pattern? : Format → Option Plain
  | .email => some emailPattern
  | .url => some urlPattern
  | .domain => some domainPattern
  | .name => some namePattern
  | .fullName => some fullNamePattern
  | .username => some usernamePattern
  | .alpha => some (oneOrMore (.one letters))
  | .alphanumeric => some (oneOrMore (.one alphanumerics))
  | .phone => some phonePattern
  | .uuid => some uuidPattern
  | .mongoId => some (times 24 (.one .hexDigits))
  | .date => some datePattern
  | .dateOnly => some dateOnlyPattern
  | .time => some timePattern
  | .ip => some ipPattern
  | .lower | .upper => none

theorem covers_of_accepts (given : format.pattern? = some pattern)
    (accepted : format.accepts text = true) : pattern.covers text = true := by
  cases format <;> cases given
  case username => exact (Bool.and_eq_true _ _ ▸ accepted).1
  all_goals exact accepted

theorem exists_pattern (lower : format ≠ .lower) (upper : format ≠ .upper) :
    ∃ pattern, format.pattern? = some pattern := by
  cases format
  case lower => exact absurd rfl lower
  case upper => exact absurd rfl upper
  all_goals exact ⟨_, rfl⟩

/-- What can be read off the pattern of a format: it asks for something, and for no blank at either
end but the end of a full name. -/
theorem pattern_is_solid (given : format.pattern? = some pattern) :
    pattern.isFree = true ∧ pattern.isNullable = false ∧ pattern.isSolidAt .start = true ∧
      (format = .fullName ∨ pattern.isSolidAt .finish = true) := by
  have checked : format.pattern?.all fun pattern =>
      pattern.isFree && !pattern.isNullable && pattern.isSolidAt .start &&
        (format == .fullName || pattern.isSolidAt .finish) := by
    cases format <;> decide +kernel
  rw [given] at checked
  simpa [and_assoc] using checked

/-- The parts of a full name that are always there: two names and a blank between them. -/
def twoNames : List Plain :=
  [atLeast 2 (.one letters), .one blanks, oneOrMore (.one letters), optional (char '\''),
    optional (char '-'), atLeast 2 (.one letters)]

theorem countP_isBlank_eq_zero {set : CharSet} (solid : set.isSolid = true)
    (members : ∀ c ∈ text, set.contains c = true) : text.countP Text.isBlank = 0 := by
  rw [List.countP_eq_zero]
  intro c member
  rw [CharSet.isBlank_of_contains solid (members c member)]
  exact Bool.false_ne_true

theorem isSolid_letters : letters.isSolid = true := by
  decide

theorem countP_isBlank_twoNames (matched : (Plain.sequence twoNames).Matches text) :
    text.countP Text.isBlank = 1 := by
  simp only [twoNames, Plain.matches_sequence_cons, matches_atLeast_one, matches_oneOrMore_one,
    matches_optional, matches_char] at matched
  obtain ⟨given, _, rfl, ⟨_, givenLetters⟩, _, _, rfl, ⟨gap, rfl, blank⟩, family, _, rfl,
    ⟨_, familyLetters⟩, apostrophe, _, rfl, quoted, hyphen, _, rfl, hyphened, ending, _, rfl,
    ⟨_, endingLetters⟩, rfl⟩ := matched
  have noApostrophe : apostrophe.countP Text.isBlank = 0 := by
    rcases quoted with rfl | rfl <;> decide
  have noHyphen : hyphen.countP Text.isBlank = 0 := by
    rcases hyphened with rfl | rfl <;> decide
  have single : [gap].countP Text.isBlank = 1 := by
    have isBlank : Text.isBlank gap = true := blank
    rw [List.countP_singleton, if_pos isBlank]
  simp only [List.countP_append, countP_isBlank_eq_zero isSolid_letters givenLetters, single,
    countP_isBlank_eq_zero isSolid_letters familyLetters, noApostrophe, noHyphen,
    countP_isBlank_eq_zero isSolid_letters endingLetters, List.countP_nil]

/-- More letters make the second name longer. -/
theorem twoNames_append {more : List Char} (matched : (Plain.sequence twoNames).Matches text)
    (members : ∀ c ∈ more, letters.contains c = true) :
    (Plain.sequence twoNames).Matches (text ++ more) := by
  have split : twoNames = twoNames.dropLast ++ [atLeast 2 (.one letters)] := rfl
  rw [split, Plain.matches_sequence_append] at matched ⊢
  obtain ⟨front, ending, rfl, others, last⟩ := matched
  obtain ⟨enough, endingLetters⟩ := matches_atLeast_one.mp last
  refine ⟨front, ending ++ more, List.append_assoc _ _ _, others, matches_atLeast_one.mpr ⟨?_, ?_⟩⟩
  · rw [List.length_append]
    exact Nat.le_add_right_of_le enough
  · exact List.forall_mem_append.mpr ⟨endingLetters, members⟩

theorem matches_fullNamePattern : fullNamePattern.Matches text ↔
    ∃ names gap more, text = names ++ (gap ++ more) ∧ (Plain.sequence twoNames).Matches names ∧
      (gap = [] ∨ ∃ b, gap = [b] ∧ Text.isBlank b = true) ∧
        ∀ c ∈ more, letters.contains c = true := by
  have split : fullNamePattern = Plain.sequence
      (twoNames ++ [optional (.one blanks), optional (oneOrMore (.one letters))]) := rfl
  have third (more : List Char) : (more = [] ∨ more ≠ [] ∧ ∀ c ∈ more, letters.contains c = true) ↔
      ∀ c ∈ more, letters.contains c = true := by
    by_cases nothing : more = [] <;> simp [nothing]
  rw [split, Plain.matches_sequence_append]
  simp only [Plain.matches_sequence_cons, matches_optional, matches_oneOrMore_one, third]
  constructor
  · rintro ⟨names, _, rfl, two, gap, _, rfl, blank, more, _, rfl, members, rfl⟩
    exact ⟨names, gap, more, by simp, two, blank, members⟩
  · rintro ⟨names, gap, more, rfl, two, blank, members⟩
    exact ⟨names, _, rfl, two, gap, more, rfl, blank, more, [], by simp, members, rfl⟩

/-- A full name may have a blank after it if it is of two names. -/
theorem accepts_fullName_append_blank {b : Char} (blank : Text.isBlank b = true) :
    fullName.accepts (text ++ [b]) = true ↔
      fullName.accepts text = true ∧ text.countP Text.isBlank = 1 := by
  have free : fullNamePattern.isFree = true := by decide
  have solid : (Plain.sequence twoNames).isSolidAt .finish = true := by decide
  simp only [accepts, Plain.covers_iff free, matches_fullNamePattern]
  constructor
  · rintro ⟨names, gap, more, same, two, between, members⟩
    have last : Edge.finish.of (names ++ (gap ++ more)) = some b := by
      rw [← same, Edge.of, List.getLast?_concat]
    rcases Edge.of_append last with inTail | ⟨_, inNames⟩
    · rcases Edge.of_append inTail with inMore | ⟨rfl, inGap⟩
      · have member : b ∈ more := List.mem_of_getLast? inMore
        rw [CharSet.isBlank_of_contains isSolid_letters (members b member)] at blank
        cases blank
      · rcases between with rfl | ⟨d, rfl, _⟩
        · cases inGap
        · rw [List.append_nil] at same
          obtain ⟨rfl, _⟩ := List.append_inj' same rfl
          exact ⟨⟨text, [], [], by simp, two, .inl rfl, members⟩, countP_isBlank_twoNames two⟩
    · rw [Plain.isBlank_edge solid two inNames] at blank
      cases blank
  · rintro ⟨⟨names, gap, more, rfl, two, between, members⟩, one⟩
    rw [List.countP_append, List.countP_append, countP_isBlank_twoNames two] at one
    rcases between with rfl | ⟨d, rfl, second⟩
    · exact ⟨names ++ more, [b], [], by simp, twoNames_append two members, .inr ⟨b, rfl, blank⟩,
        List.forall_mem_nil _⟩
    · rw [List.countP_singleton, if_pos second] at one
      omega

/-- What has to match a pattern is not empty and does not begin with white space. It may end in
white space, one blank of it, only if it is a full name, and one of two names. -/
theorem accepted_edges (format : Format) (lower : format ≠ .lower) (upper : format ≠ .upper)
    (text : List Char) :
    (format.accepts text = true →
      text ≠ [] ∧ ∀ c, text.head? = some c → Text.isBlank c = false) ∧
    ∀ b, Text.isBlank b = true → (format.accepts (text ++ [b]) = true ↔
      format = .fullName ∧ fullName.accepts text = true ∧ text.countP Text.isBlank = 1) := by
  obtain ⟨pattern, given⟩ := exists_pattern lower upper
  obtain ⟨free, filled, solidStart, solidFinish⟩ := pattern_is_solid given
  have matched {text : List Char} (accepted : format.accepts text = true) : pattern.Matches text :=
    (Plain.covers_iff free text).mp (covers_of_accepts given accepted)
  refine ⟨?_, ?_⟩
  · intro accepted
    constructor
    · rintro rfl
      rw [Plain.isNullable_of_matches_nil (matched accepted)] at filled
      cases filled
    · intro c first
      exact Plain.isBlank_edge solidStart (matched accepted) first
  · intro b blank
    constructor
    · intro accepted
      rcases solidFinish with rfl | solid
      · exact ⟨rfl, (accepts_fullName_append_blank blank).mp accepted⟩
      · have last : Edge.finish.of (text ++ [b]) = some b := List.getLast?_concat
        rw [Plain.isBlank_edge solid (matched accepted) last] at blank
        cases blank
    · rintro ⟨rfl, two⟩
      exact (accepts_fullName_append_blank blank).mpr two

theorem accepted_edges_two_names :
    fullName ≠ .lower ∧ fullName ≠ .upper ∧ fullName.accepts "raj kumar".toList = true ∧
      fullName.accepts ("raj kumar".toList ++ [' ']) = true := by
  have lower : fullName ≠ .lower := by decide
  have upper : fullName ≠ .upper := by decide
  have accepted : fullName.accepts "raj kumar".toList = true := by decide
  have one : "raj kumar".toList.countP Text.isBlank = 1 := by decide
  obtain ⟨-, ending⟩ := accepted_edges .fullName lower upper "raj kumar".toList
  exact ⟨lower, upper, accepted, (ending ' ' (by decide)).mpr ⟨rfl, accepted, one⟩⟩

/-- White space at the end of a full name is let pass. -/
theorem fullName_accepts_trailing_blank :
    fullName.accepts "raj kumar ".toList = true ∧ "raj kumar ".toList.getLast? = some ' ' ∧
      Text.isBlank ' ' = true := by
  decide

end Format

end Rulebook
