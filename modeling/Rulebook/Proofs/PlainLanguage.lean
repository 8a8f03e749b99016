import Mathlib.Data.List.Basic
import Rulebook.Format

/-!
The texts that plain patterns match, told by how the patterns are built and without moves. A pattern
without anchors covers exactly these, and it occurs in what has one of them as a part. What carries
the proof is one step: a pattern matches what its moves match, wherever it stands.
-/

namespace Rulebook

/-- Texts that are so many of a language's, one after the other. -/
inductive Rounds (language : List Char → Prop) : Nat → List Char → Prop
  | none : Rounds language 0 []
  | more {count : Nat} {front back : List Char} : language front → Rounds language count back →
      Rounds language (count + 1) (front ++ back)

namespace Rounds

variable {language : List Char → Prop} {count : Nat} {text : List Char}

theorem zero_iff : Rounds language 0 text ↔ text = [] := by
  constructor
  · intro rounds
    cases rounds
    rfl
  · rintro rfl
    exact none

theorem succ_iff : Rounds language (count + 1) text ↔
    ∃ front back, text = front ++ back ∧ language front ∧ Rounds language count back := by
  constructor
  · intro rounds
    cases rounds with
    | more first others => exact ⟨_, _, rfl, first, others⟩
  · rintro ⟨front, back, rfl, first, others⟩
    exact more first others

theorem replicate (nothing : language []) (count : Nat) : Rounds language count [] := by
  induction count with
  | zero => exact none
  | succ count ih => exact more nothing ih

/-- Rounds that take nothing can come last. -/
theorem nil_or_cons (rounds : Rounds language count text) :
    (text = [] ∧ (count = 0 ∨ language [])) ∨
      ∃ fewer c front back, count = fewer + 1 ∧ text = c :: (front ++ back) ∧
        language (c :: front) ∧ Rounds language fewer back := by
  induction rounds with
  | none => exact .inl ⟨rfl, .inl rfl⟩
  | @more count front back first others ih =>
      cases front with
      | cons c front => exact .inr ⟨count, c, front, back, rfl, rfl, first, others⟩
      | nil =>
          rcases ih with ⟨rfl, _⟩ | ⟨fewer, c, front, rest, rfl, rfl, second, later⟩
          · exact .inl ⟨rfl, .inr first⟩
          · have moved : Rounds language (fewer + 1) ([] ++ rest) := more first later
            exact .inr ⟨fewer + 1, c, front, rest, rfl, rfl, second, moved⟩

end Rounds

namespace Plain

/-- Whether a loop may take so many rounds. A most that is less than the least comes first. -/
def Allows (least : Nat) : Option Nat → Nat → Prop
  | none, count => least ≤ count
  | some most, count => min least most ≤ count ∧ count ≤ most

section Allows

variable {least : Nat} {most : Option Nat} (someRound : most ≠ some 0)

include someRound

theorem allows_zero_iff : Allows least most 0 ↔ least = 0 := by
  cases most with
  | none => exact Nat.le_zero
  | some most =>
      have positive : most ≠ 0 := fun zero => someRound (congrArg some zero)
      rw [Allows]
      omega

theorem allows_succ_iff {count : Nat} :
    Allows least most (count + 1) ↔ Allows (least - 1) (most.map (· - 1)) count := by
  cases most with
  | none =>
      rw [Option.map_none, Allows, Allows]
      omega
  | some most =>
      have positive : most ≠ 0 := fun zero => someRound (congrArg some zero)
      rw [Option.map_some, Allows, Allows]
      omega

theorem exists_allows_succ : ∃ count, Allows least most (count + 1) := by
  cases most with
  | none => exact ⟨least, Nat.le_succ least⟩
  | some most =>
      have positive : most ≠ 0 := fun zero => someRound (congrArg some zero)
      refine ⟨most - 1, ?_⟩
      rw [Allows]
      omega

end Allows

/-- Whether a pattern asks nothing of what stands around a text. -/
def isFree : Plain → Bool
  | empty | one _ => true
  | anchor _ => false
  | seq first second | alt first second => first.isFree && second.isFree
  | loop body _ _ _ | group body | barred _ body => body.isFree

/-- The texts that a pattern without anchors matches. -/
def Matches : Plain → List Char → Prop
  | empty, text => text = []
  | one set, text => ∃ c, text = [c] ∧ set.contains c = true
  | anchor _, _ => False
  | seq first second, text =>
    ∃ front back, text = front ++ back ∧ first.Matches front ∧ second.Matches back
  | alt first second, text => first.Matches text ∨ second.Matches text
  | loop body least most _, text =>
    ∃ count, Allows least most count ∧ Rounds body.Matches count text
  | group body, text => body.Matches text
  | barred word body, text => body.Matches text ∧ ¬word <+: text

end Plain

/-- The texts that go on as a move does. -/
def Move.Matches : Move → List Char → Prop
  | stop, text => text = []
  | take set rest, text => ∃ c back, text = c :: back ∧ set.contains c = true ∧ rest.Matches back

def Move.isFree : Move → Bool
  | stop => true
  | take _ rest => rest.isFree

namespace Plain

theorem matches_andThen {first second : Plain} {text : List Char} :
    (first.andThen second).Matches text ↔
      ∃ front back, text = front ++ back ∧ first.Matches front ∧ second.Matches back := by
  rw [andThen]
  split
  · rename_i nothing
    subst nothing
    constructor
    · intro matched
      exact ⟨[], text, rfl, rfl, matched⟩
    · rintro ⟨front, back, rfl, rfl, matched⟩
      exact matched
  · rfl

theorem isFree_andThen {first second : Plain} (free : first.isFree = true)
    (secondFree : second.isFree = true) : (first.andThen second).isFree = true := by
  rw [andThen]
  split
  · exact secondFree
  · rw [isFree, free, secondFree]
    rfl

end Plain

namespace Move

theorem stop_matches_nil {move : Move} : move.Matches [] ↔ move = stop := by
  cases move <;> simp [Matches]

/-- What is barred goes on as the body does and not as the word does. -/
theorem exists_barred_matches {word : List Char} {move : Move} {text : List Char} :
    (∃ next ∈ move.barred word, next.Matches text) ↔ move.Matches text ∧ ¬word <+: text := by
  cases move with
  | stop =>
      cases word with
      | nil => simp [barred]
      | cons letter word =>
          simp only [barred, List.isEmpty_cons, Bool.false_eq_true, if_false, List.mem_singleton,
            exists_eq_left, Matches]
          exact ⟨fun nothing => ⟨nothing, by simp [nothing]⟩, fun both => both.1⟩
  | take set rest =>
      cases word with
      | nil => simp [barred]
      | cons letter word =>
          simp only [barred, List.mem_cons, List.not_mem_nil, or_false, exists_eq_or_imp,
            exists_eq_left, Matches, Plain.Matches, CharSet.contains, CharSet.diff,
            Bool.and_eq_true, Bool.not_eq_true', CharSet.contains_single]
          constructor
          · rintro (⟨c, back, rfl, ⟨member, rfl⟩, matched, unbarred⟩ |
              ⟨c, back, rfl, ⟨member, other⟩, matched⟩)
            · exact ⟨⟨c, back, rfl, member, matched⟩, by simpa using unbarred⟩
            · refine ⟨⟨c, back, rfl, member, matched⟩, ?_⟩
              rw [List.cons_prefix_cons]
              rintro ⟨rfl, _⟩
              have same := (CharSet.contains_single letter letter).mpr rfl
              rw [other] at same
              cases same
          · rintro ⟨⟨c, back, rfl, member, matched⟩, unbarred⟩
            by_cases same : c = letter
            · subst same
              exact .inl ⟨c, back, rfl, ⟨member, rfl⟩, matched, by simpa using unbarred⟩
            · refine .inr ⟨c, back, rfl, ⟨member, ?_⟩, matched⟩
              rw [← Bool.not_eq_true, CharSet.contains_single]
              exact same

theorem isFree_of_mem_barred {word : List Char} {move next : Move} (free : move.isFree = true)
    (came : next ∈ move.barred word) : next.isFree = true := by
  cases move with
  | stop =>
      rw [barred] at came
      split at came
      · cases came
      · cases List.mem_singleton.mp came
        rfl
  | take set rest =>
      cases word with
      | nil => cases came
      | cons letter word =>
          simp only [barred, List.mem_cons, List.not_mem_nil, or_false] at came
          rcases came with rfl | rfl <;> exact free

end Move

namespace Plain

section FollowedBy

variable {language : List Char → Prop} {begun further : List Move} {next : Plain}
  {text : List Char} (step : ∀ text, language text ↔ ∃ move ∈ begun, move.Matches text)

include step

/-- A text goes on as the further moves do, where the language has the empty text, or it begins with
a character of the language. -/
theorem exists_followedBy_iff :
    (∃ move ∈ begun.flatMap fun move => move.followedBy further next, move.Matches text) ↔
      (language [] ∧ ∃ move ∈ further, move.Matches text) ∨
        ∃ c front back, text = c :: (front ++ back) ∧ language (c :: front) ∧
          next.Matches back := by
  simp only [step, Move.stop_matches_nil, exists_eq_right, List.mem_flatMap]
  constructor
  · rintro ⟨other, ⟨move, member, came⟩, matched⟩
    cases move with
    | stop => exact .inl ⟨member, other, came, matched⟩
    | take set rest =>
        cases List.mem_singleton.mp came
        obtain ⟨c, tail, rfl, taken, both⟩ := matched
        obtain ⟨front, back, rfl, first, second⟩ := matches_andThen.mp both
        exact .inr ⟨c, front, back, rfl, ⟨_, member, c, front, rfl, taken, first⟩, second⟩
  · rintro (⟨stops, other, came, matched⟩ | ⟨c, front, back, rfl, ⟨move, member, first⟩, second⟩)
    · exact ⟨other, ⟨_, stops, came⟩, matched⟩
    · cases move with
      | stop => cases first
      | take set rest =>
          obtain ⟨_, _, same, taken, first⟩ := first
          cases same
          refine ⟨_, ⟨_, member, List.mem_singleton_self _⟩, c, front ++ back, rfl, taken, ?_⟩
          exact matches_andThen.mpr ⟨front, back, rfl, first, second⟩

/-- If the further moves are those of what comes next, then the two follow one another. -/
theorem exists_followedBy_iff_append
    (onward : next.Matches text ↔ ∃ move ∈ further, move.Matches text) :
    (∃ move ∈ begun.flatMap fun move => move.followedBy further next, move.Matches text) ↔
      ∃ front back, text = front ++ back ∧ language front ∧ next.Matches back := by
  rw [exists_followedBy_iff step, ← onward]
  constructor
  · rintro (⟨nothing, matched⟩ | ⟨c, front, back, rfl, first, second⟩)
    · exact ⟨[], text, rfl, nothing, matched⟩
    · exact ⟨c :: front, back, rfl, first, second⟩
  · rintro ⟨front, back, rfl, first, second⟩
    cases front with
    | nil => exact .inl ⟨first, second⟩
    | cons c front => exact .inr ⟨c, front, back, rfl, first, second⟩

end FollowedBy

section Loop

variable {body : Plain} {least : Nat} {most : Option Nat} {greedy : Bool}
  {before next : Option Char} {text : List Char}

theorem moves_loop_zero_most : (loop body least (some 0) greedy).moves before next = [.stop] := by
  cases least <;> rfl

theorem loop_zero_most_matches_iff : (loop body least (some 0) greedy).Matches text ↔
    ∃ move ∈ (loop body least (some 0) greedy).moves before next, move.Matches text := by
  simp [moves_loop_zero_most, Matches, Allows, Move.Matches, Rounds.zero_iff]

/-- Where a round is owed, a loop moves as its body does with a loop after it that owes one less. So
a pattern so many times is as many copies of it, whatever it asks of what stands around. -/
theorem mem_moves_loop_succ (someRound : most ≠ some 0) {move : Move} :
    move ∈ (loop body (least + 1) most greedy).moves before next ↔
      move ∈ (seq body (loop body least (most.map (· - 1)) greedy)).moves before next := by
  simp only [moves, loopMoves, if_neg someRound, List.mem_flatMap, List.mem_eraseDups]
  rfl

/-- Of two rounds that are owed, the first may take nothing and the second a character. -/
example :
    let start : Plain := .anchor .textStart
    let twice : Plain := .loop (.alt start (.one (.single 'a'))) 2 (some 2) true
    (Plain.sequence [start, twice, .one (.single 'b'), .anchor .textEnd]).covers ['a', 'b'] :=
  by decide +kernel

section SomeRound

variable (someRound : most ≠ some 0)

include someRound

theorem matches_loop_succ : (loop body (least + 1) most greedy).Matches text ↔
    (seq body (loop body least (most.map (· - 1)) greedy)).Matches text := by
  have owed : ¬Allows (least + 1) most 0 := by
    rw [allows_zero_iff someRound]
    exact Nat.succ_ne_zero least
  rw [Matches, Matches, ← Nat.or_exists_add_one]
  simp only [owed, false_and, false_or, allows_succ_iff someRound, Rounds.succ_iff]
  constructor
  · rintro ⟨count, allowed, front, back, rfl, first, others⟩
    exact ⟨front, back, rfl, first, count, allowed, others⟩
  · rintro ⟨front, back, rfl, first, count, allowed, others⟩
    exact ⟨count, allowed, front, back, rfl, first, others⟩

/-- A loop that owes no round goes one with a move of its body. -/
theorem exists_round_matches {turn : List Move} (greedy : Bool)
    (step : ∀ text, body.Matches text ↔ ∃ move ∈ turn, move.Matches text) :
    (∃ move ∈ turn.flatMap fun move => move.followedBy [.stop] (again body 0 most greedy),
        move.Matches text) ↔
      ∃ count, Allows 0 most (count + 1) ∧ Rounds body.Matches (count + 1) text := by
  rw [exists_followedBy_iff step]
  constructor
  · rintro (⟨nothing, _, stops, matched⟩ | ⟨c, front, back, rfl, first, count, allowed, others⟩)
    · cases List.mem_singleton.mp stops
      cases matched
      have allowed : ∃ count, Allows 0 most (count + 1) := exists_allows_succ someRound
      exact allowed.imp fun count allowed => ⟨allowed, .replicate nothing _⟩
    · exact ⟨count, (allows_succ_iff someRound).mpr allowed, .more first others⟩
  · rintro ⟨count, allowed, rounds⟩
    -- A round that takes nothing ends the loop, so the first is to be one that takes a character.
    rcases rounds.nil_or_cons with ⟨rfl, zero | nothing⟩ |
      ⟨fewer, c, front, back, same, rfl, first, others⟩
    · cases zero
    · exact .inl ⟨nothing, _, List.mem_singleton_self _, rfl⟩
    · cases same
      exact .inr ⟨c, front, back, rfl, first, count, (allows_succ_iff someRound).mp allowed,
        others⟩

end SomeRound

/-- Along the rounds that are owed: a loop matches what its moves match. -/
theorem loop_matches_iff_exists_move
    (step : ∀ text, body.Matches text ↔ ∃ move ∈ body.moves before next, move.Matches text) :
    (loop body least most greedy).Matches text ↔
      ∃ move ∈ (loop body least most greedy).moves before next, move.Matches text := by
  induction least generalizing most text with
  | zero =>
      by_cases someRound : most = some 0
      · subst someRound
        exact loop_zero_most_matches_iff
      · have distinct (text : List Char) : body.Matches text ↔
            ∃ move ∈ (body.moves before next).eraseDups, move.Matches text := by
          simp only [List.mem_eraseDups]
          exact step text
        rw [Matches, ← Nat.or_exists_add_one, allows_zero_iff someRound, Rounds.zero_iff,
          ← exists_round_matches someRound greedy distinct, moves, loopMoves, if_neg someRound]
        cases greedy <;> simp [or_and_right, exists_or, Move.Matches, or_comm]
  | succ least ih =>
      by_cases someRound : most = some 0
      · subst someRound
        exact loop_zero_most_matches_iff
      · simp only [matches_loop_succ someRound, mem_moves_loop_succ someRound]
        exact (exists_followedBy_iff_append step ih).symm

end Loop

/-- One step: whatever stands around a pattern without anchors, it matches what its moves match. -/
theorem matches_iff_exists_move {pattern : Plain} (free : pattern.isFree = true)
    (before next : Option Char) (text : List Char) :
    pattern.Matches text ↔ ∃ move ∈ pattern.moves before next, move.Matches text := by
  induction pattern generalizing text with
  | empty => simp [Matches, moves, Move.Matches]
  | one set => simp [Matches, moves, Move.Matches]
  | anchor position => cases free
  | seq first second firstStep secondStep =>
      rw [isFree, Bool.and_eq_true] at free
      exact (exists_followedBy_iff_append (firstStep free.1) (secondStep free.2 text)).symm
  | alt first second firstStep secondStep =>
      rw [isFree, Bool.and_eq_true] at free
      simp only [Matches, moves, List.mem_append, firstStep free.1, secondStep free.2, or_and_right,
        exists_or]
  | loop body least most greedy step => exact loop_matches_iff_exists_move (step free)
  | group body step => exact step free text
  | barred word body step =>
      simp only [Matches, moves, List.mem_flatMap, step free text]
      constructor
      · rintro ⟨⟨move, member, matched⟩, unbarred⟩
        obtain ⟨next, came, nextMatched⟩ := Move.exists_barred_matches.mpr ⟨matched, unbarred⟩
        exact ⟨next, ⟨move, member, came⟩, nextMatched⟩
      · rintro ⟨next, ⟨move, member, came⟩, nextMatched⟩
        obtain ⟨matched, unbarred⟩ := Move.exists_barred_matches.mp ⟨next, came, nextMatched⟩
        exact ⟨⟨move, member, matched⟩, unbarred⟩

theorem isFree_of_mem_followedBy {move other : Move} {further : List Move} {next : Plain}
    (free : move.isFree = true) (furtherFree : ∀ move ∈ further, move.isFree = true)
    (nextFree : next.isFree = true) (came : other ∈ move.followedBy further next) :
    other.isFree = true := by
  cases move with
  | stop => exact furtherFree other came
  | take set rest =>
      cases List.mem_singleton.mp came
      exact isFree_andThen free nextFree

theorem isFree_of_mem_loopMoves {body : Plain} {turn : List Move} (free : body.isFree = true)
    (turnFree : ∀ move ∈ turn, move.isFree = true) {least : Nat} {most : Option Nat} {greedy : Bool}
    {move : Move} (member : move ∈ loopMoves body greedy turn least most) :
    move.isFree = true := by
  have stopFree : ∀ move ∈ [Move.stop], move.isFree = true := by simp [Move.isFree]
  have againFree (least : Nat) (most : Option Nat) :
      (again body least most greedy).isFree = true := free
  induction least generalizing most move with
  | zero =>
      rw [loopMoves] at member
      split at member
      · exact stopFree move member
      · have ways : move = .stop ∨ move ∈ turn.flatMap fun move =>
            move.followedBy [.stop] (again body 0 most greedy) := by
          cases greedy <;> simpa [or_comm] using member
        rcases ways with rfl | round
        · rfl
        · obtain ⟨begun, begins, came⟩ := List.mem_flatMap.mp round
          exact isFree_of_mem_followedBy (turnFree begun begins) stopFree (againFree _ _) came
  | succ least ih =>
      rw [loopMoves] at member
      split at member
      · exact stopFree move member
      · obtain ⟨begun, begins, came⟩ := List.mem_flatMap.mp member
        exact isFree_of_mem_followedBy (turnFree begun begins) (fun _ => ih) (againFree _ _) came

/-- What is left to match has no anchors either. -/
theorem isFree_of_mem_moves {pattern : Plain} (free : pattern.isFree = true)
    {before next : Option Char} {move : Move} (member : move ∈ pattern.moves before next) :
    move.isFree = true := by
  induction pattern generalizing move with
  | empty =>
      cases List.mem_singleton.mp member
      rfl
  | one set =>
      cases List.mem_singleton.mp member
      rfl
  | anchor position => cases free
  | seq first second firstFree secondFree =>
      rw [isFree, Bool.and_eq_true] at free
      obtain ⟨begun, begins, came⟩ := List.mem_flatMap.mp member
      exact isFree_of_mem_followedBy (firstFree free.1 begins) (fun _ => secondFree free.2) free.2
        came
  | alt first second firstFree secondFree =>
      rw [isFree, Bool.and_eq_true] at free
      rcases List.mem_append.mp member with left | right
      · exact firstFree free.1 left
      · exact secondFree free.2 right
  | loop body least most greedy bodyFree =>
      have within : body.isFree = true := free
      rw [moves] at member
      refine isFree_of_mem_loopMoves within (fun begun begins => ?_) member
      exact bodyFree within (List.mem_eraseDups.mp begins)
  | group body bodyFree => exact bodyFree free member
  | barred word body bodyFree =>
      obtain ⟨begun, begins, came⟩ := List.mem_flatMap.mp member
      exact Move.isFree_of_mem_barred (bodyFree free begins) came

theorem mem_residuals {c : Char} {choices : List Move} {pattern : Plain} :
    pattern ∈ residuals c choices ↔
      ∃ set, Move.take set pattern ∈ choices ∧ set.contains c = true := by
  simp only [residuals, List.mem_eraseDups, List.mem_filterMap]
  constructor
  · rintro ⟨move, member, left⟩
    cases move with
    | stop => cases left
    | take set rest =>
        rw [Move.after?] at left
        split at left
        · rename_i taken
          cases left
          exact ⟨set, member, taken⟩
        · cases left
  · rintro ⟨set, member, taken⟩
    exact ⟨_, member, by rw [Move.after?, if_pos taken]⟩

theorem stop_mem_moves_iff {pattern : Plain} (free : pattern.isFree = true)
    (before next : Option Char) : .stop ∈ pattern.moves before next ↔ pattern.Matches [] := by
  rw [matches_iff_exists_move free before next]
  constructor
  · intro stops
    exact ⟨_, stops, rfl⟩
  · rintro ⟨move, begins, matched⟩
    cases move with
    | stop => exact begins
    | take set rest =>
        obtain ⟨_, _, impossible, _⟩ := matched
        cases impossible

section Choices

variable {patterns : List Plain} (free : ∀ pattern ∈ patterns, pattern.isFree = true)

include free

theorem contains_stop_iff (before next : Option Char) :
    (patterns.flatMap (moves before next)).contains .stop = true ↔
      ∃ pattern ∈ patterns, pattern.Matches [] := by
  simp only [List.contains_iff_mem, List.mem_flatMap]
  refine exists_congr fun pattern => and_congr_right fun member => ?_
  exact stop_mem_moves_iff (free pattern member) before next

theorem isFree_of_mem_residuals {before : Option Char} {c : Char} {left : Plain}
    (member : left ∈ residuals c (patterns.flatMap (moves before (some c)))) :
    left.isFree = true := by
  obtain ⟨set, begins, _⟩ := mem_residuals.mp member
  obtain ⟨pattern, listed, begins⟩ := List.mem_flatMap.mp begins
  exact isFree_of_mem_moves (free pattern listed) begins

/-- What is left after a character goes on as the patterns do. -/
theorem exists_residual_matches_iff (before : Option Char) (c : Char) (rest : List Char) :
    (∃ left ∈ residuals c (patterns.flatMap (moves before (some c))), left.Matches rest) ↔
      ∃ pattern ∈ patterns, pattern.Matches (c :: rest) := by
  constructor
  · rintro ⟨left, member, matched⟩
    obtain ⟨set, begins, taken⟩ := mem_residuals.mp member
    obtain ⟨pattern, listed, begins⟩ := List.mem_flatMap.mp begins
    refine ⟨pattern, listed, ?_⟩
    rw [matches_iff_exists_move (free pattern listed) before (some c)]
    exact ⟨_, begins, c, rest, rfl, taken, matched⟩
  · rintro ⟨pattern, listed, matched⟩
    rw [matches_iff_exists_move (free pattern listed) before (some c)] at matched
    obtain ⟨move, begins, matched⟩ := matched
    cases move with
    | stop => cases matched
    | take set left =>
        obtain ⟨_, _, same, taken, matched⟩ := matched
        cases same
        refine ⟨left, mem_residuals.mpr ⟨set, ?_, taken⟩, matched⟩
        exact List.mem_flatMap.mpr ⟨pattern, listed, begins⟩

/-- Along a text: one of the patterns matches the rest of it. -/
theorem coverAny_iff (before : Option Char) (text : List Char) :
    coverAny before patterns text = true ↔ ∃ pattern ∈ patterns, pattern.Matches text := by
  induction text generalizing before patterns with
  | nil => exact contains_stop_iff free before none
  | cons c rest ih =>
      have freeResiduals : ∀ left ∈ residuals c (patterns.flatMap (moves before (some c))),
          left.isFree = true := fun left => isFree_of_mem_residuals free
      rw [coverAny, ih freeResiduals, exists_residual_matches_iff free]

/-- Along a text: one of the patterns matches something at its front. -/
theorem leadAny_iff (before : Option Char) (text : List Char) :
    leadAny before patterns text = true ↔
      ∃ part, part <+: text ∧ ∃ pattern ∈ patterns, pattern.Matches part := by
  induction text generalizing before patterns with
  | nil =>
      simp only [List.prefix_nil, exists_eq_left]
      exact contains_stop_iff free before none
  | cons c rest ih =>
      have freeResiduals : ∀ left ∈ residuals c (patterns.flatMap (moves before (some c))),
          left.isFree = true := fun left => isFree_of_mem_residuals free
      simp only [leadAny, Bool.or_eq_true, Bool.and_eq_true, contains_stop_iff free,
        ih freeResiduals, exists_residual_matches_iff free]
      constructor
      · rintro (stopped | ⟨_, part, front, goesOn⟩)
        · exact ⟨[], List.nil_prefix, stopped⟩
        · exact ⟨c :: part, List.cons_prefix_cons.mpr ⟨rfl, front⟩, goesOn⟩
      · rintro ⟨part, front, matched⟩
        rcases List.prefix_cons_iff.mp front with rfl | ⟨part, rfl, later⟩
        · exact .inl matched
        · refine .inr ⟨?_, part, later, matched⟩
          obtain ⟨left, member, _⟩ := (exists_residual_matches_iff free before c part).mpr matched
          obtain ⟨set, begins, _⟩ := mem_residuals.mp member
          simpa using List.ne_nil_of_mem begins

end Choices

/-- A pattern without anchors covers the texts that it matches. -/
theorem covers_iff {pattern : Plain} (free : pattern.isFree = true) (text : List Char) :
    pattern.covers text = true ↔ pattern.Matches text := by
  rw [covers, coverAny_iff (by simpa using free)]
  simp

/-- A pattern without anchors occurs in a text if it matches a part of it. -/
theorem occurs_iff {pattern : Plain} (free : pattern.isFree = true) (before : Option Char)
    (text : List Char) :
    pattern.occurs before text = true ↔ ∃ part, part <:+: text ∧ pattern.Matches part := by
  have leads (before : Option Char) (text : List Char) :
      leadAny before [pattern] text = true ↔ ∃ part, part <+: text ∧ pattern.Matches part := by
    rw [leadAny_iff (by simpa using free)]
    simp
  induction text generalizing before with
  | nil => simp only [occurs, leads, List.prefix_nil, List.infix_nil]
  | cons c rest ih =>
      simp only [occurs, Bool.or_eq_true, leads, ih, List.infix_cons_iff, or_and_right, exists_or]

theorem matches_sequence_cons {first : Plain} {rest : List Plain} {text : List Char} :
    (sequence (first :: rest)).Matches text ↔
      ∃ front back, text = front ++ back ∧ first.Matches front ∧ (sequence rest).Matches back := by
  cases rest with
  | nil => simp [sequence, Matches]
  | cons second rest => rfl

/-- A sequence can be cut anywhere between its parts. -/
theorem matches_sequence_append {front back : List Plain} {text : List Char} :
    (sequence (front ++ back)).Matches text ↔ ∃ first second, text = first ++ second ∧
      (sequence front).Matches first ∧ (sequence back).Matches second := by
  induction front generalizing text with
  | nil => simp [sequence, Matches]
  | cons pattern front ih =>
      rw [List.cons_append]
      simp only [matches_sequence_cons, ih]
      constructor
      · rintro ⟨first, _, rfl, matched, second, third, rfl, others, rest⟩
        exact ⟨first ++ second, third, by simp, ⟨first, second, rfl, matched, others⟩, rest⟩
      · rintro ⟨_, third, rfl, ⟨first, second, rfl, matched, others⟩, rest⟩
        exact ⟨first, second ++ third, by simp, matched, second, third, rfl, others, rest⟩

theorem rounds_one_iff {set : CharSet} {count : Nat} {text : List Char} :
    Rounds (one set).Matches count text ↔
      text.length = count ∧ ∀ c ∈ text, set.contains c = true := by
  induction count generalizing text with
  | zero =>
      rw [Rounds.zero_iff, List.length_eq_zero_iff]
      constructor
      · rintro rfl
        exact ⟨rfl, by simp⟩
      · exact And.left
  | succ count ih =>
      rw [Rounds.succ_iff]
      constructor
      · rintro ⟨_, back, rfl, ⟨c, rfl, member⟩, rounds⟩
        obtain ⟨rfl, members⟩ := ih.mp rounds
        exact ⟨rfl, List.forall_mem_cons.mpr ⟨member, members⟩⟩
      · rintro ⟨length, members⟩
        cases text with
        | nil => cases length
        | cons c back =>
            rw [List.forall_mem_cons] at members
            exact ⟨[c], back, rfl, ⟨c, rfl, members.1⟩, ih.mpr ⟨Nat.succ.inj length, members.2⟩⟩

end Plain

namespace Format

variable {text : List Char}

theorem matches_char {c : Char} : (char c).Matches text ↔ text = [c] := by
  simp [char, Plain.Matches]

theorem matches_optional {pattern : Plain} :
    (optional pattern).Matches text ↔ text = [] ∨ pattern.Matches text := by
  have never : Rounds pattern.Matches 0 text ↔ text = [] := Rounds.zero_iff
  have once : Rounds pattern.Matches 1 text ↔ pattern.Matches text := by
    simp [Rounds.succ_iff, Rounds.zero_iff]
  rw [optional, Plain.Matches, ← never, ← once]
  constructor
  · rintro ⟨count, ⟨_, most⟩, rounds⟩
    rcases Nat.le_one_iff_eq_zero_or_eq_one.mp most with rfl | rfl
    · exact .inl rounds
    · exact .inr rounds
  · rintro (rounds | rounds)
    · exact ⟨0, ⟨by decide, by decide⟩, rounds⟩
    · exact ⟨1, ⟨by decide, by decide⟩, rounds⟩

theorem matches_times {count : Nat} {pattern : Plain} :
    (times count pattern).Matches text ↔ Rounds pattern.Matches count text := by
  rw [times, Plain.Matches]
  constructor
  · rintro ⟨rounds, ⟨least, most⟩, matched⟩
    rw [Nat.min_self] at least
    rwa [Nat.le_antisymm most least] at matched
  · intro matched
    exact ⟨count, ⟨Nat.min_le_left _ _, Nat.le_refl _⟩, matched⟩

end Format

end Rulebook
