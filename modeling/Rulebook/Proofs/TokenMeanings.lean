import Rulebook.Proofs.ArgumentTokens
import Rulebook.Proofs.Arguments
import Rulebook.Proofs.NumericText
import Rulebook.Proofs.Transparency

/-!
What tokens mean. A token may ask something of the items of arrays, any number of levels down, and
what it asks or refuses does not hang on how many. Only an argument that its directive does not take
is a fault; a token that means nothing is kept as it stands.
-/

namespace Rulebook

/-- A token that is asked of the items of arrays, so many levels down. -/
def nestedToken (depth : Nat) (token : String) : String :=
  String.join (List.replicate depth "arrayof:") ++ token

/-- Whether a token does not ask for arrays first. -/
def IsBare (token : String) : Prop :=
  ∀ rest, token ≠ "arrayof:" ++ rest

theorem nestedToken_zero (token : String) : nestedToken 0 token = token := by
  simp [nestedToken]

theorem nestedToken_succ (depth : Nat) (token : String) :
    nestedToken (depth + 1) token = "arrayof:" ++ nestedToken depth token := by
  simp [nestedToken, List.replicate_succ, String.join_cons, String.append_assoc]

theorem exists_nestedToken (text : List Char) :
    ∃ depth token, String.ofList text = nestedToken depth token ∧ IsBare token := by
  -- The reader of clauses takes one prefix off at a time.
  induction text using Clause.read.induct with
  | case1 rest ih =>
      obtain ⟨depth, token, written, bare⟩ := ih
      refine ⟨depth + 1, token, ?_, bare⟩
      rw [nestedToken_succ, ← written, ← String.toList_inj]
      simp
  | case2 text other =>
      refine ⟨0, String.ofList text, (nestedToken_zero _).symm, ?_⟩
      intro rest same
      apply other rest.toList
      rw [← String.toList_ofList (l := text), same]
      simp

theorem nestedToken_inj {depth other : Nat} {token another : String} (bare : IsBare token)
    (alsoBare : IsBare another) (same : nestedToken depth token = nestedToken other another) :
    depth = other ∧ token = another := by
  induction depth generalizing other with
  | zero =>
      cases other with
      | zero => simpa [nestedToken_zero] using same
      | succ other =>
          rw [nestedToken_zero, nestedToken_succ] at same
          exact absurd same (bare _)
  | succ depth ih =>
      cases other with
      | zero =>
          rw [nestedToken_zero, nestedToken_succ] at same
          exact absurd same.symm (alsoBare _)
      | succ other =>
          rw [nestedToken_succ, nestedToken_succ, ← String.toList_inj, String.toList_append,
            String.toList_append, List.append_cancel_left_eq, String.toList_inj] at same
          have inner := ih same
          exact ⟨congrArg (· + 1) inner.1, inner.2⟩

namespace Clause

theorem read_nestedToken (depth : Nat) (token : String) :
    Clause.read (nestedToken depth token).toList =
      (Clause.read token.toList).map (under depth) := by
  induction depth with
  | zero =>
      rw [nestedToken_zero]
      exact (Run.map_id _).symm
  | succ depth ih =>
      have prefixed : Clause.read ("arrayof:" ++ nestedToken depth token).toList =
          (Clause.read (nestedToken depth token).toList).map .arrayOf := by
        rw [String.toList_append]
        rfl
      rw [nestedToken_succ, prefixed, ih, Run.map_map]
      rfl

theorem read_of_isBare {token : String} (bare : IsBare token) :
    Clause.read token.toList = readFlat token.toList := by
  unfold Clause.read
  split
  · rename_i rest written
    refine absurd ?_ (bare (String.ofList rest))
    rw [← String.toList_inj, written]
    simp
  · rfl

/-- Whether a token without a prefix is none of the words, and no directive with an argument. -/
structure IsUnknown (token : String) : Prop where
  word : token ∉ words
  argument : ∀ name ∈ Constraint.names, ∀ argument, token ≠ name ++ ":" ++ argument

/-- What a token without a prefix asks for. -/
inductive Denoted : String → Clause → Prop
  | optional : Denoted "optional" .optional
  | nullable : Denoted "nullable" .nullable
  | kind (expected : Kind) : Denoted expected.name (.kind expected)
  | format (expected : Format) : Denoted expected.directive (.format expected)
  | refinement (expected : Refinement) : Denoted expected.directive (.refinement expected)
  | constraint {name argument : String} {expected : Constraint} :
      Constraint.Takes name argument expected →
      Denoted (name ++ ":" ++ argument) (.constraint expected)
  | unknown {token : String} : IsUnknown token → Denoted token (.unknown token)

/-- Whether a token names a directive that does not take its argument. -/
def Refused (token : String) (fault : Fault) : Prop :=
  ∃ name argument, token = name ++ ":" ++ argument ∧ Constraint.Refuses name argument fault

theorem IsUnknown.read?_eq_none {token : String} (unknown : IsUnknown token) :
    Constraint.read? token.toList = none := by
  rw [Constraint.read?]
  cases cut : Text.cutFirst? ':' token.toList with
  | none => rfl
  | some pair =>
      obtain ⟨name, argument⟩ := pair
      apply Constraint.named?_eq_none
      intro listed
      apply unknown.argument _ listed (String.ofList argument)
      rw [← String.toList_inj, (Text.cutFirst?_eq_some cut).1]
      simp

theorem readFlat_of_denoted {token : String} {clause : Clause} (denoted : Denoted token clause) :
    readFlat token.toList = .ok clause := by
  cases denoted with
  | optional => rfl
  | nullable => rfl
  | kind expected => cases expected <;> rfl
  | format expected => cases expected <;> rfl
  | refinement expected => cases expected <;> rfl
  | constraint takes =>
      have named := Constraint.named?_of_takes takes
      rw [readFlat_of_named? (Constraint.not_mem_of_named? named) named]
      rfl
  | unknown unknown =>
      rw [readFlat, String.ofList_toList, ofWord?_eq_none unknown.word, unknown.read?_eq_none]

theorem readFlat_of_refused {token : String} {fault : Fault} (refused : Refused token fault) :
    readFlat token.toList = .error fault := by
  obtain ⟨name, argument, rfl, refuses⟩ := refused
  have named := Constraint.named?_of_refuses refuses
  rw [readFlat_of_named? (Constraint.not_mem_of_named? named) named]
  rfl

theorem exists_denoted_of_word {token : String} (listed : token ∈ words) :
    ∃ clause, Denoted token clause := by
  simp only [words, List.mem_append, List.mem_cons, List.mem_map, List.not_mem_nil,
    or_false] at listed
  rcases listed with ((((rfl | rfl) | ⟨expected, _, rfl⟩) | ⟨expected, _, rfl⟩) |
    ⟨expected, _, rfl⟩)
  · exact ⟨_, .optional⟩
  · exact ⟨_, .nullable⟩
  · exact ⟨_, .kind expected⟩
  · exact ⟨_, .format expected⟩
  · exact ⟨_, .refinement expected⟩

theorem denoted_or_refused (token : String) :
    (∃ clause, Denoted token clause) ∨ ∃ fault, Refused token fault := by
  by_cases word : token ∈ words
  · exact .inl (exists_denoted_of_word word)
  · by_cases directive : ∃ name ∈ Constraint.names, ∃ argument, token = name ++ ":" ++ argument
    · obtain ⟨name, listed, argument, rfl⟩ := directive
      rcases Constraint.takes_or_refuses listed argument with ⟨expected, takes⟩ | ⟨fault, refuses⟩
      · exact .inl ⟨_, .constraint takes⟩
      · exact .inr ⟨fault, name, argument, rfl, refuses⟩
    · refine .inl ⟨_, .unknown ⟨word, ?_⟩⟩
      intro name listed argument same
      exact directive ⟨name, listed, argument, same⟩

theorem readFlat_known (token : String) :
    (∀ clause, readFlat token.toList = .ok clause ↔ Denoted token clause) ∧
      ∀ fault, readFlat token.toList = .error fault ↔ Refused token fault :=
  Run.known (fun _ => readFlat_of_denoted) (fun _ => readFlat_of_refused) (denoted_or_refused token)

theorem isUnknown_of_readFlat {token : String}
    (kept : readFlat token.toList = .ok (.unknown token)) : IsUnknown token := by
  have denoted := ((readFlat_known token).1 _).mp kept
  cases denoted with
  | unknown unknown => exact unknown

end Clause

namespace Directive

/-- What a token without a prefix is as a directive of its own: a title, a message or a clause. -/
inductive Denoted : String → Directive → Prop
  | title (name : String) : Denoted ("field:" ++ name) (.title name)
  | message (text : String) : Denoted ("error:" ++ text) (.message text)
  | clause {token : String} {content : Clause} : (∀ name, token ≠ "field:" ++ name) →
      (∀ text, token ≠ "error:" ++ text) → Clause.Denoted token content →
      Denoted token (.clause content)

theorem read_of_clause {token : String} (untitled : ∀ name, token ≠ "field:" ++ name)
    (unworded : ∀ text, token ≠ "error:" ++ text) :
    read token = (Clause.read token.toList).map .clause := by
  rw [read, after?_eq_none_iff.mpr untitled, after?_eq_none_iff.mpr unworded]

theorem read_nestedToken_succ (depth : Nat) (token : String) :
    read (nestedToken (depth + 1) token) =
      (Clause.read token.toList).map fun clause => .clause (clause.under (depth + 1)) := by
  have other (word rest : String) (different : word.toList.head? ≠ some 'a')
      (nonempty : word.toList ≠ []) : nestedToken (depth + 1) token ≠ word ++ rest := by
    intro same
    rw [nestedToken_succ, ← String.toList_inj, String.toList_append, String.toList_append] at same
    have heads := congrArg List.head? same
    rw [List.head?_append_of_ne_nil _ nonempty] at heads
    exact different heads.symm
  rw [read_of_clause (fun name => other _ name (by decide) (by decide))
    (fun text => other _ text (by decide) (by decide)), Clause.read_nestedToken, Run.map_map]
  rfl

theorem argument_ne {name argument : String} {made : Except Fault Constraint}
    (named : Constraint.named? name argument.toList = some made) (word : String)
    (plain : ':' ∉ word.toList) (unlisted : word ∉ Constraint.names) (other : String) :
    name ++ ":" ++ argument ≠ word ++ ":" ++ other := by
  intro same
  have cut := Clause.cutFirst?_argument (Constraint.not_mem_of_named? named) argument
  rw [same, Clause.cutFirst?_argument plain other] at cut
  simp only [Option.some.injEq, Prod.mk.injEq, String.toList_inj] at cut
  rw [← cut.1, Constraint.named?_eq_none unlisted] at named
  cases named

section

variable {token : String} (bare : IsBare token)

include bare

theorem read_of_denoted {directive : Directive} (denoted : Denoted token directive) :
    read token = .ok directive := by
  cases denoted with
  | title name => simp only [read, after?_append, String.ofList_toList]
  | message text =>
      have untitled : Text.after? "field:".toList ("error:" ++ text).toList = none := by
        rw [String.toList_append]
        rfl
      simp only [read, untitled, after?_append, String.ofList_toList]
  | clause untitled unworded content =>
      rw [read_of_clause untitled unworded, Clause.read_of_isBare bare,
        Clause.readFlat_of_denoted content]
      rfl

theorem read_of_refused {fault : Fault} (refused : Clause.Refused token fault) :
    read token = .error fault := by
  have flat := Clause.readFlat_of_refused refused
  obtain ⟨name, argument, rfl, refuses⟩ := refused
  have named := Constraint.named?_of_refuses refuses
  rw [read_of_clause (argument_ne named "field" (by decide) (by decide))
    (argument_ne named "error" (by decide) (by decide)), Clause.read_of_isBare bare, flat]
  rfl

end

theorem denoted_or_refused (token : String) :
    (∃ directive, Denoted token directive) ∨ ∃ fault, Clause.Refused token fault := by
  by_cases titled : ∃ name, token = "field:" ++ name
  · obtain ⟨name, rfl⟩ := titled
    exact .inl ⟨_, .title name⟩
  · by_cases worded : ∃ text, token = "error:" ++ text
    · obtain ⟨text, rfl⟩ := worded
      exact .inl ⟨_, .message text⟩
    · rcases Clause.denoted_or_refused token with ⟨content, denoted⟩ | refused
      · exact .inl ⟨_, .clause (not_exists.mp titled) (not_exists.mp worded) denoted⟩
      · exact .inr refused

theorem read_known {token : String} (bare : IsBare token) :
    (∀ directive, read token = .ok directive ↔ Denoted token directive) ∧
      ∀ fault, read token = .error fault ↔ Clause.Refused token fault :=
  Run.known (fun _ => read_of_denoted bare) (fun _ => read_of_refused bare)
    (denoted_or_refused token)

theorem read_nestedToken_eq_error_iff {token : String} (bare : IsBare token) (depth : Nat)
    (fault : Fault) :
    read (nestedToken depth token) = .error fault ↔ Clause.Refused token fault := by
  cases depth with
  | zero =>
      rw [nestedToken_zero]
      exact (read_known bare).2 fault
  | succ depth =>
      rw [read_nestedToken_succ, Clause.read_of_isBare bare, Run.map_eq_error_iff]
      exact (Clause.readFlat_known token).2 fault

theorem read_nestedToken_succ_eq_ok_iff {token : String} (bare : IsBare token) (depth : Nat)
    (directive : Directive) :
    read (nestedToken (depth + 1) token) = .ok directive ↔
      ∃ clause, Clause.Denoted token clause ∧ directive = .clause (clause.under (depth + 1)) := by
  rw [read_nestedToken_succ, Clause.read_of_isBare bare, Run.map_eq_ok_iff]
  simp only [(Clause.readFlat_known token).1, eq_comm]

/-- Every token is a bare one that is asked so many levels down, and it can be read just if the bare
one can, with the same fault if not. A fault is always about an argument that is not taken. Below an
array there are no titles and messages; such a token is unknown there, and unknown tokens are kept. -/
theorem faults_exact :
    (∀ text, ∃! parts : Nat × String, text = nestedToken parts.1 parts.2 ∧ IsBare parts.2) ∧
    (∀ name ∈ Constraint.names, ∀ argument,
      (∃ fault, Constraint.Refuses name argument fault) ↔
        ∀ constraint, ¬ Constraint.Takes name argument constraint) ∧
    ∀ token, IsBare token →
      (∀ depth fault, read (nestedToken depth token) = .error fault ↔
        Clause.Refused token fault) ∧
      (∀ depth directive, read (nestedToken (depth + 1) token) = .ok directive ↔
        ∃ clause, Clause.Denoted token clause ∧ directive = .clause (clause.under (depth + 1))) ∧
      (∀ directive, read token = .ok directive ↔ Denoted token directive) ∧
      (Clause.IsUnknown token →
        (∀ depth, read (nestedToken (depth + 1) token) =
          .ok (.clause ((Clause.unknown token).under (depth + 1)))) ∧
        ((∀ name, token ≠ "field:" ++ name) → (∀ text, token ≠ "error:" ++ text) →
          read token = .ok (.clause (.unknown token)))) := by
  refine ⟨?_, ?_, ?_⟩
  · intro text
    obtain ⟨depth, token, written, bare⟩ := exists_nestedToken text.toList
    rw [String.ofList_toList] at written
    refine ⟨(depth, token), ⟨written, bare⟩, ?_⟩
    rintro ⟨other, another⟩ ⟨alsoWritten, alsoBare⟩
    obtain ⟨rfl, rfl⟩ := nestedToken_inj bare alsoBare (written.symm.trans alsoWritten)
    rfl
  · intro name listed argument
    constructor
    · rintro ⟨fault, refuses⟩ constraint takes
      have refused := Constraint.named?_of_refuses refuses
      rw [Constraint.named?_of_takes takes] at refused
      cases refused
    · intro untaken
      rcases Constraint.takes_or_refuses listed argument with ⟨constraint, takes⟩ | refused
      · exact absurd takes (untaken constraint)
      · exact refused
  · intro token bare
    refine ⟨read_nestedToken_eq_error_iff bare, read_nestedToken_succ_eq_ok_iff bare,
      (read_known bare).1, ?_⟩
    intro unknown
    constructor
    · intro depth
      rw [read_nestedToken_succ_eq_ok_iff bare]
      exact ⟨_, .unknown unknown, rfl⟩
    · intro untitled unworded
      exact read_of_denoted bare (.clause untitled unworded (.unknown unknown))

theorem faults_exact_below_arrays :
    IsBare "size:ten" ∧ "size" ∈ Constraint.names ∧
    (∀ constraint, ¬ Constraint.Takes "size" "ten" constraint) ∧
    read (nestedToken 2 "size:ten") = .error (.malformedParameter "size" "ten" .notCount) ∧
    IsBare "field:x" ∧ Clause.IsUnknown "field:x" ∧
    read (nestedToken 1 "field:x") = .ok (.clause (.arrayOf (.unknown "field:x"))) ∧
    IsBare "shiny" ∧ Clause.IsUnknown "shiny" ∧ (∀ name, "shiny" ≠ "field:" ++ name) ∧
    (∀ text, "shiny" ≠ "error:" ++ text) ∧ read "shiny" = .ok (.clause (.unknown "shiny")) := by
  have sizeBare : IsBare "size:ten" := after?_eq_none_iff.mp (by decide)
  have fieldBare : IsBare "field:x" := after?_eq_none_iff.mp (by decide)
  have shinyBare : IsBare "shiny" := after?_eq_none_iff.mp (by decide)
  have fieldUnknown : Clause.IsUnknown "field:x" := Clause.isUnknown_of_readFlat rfl
  have shinyUnknown : Clause.IsUnknown "shiny" := Clause.isUnknown_of_readFlat rfl
  have untitled : ∀ name, "shiny" ≠ "field:" ++ name := after?_eq_none_iff.mp (by decide)
  have unworded : ∀ text, "shiny" ≠ "error:" ++ text := after?_eq_none_iff.mp (by decide)
  have unspelled : ∀ count, ¬ Text.SpellsCount "ten" count := by
    intro count spells
    have read := Text.count?_eq_some_iff.mpr spells
    cases read
  have refuses : Constraint.Refuses "size" "ten" (.malformedParameter "size" "ten" .notCount) :=
    .count List.mem_cons_self unspelled
  obtain ⟨_, untaken, meanings⟩ := faults_exact
  exact ⟨sizeBare, by decide, (untaken "size" (by decide) "ten").mp ⟨_, refuses⟩,
    ((meanings _ sizeBare).1 2 _).mpr ⟨"size", "ten", rfl, refuses⟩, fieldBare, fieldUnknown,
    ((meanings _ fieldBare).2.2.2 fieldUnknown).1 0, shinyBare, shinyUnknown, untitled, unworded,
    ((meanings _ shinyBare).2.2.2 shinyUnknown).2 untitled unworded⟩

end Directive

end Rulebook
