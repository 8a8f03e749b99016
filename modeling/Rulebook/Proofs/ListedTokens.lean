import Rulebook.Proofs.ArgumentTokens

/-!
Listed tokens. A value is listed when it equals one of the tokens, each taken by itself. Only for
flags the two part: a token other than `true` and `false` lets every flag pass as its equal and none
as listed. So neither the order of the tokens nor their number counts, and with more of them no less
passes.
-/

namespace Rulebook

namespace Operand

theorem isListed_iff_exists_equals {operand : Operand} {tokens : List String}
    (nonempty : tokens ≠ [])
    (flags : ∀ on, operand = .flag on → ∀ token ∈ tokens, token = "true" ∨ token = "false") :
    operand.isListed tokens = true ↔ ∃ token ∈ tokens, operand.equals token = true := by
  have anything : ∃ token, token ∈ tokens := List.exists_mem_of_ne_nil tokens nonempty
  cases operand with
  | text content => simp [isListed, equals]
  | number amount digits =>
      simp only [isListed, equals, List.any_eq_true, List.mem_filterMap, Option.any_eq_true]
      constructor
      · rintro ⟨n, ⟨token, listed, spelled⟩, same⟩
        exact ⟨token, listed, n, spelled, same⟩
      · rintro ⟨token, listed, n, spelled, same⟩
        exact ⟨n, ⟨token, listed, spelled⟩, same⟩
  | flag on =>
      -- Of the two texts of flags, the one that is not that of the other flag is its own.
      have own {token : String} (listed : token ∈ tokens) :
          equals token (.flag on) = true ↔ token = flagText on := by
        rcases flags on rfl token listed with rfl | rfl <;> cases on <;> decide
      simp only [isListed, List.contains_iff_mem]
      constructor
      · intro listed
        exact ⟨_, listed, (own listed).mpr rfl⟩
      · rintro ⟨token, listed, equal⟩
        rwa [← (own listed).mp equal]
  | sequence length => simp [isListed, equals, anything]
  | other => simp [isListed, equals, anything]

example : equals "yes" (.flag false) = true ∧ isListed ["yes"] (.flag false) = false := by decide

theorem eq_bool_of_ofValue {declared : Declared} {value : Value} {on : Bool}
    (flag : ofValue declared value = .flag on) : value = .bool on := by
  cases value with
  | bool other =>
      cases flag
      rfl
  | string text =>
      rw [ofValue, ofText] at flag
      split at flag
      · split at flag <;> cases flag
      · cases flag
  | _ => cases flag

end Operand

namespace Clause

/-- Tokens that a value can be looked for in: at least one, none with a comma, and for a flag no
others than the texts of flags. -/
structure Listable (value : Value) (tokens : List String) : Prop where
  nonempty : tokens ≠ []
  plain : ∀ token ∈ tokens, ',' ∉ token.toList
  flags : ∀ on, value = .bool on → ∀ token ∈ tokens, token = "true" ∨ token = "false"

/-- The directive that lists tokens. -/
def listToken (tokens : List String) : String :=
  "enums:" ++ ",".intercalate tokens

theorem clears_equal_iff_equals {declared : Declared} {value : Value} {token : String} :
    Clears declared value ("equal:" ++ token) ↔
      value.isPresent = true ∧ (Operand.ofValue declared value).equals token = true := by
  have named : Constraint.named? "equal" token.toList = some (.ok (.equal token)) := by
    rw [Constraint.named?, String.ofList_toList]
  exact opens_equal.clears_iff_isPresent_and named

section

variable {declared : Declared} {value : Value} {tokens others : List String}
  (listable : Listable value tokens)

include listable

theorem clears_listToken_iff_isListed :
    Clears declared value (listToken tokens) ↔
      value.isPresent = true ∧ (Operand.ofValue declared value).isListed tokens = true :=
  opens_enums.clears_iff_isPresent_and (Constraint.named?_enums listable.nonempty listable.plain)

theorem clears_listToken_iff :
    Clears declared value (listToken tokens) ↔
      ∃ token ∈ tokens, Clears declared value ("equal:" ++ token) := by
  have listed : (Operand.ofValue declared value).isListed tokens = true ↔
      ∃ token ∈ tokens, (Operand.ofValue declared value).equals token = true :=
    Operand.isListed_iff_exists_equals listable.nonempty fun on flag =>
      listable.flags on (Operand.eq_bool_of_ofValue flag)
  rw [clears_listToken_iff_isListed listable, listed]
  simp only [clears_equal_iff_equals]
  constructor
  · rintro ⟨present, token, member, equal⟩
    exact ⟨token, member, present, equal⟩
  · rintro ⟨token, member, present, equal⟩
    exact ⟨present, token, member, equal⟩

theorem Clears.listToken_of_subset (otherListable : Listable value others)
    (more : tokens ⊆ others) (clears : Clears declared value (listToken tokens)) :
    Clears declared value (listToken others) := by
  obtain ⟨token, member, equal⟩ := (clears_listToken_iff listable).mp clears
  exact (clears_listToken_iff otherListable).mpr ⟨token, more member, equal⟩

end

/-- To be listed is to equal one of the tokens, whatever was asked before. So lists of the same
tokens let the same values pass, in whatever order and however often each is listed, and a longer
list lets pass what a shorter one does. -/
theorem listed_iff_equal_to_one (declared : Declared) (value : Value) :
    (∀ tokens, Listable value tokens →
      (Clears declared value (listToken tokens) ↔
        ∃ token ∈ tokens, Clears declared value ("equal:" ++ token))) ∧
    (∀ tokens others, Listable value tokens → Listable value others →
      (∀ token, token ∈ tokens ↔ token ∈ others) →
      (Clears declared value (listToken tokens) ↔ Clears declared value (listToken others))) ∧
    ∀ tokens others, Listable value tokens → Listable value others → tokens ⊆ others →
      Clears declared value (listToken tokens) → Clears declared value (listToken others) := by
  refine ⟨?_, ?_, ?_⟩
  · intro tokens listable
    exact clears_listToken_iff listable
  · intro tokens others listable otherListable same
    constructor
    · exact .listToken_of_subset listable otherListable fun token => (same token).mp
    · exact .listToken_of_subset otherListable listable fun token => (same token).mpr
  · intro tokens others listable otherListable more
    exact .listToken_of_subset listable otherListable more

theorem listed_iff_equal_to_one_two :
    Listable (.number (.ofNat 2)) ["1", "2.0"] ∧
      Listable (.number (.ofNat 2)) ["2.0", "1", "2.0"] ∧
      Listable (.number (.ofNat 2)) ["1", "x", "2.0"] ∧
      Clears .nothing (.number (.ofNat 2)) ("equal:" ++ "2.0") ∧
      Clears .nothing (.number (.ofNat 2)) (listToken ["1", "2.0"]) ∧
      (∀ token, token ∈ ["1", "2.0"] ↔ token ∈ ["2.0", "1", "2.0"]) ∧
      Clears .nothing (.number (.ofNat 2)) (listToken ["2.0", "1", "2.0"]) ∧
      ["1", "2.0"] ⊆ ["1", "x", "2.0"] ∧
      Clears .nothing (.number (.ofNat 2)) (listToken ["1", "x", "2.0"]) := by
  have listable {tokens : List String} (nonempty : tokens ≠ [])
      (plain : ∀ token ∈ tokens, ',' ∉ token.toList) : Listable (.number (.ofNat 2)) tokens :=
    ⟨nonempty, plain, by simp⟩
  have short : Listable (.number (.ofNat 2)) ["1", "2.0"] := listable (by decide) (by decide)
  have repeated : Listable (.number (.ofNat 2)) ["2.0", "1", "2.0"] :=
    listable (by decide) (by decide)
  have long : Listable (.number (.ofNat 2)) ["1", "x", "2.0"] := listable (by decide) (by decide)
  have same : ∀ token, token ∈ ["1", "2.0"] ↔ token ∈ ["2.0", "1", "2.0"] := by
    intro token
    simp only [List.mem_cons, List.not_mem_nil, or_false]
    tauto
  have more : ["1", "2.0"] ⊆ ["1", "x", "2.0"] := by decide
  have equal : Clears .nothing (.number (.ofNat 2)) ("equal:" ++ "2.0") :=
    clears_equal_iff_equals.mpr ⟨rfl, by decide +kernel⟩
  obtain ⟨one, permuted, longer⟩ := listed_iff_equal_to_one .nothing (.number (.ofNat 2))
  have listed := (one _ short).mpr ⟨"2.0", by decide, equal⟩
  exact ⟨short, repeated, long, equal, listed, same, (permuted _ _ short repeated same).mp listed,
    more, longer _ _ short long more listed⟩

end Clause

end Rulebook
