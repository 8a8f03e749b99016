import Rulebook.Proofs.Satisfaction

/-!
Directives with an argument. What stands before the first colon of a token names a constraint and
the rest is its argument, which may hold anything.
-/

namespace Rulebook

/-- Listed tokens that hold no comma are read as they are listed. -/
theorem Constraint.named?_enums {tokens : List String} (nonempty : tokens ≠ [])
    (plain : ∀ token ∈ tokens, ',' ∉ token.toList) :
    named? "enums" (",".intercalate tokens).toList = some (.ok (.oneOf tokens)) := by
  have comma : ",".toList = [','] := by decide
  have letters : ∀ text ∈ tokens.map String.toList, ',' ∉ text := List.forall_mem_map.mpr plain
  have cut : ((",".intercalate tokens).toList.splitOn ',').map String.ofList = tokens := by
    rw [String.toList_intercalate, comma,
      List.splitOn_intercalate _ letters (by simpa using nonempty)]
    simp
  rw [named?, cut]

namespace Clause

/-- The tokens without an argument that ask for something. -/
def words : List String :=
  ["optional", "nullable"] ++ Kind.all.map Kind.name ++ Format.all.map Format.directive ++
    Refinement.all.map Refinement.directive

theorem ofWord?_eq_none {word : String} (unlisted : word ∉ words) : ofWord? word = none := by
  simp only [words, List.mem_append, List.mem_cons, List.mem_map, List.not_mem_nil, or_false,
    not_or, not_exists, not_and] at unlisted
  obtain ⟨⟨⟨⟨notOptional, notNullable⟩, kinds⟩, formats⟩, refinements⟩ := unlisted
  have noKind : Kind.ofName? word = none := by simpa [Kind.ofName?] using kinds
  have noFormat : Format.ofDirective? word = none := by simpa [Format.ofDirective?] using formats
  have noRefinement : Refinement.ofDirective? word = none := by
    simpa [Refinement.ofDirective?] using refinements
  unfold ofWord?
  split
  · contradiction
  · contradiction
  · rw [noKind, noFormat, noRefinement]

theorem ofWord?_eq_none_of_colon {word : String} (colon : ':' ∈ word.toList) :
    ofWord? word = none := by
  have colonless : ∀ other ∈ words, ':' ∉ other.toList := by decide
  exact ofWord?_eq_none fun listed => colonless word listed colon

/-- The first colon of a token ends the name of a directive with an argument. -/
theorem cutFirst?_argument {name : String} (plain : ':' ∉ name.toList) (argument : String) :
    Text.cutFirst? ':' (name ++ ":" ++ argument).toList =
      some (name.toList, argument.toList) := by
  have uncut : Text.cutFirst? ':' name.toList = none := by
    by_contra found
    obtain ⟨⟨front, back⟩, cut⟩ := Option.ne_none_iff_exists'.mp found
    rw [(Text.cutFirst?_eq_some cut).1] at plain
    exact plain (by simp)
  rw [String.toList_append, String.toList_append, List.append_assoc, Text.cutFirst?_append, uncut]
  simp [Text.cutFirst?]

/-- A directive with an argument is read by its name, which stands before the first colon. -/
theorem readFlat_of_named? {name argument : String} {made : Except Fault Constraint}
    (plain : ':' ∉ name.toList) (named : Constraint.named? name argument.toList = some made) :
    readFlat (name ++ ":" ++ argument).toList = made.map .constraint := by
  have colon : ':' ∈ (String.ofList (name ++ ":" ++ argument).toList).toList := by simp
  rw [readFlat, ofWord?_eq_none_of_colon colon]
  simp only [Constraint.read?, cutFirst?_argument plain, String.ofList_toList, named]

/-- Whether a value clears a directive, as it is written in a rule, after what was asked before. -/
def Clears (declared : Declared) (value : Value) (token : String) : Prop :=
  ∃ clause, Clause.read token.toList = .ok clause ∧
    ∀ label, clause.judgeFlat declared label value = .ok []

/-- A directive with an argument, by its name and by how it begins. -/
structure Opens (name opening : String) : Prop where
  colon : opening = name ++ ":"
  plain : ':' ∉ name.toList
  flat (argument : String) :
    Clause.read (opening ++ argument).toList = readFlat (opening ++ argument).toList

theorem read_cons_of_ne {c : Char} (other : c ≠ 'a') (rest : List Char) :
    Clause.read (c :: rest) = readFlat (c :: rest) := by
  unfold Clause.read
  split
  · rename_i same
    exact absurd (List.cons.inj same).1 other
  · rfl

theorem Opens.of_begin {name opening : String} {c : Char} {rest : List Char}
    (begins : opening.toList = c :: rest) (other : c ≠ 'a') (colon : opening = name ++ ":")
    (plain : ':' ∉ name.toList) : Opens name opening where
  colon := colon
  plain := plain
  flat argument := by
    rw [String.toList_append, begins, List.cons_append]
    exact read_cons_of_ne other _

theorem opens_equal : Opens "equal" "equal:" :=
  .of_begin rfl (by decide) (by decide) (by decide)

theorem opens_enums : Opens "enums" "enums:" :=
  .of_begin rfl (by decide) (by decide) (by decide)

theorem opens_size : Opens "size" "size:" :=
  .of_begin rfl (by decide) (by decide) (by decide)

theorem opens_min : Opens "min" "min:" :=
  .of_begin rfl (by decide) (by decide) (by decide)

theorem opens_max : Opens "max" "max:" :=
  .of_begin rfl (by decide) (by decide) (by decide)

theorem Opens.read_of_named? {name opening argument : String} (opens : Opens name opening)
    {constraint : Constraint}
    (named : Constraint.named? name argument.toList = some (.ok constraint)) :
    Clause.read (opening ++ argument).toList = .ok (.constraint constraint) := by
  rw [opens.flat, opens.colon, readFlat_of_named? opens.plain named]
  rfl

theorem Opens.clears_iff_isPresent_and {name opening argument : String}
    (opens : Opens name opening) {declared : Declared} {value : Value} {constraint : Constraint}
    (named : Constraint.named? name argument.toList = some (.ok constraint)) :
    Clears declared value (opening ++ argument) ↔
      value.isPresent = true ∧ constraint.Admits declared value := by
  have checked : (Clause.constraint constraint).isCheck = true := rfl
  simp only [Clears, opens.read_of_named? named, Except.ok.injEq, exists_eq_left',
    judgeFlat_eq_nil_iff, checked, true_implies, inspect, Constraint.inspect_eq_none_iff]
  exact ⟨fun passed => passed (.named ""), fun admitted _ => admitted⟩

theorem Opens.not_clears {name opening argument : String} (opens : Opens name opening)
    {declared : Declared} {value : Value} {fault : Fault}
    (named : Constraint.named? name argument.toList = some (.error fault)) :
    ¬Clears declared value (opening ++ argument) := by
  rintro ⟨clause, read, -⟩
  rw [opens.flat, opens.colon, readFlat_of_named? opens.plain named] at read
  cases read

theorem Opens.clears_iff {name opening argument : String} (opens : Opens name opening)
    {declared : Declared} {value : Value} {constraint : Constraint}
    (named : Constraint.named? name argument.toList = some (.ok constraint))
    (present : value.isPresent = true) :
    Clears declared value (opening ++ argument) ↔ constraint.Admits declared value := by
  rw [opens.clears_iff_isPresent_and named, and_iff_right present]

end Clause

end Rulebook
