import Rulebook.Constraint
import Rulebook.Proofs.PatternLiterals
import Rulebook.Proofs.TidyNumerals

/-!
Arguments. Nine directives have one. Two of them take any argument; the others take counts, limits
or pattern literals, and refuse what is none with a fault that names the directive and the argument.
-/

namespace Rulebook

namespace Text

theorem numeral?_eq_some_iff {text : List Char} {n : Nat} :
    numeral? text = some n ↔ IsDigits text ∧ Nat.ofDigitChars 10 text 0 = n := by
  simp [numeral?, IsDigits]

theorem count?_eq_some_iff {text : List Char} {count : Nat} :
    count? text = some count ↔
      ∃ digits, (text = digits ∨ text = '+' :: digits) ∧ IsDigits digits ∧
        Nat.ofDigitChars 10 digits 0 = count ∧ count < 2 ^ 64 := by
  have limit : countLimit = 2 ^ 64 := rfl
  have spelled (digits : List Char) :
      (numeral? digits).filter (· < countLimit) = some count ↔
        IsDigits digits ∧ Nat.ofDigitChars 10 digits 0 = count ∧ count < 2 ^ 64 := by
    simp [Option.filter_eq_some_iff, numeral?_eq_some_iff, limit, and_assoc]
  unfold count?
  split
  · rename_i rest
    rw [spelled]
    constructor
    · intro digits
      exact ⟨rest, .inr rfl, digits⟩
    · rintro ⟨digits, rfl | same, isDigits, value⟩
      · exact absurd List.mem_cons_self (isDigits.not_mem rfl)
      · cases same
        exact ⟨isDigits, value⟩
  · rename_i unsigned
    rw [spelled]
    constructor
    · intro digits
      exact ⟨text, .inl rfl, digits⟩
    · rintro ⟨digits, rfl | rfl, isDigits, value⟩
      · exact ⟨isDigits, value⟩
      · exact absurd rfl (unsigned digits)

/-- Whether a text is a count: between blanks digits, after at most one plus sign, for a number that
fits 64 bits. -/
def SpellsCount (text : String) (count : Nat) : Prop :=
  ∃ digits, (trim text.toList = digits ∨ trim text.toList = '+' :: digits) ∧ IsDigits digits ∧
    Nat.ofDigitChars 10 digits 0 = count ∧ count < 2 ^ 64

theorem SpellsCount.unique {text : String} {count other : Nat} (spells : SpellsCount text count)
    (alsoSpells : SpellsCount text other) : count = other := by
  have read := count?_eq_some_iff.mpr spells
  rw [count?_eq_some_iff.mpr alsoSpells] at read
  cases read
  rfl

end Text

namespace Bound

/-- Which limit a text is: a number, or else a date. -/
inductive Spells (text : String) : Bound → Prop
  | number {limit : Double} : readNumber? text.toList = some limit →
      Spells text (.number limit text)
  | instant {millis : Int} : readNumber? text.toList = none →
      Instant.read? text.toList = some millis → Spells text (.instant millis text)

theorem read?_eq_some_iff {text : String} {limit : Bound} :
    read? text.toList = some limit ↔ Spells text limit := by
  rw [read?, String.ofList_toList]
  constructor
  · intro read
    split at read
    · rename_i number spelled
      cases read
      exact .number spelled
    · rename_i unspelled
      obtain ⟨millis, instant, rfl⟩ := Option.map_eq_some_iff.mp read
      exact .instant unspelled instant
  · intro spells
    cases spells with
    | number spelled => simp only [spelled]
    | instant unspelled instant => simp only [unspelled, instant, Option.map_some]

end Bound

namespace Constraint

/-- The directives with an argument. -/
def names : List String :=
  ["equal", "size", "min", "max", "regex", "decimalsize", "decimalmin", "decimalmax", "enums"]

/-- The directives whose argument is a count, with what they make of it. -/
def counted : List (String × (Nat → Constraint)) :=
  [("size", .size), ("decimalsize", .places), ("decimalmin", .placesBound .least),
    ("decimalmax", .placesBound .most)]

def limited : List (String × Side) :=
  [("min", .least), ("max", .most)]

/-- What a directive asks for with an argument that it takes. -/
inductive Takes : String → String → Constraint → Prop
  | equal (argument : String) : Takes "equal" argument (.equal argument)
  | count {name argument : String} {made : Nat → Constraint} {count : Nat} :
      (name, made) ∈ counted → Text.SpellsCount argument count →
      Takes name argument (made count)
  | limit {name argument : String} {side : Side} {limit : Bound} : (name, side) ∈ limited →
      Bound.Spells argument limit → Takes name argument (.bound side limit)
  | pattern {argument : String} {form : Pattern} : Pattern.Spells argument form →
      Takes "regex" argument (.pattern form)
  | oneOf (argument : String) : Takes "enums" argument (.oneOf (splitText ',' argument))

/-- The fault of an argument that a directive does not take. -/
inductive Refuses : String → String → Fault → Prop
  | count {name argument : String} {made : Nat → Constraint} : (name, made) ∈ counted →
      (∀ count, ¬ Text.SpellsCount argument count) →
      Refuses name argument (.malformedParameter name argument .notCount)
  | limit {name argument : String} {side : Side} : (name, side) ∈ limited →
      (∀ limit, ¬ Bound.Spells argument limit) →
      Refuses name argument (.malformedParameter name argument .notBound)
  | pattern {argument : String} {fault : Fault} : Pattern.Refuses argument fault →
      Refuses "regex" argument fault

theorem readCount_of_spells {argument : String} {count : Nat}
    (spells : Text.SpellsCount argument count) (name : String) :
    readCount name argument.toList = .ok count := by
  rw [readCount, Text.count?_eq_some_iff.mpr spells]

theorem readCount_of_unspelled {argument : String}
    (unspelled : ∀ count, ¬ Text.SpellsCount argument count) (name : String) :
    readCount name argument.toList = .error (.malformedParameter name argument .notCount) := by
  have unread : Text.count? (Text.trim argument.toList) = none := by
    rw [Option.eq_none_iff_forall_ne_some]
    intro count read
    exact unspelled count (Text.count?_eq_some_iff.mp read)
  rw [readCount, unread, String.ofList_toList]

theorem spells_of_readCount {name : String} {argument : List Char} {count : Nat}
    (read : readCount name argument = .ok count) :
    Text.SpellsCount (String.ofList argument) count := by
  rw [readCount] at read
  split at read
  · rename_i spelled
    cases read
    rw [Text.SpellsCount, ← Text.count?_eq_some_iff, String.toList_ofList]
    exact spelled
  · cases read

theorem readBound_of_spells {argument : String} {limit : Bound}
    (spells : Bound.Spells argument limit) (name : String) :
    readBound name argument.toList = .ok limit := by
  rw [readBound, Bound.read?_eq_some_iff.mpr spells]

theorem readBound_of_unspelled {argument : String}
    (unspelled : ∀ limit, ¬ Bound.Spells argument limit) (name : String) :
    readBound name argument.toList = .error (.malformedParameter name argument .notBound) := by
  have unread : Bound.read? argument.toList = none := by
    rw [Option.eq_none_iff_forall_ne_some]
    intro limit read
    exact unspelled limit (Bound.read?_eq_some_iff.mp read)
  rw [readBound, unread, String.ofList_toList]

theorem named?_counted {name : String} {made : Nat → Constraint} (listed : (name, made) ∈ counted)
    (argument : List Char) : named? name argument = some ((readCount name argument).map made) := by
  simp only [counted, List.mem_cons, List.not_mem_nil, or_false, Prod.mk.injEq] at listed
  rcases listed with ⟨rfl, rfl⟩ | ⟨rfl, rfl⟩ | ⟨rfl, rfl⟩ | ⟨rfl, rfl⟩ <;> rfl

theorem named?_limited {name : String} {side : Side} (listed : (name, side) ∈ limited)
    (argument : List Char) :
    named? name argument = some ((readBound name argument).map (.bound side)) := by
  simp only [limited, List.mem_cons, List.not_mem_nil, or_false, Prod.mk.injEq] at listed
  rcases listed with ⟨rfl, rfl⟩ | ⟨rfl, rfl⟩ <;> rfl

theorem named?_of_takes {name argument : String} {constraint : Constraint}
    (takes : Takes name argument constraint) :
    named? name argument.toList = some (.ok constraint) := by
  cases takes with
  | equal => simp only [named?, String.ofList_toList]
  | count listed spells =>
      rw [named?_counted listed, readCount_of_spells spells]
      rfl
  | limit listed spells =>
      rw [named?_limited listed, readBound_of_spells spells]
      rfl
  | pattern spells =>
      simp only [named?, Pattern.read_of_spells spells]
      rfl
  | oneOf => rfl

theorem named?_of_refuses {name argument : String} {fault : Fault}
    (refuses : Refuses name argument fault) :
    named? name argument.toList = some (.error fault) := by
  cases refuses with
  | count listed unspelled =>
      rw [named?_counted listed, readCount_of_unspelled unspelled]
      rfl
  | limit listed unspelled =>
      rw [named?_limited listed, readBound_of_unspelled unspelled]
      rfl
  | pattern refuses =>
      simp only [named?, Pattern.read_of_refuses refuses]
      rfl

theorem takes_or_refuses_count {name : String} (made : Nat → Constraint)
    (listed : (name, made) ∈ counted) (argument : String) :
    (∃ constraint, Takes name argument constraint) ∨ ∃ fault, Refuses name argument fault := by
  by_cases spelled : ∃ count, Text.SpellsCount argument count
  · obtain ⟨count, spells⟩ := spelled
    exact .inl ⟨_, .count listed spells⟩
  · exact .inr ⟨_, .count listed (not_exists.mp spelled)⟩

theorem takes_or_refuses_limit {name : String} (side : Side) (listed : (name, side) ∈ limited)
    (argument : String) :
    (∃ constraint, Takes name argument constraint) ∨ ∃ fault, Refuses name argument fault := by
  by_cases spelled : ∃ limit, Bound.Spells argument limit
  · obtain ⟨limit, spells⟩ := spelled
    exact .inl ⟨_, .limit listed spells⟩
  · exact .inr ⟨_, .limit listed (not_exists.mp spelled)⟩

/-- A directive takes its argument or refuses it. -/
theorem takes_or_refuses {name : String} (listed : name ∈ names) (argument : String) :
    (∃ constraint, Takes name argument constraint) ∨ ∃ fault, Refuses name argument fault := by
  simp only [names, List.mem_cons, List.not_mem_nil, or_false] at listed
  rcases listed with rfl | rfl | rfl | rfl | rfl | rfl | rfl | rfl | rfl
  · exact .inl ⟨_, .equal argument⟩
  · exact takes_or_refuses_count .size (by simp [counted]) argument
  · exact takes_or_refuses_limit .least (by simp [limited]) argument
  · exact takes_or_refuses_limit .most (by simp [limited]) argument
  · rcases Pattern.spells_or_refuses argument with ⟨form, spells⟩ | ⟨fault, refuses⟩
    · exact .inl ⟨_, .pattern spells⟩
    · exact .inr ⟨fault, .pattern refuses⟩
  · exact takes_or_refuses_count .places (by simp [counted]) argument
  · exact takes_or_refuses_count (.placesBound .least) (by simp [counted]) argument
  · exact takes_or_refuses_count (.placesBound .most) (by simp [counted]) argument
  · exact .inl ⟨_, .oneOf argument⟩

theorem named?_eq_none {name : String} (unlisted : name ∉ names) (argument : List Char) :
    named? name argument = none := by
  unfold named?
  split <;> simp_all [names]

theorem not_mem_of_named? {name : String} {argument : List Char} {made : Except Fault Constraint}
    (named : named? name argument = some made) : ':' ∉ name.toList := by
  have colonless : ∀ other ∈ names, ':' ∉ other.toList := by decide
  by_cases listed : name ∈ names
  · exact colonless name listed
  · rw [named?_eq_none listed] at named
    cases named

end Constraint

end Rulebook
