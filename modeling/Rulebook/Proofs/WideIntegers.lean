import Rulebook.Proofs.ArgumentTokens
import Rulebook.Proofs.Numerals

/-!
Integers of any width against integers in demands. Both are rounded to doubles before they are
compared, so no integer is refused that meets a demand, and an integer past 2 ^ 53 may be let pass
that does not. Where either of the two has fewer than 54 bits the comparison is exact.
-/

namespace Rulebook

namespace Double

/-- The units in the double nearest to a whole number. -/
def roundedUnits (n : Nat) : Nat :=
  unitsOfRank (nearestRank (n * unitsInOne) 1)

theorem roundedUnits_mono {n m : Nat} (ordered : n ≤ m) : roundedUnits n ≤ roundedUnits m := by
  apply unitsOfRank_strictMono.monotone
  apply nearestRank_mono Nat.one_pos Nat.one_pos
  rw [Nat.mul_one, Nat.mul_one]
  exact Nat.mul_le_mul_right unitsInOne ordered

theorem roundedUnits_eq {n : Nat} (narrow : n ≤ 2 ^ 53) : roundedUnits n = n * unitsInOne := by
  have whole : 2 ^ 53 = 2 * binadeSize := rfl
  have range : 2 ^ 53 * unitsInOne ≤ unitsOfRank infinityRank := by decide +kernel
  obtain ⟨power, one⟩ : ∃ power, unitsInOne = 2 ^ power := ⟨1074, by decide +kernel⟩
  have valued : ∃ rank, unitsOfRank rank = n * unitsInOne := by
    rw [one]
    by_cases full : n = 2 * binadeSize
    · have single : binadeSize < 2 * binadeSize := by decide
      obtain ⟨rank, units⟩ := exists_unitsOfRank_eq single (power + 1)
      refine ⟨rank, units.trans ?_⟩
      rw [full, Nat.pow_succ', ← Nat.mul_assoc, Nat.mul_comm 2]
    · exact exists_unitsOfRank_eq (by omega) power
  obtain ⟨rank, units⟩ := valued
  have bounded : rank ≤ infinityRank := by
    rw [← unitsOfRank_strictMono.le_iff_le, units]
    exact Nat.le_trans (Nat.mul_le_mul_right unitsInOne narrow) range
  rw [roundedUnits, ← units, nearestRank_unitsOfRank bounded]

/-- The units in the double nearest to an integer. -/
def rounded (z : Int) : Int :=
  if z < 0 then -(roundedUnits z.natAbs : Int) else roundedUnits z.natAbs

theorem units?_ofFraction (negative : Bool) (n : Nat) :
    (ofFraction negative n 1).units? =
      some (if negative then -(roundedUnits n : Int) else roundedUnits n) := by
  cases negative <;> simp only [ofFraction, units?, roundedUnits, if_true, Bool.false_eq_true,
    if_false]

theorem units?_ofInt (z : Int) : (ofInt z).units? = some (rounded z) := by
  rw [ofInt, units?_ofFraction, rounded]
  simp only [decide_eq_true_eq]

theorem rounded_natCast (n : Nat) : rounded n = roundedUnits n := by
  rw [rounded, if_neg (by omega), Int.natAbs_natCast]

theorem rounded_neg (n : Nat) : rounded (-n) = -(roundedUnits n : Int) := by
  by_cases nothing : n = 0
  · have none : roundedUnits 0 = 0 := by decide +kernel
    rw [nothing, none]
    exact (rounded_natCast 0).trans (congrArg Int.ofNat none)
  · rw [rounded, if_pos (by omega), Int.natAbs_neg, Int.natAbs_natCast]

theorem rounded_mono {a b : Int} (ordered : a ≤ b) : rounded a ≤ rounded b := by
  rw [rounded, rounded]
  split_ifs with first second second
  · have magnitudes : roundedUnits b.natAbs ≤ roundedUnits a.natAbs :=
      roundedUnits_mono (by omega)
    omega
  · omega
  · omega
  · have magnitudes : roundedUnits a.natAbs ≤ roundedUnits b.natAbs :=
      roundedUnits_mono (by omega)
    omega

theorem rounded_eq {z : Int} (narrow : z.natAbs ≤ 2 ^ 53) : rounded z = z * unitsInOne := by
  rw [rounded, roundedUnits_eq narrow]
  split_ifs with negative
  · have magnitude : (z.natAbs : Int) = -z := by omega
    rw [Int.natCast_mul, magnitude, Int.neg_mul, Int.neg_neg]
  · have magnitude : (z.natAbs : Int) = z := by omega
    rw [Int.natCast_mul, magnitude]

/-- Two integers, not both of them wide. -/
def Narrow (a b : Int) : Prop :=
  a.natAbs < 2 ^ 53 ∨ b.natAbs < 2 ^ 53

theorem rounded_lt {a b : Int} (narrow : Narrow a b) (less : a < b) : rounded a < rounded b := by
  have positive : (0 : Int) < unitsInOne := by decide +kernel
  have next (z : Int) : (z + 1) * unitsInOne = z * unitsInOne + unitsInOne := by
    rw [Int.add_mul, Int.one_mul]
  rcases narrow with first | second
  · have after : rounded (a + 1) ≤ rounded b := rounded_mono (by omega)
    rw [rounded_eq (by omega), next] at after
    rw [rounded_eq (by omega)]
    omega
  · obtain ⟨before, rfl⟩ : ∃ before, b = before + 1 := ⟨b - 1, by omega⟩
    have ordered : rounded a ≤ rounded before := rounded_mono (by omega)
    rw [rounded_eq (by omega : before.natAbs ≤ 2 ^ 53)] at ordered
    rw [rounded_eq (by omega : (before + 1).natAbs ≤ 2 ^ 53), next]
    omega

theorem same_ofInt (a b : Int) : (ofInt a).same (ofInt b) = true ↔ rounded a = rounded b := by
  simp [same, compares, units?_ofInt]

theorem atMost_ofInt (a b : Int) : (ofInt a).atMost (ofInt b) = true ↔ rounded a ≤ rounded b := by
  simp [atMost, compares, units?_ofInt]

theorem same_ofInt_iff {a b : Int} (narrow : Narrow a b) :
    (ofInt a).same (ofInt b) = true ↔ a = b := by
  rw [same_ofInt]
  constructor
  · intro equal
    by_contra differ
    rcases Int.lt_or_gt_of_ne differ with less | greater
    · have apart := rounded_lt narrow less
      omega
    · have apart := rounded_lt narrow.symm greater
      omega
  · rintro rfl
    rfl

theorem atMost_ofInt_iff {a b : Int} (narrow : Narrow a b) :
    (ofInt a).atMost (ofInt b) = true ↔ a ≤ b := by
  rw [atMost_ofInt]
  constructor
  · intro ordered
    by_contra greater
    have apart := rounded_lt narrow.symm (Int.lt_of_not_ge greater)
    omega
  · exact rounded_mono

end Double

/-- Whether a text is an integer, in digits after at most one sign, whose nearest double is finite.
-/
structure SpellsInteger (text : String) (z : Int) : Prop where
  spelled : ∃ (sign : Sign) (digits : Digits), digits.val ≠ [] ∧
    text.toList = sign.text ++ digits.val ∧ z = sign.signed digits.value
  finite : (Double.ofInt z).isFinite = true

namespace Numeral

/-- The numeral of an integer. -/
def ofDigits (sign : Sign) (digits : Digits) (nonempty : digits.val ≠ []) : Numeral where
  sign := sign
  whole := digits
  fraction := none
  scale := none
  nonempty := by simpa using nonempty

variable (sign : Sign) (digits : Digits) (nonempty : digits.val ≠ [])

theorem text_ofDigits : (ofDigits sign digits nonempty).text = sign.text ++ digits.val := by
  simp [ofDigits, text, fractionText, scaleText]

theorem toDouble_ofDigits :
    (ofDigits sign digits nonempty).decimal.toDouble =
      .ofFraction sign.negative digits.value 1 := by
  rw [Decimal.toDouble_eq_nearest]
  simp [Decimal.nearest, decimal, ofDigits, places, Digits.value]

end Numeral

namespace Sign

theorem natAbs_signed (sign : Sign) (n : Nat) : (sign.signed n).natAbs = n := by
  rw [signed]
  split <;> simp

theorem same_ofInt_signed (sign : Sign) (n : Nat) :
    (Double.ofFraction sign.negative n 1).same (.ofInt (sign.signed n)) = true := by
  rw [Double.same_iff]
  refine ⟨_, ?_, Double.units?_ofInt _⟩
  rw [Double.units?_ofFraction, signed]
  split_ifs
  · rw [Double.rounded_neg]
  · rw [Double.rounded_natCast]

end Sign

namespace SpellsInteger

variable {text : String} {z : Int} (spells : SpellsInteger text z)

include spells

theorem exists_readNumber? :
    ∃ n, readNumber? text.toList = some n ∧ n.same (.ofInt z) = true := by
  obtain ⟨sign, digits, nonempty, written, rfl⟩ := spells.spelled
  have value := Numeral.toDouble_ofDigits sign digits nonempty
  have finite : (Numeral.ofDigits sign digits nonempty).decimal.toDouble.isFinite = true := by
    have same := spells.finite
    rw [Double.ofInt, Sign.natAbs_signed] at same
    rw [value]
    exact same
  have read := (Numeral.ofDigits sign digits nonempty).readNumber?_text finite
  rw [Numeral.text_ofDigits, ← written, value] at read
  exact ⟨_, read, sign.same_ofInt_signed digits.value⟩

theorem not_comma : ',' ∉ text.toList := by
  obtain ⟨sign, digits, nonempty, written, rfl⟩ := spells.spelled
  rw [written, ← Numeral.text_ofDigits sign digits nonempty]
  intro member
  rcases Numeral.isDigit_or_mark_of_text member with digit | mark
  · cases digit
  · revert mark
    decide

end SpellsInteger

namespace Clause

section Demands

variable {text : String} {z : Int} (integer : SpellsInteger text z) (declared : Declared) (b : Int)

include integer

theorem clears_equal_iff :
    Clears declared (.bigint b) ("equal:" ++ text) ↔ (Double.ofInt b).same (.ofInt z) = true := by
  obtain ⟨n, read, same⟩ := integer.exists_readNumber?
  have named : Constraint.named? "equal" text.toList = some (.ok (.equal text)) := by
    rw [Constraint.named?, String.ofList_toList]
  rw [opens_equal.clears_iff named rfl]
  simp only [Constraint.Admits, Operand.ofValue, Operand.equals, read, Option.any_some]
  rw [Double.same, (Double.compares_congr same _ _).2, Double.same]

theorem clears_bound_iff {name opening : String} (opens : Opens name opening) {side : Side}
    (named : Constraint.named? name text.toList =
      some ((Constraint.readBound name text.toList).map (.bound side))) :
    Clears declared (.bigint b) (opening ++ text) ↔
      side.admits Double.atMost (.ofInt z) (.ofInt b) = true := by
  obtain ⟨n, read, same⟩ := integer.exists_readNumber?
  have bound : Constraint.readBound name text.toList = .ok (.number n text) := by
    rw [Constraint.readBound, Bound.read?, read]
    simp only [String.ofList_toList]
  rw [bound] at named
  rw [opens.clears_iff named rfl]
  simp only [Constraint.Admits, Operand.ofValue, Operand.Within]
  cases side with
  | least =>
      rw [Side.admits, Side.admits, Double.atMost, (Double.compares_congr same _ _).1, Double.atMost]
  | most =>
      rw [Side.admits, Side.admits, Double.atMost, (Double.compares_congr same _ _).2, Double.atMost]

theorem clears_min_iff :
    Clears declared (.bigint b) ("min:" ++ text) ↔ (Double.ofInt z).atMost (.ofInt b) = true :=
  clears_bound_iff integer declared b opens_min rfl

theorem clears_max_iff :
    Clears declared (.bigint b) ("max:" ++ text) ↔ (Double.ofInt b).atMost (.ofInt z) = true :=
  clears_bound_iff integer declared b opens_max rfl

end Demands

section Listed

variable {entries : List (String × Int)}
  (integers : ∀ entry ∈ entries, SpellsInteger entry.1 entry.2)

include integers

theorem any_same_eq (amount : Double) :
    ((entries.map Prod.fst).filterMap fun token => readNumber? token.toList).any amount.same =
      entries.any fun entry => amount.same (.ofInt entry.2) := by
  induction entries with
  | nil => rfl
  | cons entry rest ih =>
      rw [List.forall_mem_cons] at integers
      obtain ⟨n, read, same⟩ := integers.1.exists_readNumber?
      rw [List.map_cons, List.filterMap_cons, read, List.any_cons, List.any_cons, ih integers.2,
        Double.same, (Double.compares_congr same _ _).2, Double.same]

theorem clears_oneOf_iff (nonempty : entries ≠ []) (declared : Declared) (b : Int) :
    Clears declared (.bigint b) ("enums:" ++ ",".intercalate (entries.map Prod.fst)) ↔
      (entries.any fun entry => (Double.ofInt b).same (.ofInt entry.2)) = true := by
  have plain : ∀ token ∈ entries.map Prod.fst, ',' ∉ token.toList := by
    rw [List.forall_mem_map]
    exact fun entry listed => (integers entry listed).not_comma
  have named := Constraint.named?_enums (by simpa using nonempty) plain
  rw [opens_enums.clears_iff named rfl]
  simp only [Constraint.Admits, Operand.ofValue, Operand.isListed, any_same_eq integers]

end Listed

/-- How a demand on an integer is met when the integer and what it is compared with are rounded
first: as their doubles meet it, whenever it is met, and only then if they are not both wide. -/
structure MetAsDoubles (passes : Prop) (shown : Bool) (met narrow : Prop) : Prop where
  byDoubles : passes ↔ shown = true
  of_met : met → passes
  exact : narrow → (passes ↔ met)

theorem MetAsDoubles.of_iff {passes met narrow : Prop} {shown : Bool}
    (byDoubles : passes ↔ shown = true) (of_met : met → shown = true)
    (exact : narrow → (shown = true ↔ met)) : MetAsDoubles passes shown met narrow where
  byDoubles := byDoubles
  of_met := fun holds => byDoubles.mpr (of_met holds)
  exact := fun narrow => byDoubles.trans (exact narrow)

/-- Integers of any width are compared with the integers of a directive as doubles. -/
theorem bigint_met_as_doubles (declared : Declared) (b : Int) :
    (∀ text z, SpellsInteger text z →
      MetAsDoubles (Clears declared (.bigint b) ("equal:" ++ text))
          ((Double.ofInt b).same (.ofInt z)) (b = z) (Double.Narrow b z) ∧
        MetAsDoubles (Clears declared (.bigint b) ("min:" ++ text))
          ((Double.ofInt z).atMost (.ofInt b)) (z ≤ b) (Double.Narrow b z) ∧
        MetAsDoubles (Clears declared (.bigint b) ("max:" ++ text))
          ((Double.ofInt b).atMost (.ofInt z)) (b ≤ z) (Double.Narrow b z)) ∧
    ∀ entries : List (String × Int), entries ≠ [] →
      (∀ entry ∈ entries, SpellsInteger entry.1 entry.2) →
      MetAsDoubles
        (Clears declared (.bigint b) ("enums:" ++ ",".intercalate (entries.map Prod.fst)))
        (entries.any fun entry => (Double.ofInt b).same (.ofInt entry.2))
        (b ∈ entries.map Prod.snd) (∀ entry ∈ entries, Double.Narrow b entry.2) := by
  constructor
  · intro text z integer
    have reflexive : b = z → (Double.ofInt b).same (.ofInt z) = true := by
      rintro rfl
      exact (Double.same_ofInt b b).mpr rfl
    have ordered {first second : Int} (less : first ≤ second) :
        (Double.ofInt first).atMost (.ofInt second) = true :=
      (Double.atMost_ofInt first second).mpr (Double.rounded_mono less)
    refine ⟨?_, ?_, ?_⟩
    · exact .of_iff (clears_equal_iff integer declared b) reflexive Double.same_ofInt_iff
    · exact .of_iff (clears_min_iff integer declared b) ordered fun narrow =>
        Double.atMost_ofInt_iff narrow.symm
    · exact .of_iff (clears_max_iff integer declared b) ordered Double.atMost_ofInt_iff
  · intro entries nonempty integers
    refine .of_iff (clears_oneOf_iff integers nonempty declared b) ?_ ?_
    · intro listed
      obtain ⟨entry, member, rfl⟩ := List.mem_map.mp listed
      exact List.any_eq_true.mpr ⟨entry, member, (Double.same_ofInt _ _).mpr rfl⟩
    · intro narrow
      rw [List.any_eq_true, List.mem_map]
      refine exists_congr fun entry => and_congr_right fun member => ?_
      rw [Double.same_ofInt_iff (narrow entry member), eq_comm]

/-- An integer that clears as the one below it, and as at most that. -/
theorem clears_as_neighbour :
    SpellsInteger "9007199254740992" 9007199254740992 ∧
      Clears .nothing (.bigint 9007199254740993) "equal:9007199254740992" ∧
      Clears .nothing (.bigint 9007199254740993) "max:9007199254740992" ∧
      (9007199254740992 : Int) < 9007199254740993 := by
  have integer : SpellsInteger "9007199254740992" 9007199254740992 := by
    refine ⟨⟨.none, .ofNat 9007199254740992, ?_, ?_, ?_⟩, ?_⟩ <;> decide +kernel
  refine ⟨integer, ?_, ?_, by decide⟩
  · exact (clears_equal_iff integer .nothing _).mpr (by decide +kernel)
  · exact (clears_max_iff integer .nothing _).mpr (by decide +kernel)

end Clause

end Rulebook
