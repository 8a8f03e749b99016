import Rulebook.Pattern.CharSet

/-!
Variants in case of ASCII characters. A run of the fold table takes code points to others, so which
characters can be variants of the ASCII ones is up to the few runs that begin among these or end
there. Besides the letters of ASCII only the long s and the Kelvin sign have such variants.
-/

namespace Rulebook.Unicode

variable {c variant : Char}

/-- The run of the capital letters. -/
def capitalRun : FoldRun := ⟨0x41, 0x5A, 1, 32⟩

/-- The run of the long s. -/
def longRun : FoldRun := ⟨0x17F, 0x17F, 1, -268⟩

/-- The run of the Kelvin sign. -/
def kelvinRun : FoldRun := ⟨0x212A, 0x212A, 1, -8383⟩

theorem run_from_ascii : ∀ run ∈ foldRuns, run.first < 128 → run = capitalRun := by
  decide +kernel

theorem run_to_ascii : ∀ run ∈ foldRuns, run.first + run.shift < 128 →
    run = capitalRun ∨ run = longRun ∨ run = kelvinRun := by
  decide +kernel

theorem FoldRun.bounds_of_covers {run : FoldRun} {code : Nat} (covered : run.covers code = true) :
    run.first ≤ code ∧ code ≤ run.last := by
  simp only [covers, Bool.and_eq_true, decide_eq_true_eq] at covered
  exact covered.1

/-- What folds to an ASCII character. -/
theorem cases_of_foldCode {code target : Nat} (folded : foldCode code = target)
    (positive : 0 < target) (ascii : target < 128) :
    code = target ∨ (65 ≤ code ∧ code ≤ 90) ∨ code = 0x17F ∨ code = 0x212A := by
  rw [foldCode] at folded
  cases found : foldRuns.find? fun run => run.covers code with
  | none =>
      rw [found] at folded
      exact .inl folded
  | some run =>
      rw [found] at folded
      have shifted : (code : Int) + run.shift = target := by
        have cut : (code + run.shift).toNat = target := folded
        omega
      have covered : run.covers code = true := by simpa using List.find?_some found
      have bounds := FoldRun.bounds_of_covers covered
      have landed : run.first + run.shift < 128 := by omega
      right
      rcases run_to_ascii run (List.mem_of_find?_eq_some found) landed with rfl | rfl | rfl
      · simp only [capitalRun] at bounds shifted
        omega
      · simp only [longRun] at bounds shifted
        omega
      · simp only [kelvinRun] at bounds shifted
        omega

/-- An ASCII variant is what the character folds to, or a capital that folds to the same. -/
theorem fold_of_mem_caseVariants (member : variant ∈ caseVariants c)
    (positive : 0 < variant.toNat) (ascii : variant.toNat < 128) :
    foldCode c.toNat = variant.toNat ∨
      (65 ≤ variant.toNat ∧ variant.toNat ≤ 90) ∧ foldCode c.toNat = variant.toNat + 32 := by
  obtain ⟨code, listed, rfl⟩ := List.mem_map.mp member
  have valid : (Char.ofNat code).toNat = code := by
    by_cases scalar : code.isValidChar
    · have made : Char.ofNat code = Char.ofNatAux code scalar := dif_pos scalar
      rw [made]
      rfl
    · have made : Char.ofNat code = '\x00' := dif_neg scalar
      rw [made] at positive
      cases positive
  rw [valid] at positive ascii ⊢
  rcases List.mem_cons.mp listed with rfl | source
  · exact .inl rfl
  · obtain ⟨run, inTable, source⟩ := List.mem_filterMap.mp source
    simp only [FoldRun.source?, Option.ite_none_right_eq_some, Option.some.injEq] at source
    obtain ⟨covered, back⟩ := source
    rw [back] at covered
    have bounds := FoldRun.bounds_of_covers covered
    obtain rfl := run_from_ascii run inTable (by omega)
    simp only [capitalRun] at bounds back
    right
    omega

theorem isUpper_iff : c.isUpper = true ↔ 65 ≤ c.toNat ∧ c.toNat ≤ 90 :=
  decide_eq_true_iff

theorem isLower_iff : c.isLower = true ↔ 97 ≤ c.toNat ∧ c.toNat ≤ 122 := by
  have both : c.isLower = (decide ('a' ≤ c) && decide (c ≤ 'z')) := rfl
  rw [both, Bool.and_eq_true, decide_eq_true_iff, decide_eq_true_iff]
  rfl

theorem isAlpha_iff : c.isAlpha = true ↔ c.isUpper = true ∨ c.isLower = true := by
  have either : c.isAlpha = (c.isUpper || c.isLower) := rfl
  rw [either, Bool.or_eq_true]

/-- Only letters have ASCII variants besides themselves. -/
theorem eq_or_isAlpha_of_mem_caseVariants (member : variant ∈ caseVariants c)
    (positive : 0 < variant.toNat) (ascii : variant.toNat < 128) :
    c = variant ∨ c.isAlpha = true ∨ c ∈ ['\u017f', '\u212a'] := by
  have long : c.toNat = 0x17F → c = '\u017f' := fun code => Char.toNat_inj.mp code
  have kelvin : c.toNat = 0x212A → c = '\u212a' := fun code => Char.toNat_inj.mp code
  simp only [isAlpha_iff, isUpper_iff, isLower_iff, List.mem_cons, List.not_mem_nil, or_false]
  rcases fold_of_mem_caseVariants member positive ascii with folded | ⟨capital, folded⟩
  · rcases cases_of_foldCode folded positive ascii with same | letter | other
    · exact .inl (Char.toNat_inj.mp same)
    · exact .inr (.inl (.inl letter))
    · exact .inr (.inr (other.imp long kelvin))
  · rcases cases_of_foldCode folded (by omega) (by omega) with same | letter | other
    · exact .inr (.inl (.inr (by omega)))
    · exact .inr (.inl (.inl letter))
    · exact .inr (.inr (other.imp long kelvin))

/-- Every one of these letters is a variant of a capital. -/
theorem exists_isUpper_caseVariant (letter : c.isLower = true ∨ c ∈ ['\u017f', '\u212a']) :
    ∃ variant ∈ caseVariants c, variant.isUpper = true := by
  rw [← List.any_eq_true]
  rcases letter with lower | other
  · have checked : (List.range' 97 26).all fun code =>
        (caseVariants (Char.ofNat code)).any Char.isUpper := by decide +kernel
    have bounds := isLower_iff.mp lower
    have between : c.toNat ∈ List.range' 97 26 := List.mem_range'_1.mpr (by omega)
    have found := List.all_eq_true.mp checked c.toNat between
    rwa [Char.ofNat_toNat] at found
  · have checked : ['\u017f', '\u212a'].all fun c => (caseVariants c).any Char.isUpper := by
      decide +kernel
    exact List.all_eq_true.mp checked c other

end Rulebook.Unicode
