import Rulebook.Proofs.DigitPatterns

/-!
Dotted quads. The format for addresses accepts four plain numerals from 0 to 255 with single dots
between them. Four bytes have one text among those that are accepted, and each of these is the text
of some four bytes alone.
-/

namespace Rulebook

structure Quad where
  first : UInt8
  second : UInt8
  third : UInt8
  fourth : UInt8
  deriving DecidableEq, Repr

namespace Quad

def bytes (quad : Quad) : List UInt8 :=
  [quad.first, quad.second, quad.third, quad.fourth]

/-- The bytes in decimal, with dots between them. -/
def text (quad : Quad) : List Char :=
  ['.'].intercalate (quad.bytes.map fun byte => Nat.toDigits 10 byte.toNat)

example : (Quad.mk 192 168 0 1).text = "192.168.0.1".toList := by decide

/-- Whether the numbers between the dots of a text are the bytes, be there zeros in front or not. -/
def IsReadFrom (quad : Quad) (text : List Char) : Prop :=
  (text.splitOn '.').map Text.numeral? = quad.bytes.map fun byte => some byte.toNat

theorem isReadFrom_text (quad : Quad) : quad.IsReadFrom quad.text := by
  have dotless : ∀ numeral ∈ quad.bytes.map fun byte => Nat.toDigits 10 byte.toNat,
      '.' ∉ numeral := by
    intro numeral listed member
    obtain ⟨byte, _, rfl⟩ := List.mem_map.mp listed
    have digit := Nat.isDigit_of_mem_toDigits (by decide) (by decide) member
    cases digit
  have some : quad.bytes.map (fun byte => Nat.toDigits 10 byte.toNat) ≠ [] := by
    simp [bytes]
  rw [IsReadFrom, text, List.splitOn_intercalate '.' dotless some, List.map_map]
  refine List.map_congr_left fun byte _ => ?_
  exact Text.numeral?_toDigits byte.toNat

theorem IsReadFrom.unique {quad other : Quad} {text : List Char} (read : quad.IsReadFrom text)
    (otherRead : other.IsReadFrom text) : quad = other := by
  have same : quad.bytes.map (fun byte => some byte.toNat) =
      other.bytes.map fun byte => some byte.toNat := by rw [← read, ← otherRead]
  have injective : Function.Injective fun byte : UInt8 => some byte.toNat := by
    intro a b agree
    exact UInt8.toNat_inj.mp (Option.some.inj agree)
  have bytes := List.map_injective_iff.mpr injective same
  cases quad
  cases other
  simpa [Quad.bytes] using bytes

theorem text_injective : Function.Injective text := by
  intro quad other same
  have read := quad.isReadFrom_text
  rw [same] at read
  exact read.unique other.isReadFrom_text

end Quad

namespace Format

variable {text : List Char}

theorem matches_belowHundred : (Plain.seq (optional (digit '1' '9')) anyDigit).Matches text ↔
    ∃ n < 100, text = Nat.toDigits 10 n := by
  have single : (digit (Nat.digitChar 0) (Nat.digitChar 9)).Matches text ↔ _ :=
    matches_digit (by decide) (by decide)
  have double := matches_twoDigits 1 9 0 9 (by decide) text
  rw [matches_seq_optional]
  refine (or_congr single double).trans ?_
  constructor
  · rintro (⟨n, _, most, rfl⟩ | ⟨n, bounds, rfl⟩)
    · exact ⟨n, by omega, (Nat.toDigits_of_lt_base (by omega)).symm⟩
    · exact ⟨n, by omega, Text.padded_eq_toDigits (by omega) (by omega)⟩
  · rintro ⟨n, small, rfl⟩
    by_cases one : n < 10
    · exact .inl ⟨n, by omega, by omega, Nat.toDigits_of_lt_base one⟩
    · exact .inr ⟨n, by omega, (Text.padded_eq_toDigits (by omega) (by omega)).symm⟩

theorem matches_octetPattern : octetPattern.Matches text ↔ ∃ n ≤ 255, text = Nat.toDigits 10 n := by
  -- The branches are for the numbers from 250 on, from 200 on, from 100 on and below that.
  have highest := matches_leadingDigit 2 2 (by decide) (fun n bounds => by omega)
    (matches_twoDigits 5 5 0 5 (by decide)) text
  have high := matches_leadingDigit 2 2 (by decide) (fun n bounds => by omega)
    (matches_twoDigits 0 4 0 9 (by decide)) text
  have middle := matches_leadingDigit 1 1 (by decide) (fun n bounds => bounds)
    (matches_anyDigits 2) text
  refine (or_congr highest (or_congr high (or_congr middle matches_belowHundred))).trans ?_
  constructor
  · rintro (⟨n, bounds, rfl⟩ | ⟨n, bounds, rfl⟩ | ⟨n, bounds, rfl⟩ | ⟨n, small, rfl⟩)
    · exact ⟨n, by omega, Text.padded_eq_toDigits (by omega) (by omega)⟩
    · exact ⟨n, by omega, Text.padded_eq_toDigits (by omega) (by omega)⟩
    · exact ⟨n, by omega, Text.padded_eq_toDigits (by omega) (by omega)⟩
    · exact ⟨n, by omega, rfl⟩
  · rintro ⟨n, most, rfl⟩
    have written (large : 100 ≤ n) : Nat.toDigits 10 n = Text.padded 3 n :=
      (Text.padded_eq_toDigits (by omega) (by omega)).symm
    by_cases small : n < 100
    · exact .inr (.inr (.inr ⟨n, small, rfl⟩))
    · by_cases inMiddle : n < 200
      · exact .inr (.inr (.inl ⟨n, by omega, written (by omega)⟩))
      · by_cases notHighest : n < 250
        · exact .inr (.inl ⟨n, by omega, written (by omega)⟩)
        · exact .inl ⟨n, by omega, written (by omega)⟩

theorem exists_byte {n : Nat} (most : n ≤ 255) : ∃ byte : UInt8, byte.toNat = n :=
  ⟨UInt8.ofNat n, UInt8.toNat_ofNat_of_lt' (Nat.lt_succ_of_le most)⟩

theorem matches_octetPattern_iff_byte :
    octetPattern.Matches text ↔ ∃ byte : UInt8, text = Nat.toDigits 10 byte.toNat := by
  rw [matches_octetPattern]
  constructor
  · rintro ⟨n, most, rfl⟩
    obtain ⟨byte, rfl⟩ := exists_byte most
    exact ⟨byte, rfl⟩
  · rintro ⟨byte, rfl⟩
    have bound := byte.toNat_lt
    exact ⟨byte.toNat, by omega, rfl⟩

theorem accepts_ip_iff : ip.accepts text = true ↔ ∃ quad : Quad, quad.text = text := by
  have free : ipPattern.isFree = true := by decide
  rw [accepts, Plain.covers_iff free, ipPattern]
  simp only [Plain.Matches, matches_times, Rounds.succ_iff, Rounds.zero_iff, matches_char,
    matches_octetPattern_iff_byte]
  constructor
  · rintro ⟨_, _, rfl, ⟨_, _, rfl, ⟨_, _, rfl, ⟨first, rfl⟩, rfl⟩, _, _, rfl,
      ⟨_, _, rfl, ⟨second, rfl⟩, rfl⟩, _, _, rfl, ⟨_, _, rfl, ⟨third, rfl⟩, rfl⟩, rfl⟩,
      fourth, rfl⟩
    refine ⟨⟨first, second, third, fourth⟩, ?_⟩
    simp [Quad.text, Quad.bytes]
  · rintro ⟨quad, rfl⟩
    refine ⟨_, _, ?_, ⟨_, _, rfl, ⟨_, _, rfl, ⟨quad.first, rfl⟩, rfl⟩, _, _, rfl,
      ⟨_, _, rfl, ⟨quad.second, rfl⟩, rfl⟩, _, _, rfl, ⟨_, _, rfl, ⟨quad.third, rfl⟩, rfl⟩, rfl⟩,
      quad.fourth, rfl⟩
    simp [Quad.text, Quad.bytes]

/-- Four plain numerals of at most 255, with single dots between them. -/
def IsDottedQuad (text : List Char) : Prop :=
  ∃ numerals : List (List Char), numerals.length = 4 ∧
    (∀ numeral ∈ numerals, ∃ n ≤ 255, Text.IsNumeralOf n numeral) ∧
    text = ['.'].intercalate numerals

theorem isDottedQuad_iff : IsDottedQuad text ↔ ∃ quad : Quad, quad.text = text := by
  constructor
  · rintro ⟨numerals, four, plain, rfl⟩
    have byte (numeral : List Char) (listed : numeral ∈ numerals) :
        ∃ byte : UInt8, numeral = Nat.toDigits 10 byte.toNat := by
      obtain ⟨n, most, numeral⟩ := plain numeral listed
      obtain ⟨byte, rfl⟩ := exists_byte most
      exact ⟨byte, Text.isNumeralOf_iff.mp numeral⟩
    match numerals, four with
    | [a, b, c, d], _ =>
        obtain ⟨first, rfl⟩ := byte a (by simp)
        obtain ⟨second, rfl⟩ := byte b (by simp)
        obtain ⟨third, rfl⟩ := byte c (by simp)
        obtain ⟨fourth, rfl⟩ := byte d (by simp)
        exact ⟨⟨first, second, third, fourth⟩, rfl⟩
  · rintro ⟨quad, rfl⟩
    refine ⟨_, ?_, ?_, rfl⟩
    · simp [Quad.bytes]
    · intro numeral listed
      obtain ⟨byte, _, rfl⟩ := List.mem_map.mp listed
      have bound := byte.toNat_lt
      exact ⟨byte.toNat, by omega, Text.isNumeralOf_iff.mpr rfl⟩

/-- The format accepts dotted quads, which are the texts of four bytes each, of one four alone; and
of the texts from which given four bytes can be read it accepts one. -/
theorem ip_accepts_quads :
    (∀ text, ip.accepts text = true ↔ IsDottedQuad text) ∧
      (∀ text, ip.accepts text = true ↔ ∃! quad : Quad, quad.text = text) ∧
        ∀ quad : Quad, ∃! text, ip.accepts text = true ∧ quad.IsReadFrom text := by
  refine ⟨fun text => accepts_ip_iff.trans isDottedQuad_iff.symm, ?_, ?_⟩
  · intro text
    rw [accepts_ip_iff]
    constructor
    · rintro ⟨quad, rfl⟩
      exact ⟨quad, rfl, fun other same => Quad.text_injective same⟩
    · rintro ⟨quad, written, _⟩
      exact ⟨quad, written⟩
  · intro quad
    refine ⟨quad.text, ⟨accepts_ip_iff.mpr ⟨quad, rfl⟩, quad.isReadFrom_text⟩, ?_⟩
    rintro text ⟨accepted, read⟩
    obtain ⟨other, rfl⟩ := accepts_ip_iff.mp accepted
    rw [read.unique other.isReadFrom_text]

end Format

end Rulebook
