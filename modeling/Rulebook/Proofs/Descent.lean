import Rulebook.Proofs.JoinedTokens
import Rulebook.Proofs.Places
import Rulebook.Proofs.Satisfaction

/-!
Descent. A path is followed one segment at a time, and nothing but its segments counts: a path that
goes on after a dot is followed from where the front of it leads, and below a missing value, a null
or a scalar there is nothing to be found. Every index is the name of one item of an array.
-/

namespace Rulebook

/-- Whether a path is these segments with dots between them. A segment holds no dot; it may be
empty. -/
structure IsSegmented (path : String) (segments : List String) : Prop where
  nonempty : segments ≠ []
  dotless : ∀ segment ∈ segments, '.' ∉ segment.toList
  joined : ".".intercalate segments = path

theorem isSegmented_iff {path : String} {segments : List String} :
    IsSegmented path segments ↔ splitText '.' path = segments := by
  have written : ".".toList = ['.'] := rfl
  rw [splitText_eq_iff written]
  constructor
  · rintro ⟨nonempty, dotless, joined⟩
    exact ⟨nonempty, dotless, joined⟩
  · rintro ⟨nonempty, dotless, joined⟩
    exact ⟨nonempty, dotless, joined⟩

theorem IsSegmented.existsUnique (path : String) : ∃! segments, IsSegmented path segments := by
  simp only [isSegmented_iff]
  exact existsUnique_eq'

namespace Value

variable {value : Value} {path front : String} {segments : List String}

theorem resolve_eq_foldl (nonempty : path ≠ "") (segmented : IsSegmented path segments)
    (value : Value) : value.resolve path = segments.foldl get value := by
  rw [resolve_eq_descend nonempty, isSegmented_iff.mp segmented, descend_eq_foldl]

theorem resolve_eq_get {parents : List String} {last : String} (nonempty : path ≠ "")
    (segmented : IsSegmented path (parents ++ [last])) (value : Value) :
    value.resolve path = (value.descend parents).get last := by
  rw [resolve_eq_foldl nonempty segmented, List.foldl_concat, descend_eq_foldl]

theorem get_of_not_isContainer (scalar : ¬ value.IsContainer) (segment : String) :
    value.get segment = .undefined := by
  cases value with
  | array items => exact absurd trivial scalar
  | object entries => exact absurd trivial scalar
  | _ => rfl

theorem descend_of_not_isContainer (scalar : ¬ value.IsContainer) (nonempty : segments ≠ []) :
    value.descend segments = .undefined := by
  cases segments with
  | nil => exact absurd rfl nonempty
  | cons segment rest =>
      rw [descend_cons, get_of_not_isContainer scalar, descend_undefined]

theorem resolve_of_not_isContainer (scalar : ¬ value.IsContainer) (nonempty : path ≠ "") :
    value.resolve path = .undefined := by
  rw [resolve_eq_descend nonempty,
    descend_of_not_isContainer scalar (splitText_ne_nil '.' path)]

theorem resolve_below_scalar (nonempty : front ≠ "") (scalar : ¬ (value.resolve front).IsContainer)
    (back : String) : value.resolve (front ++ "." ++ back) = .undefined := by
  rw [resolve_below nonempty, descend_of_not_isContainer scalar (splitText_ne_nil '.' back)]

theorem get_index (items : List Value) (index : UInt64) :
    (Value.array items).get (toString index) = items[index.toNat]?.getD .undefined := by
  have written : (toString index).toList = Nat.toDigits 10 index.toNat := Nat.toList_repr
  rw [get, written, Text.count?_toDigits index.toNat_lt]
  rfl

theorem resolve_index (items : List Value) (index : UInt64) :
    (Value.array items).resolve (toString index) = items[index.toNat]?.getD .undefined := by
  have nonempty : toString index ≠ "" := Nat.repr_ne_empty
  have single : splitText '.' (toString index) = [toString index] := splitText_repr index.toNat
  rw [resolve_eq_descend nonempty, single, descend_singleton, get_index]

/-- Paths compose. What lies at a path is found segment by segment, in one way to cut the path at its
dots; stopping at a missing value early and looking up the last segment apart change nothing. Below
what is no container nothing is found, and the numeral of an index, which is a word of 64 bits, finds
the item that has the index, if there is one. -/
theorem paths_compose :
    (∀ (value : Value) (front back : String), front ≠ "" → back ≠ "" →
      value.resolve (front ++ "." ++ back) = (value.resolve front).resolve back) ∧
    (∀ path, ∃! segments, IsSegmented path segments) ∧
    (∀ path segments, path ≠ "" → IsSegmented path segments →
      ∀ value : Value, value.resolve path = segments.foldl get value) ∧
    (∀ path parents last, path ≠ "" → IsSegmented path (parents ++ [last]) →
      ∀ value : Value, value.resolve path = (value.descend parents).get last) ∧
    (∀ (value : Value) (segments : List String),
      value.descend segments = segments.foldl get value) ∧
    (∀ value : Value, ¬ value.IsContainer →
      (∀ segment, value.get segment = .undefined) ∧
      ∀ path, path ≠ "" → value.resolve path = .undefined) ∧
    (∀ (value : Value) (front back : String), front ≠ "" → ¬ (value.resolve front).IsContainer →
      value.resolve (front ++ "." ++ back) = .undefined) ∧
    ∀ (items : List Value) (index : UInt64),
      (Value.array items).get (toString index) = items[index.toNat]?.getD .undefined ∧
      (Value.array items).resolve (toString index) = items[index.toNat]?.getD .undefined := by
  refine ⟨?_, IsSegmented.existsUnique, ?_, ?_, descend_eq_foldl, ?_, ?_, ?_⟩
  · intro value front back frontNonempty backNonempty
    exact resolve_dotted frontNonempty backNonempty value
  · intro path segments nonempty segmented value
    exact resolve_eq_foldl nonempty segmented value
  · intro path parents last nonempty segmented value
    exact resolve_eq_get nonempty segmented value
  · intro value scalar
    refine ⟨get_of_not_isContainer scalar, ?_⟩
    intro path nonempty
    exact resolve_of_not_isContainer scalar nonempty
  · intro value front back nonempty scalar
    exact resolve_below_scalar nonempty scalar back
  · intro items index
    exact ⟨get_index items index, resolve_index items index⟩

/-- Two dots in a row lead through the empty key. -/
theorem paths_compose_empty_key :
    (Value.array [.null, .object [("", .object [("b", .bool true)])]]).resolve ("1" ++ "." ++ ".b") =
      ((Value.array [.null, .object [("", .object [("b", .bool true)])]]).resolve "1").resolve
        ".b" ∧
    IsSegmented "1..b" (["1", ""] ++ ["b"]) ∧
    (Value.array [.null, .object [("", .object [("b", .bool true)])]]).resolve "1..b" =
      ["1", "", "b"].foldl get (.array [.null, .object [("", .object [("b", .bool true)])]]) ∧
    (Value.array [.null, .object [("", .object [("b", .bool true)])]]).resolve "1..b" =
      (descend (.array [.null, .object [("", .object [("b", .bool true)])]]) ["1", ""]).get "b" ∧
    (Value.array [.null, .object [("", .object [("b", .bool true)])]]).resolve "1..b" =
      .bool true ∧
    ¬ (Value.resolve (.array [.null]) "0").IsContainer ∧ Value.null.get "b" = .undefined ∧
    Value.null.resolve "b" = .undefined ∧
    (Value.array [.null]).resolve ("0" ++ "." ++ "b") = .undefined := by
  obtain ⟨compose, _, folded, apart, _, scalar, below, _⟩ := paths_compose
  have segmented : IsSegmented "1..b" (["1", ""] ++ ["b"]) := isSegmented_iff.mpr rfl
  refine ⟨compose _ _ _ (by decide) (by decide), segmented, folded _ _ (by decide) segmented _,
    apart _ _ _ (by decide) segmented _, rfl, id, (scalar .null id).1 _, (scalar .null id).2 _ ?_,
    below _ _ _ ?_ id⟩
  · decide
  · decide

end Value

end Rulebook
