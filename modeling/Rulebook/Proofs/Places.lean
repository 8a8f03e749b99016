import Rulebook.Proofs.DottedPaths

/-!
Places as paths. A place is also a path: its keys and indexes, joined by dots. Where a walk has got
from the root of a data tree, step by step, that path leads in one go. The writing of a place is
the same sequence, with indexes in brackets.
-/

namespace Rulebook

namespace Text

theorem count?_toDigits {n : Nat} (fits : n < countLimit) :
    count? (Nat.toDigits 10 n) = some n := by
  have unsigned : ∀ rest, Nat.toDigits 10 n ≠ '+' :: rest := by
    intro rest written
    have member : '+' ∈ Nat.toDigits 10 n := by rw [written]; exact List.mem_cons_self
    have digit := Nat.isDigit_of_mem_toDigits (by decide) (by decide) member
    simp [Char.isDigit] at digit
  rw [count?]
  · rw [numeral?_toDigits]
    simp [fits]
  · exact unsigned

end Text

theorem splitText_repr (n : Nat) : splitText '.' n.repr = [n.repr] := by
  have noDot : '.' ∉ Nat.toDigits 10 n := by
    intro member
    have digit := Nat.isDigit_of_mem_toDigits (by decide) (by decide) member
    simp [Char.isDigit] at digit
  rw [splitText, Nat.toList_repr, List.splitOn_eq_singleton noDot, Nat.repr_eq_ofList_toDigits]
  rfl

theorem Value.descend_singleton (value : Value) (segment : String) :
    value.descend [segment] = value.get segment := by
  rw [descend_cons, descend]

theorem Value.resolve_repr {items : List Value} {index : Nat} {item : Value}
    (found : items[index]? = some item) (fits : index < Text.countLimit) :
    (Value.array items).resolve index.repr = item := by
  rw [resolve_eq_descend Nat.repr_ne_empty, splitText_repr, descend_singleton, get,
    Nat.toList_repr, Text.count?_toDigits fits]
  simp [found]

namespace Step

def segment : Step → String
  | .key name => name
  | .item index => index.repr

def trail : Step → String
  | .key name => "." ++ name
  | .item index => "[" ++ index.repr ++ "]"

end Step

namespace Place

/-- A place as a path: keys and indexes, joined by dots. -/
def path (place : Place) : String :=
  ".".intercalate (place.map Step.segment)

def trail (steps : Place) : String :=
  String.join (steps.map Step.trail)

/-- The writing of a place without empty keys: keys joined by dots, indexes in brackets. -/
def written : Place → String
  | .key name :: rest => name ++ trail rest
  | steps => trail steps

def Named (place : Place) : Prop :=
  ∀ name, Step.key name ∈ place → name ≠ ""

/-- Whether the path of a place leads from the root to a value. The indexes on the way have to fit
64 bits, as all do in an array that a machine can hold. -/
def LeadsTo (root : Value) (place : Place) (value : Value) : Prop :=
  (∀ index, Step.item index ∈ place → index < Text.countLimit) → root.resolve place.path = value

def after (front : String) (steps : Place) : String :=
  steps.foldl extend front

theorem after_concat (front : String) (steps : Place) (step : Step) :
    after front (steps ++ [step]) = extend (after front steps) step := by
  simp [after]

theorem after_of_ne_empty {front : String} (nonempty : front ≠ "") (steps : Place) :
    after front steps = front ++ trail steps := by
  induction steps generalizing front with
  | nil => simp [after, trail]
  | cons step rest ih =>
      have extended : extend front step = front ++ step.trail := by
        cases step with
        | key name => simp [extend, qualify, nonempty, Step.trail, String.append_assoc]
        | item index => simp [extend, itemText, Step.trail, String.append_assoc]
      have stillNonempty : front ++ step.trail ≠ "" := by simp [nonempty]
      have further : after front (step :: rest) = after (extend front step) rest := rfl
      rw [further, extended, ih stillNonempty, trail, trail, List.map_cons, String.join_cons,
        String.append_assoc]

theorem text_eq_written {place : Place} (named : place.Named) : place.text = place.written := by
  cases place with
  | nil => rfl
  | cons step rest =>
      have further : text (step :: rest) = after (extend "" step) rest := rfl
      rw [further]
      cases step with
      | key name =>
          have first : extend "" (.key name) = name := by simp [extend, qualify]
          rw [first, after_of_ne_empty (named name List.mem_cons_self), written]
      | item index =>
          have first : extend "" (.item index) = Step.trail (.item index) := by
            simp [extend, itemText, Step.trail]
          have nonempty : Step.trail (.item index) ≠ "" := by simp [Step.trail]
          rw [first, after_of_ne_empty nonempty, written]
          · rw [trail, trail, List.map_cons, String.join_cons]
          · simp

example : text [.key "users", .item 0, .key "name"] = "users[0].name" := by decide

theorem path_concat {place : Place} (nonempty : place ≠ []) (step : Step) :
    path (place ++ [step]) = path place ++ "." ++ step.segment := by
  rw [path, List.map_append,
    String.intercalate_append_of_ne_nil (by simpa using nonempty) (by simp), path,
    List.map_singleton, String.intercalate_singleton]

theorem path_ne_empty {place : Place} (named : place.Named) (nonempty : place ≠ []) :
    place.path ≠ "" := by
  cases place with
  | nil => contradiction
  | cons step rest =>
      have segment : step.segment ≠ "" := by
        cases step with
        | key name => exact named name List.mem_cons_self
        | item index => exact Nat.repr_ne_empty
      cases rest with
      | nil => simpa [path] using segment
      | cons next others => simp [path, String.intercalate_cons_cons, segment]

theorem resolve_path_concat {place : Place} {step : Step} (named : place.Named)
    (segment : step.segment ≠ "") (root : Value) :
    root.resolve (path (place ++ [step])) = (root.resolve place.path).resolve step.segment := by
  by_cases atRoot : place = []
  · subst atRoot
    simp [path, Value.resolve]
  · rw [path_concat atRoot, Value.resolve_dotted (path_ne_empty named atRoot) segment]

theorem Named.concat {place : Place} (named : place.Named) {step : Step}
    (nonempty : ∀ name, step = .key name → name ≠ "") : Named (place ++ [step]) := by
  intro name member
  rcases List.mem_append.mp member with earlier | last
  · exact named name earlier
  · exact nonempty name (List.mem_singleton.mp last).symm

namespace LeadsTo

variable {root value : Value} {place : Place}

theorem start (root : Value) : LeadsTo root [] root :=
  fun _ => rfl

theorem key (leads : place.LeadsTo root value) (named : place.Named) {name : String}
    (nonempty : name ≠ "") : LeadsTo root (place ++ [.key name]) (value.resolve name) := by
  intro fits
  have segment : Step.segment (.key name) ≠ "" := nonempty
  rw [resolve_path_concat named segment, leads fun index member =>
    fits index (List.mem_append_left _ member)]
  rfl

theorem item {items : List Value} (leads : place.LeadsTo root (.array items))
    (named : place.Named) {index : Nat} {item : Value} (found : items[index]? = some item) :
    LeadsTo root (place ++ [.item index]) item := by
  intro fits
  have bound : index < Text.countLimit := fits index (by simp)
  have segment : Step.segment (.item index) ≠ "" := Nat.repr_ne_empty
  rw [resolve_path_concat named segment, leads fun index member =>
    fits index (List.mem_append_left _ member)]
  exact Value.resolve_repr found bound

end LeadsTo

end Place

end Rulebook
