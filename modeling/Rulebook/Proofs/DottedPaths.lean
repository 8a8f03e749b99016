import Rulebook.Directive
import Rulebook.Message
import Rulebook.PresenceGroup

/-!
Dotted paths. A key behind a dot leads where the key itself leads from one level further down: to
the same value, under the same written place.
-/

namespace Rulebook

theorem splitText_dotted (front key : String) :
    splitText '.' (front ++ "." ++ key) = splitText '.' front ++ splitText '.' key := by
  have written : (front ++ "." ++ key).toList = front.toList ++ '.' :: key.toList := by simp
  rw [splitText, written, List.splitOn_append_cons_self, List.map_append]
  rfl

namespace Value

theorem descend_undefined (segments : List String) : descend .undefined segments = .undefined := by
  cases segments <;> rfl

theorem descend_cons (value : Value) (segment : String) (rest : List String) :
    value.descend (segment :: rest) = (value.get segment).descend rest := by
  rw [descend]
  cases value.get segment with
  | undefined => exact (descend_undefined rest).symm
  | _ => rfl

/-- Stopping at a missing value changes nothing, as there is nothing below it. -/
theorem descend_eq_foldl (value : Value) (segments : List String) :
    value.descend segments = segments.foldl get value := by
  induction segments generalizing value with
  | nil => rfl
  | cons segment rest ih => rw [descend_cons, ih, List.foldl_cons]

theorem descend_append (value : Value) (front back : List String) :
    value.descend (front ++ back) = (value.descend front).descend back := by
  rw [descend_eq_foldl, descend_eq_foldl, descend_eq_foldl, List.foldl_append]

theorem resolve_eq_descend {path : String} (nonempty : path ≠ "") (value : Value) :
    value.resolve path = value.descend (splitText '.' path) := by
  rw [resolve, if_neg (by simpa using nonempty)]

theorem resolve_below {front : String} (nonempty : front ≠ "") (value : Value) (back : String) :
    value.resolve (front ++ "." ++ back) = (value.resolve front).descend (splitText '.' back) := by
  rw [resolve_eq_descend (by simp), resolve_eq_descend nonempty, splitText_dotted, descend_append]

theorem resolve_dotted {front key : String} (frontNonempty : front ≠ "") (keyNonempty : key ≠ "")
    (value : Value) : value.resolve (front ++ "." ++ key) = (value.resolve front).resolve key := by
  rw [resolve_below frontNonempty, resolve_eq_descend keyNonempty]

/-- What one segment of a path keeps is kept along all of it. -/
theorem resolve_of_get {relation : Value → Value → Prop}
    (get : ∀ {first second}, relation first second →
      ∀ segment, relation (first.get segment) (second.get segment))
    {first second : Value} (related : relation first second) (path : String) :
    relation (first.resolve path) (second.resolve path) := by
  have descend (segments : List String) :
      relation (first.descend segments) (second.descend segments) := by
    induction segments generalizing first second with
    | nil => exact related
    | cons segment rest ih =>
        rw [descend_cons, descend_cons]
        exact ih (get related segment)
  rw [resolve, resolve]
  split
  · exact related
  · exact descend (splitText '.' path)

end Value

namespace Place

theorem qualify_dotted {front : String} (nonempty : front ≠ "") (path key : String) :
    qualify path (front ++ "." ++ key) = qualify (qualify path front) key := by
  by_cases atRoot : path = ""
  · simp [qualify, atRoot, nonempty]
  · simp [qualify, atRoot, String.append_assoc]

theorem text_concat (place : Place) (step : Step) :
    text (place ++ [step]) = extend (text place) step := by
  simp [text]

theorem text_dotted {front : String} (nonempty : front ≠ "") (place : Place) (key : String) :
    text (place ++ [.key (front ++ "." ++ key)]) = text (place ++ [.key front] ++ [.key key]) := by
  rw [text_concat, text_concat, text_concat]
  exact qualify_dotted nonempty (text place) key

end Place

theorem Presence.ofKey?_dotted (front key : String) :
    Presence.ofKey? (front ++ "." ++ key) = none := by
  have hasDot : '.' ∈ (front ++ "." ++ key).toList := by simp
  rw [ofKey?, List.find?_eq_none]
  intro presence _
  rw [decide_eq_true_eq]
  intro same
  rw [← same] at hasDot
  cases presence <;> revert hasDot <;> decide

theorem FieldRules.isItemLabel_dotted {key : String} (nonempty : key ≠ "") (front : String) :
    isItemLabel (front ++ "." ++ key) = isItemLabel key := by
  have backwards : (front ++ "." ++ key).toList.reverse =
      key.toList.reverse ++ '.' :: front.toList.reverse := by simp
  rw [isItemLabel, isItemLabel, backwards]
  cases written : key.toList.reverse with
  | nil => simp [nonempty] at written
  | cons last before =>
      by_cases closes : last = ']'
      · subst closes
        simp only [List.cons_append, Text.cutFirst?_append, Text.cutFirst?]
        cases Text.cutFirst? '[' before with
        | some pair => rfl
        | none =>
            -- The bracket would have to open before the dot, and no digit is a dot.
            cases Text.cutFirst? '[' front.toList.reverse with
            | none => rfl
            | some pair => simp [Char.isDigit]
      · simp [closes]

end Rulebook
