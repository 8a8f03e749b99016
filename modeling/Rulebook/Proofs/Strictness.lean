import Rulebook.Proofs.Rendering
import Rulebook.Proofs.Satisfaction
import Rulebook.Proofs.Tour

/-!
Strictness. A strict review makes the same stops as a lenient one and has the same to say at them.
It adds something at the end of every level that is an object: the keys that no rule of the level
declares.
-/

namespace Rulebook

/-- What there is to say of the keys of an object that hold no dot and are no field of the level. -/
def Schema.undeclaredTexts (quotes : Quotes) (schema : Schema) (place : Place) (data : Value) :
    List String :=
  match data with
  | .object fields =>
    ((fields.map Prod.fst).filter fun key =>
      '.' ∉ key.toList ∧ ∀ entry ∈ schema, entry.1 = key → entry.2.isDeclaration = false).map
        fun key => quotes.wrap (Place.qualify place.text key) ++ " is not required"
  | _ => []

def Stop.isLevel : Stop → Bool
  | .level _ _ _ _ => true
  | _ => false

/-- What is said at stops in a row, leniently and strictly: at the end of a level, after all that is
said on it and below, come its undeclared keys. -/
inductive Stop.Woven (quotes : Quotes) : List Stop → List String → List String → Prop
  | done : Woven quotes [] [] []
  | rule {stop : Stop} {rest : List Stop} {said lenient strict : List String} :
      stop.isLevel = false → rendered quotes (stop.review false) = .ok said →
      Woven quotes rest lenient strict →
      Woven quotes (stop :: rest) (said ++ lenient) (said ++ strict)
  | level {schema : Schema} {place : Place} {data : Value} {stops rest : List Stop}
      {below belowStrict lenient strict : List String} :
      Woven quotes stops below belowStrict → Woven quotes rest lenient strict →
      Woven quotes (.level schema place data stops :: rest) (below ++ lenient)
        (belowStrict ++ schema.undeclaredTexts quotes place data ++ strict)

variable {quotes : Quotes}

theorem Schema.render_undeclared (schema : Schema) (place : Place) (data : Value) :
    (schema.reviewKeys true data place).map (Message.render quotes) =
      schema.undeclaredTexts quotes place data := by
  rw [reviewKeys, if_pos rfl, List.map_map, undeclared]
  cases data with
  | object fields =>
      have sameKeys (key : String) :
          (!(key.toList.contains '.' || schema.declares key)) =
            decide ('.' ∉ key.toList ∧
              ∀ entry ∈ schema, entry.1 = key → entry.2.isDeclaration = false) := by
        rw [Bool.eq_iff_iff]
        simp [declares]
      rw [undeclaredTexts]
      simp only [Value.entries?, Option.getD_some, sameKeys]
      apply List.map_congr_left
      intro key _
      rw [Function.comp_apply, Message.about, Message.render, Label.text, Place.text_concat,
        Place.extend, String.append_assoc]
      rfl
  | _ => rfl

namespace Stop

theorem Woven.append {first second : List Stop} {lenient strict more moreStrict : List String}
    (front : Woven quotes first lenient strict) (back : Woven quotes second more moreStrict) :
    Woven quotes (first ++ second) (lenient ++ more) (strict ++ moreStrict) := by
  induction front with
  | done => exact back
  | rule plain said _ ih =>
      rw [List.append_assoc, List.append_assoc]
      exact .rule plain said ih
  | level inside _ _ ih =>
      rw [List.append_assoc, List.append_assoc]
      exact .level inside ih

theorem Woven.sublist {stops : List Stop} {lenient strict : List String}
    (woven : Woven quotes stops lenient strict) : lenient.Sublist strict := by
  induction woven with
  | done => exact .slnil
  | rule _ _ _ ih => exact (List.Sublist.refl _).append ih
  | level _ _ below rest =>
      exact (below.trans (List.sublist_append_left _ _)).append rest

theorem review_eq_lenient {stop : Stop} (plain : stop.isLevel = false) (strict : Bool) :
    stop.review strict = stop.review false := by
  cases stop with
  | level schema place data stops => cases plain
  | _ => simp only [review]

theorem woven_of_not_isLevel {stop : Stop} (plain : stop.isLevel = false) :
    Run.Related (Woven quotes [stop]) (rendered quotes (stop.review false))
      (rendered quotes (stop.review true)) := by
  rw [review_eq_lenient plain true]
  cases run : rendered quotes (stop.review false) with
  | error fault => exact .faulted fault
  | ok said =>
      have woven := Woven.rule plain run .done
      rw [List.append_nil] at woven
      exact .finished woven

theorem woven_level {schema : Schema} {place : Place} {data : Value} {stops : List Stop}
    (inside : Run.Related (Woven quotes stops) (rendered quotes (reviewAll false stops))
      (rendered quotes (reviewAll true stops))) :
    Run.Related (Woven quotes [.level schema place data stops])
      (rendered quotes (review false (.level schema place data stops)))
      (rendered quotes (review true (.level schema place data stops))) := by
  -- Only a strict review has anything to add to what is said inside.
  have closed : rendered quotes (review true (.level schema place data stops)) =
      (rendered quotes (reviewAll true stops)).map
        (· ++ schema.undeclaredTexts quotes place data) := by
    rw [review, rendered, Schema.closeLevel, rendered, Run.map_map, Run.map_map,
      ← Schema.render_undeclared]
    congr 1
    funext found
    exact List.map_append
  have opened : rendered quotes (review false (.level schema place data stops)) =
      (rendered quotes (reviewAll false stops)).map fun found => found := by
    rw [review, Schema.closeLevel_lenient, Run.map_id]
  rw [closed, opened]
  apply inside.map
  intro lenient strict woven
  have ended : Woven quotes [.level schema place data stops] (lenient ++ [])
      (strict ++ schema.undeclaredTexts quotes place data ++ []) := .level woven .done
  simpa only [List.append_nil] using ended

mutual

theorem woven_review (stop : Stop) :
    Run.Related (Woven quotes [stop]) (rendered quotes (stop.review false))
      (rendered quotes (stop.review true)) :=
  match stop with
  | .level _ _ _ stops => woven_level (woven_reviewAll stops)
  | .field _ _ _ | .group _ _ _ _ | .misfit _ _ _ => woven_of_not_isLevel rfl

theorem woven_reviewAll (stops : List Stop) :
    Run.Related (Woven quotes stops) (rendered quotes (reviewAll false stops))
      (rendered quotes (reviewAll true stops)) :=
  match stops with
  | [] => .finished .done
  | stop :: rest => by
      rw [reviewAll, reviewAll, rendered_both, rendered_both]
      apply (woven_review stop).bind
      intro lenient strict woven
      apply (woven_reviewAll rest).bind
      intro more moreStrict wovenRest
      exact .finished (woven.append wovenRest)

end

end Stop

/-- Strictness only adds. A strict and a lenient validation stop by the same fault; else the strict
messages are the lenient ones, with the undeclared keys of every object level put in where the level
ends. -/
theorem Schema.strict_adds_undeclared (schema : Schema) (data : Value) (quotes : Quotes) :
    Run.Related
      (fun lenient strict =>
        Stop.Woven quotes [schema.tour data] lenient strict ∧ lenient.Sublist strict)
      (schema.messages data ⟨quotes, false⟩) (schema.messages data ⟨quotes, true⟩) := by
  have woven : Run.Related (Stop.Woven quotes [schema.tour data])
      (rendered quotes ((schema.tour data).review false))
      (rendered quotes ((schema.tour data).review true)) := Stop.woven_review _
  rw [← review_eq_tour, ← review_eq_tour] at woven
  exact woven.mono fun related => ⟨related, related.sublist⟩

end Rulebook
