import Rulebook.Proofs.Labels
import Rulebook.Proofs.Templates
import Rulebook.Validation

/-!
Rendering. Messages tell a place by its writing alone. So walks that start at places written alike
end in the same texts, and two walks over one level find the same: only what stands in front of the
places differs.
-/

namespace Rulebook

def rendered (quotes : Quotes) (review : Except Fault (List Message)) :
    Except Fault (List String) :=
  review.map (List.map (Message.render quotes))

def renderedAfter (front : String) (quotes : Quotes) (review : Except Fault (List Message)) :
    Except Fault (List String) :=
  review.map (List.map fun message => message.template.render quotes front)

variable {quotes : Quotes} {front back : String} {former latter : Place}

theorem rendered_eq (review : Except Fault (List Message)) :
    rendered quotes review = renderedAfter "" quotes review := by
  simp only [rendered, renderedAfter, Message.render_template]

theorem renderedAfter_both (first second : Except Fault (List Message)) :
    renderedAfter front quotes (do
      let found ← first
      let others ← second
      return found ++ others) = do
        let found ← renderedAfter front quotes first
        let others ← renderedAfter front quotes second
        return found ++ others :=
  Run.map_both _ first second

theorem renderedAfter_flatten {α : Type} (review : α → Except Fault (List Message))
    (items : List α) :
    renderedAfter front quotes ((items.mapM review).map List.flatten) =
      (items.mapM fun item => renderedAfter front quotes (review item)).map List.flatten := by
  induction items with
  | nil => rfl
  | cons head rest ih =>
      rw [Run.mapM_flatten_cons, renderedAfter_both, ih, Run.mapM_flatten_cons]

theorem rendered_both (first second : Except Fault (List Message)) :
    rendered quotes (do
      let found ← first
      let others ← second
      return found ++ others) = do
        let found ← rendered quotes first
        let others ← rendered quotes second
        return found ++ others :=
  Run.map_both _ first second

theorem rendered_flatten {α : Type} (review : α → Except Fault (List Message)) (items : List α) :
    rendered quotes ((items.mapM review).map List.flatten) =
      (items.mapM fun item => rendered quotes (review item)).map List.flatten := by
  simp only [rendered_eq, renderedAfter_flatten]

theorem Place.after_concat_congr (same : former.after front = latter.after back) (step : Step) :
    after front (former ++ [step]) = after back (latter ++ [step]) := by
  rw [after_concat, after_concat, same]

theorem Label.after_item (front : String) (label : Label) (index : Nat) :
    (label.item index).after front = Place.itemText (label.after front) index := by
  cases label with
  | named name => rfl
  | place steps => exact Place.after_concat front steps (.item index)

theorem Label.after_steady (front back : String) : Steady (after front) (after back) := by
  intro former latter index same
  rw [after_item, after_item, same]

theorem Label.after_field {field : FieldRules} (same : former.after front = latter.after back) :
    (field.label former).after front = (field.label latter).after back := by
  rw [FieldRules.label, FieldRules.label]
  cases field.title with
  | none => exact same
  | some name => rfl

theorem renderedAfter_about (same : former.after front = latter.after back) (finding : Finding) :
    renderedAfter front quotes (.ok [.about former finding]) =
      renderedAfter back quotes (.ok [.about latter finding]) := by
  simp [renderedAfter, Except.map, Message.about, Message.template, Template.render, Piece.render,
    Label.after, same]

def FieldRules.tell (quotes : Quotes) (field : FieldRules) (seen : List (String × Finding)) :
    List String :=
  match field.message with
  | some text => if seen.isEmpty then [] else [text]
  | none => seen.map fun (label, finding) => quotes.wrap label ++ " " ++ finding.text

theorem FieldRules.renderedAfter_review_eq_tell (field : FieldRules) (place : Place)
    (value : Value) :
    renderedAfter front quotes (field.review place value) =
      ((field.complaints place value).map (List.map (Complaint.seen (Label.after front)))).map
        (field.tell quotes) := by
  rw [renderedAfter, review, Run.map_map, Run.map_map]
  congr 1
  funext found
  rw [Function.comp_apply, Function.comp_apply, tell]
  cases field.message with
  | none =>
      simp [Message.template, Template.render, Piece.render, Complaint.seen, String.append_assoc]
  | some text => cases found <;> simp [Message.template, Template.render, Piece.render]

theorem FieldRules.renderedAfter_review (same : former.after front = latter.after back)
    (field : FieldRules) (value : Value) :
    renderedAfter front quotes (field.review former value) =
      renderedAfter back quotes (field.review latter value) := by
  rw [renderedAfter_review_eq_tell, renderedAfter_review_eq_tell, complaints, complaints,
    Clause.judgeAll_seen (Label.after_steady front back) (Label.after_field same)]

theorem PresenceGroup.render_review? (same : former.after front = latter.after back)
    (which : Presence) (data : Value) (group : PresenceGroup) :
    (group.review? which data former).map (fun message => message.template.render quotes front) =
      (group.review? which data latter).map fun message => message.template.render quotes back := by
  rw [review?, review?]
  split
  · cases group.message with
    | some text => rfl
    | none =>
        simp only [Option.map_some, Message.template, Template.render_append, Template.render_cons,
          Message.render_listing, List.map_map, Function.comp_def, Label.after,
          Place.after_concat_congr same]
        rfl
  · rfl

theorem Schema.render_reviewKeys (same : former.after front = latter.after back) (schema : Schema)
    (strict : Bool) (data : Value) :
    (schema.reviewKeys strict data former).map
        (fun message => message.template.render quotes front) =
      (schema.reviewKeys strict data latter).map fun message =>
        message.template.render quotes back := by
  rw [reviewKeys, reviewKeys]
  cases strict with
  | false => rfl
  | true =>
      simp only [if_true, List.map_map, Function.comp_def, Message.about, Message.template,
        Template.render, List.map_cons, List.map_nil, Piece.render, Label.after,
        Place.after_concat_congr same]

theorem Schema.renderedAfter_closeLevel (same : former.after front = latter.after back)
    (schema : Schema) (strict : Bool) (data : Value) {first second : Except Fault (List Message)}
    (alike : renderedAfter front quotes first = renderedAfter back quotes second) :
    renderedAfter front quotes (schema.closeLevel strict data former first) =
      renderedAfter back quotes (schema.closeLevel strict data latter second) := by
  have append (front : String) (place : Place) (entries : Except Fault (List Message)) :
      renderedAfter front quotes (schema.closeLevel strict data place entries) =
        (renderedAfter front quotes entries).map
          (· ++ (schema.reviewKeys strict data place).map fun message =>
            message.template.render quotes front) := by
    rw [renderedAfter, closeLevel, renderedAfter, Run.map_map, Run.map_map]
    congr 1
    funext found
    exact List.map_append
  rw [append, append, alike, render_reviewKeys same]

theorem Node.renderedAfter_review_of_presence (same : former.after front = latter.after back)
    {node : Node} (undeclared : node.isDeclaration = false) (strict : Bool) (key : String)
    (data : Value) :
    renderedAfter front quotes (Node.review strict node key data former) =
      renderedAfter back quotes (Node.review strict node key data latter) := by
  cases node with
  | presence which groups =>
      rw [review, review]
      simp only [renderedAfter, Except.map, List.map_filterMap, PresenceGroup.render_review? same]
  | _ => simp [isDeclaration] at undeclared

mutual

/-- The node of a field has the same to say under two keys that lead to one value by places written
alike. -/
theorem Node.renderedAfter_review {former latter : Place} {key other : String}
    (same : Place.after front (former ++ [.key key]) = Place.after back (latter ++ [.key other]))
    {data otherData : Value} (found : data.resolve key = otherData.resolve other) (strict : Bool)
    (node : Node) (declared : node.isDeclaration = true) :
    renderedAfter front quotes (Node.review strict node key data former) =
      renderedAfter back quotes (Node.review strict node other otherData latter) :=
  match node with
  | .field rules => by
      rw [Node.review, Node.review, found]
      exact FieldRules.renderedAfter_review same rules _
  | .presence which groups => by simp [Node.isDeclaration] at declared
  | .nested entries => by
      rw [Node.review, Node.review, found]
      split
      · exact Schema.renderedAfter_closeLevel same entries strict _
          (Node.renderedAfter_reviewEntries same strict entries _)
      · exact renderedAfter_about same _
  | .each entries => by
      rw [Node.review, Node.review, found]
      split
      · rw [renderedAfter_flatten, renderedAfter_flatten]
        congr 2
        funext entry
        have further := Place.after_concat_congr same (.item entry.2)
        exact Schema.renderedAfter_closeLevel further entries strict _
          (Node.renderedAfter_reviewEntries further strict entries _)
      · exact renderedAfter_about same _
      · exact renderedAfter_about same _
      · exact renderedAfter_about same _

theorem Node.renderedAfter_reviewEntries {former latter : Place}
    (same : former.after front = latter.after back) (strict : Bool)
    (entries : List (String × Node)) (data : Value) :
    renderedAfter front quotes (Node.reviewEntries strict entries data former) =
      renderedAfter back quotes (Node.reviewEntries strict entries data latter) :=
  match entries with
  | [] => by rw [Node.reviewEntries, Node.reviewEntries]; rfl
  | (key, node) :: rest => by
      have alike : renderedAfter front quotes (Node.review strict node key data former) =
          renderedAfter back quotes (Node.review strict node key data latter) := by
        cases declared : node.isDeclaration with
        | true =>
            exact Node.renderedAfter_review (Place.after_concat_congr same _) rfl strict node
              declared
        | false => exact Node.renderedAfter_review_of_presence same declared strict key data
      rw [Node.reviewEntries, Node.reviewEntries, renderedAfter_both, renderedAfter_both, alike,
        Node.renderedAfter_reviewEntries same strict rest data]

end

theorem Node.rendered_review {key other : String}
    (same : Place.text (former ++ [.key key]) = Place.text (latter ++ [.key other]))
    {data otherData : Value} (found : data.resolve key = otherData.resolve other) (strict : Bool)
    (node : Node) (declared : node.isDeclaration = true) :
    rendered quotes (Node.review strict node key data former) =
      rendered quotes (Node.review strict node other otherData latter) := by
  rw [rendered_eq, rendered_eq]
  exact Node.renderedAfter_review same found strict node declared

end Rulebook
