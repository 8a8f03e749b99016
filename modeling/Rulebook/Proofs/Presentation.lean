import Rulebook.Proofs.Grounds
import Rulebook.Proofs.Rendering

/-!
Presentation. What a validation has to say is settled before quotes are chosen: there is one list of
templates for a schema, a data tree and a strictness, and every choice of quotes renders it. Nor
does it matter where a level lies, but for the writing in front of its places.
-/

namespace Rulebook

namespace Schema

/-- The templates of the messages about data, in order. -/
def templates (schema : Schema) (strict : Bool) (data : Value) : Except Fault (List Template) :=
  (schema.review strict data).map (List.map Message.template)

def levelTemplates (schema : Schema) (strict : Bool) (data : Value) :
    Except Fault (List Template) :=
  (schema.reviewLevel strict data []).map (List.map Message.template)

end Schema

/-- The messages that a stop itself can have: the words of a rule as they are, or fixed words around
labels. The label of an item is the label of its field, and after it the indexes in brackets. -/
def Stop.Words : Stop → Template → Prop
  | .field rules place _, template =>
    (∃ text, rules.message = some text ∧ template = [.words text]) ∨
      rules.message = none ∧ ∃ (label : Label) (finding : Finding) (indexes : List Nat),
        template = [.label label, .words (" " ++ finding.text)] ∧
        ∀ front, label.after front =
          rules.title.getD (place.after front) ++ Place.trail (indexes.map .item)
  | .group which content place _, template =>
    (∃ text, content.message = some text ∧ template = [.words text]) ∨
      content.message = none ∧
        template = .words (which.opening content.threshold) ::
          Message.listing (content.fields.map fun path => .place (place ++ [.key path])) ++
          [.words (which.closing content.threshold)]
  | .misfit label _ finding, template => template = [.label label, .words (" " ++ finding.text)]
  | .level _ place _ _, template =>
    ∃ key, template = [.label (.place (place ++ [.key key])), .words " is not required"]

theorem Label.after_items (front : String) (label : Label) (indexes : List Nat) :
    (label.items indexes).after front =
      label.after front ++ Place.trail (indexes.map Step.item) := by
  induction indexes generalizing label with
  | nil => simp [items, Place.trail]
  | cons index rest ih =>
      have further : label.items (index :: rest) = (label.item index).items rest := rfl
      rw [further, ih, after_item, Place.trail, Place.trail, List.map_cons, List.map_cons,
        String.join_cons, Step.trail, Place.itemText]
      simp only [String.append_assoc]

theorem Label.after_label (front : String) (field : FieldRules) (place : Place) :
    (field.label place).after front = field.title.getD (place.after front) := by
  rw [FieldRules.label]
  cases field.title <;> rfl

theorem Stop.Tells.words {stop : Stop} {message : Message} {seen : List (Label × Value)}
    (tells : stop.Tells message seen) : stop.Words message.template := by
  cases tells with
  | instead named => exact .inl ⟨_, named, rfl⟩
  | presenceInstead named => exact .inl ⟨_, named, rfl⟩
  | @complaint rules place _ _ _ _ _ indexes finding unnamed _ _ =>
      refine .inr ⟨unnamed, (rules.label place).items indexes, finding, indexes, rfl, ?_⟩
      intro front
      rw [Label.after_items, Label.after_label]
  | presence unnamed _ => exact .inr ⟨unnamed, rfl⟩
  | misfit => exact rfl
  | @undeclared _ _ _ _ key _ => exact ⟨key, rfl⟩

variable {quotes other : Quotes}

theorem Schema.messages_eq_templates (schema : Schema) (strict : Bool) (data : Value)
    (quotes : Quotes) :
    schema.messages data ⟨quotes, strict⟩ =
      (schema.templates strict data).map (List.map (Template.render quotes "")) := by
  rw [messages, templates, Run.map_map]
  congr 1
  funext found
  rw [Function.comp_apply, List.map_map]
  apply List.map_congr_left
  intro message _
  exact (Message.render_template message).symm

theorem Schema.rendered_reviewLevel (schema : Schema) (strict : Bool) (data : Value)
    (quotes : Quotes) (place : Place) :
    rendered quotes (schema.reviewLevel strict data place) =
      (schema.levelTemplates strict data).map (List.map (Template.render quotes place.text)) := by
  have same : place.after "" = Place.after place.text [] := rfl
  have level : renderedAfter "" quotes (schema.reviewLevel strict data place) =
      renderedAfter place.text quotes (schema.reviewLevel strict data []) :=
    renderedAfter_closeLevel same schema strict data
      (Node.renderedAfter_reviewEntries same strict schema data)
  rw [rendered_eq, level, renderedAfter, levelTemplates, Run.map_map]
  congr 1
  funext found
  rw [Function.comp_apply, List.map_map]
  rfl

/-- Whether two texts are one template between different quotes. -/
def Template.Alike (quotes other : Quotes) (first second : String) : Prop :=
  ∃ template, first = Template.render quotes "" template ∧
    second = Template.render other "" template

theorem Template.alike_map (templates : List Template) :
    List.Forall₂ (Alike quotes other) (templates.map (render quotes ""))
      (templates.map (render other "")) := by
  induction templates with
  | nil => exact .nil
  | cons template rest ih => exact .cons ⟨template, rfl, rfl⟩ ih

theorem Label.after_eq (front : String) (label : Label) :
    label.after front =
      match label with
      | .named name => name
      | .place steps => if front = "" then steps.text else front ++ steps.trail := by
  cases label with
  | named name => rfl
  | place steps =>
      by_cases start : front = ""
      · rw [start, after_empty]
        rfl
      · rw [after, Place.after_of_ne_empty start]
        simp only [start, if_false]

/-- Presentation does not bear on what is said. One list of templates, for which no quotes are
chosen, is what every choice of quotes renders; so two choices differ by the marks around labels
alone, and not in whether data is valid or a fault stops the walk. A level under one place and under
another differs by what stands in front of the labels that are places. -/
theorem Schema.presentation_irrelevant (schema : Schema) (strict : Bool) (data : Value) :
    (∀ quotes, schema.messages data ⟨quotes, strict⟩ =
      (schema.templates strict data).map (List.map (Template.render quotes ""))) ∧
    (∀ templates, schema.templates strict data = .ok templates → ∀ template ∈ templates,
      ∃ stop, Stop.On stop (schema.tour data) ∧ stop.Words template) ∧
    (∀ quotes other, Run.Related (List.Forall₂ (Template.Alike quotes other))
      (schema.messages data ⟨quotes, strict⟩) (schema.messages data ⟨other, strict⟩)) ∧
    (∀ quotes other, Run.Related (fun first second => first.isValid = second.isValid)
      (schema.tryValidate data ⟨quotes, strict⟩) (schema.tryValidate data ⟨other, strict⟩)) ∧
    (∀ quotes place, rendered quotes (schema.reviewLevel strict data place) =
      (schema.levelTemplates strict data).map (List.map (Template.render quotes place.text))) ∧
    ∀ (front : String) (label : Label), label.after front =
      match label with
      | .named name => name
      | .place steps => if front = "" then steps.text else front ++ steps.trail := by
  refine ⟨schema.messages_eq_templates strict data, ?_, ?_, ?_,
    schema.rendered_reviewLevel strict data, Label.after_eq⟩
  · intro templates run template member
    obtain ⟨messages, reviewed, rfl⟩ := Run.map_eq_ok_iff.mp run
    obtain ⟨message, listed, rfl⟩ := List.mem_map.mp member
    rw [review_eq_tour] at reviewed
    obtain ⟨stop, seen, on, tells⟩ := Stop.tells_of_mem_review _ reviewed listed
    exact ⟨stop, on, tells.words⟩
  · intro quotes other
    rw [messages_eq_templates, messages_eq_templates]
    exact (Run.Related.refl (fun _ => rfl) (schema.templates strict data)).map
      fun same => same ▸ Template.alike_map _
  · intro quotes other
    rw [tryValidate, tryValidate, messages_eq_templates, messages_eq_templates, Run.map_map,
      Run.map_map]
    apply (Run.Related.refl (fun _ => rfl) (schema.templates strict data)).map
    intro first second same
    rw [same, Function.comp_apply, Function.comp_apply, Outcome.isValid_ofMessages,
      Outcome.isValid_ofMessages]
    simp

theorem Schema.presentation_irrelevant_tags :
    Schema.templates
        [("tags", .field
          ⟨[.title "labels", .clause (.arrayOf (.kind .string))], some "labels", none⟩)]
        false (.object [("tags", .array [.bool true])]) =
      .ok [[.label (.named "labels[0]"), .words " must be a valid string"]] ∧
    ∃ stop, Stop.On stop
        (Schema.tour
          [("tags", .field
            ⟨[.title "labels", .clause (.arrayOf (.kind .string))], some "labels", none⟩)]
          (.object [("tags", .array [.bool true])])) ∧
      stop.Words [.label (.named "labels[0]"), .words " must be a valid string"] := by
  have run : Schema.templates
      [("tags", .field
        ⟨[.title "labels", .clause (.arrayOf (.kind .string))], some "labels", none⟩)]
      false (.object [("tags", .array [.bool true])]) =
        .ok [[.label (.named "labels[0]"), .words " must be a valid string"]] := rfl
  exact ⟨run, (Schema.presentation_irrelevant _ false _).2.1 _ run _ List.mem_cons_self⟩

end Rulebook
