import Rulebook.Proofs.Places

/-!
Templates. A message is fixed words and labels; quotes go around the labels, each by itself, and
around nothing else. The labels of places come after the writing of the place that a walk has
started from.
-/

namespace Rulebook

/-- A piece of a message: words that are there as they stand, or a label. -/
inductive Piece where
  | words (text : String)
  | label (content : Label)
  deriving DecidableEq, Repr

abbrev Template := List Piece

/-- What a label is in writing, for a walk whose start is written so. -/
def Label.after (front : String) : Label → String
  | .named name => name
  | .place steps => steps.after front

def Piece.render (quotes : Quotes) (front : String) : Piece → String
  | .words text => text
  | .label content => quotes.wrap (content.after front)

def Template.render (quotes : Quotes) (front : String) (template : Template) : String :=
  String.join (template.map (Piece.render quotes front))

namespace Presence

def opening (which : Presence) (threshold : Nat) : String :=
  let count := if threshold = 1 then "one" else threshold.repr
  match which with
  | .atLeast => "at least " ++ count ++ " of "
  | .atMost => "at most " ++ count ++ " of "

def closing (which : Presence) (threshold : Nat) : String :=
  let verb := if threshold = 1 then "is" else "are"
  match which with
  | .atLeast => " " ++ verb ++ " required"
  | .atMost => " " ++ verb ++ " allowed"

end Presence

namespace Message

/-- Labels in prose: commas, and the last label after an "and". -/
def listing : List Label → Template
  | [] => []
  | [only] => [.label only]
  | [first, last] => [.label first, .words " and ", .label last]
  | first :: rest => .label first :: .words ", " :: listing rest

def template : Message → Template
  | .custom text => [.words text]
  | .complaint content => [.label content.label, .words (" " ++ content.finding.text)]
  | .presence which threshold labels =>
    .words (which.opening threshold) :: listing labels ++ [.words (which.closing threshold)]

end Message

variable {quotes : Quotes} {front : String}

theorem Label.after_empty (label : Label) : label.after "" = label.text := by
  cases label <;> rfl

namespace Template

theorem render_nil : render quotes front [] = "" :=
  String.join_nil

theorem render_cons (piece : Piece) (rest : Template) :
    render quotes front (piece :: rest) =
      piece.render quotes front ++ render quotes front rest := by
  rw [render, List.map_cons, String.join_cons, render]

theorem render_append (first second : Template) :
    render quotes front (first ++ second) =
      render quotes front first ++ render quotes front second := by
  rw [render, List.map_append, String.join_append, render, render]

end Template

namespace Message

theorem enumeration_cons (first second third : String) (rest : List String) :
    enumeration (first :: second :: third :: rest) =
      first ++ ", " ++ enumeration (second :: third :: rest) := by
  simp [enumeration, String.intercalate_cons_cons, String.append_assoc]

theorem render_listing (quotes : Quotes) (front : String) (labels : List Label) :
    Template.render quotes front (listing labels) =
      enumeration (labels.map fun label => quotes.wrap (label.after front)) := by
  induction labels using listing.induct with
  | case1 => exact Template.render_nil
  | case2 only => simp [listing, Template.render, Piece.render, enumeration]
  | case3 first last =>
      simp [listing, Template.render, Piece.render, enumeration, String.append_assoc]
  | case4 first rest notEmpty notSingle ih =>
      match rest with
      | [] => exact absurd rfl notEmpty
      | [last] => exact absurd rfl (notSingle last)
      | second :: third :: others =>
          rw [listing, Template.render_cons, Template.render_cons, ih]
          · simp only [List.map_cons, enumeration_cons, Piece.render, String.append_assoc]
          · exact notEmpty
          · exact notSingle

theorem presenceText_eq (which : Presence) (threshold : Nat) (fields : String) :
    presenceText which threshold fields =
      which.opening threshold ++ fields ++ which.closing threshold := by
  unfold presenceText Presence.opening Presence.closing
  cases which <;> simp only [String.append_assoc]

/-- The quotes of a message are those around the labels of its template. -/
theorem render_template (message : Message) :
    message.template.render quotes "" = message.render quotes := by
  cases message with
  | custom text => simp [template, Template.render, Piece.render, render]
  | complaint content =>
      simp [template, Template.render, Piece.render, render, Label.after_empty,
        String.append_assoc]
  | presence which threshold labels =>
      have listed := render_listing quotes "" labels
      simp only [Label.after_empty] at listed
      rw [template, Template.render_append, Template.render_cons, listed, render, presenceText_eq]
      simp [Template.render, Piece.render]

example : (template (.presence .atLeast 1 [.place [.key "a"], .named "b"])).render .single "" =
    "at least one of 'a' and 'b' is required" := by decide

end Message

end Rulebook
