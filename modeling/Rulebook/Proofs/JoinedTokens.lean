import Rulebook.Proofs.Transparency

/-!
Joined tokens. The tokens of a rule stand in a list, or in one text with bars between them. As long
as no token holds a bar the two say the same: cut at its bars, the text gives the tokens back. Only
the empty text is cut into no token at all, where the list it was joined from may have one.
-/

namespace Rulebook

section

variable {separator : Char} {mark : String} (written : mark.toList = [separator])

include written

theorem splitText_intercalate {tokens : List String} (nonempty : tokens ≠ [])
    (plain : ∀ token ∈ tokens, separator ∉ token.toList) :
    splitText separator (mark.intercalate tokens) = tokens := by
  have texts : ∀ text ∈ tokens.map String.toList, separator ∉ text := by simpa using plain
  rw [splitText, String.toList_intercalate, written,
    List.splitOn_intercalate separator texts (by simpa using nonempty)]
  simp [Function.comp_def]

theorem intercalate_splitText (text : String) :
    mark.intercalate (splitText separator text) = text := by
  rw [← String.toList_inj, String.toList_intercalate, written, splitText, List.map_map]
  simp only [Function.comp_def, String.toList_ofList, List.map_id']
  exact List.intercalate_splitOn separator

end

theorem splitText_ne_nil (separator : Char) (text : String) : splitText separator text ≠ [] := by
  rw [splitText, ne_eq, List.map_eq_nil_iff]
  exact List.splitOn_ne_nil separator text.toList

theorem Text.not_mem_of_mem_splitOn {separator : Char} {text piece : List Char}
    (member : piece ∈ text.splitOn separator) : separator ∉ piece := by
  induction text generalizing piece with
  | nil => simp_all
  | cons c rest ih =>
      rw [List.splitOn_cons_eq_if_modifyHead] at member
      cases cut : rest.splitOn separator with
      | nil => exact absurd cut (List.splitOn_ne_nil separator rest)
      | cons first others =>
          rw [cut] at member ih
          -- A separator opens a new piece; any other character goes in front of the first one.
          by_cases same : c = separator
          · simp only [same, beq_self_eq_true, if_true, List.mem_cons] at member
            rcases member with rfl | later
            · exact List.not_mem_nil
            · exact ih (List.mem_cons.mpr later)
          · simp only [beq_iff_eq, same, if_false, List.modifyHead_cons, List.mem_cons] at member
            rcases member with rfl | later
            · have inFirst : separator ∉ first := ih List.mem_cons_self
              simp [inFirst, Ne.symm same]
            · exact ih (List.mem_cons_of_mem first later)

theorem not_mem_of_mem_splitText {separator : Char} {text token : String}
    (member : token ∈ splitText separator text) : separator ∉ token.toList := by
  obtain ⟨piece, cut, rfl⟩ := List.mem_map.mp member
  rw [String.toList_ofList]
  exact Text.not_mem_of_mem_splitOn cut

/-- What makes a list the cut of a text. -/
theorem splitText_eq_iff {separator : Char} {mark text : String} {tokens : List String}
    (written : mark.toList = [separator]) :
    splitText separator text = tokens ↔
      tokens ≠ [] ∧ (∀ token ∈ tokens, separator ∉ token.toList) ∧
        mark.intercalate tokens = text := by
  constructor
  · rintro rfl
    refine ⟨splitText_ne_nil separator text, ?_, intercalate_splitText written text⟩
    intro token
    exact not_mem_of_mem_splitText
  · rintro ⟨nonempty, plain, rfl⟩
    exact splitText_intercalate written nonempty plain

theorem Rule.tokens_text {text : String} (nonempty : text ≠ "") :
    (Rule.text text).tokens = splitText '|' text := by
  rw [tokens, if_neg (by simpa using nonempty)]

theorem Rule.tokens_text_intercalate {tokens : List String} (nonempty : tokens ≠ [])
    (other : tokens ≠ [""]) (plain : ∀ token ∈ tokens, '|' ∉ token.toList) :
    (Rule.text ("|".intercalate tokens)).tokens = tokens := by
  have cut : splitText '|' ("|".intercalate tokens) = tokens :=
    splitText_intercalate rfl nonempty plain
  rw [tokens_text _, cut]
  intro empty
  rw [empty] at cut
  exact other cut.symm

/-- Whether this is the fault of the first token that cannot be read. -/
def FirstFault (tokens : List String) (fault : Fault) : Prop :=
  ∃ front token back, tokens = front ++ token :: back ∧ Directive.read token = .error fault ∧
    ∀ earlier ∈ front, ∃ directive, Directive.read earlier = .ok directive

theorem FieldRules.read_eq_error_iff {key : String} {tokens : List String} {fault : Fault} :
    FieldRules.read key tokens = .error fault ↔ FirstFault tokens fault := by
  rw [← Run.fault?_eq_some_iff, read, Run.fault?_map, Run.fault?_mapM, List.findSome?_eq_some_iff]
  simp only [Run.fault?_eq_some_iff, Run.fault?_eq_none_iff, FirstFault]

section

variable {key : String} (plain : ∀ which : Presence, key ≠ which.key) (path : String)

include plain

theorem Node.ofRule_of_texts {rule : Rule} (texts : rule.groups?.isSome) :
    Node.ofRule path key rule = (FieldRules.read key rule.tokens).map .field := by
  unfold Node.ofRule
  rw [Presence.ofKey?_eq_none_iff.mpr plain]
  cases rule with
  | text directives => rfl
  | list directives => rfl
  | nested rules => cases texts
  | each rules => cases texts

/-- What the field of a key is made of its tokens, whichever form they are written in. -/
theorem Node.ofRule_of_tokens (rule : Rule) (texts : rule.groups?.isSome) {tokens : List String}
    (split : rule.tokens = tokens) :
    (∀ field : FieldRules, field.MadeOf key tokens →
      Node.ofRule path key rule = .ok (.field field)) ∧
    ∀ fault, FirstFault tokens fault → Node.ofRule path key rule = .error fault := by
  rw [Node.ofRule_of_texts plain path texts, split]
  constructor
  · intro field made
    rw [FieldRules.read_eq_ok_iff.mpr made]
    rfl
  · intro fault first
    rw [FieldRules.read_eq_error_iff.mpr first]
    rfl

end

theorem FieldRules.madeOf_or_firstFault (key : String) (tokens : List String) :
    (∃ field : FieldRules, field.MadeOf key tokens) ∨ ∃ fault, FirstFault tokens fault := by
  cases run : FieldRules.read key tokens with
  | ok field => exact .inl ⟨field, FieldRules.read_eq_ok_iff.mp run⟩
  | error fault => exact .inr ⟨fault, FieldRules.read_eq_error_iff.mp run⟩

/-- Under a key that is no presence key, tokens without bars make the same field, or come to the same
fault, whether they stand in a list or are joined by bars; and every text that is not empty is joined
from its tokens and from no other list. Of the empty token alone the two forms make fields that
differ, but neither of these ever has anything to say. -/
theorem Rule.text_agrees_with_list (path key : String)
    (plain : ∀ which : Presence, key ≠ which.key) :
    (∀ tokens : List String, tokens ≠ [] → tokens ≠ [""] →
      (∀ token ∈ tokens, '|' ∉ token.toList) →
      (∃ field : FieldRules, field.MadeOf key tokens ∧
        Node.ofRule path key (.text ("|".intercalate tokens)) = .ok (.field field) ∧
        Node.ofRule path key (.list tokens) = .ok (.field field)) ∨
      ∃ fault, FirstFault tokens fault ∧
        Node.ofRule path key (.text ("|".intercalate tokens)) = .error fault ∧
        Node.ofRule path key (.list tokens) = .error fault) ∧
    (∀ text tokens, text ≠ "" →
      ((Rule.text text).tokens = tokens ↔
        tokens ≠ [] ∧ (∀ token ∈ tokens, '|' ∉ token.toList) ∧ "|".intercalate tokens = text)) ∧
    (∃ field other : FieldRules,
      Node.ofRule path key (.text ("|".intercalate [""])) = .ok (.field field) ∧
      Node.ofRule path key (.list [""]) = .ok (.field other) ∧
      field.directives = [] ∧ other.directives = [.clause (.unknown "")] ∧
      ∀ (strict : Bool) (data : Value) (place : Place),
        Node.review strict (.field field) key data place = .ok [] ∧
        Node.review strict (.field other) key data place = .ok []) := by
  refine ⟨?_, ?_, ?_⟩
  · intro tokens nonempty other barless
    have fromText := Node.ofRule_of_tokens plain path (.text ("|".intercalate tokens)) rfl
      (tokens_text_intercalate nonempty other barless)
    have fromList := Node.ofRule_of_tokens plain path (.list tokens) rfl rfl
    rcases FieldRules.madeOf_or_firstFault key tokens with ⟨field, made⟩ | ⟨fault, first⟩
    · exact .inl ⟨field, made, fromText.1 field made, fromList.1 field made⟩
    · exact .inr ⟨fault, first, fromText.2 fault first, fromList.2 fault first⟩
  · intro text tokens nonempty
    rw [tokens_text nonempty]
    exact splitText_eq_iff rfl
  · refine ⟨.ofDirectives key [], .ofDirectives key [.clause (.unknown "")], ?_, ?_, rfl, rfl, ?_⟩
    · exact Node.ofRule_of_texts plain path rfl
    · exact Node.ofRule_of_texts plain path rfl
    · intro strict data place
      rw [Node.review, Node.review]
      exact ⟨rfl, rfl⟩

theorem Rule.text_agrees_with_list_repeats :
    (∀ which : Presence, "name" ≠ which.key) ∧
    ["string", "", "string", "size:ten", ""] ≠ [] ∧
    ["string", "", "string", "size:ten", ""] ≠ [""] ∧
    (∀ token ∈ ["string", "", "string", "size:ten", ""], '|' ∉ token.toList) ∧
    (∃ fault, FirstFault ["string", "", "string", "size:ten", ""] fault ∧
      Node.ofRule "" "name" (.text "string||string|size:ten|") = .error fault ∧
      Node.ofRule "" "name" (.list ["string", "", "string", "size:ten", ""]) = .error fault) ∧
    "string|" ≠ "" ∧ (Rule.text "string|").tokens = ["string", ""] := by
  have plain : ∀ which : Presence, "name" ≠ which.key := by
    intro which
    cases which <;> decide
  have barless : ∀ token ∈ ["string", "", "string", "size:ten", ""], '|' ∉ token.toList := by
    decide
  obtain ⟨agree, cut, _⟩ := Rule.text_agrees_with_list "" "name" plain
  refine ⟨plain, by decide, by decide, barless, ?_, by decide, ?_⟩
  · rcases agree _ (by decide) (by decide) barless with ⟨field, _, _, fromList⟩ | faulted
    · cases fromList
    · exact faulted
  · exact (cut _ _ (by decide)).mpr ⟨by decide, by decide, rfl⟩

end Rulebook
