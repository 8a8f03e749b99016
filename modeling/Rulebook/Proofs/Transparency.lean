import Rulebook.Proofs.MissingValues
import Rulebook.Proofs.Shapes

/-!
Transparency. Of the tokens of a rule only checks and markers ask for something. The first title and
the first message bear on how it is told what is wrong, and no other token on anything.
-/

namespace Rulebook

namespace Directive

/-- Whether a directive is a check or a marker. -/
def asks : Directive → Bool
  | .title _ | .message _ | .clause (.unknown _) => false
  | .clause _ => true

/-- Whether a token is a check or a marker, as far as it can be read. -/
def isAskingToken (token : String) : Bool :=
  match read token with
  | .ok directive => directive.asks
  | .error _ => true

def isUnknownToken (token : String) : Bool :=
  match read token with
  | .ok (.clause (.unknown _)) => true
  | _ => false

theorem judgeAll_filter_asks (label : Label) (value : Value) (scope : Scope)
    (directives : List Directive) :
    Clause.judgeAll label value scope ((directives.filter asks).filterMap clause?) =
      Clause.judgeAll label value scope (directives.filterMap clause?) := by
  induction directives generalizing scope with
  | nil => rfl
  | cons next rest ih =>
      cases asking : next.asks with
      | true =>
          rw [List.filter_cons_of_pos asking]
          cases next with
          | clause content =>
              simp only [List.filterMap_cons, clause?, Clause.judgeAll, ih]
          | _ => cases asking
      | false =>
          rw [List.filter_cons_of_neg (by simp [asking]), ih]
          cases next with
          | clause content =>
              cases content with
              | unknown token => rfl
              | _ => cases asking
          | _ => rfl

theorem mapM_read_filter (tokens : List String) :
    (tokens.filter isAskingToken).mapM read =
      (tokens.mapM read).map fun directives => directives.filter asks := by
  induction tokens with
  | nil => rfl
  | cons token rest ih =>
      rw [List.mapM_cons, List.filter_cons, isAskingToken]
      -- A token that cannot be read is kept, or its fault would be lost.
      cases taken : read token with
      | error fault =>
          rw [if_pos rfl, List.mapM_cons, taken]
          rfl
      | ok directive =>
          cases asking : directive.asks with
          | true =>
              simp only [asking, if_true, List.mapM_cons, taken, ih]
              cases rest.mapM read with
              | error fault => rfl
              | ok directives => simp [bind, Except.bind, pure, Except.pure, Except.map, asking]
          | false =>
              simp only [asking, Bool.false_eq_true, if_false, ih]
              cases rest.mapM read with
              | error fault => rfl
              | ok directives => simp [bind, Except.bind, pure, Except.pure, Except.map, asking]

end Directive

namespace FieldRules

/-- What a rule says of a data tree under a key: it is read from its tokens, and what the review
finds is worded. -/
def reports (key : String) (tokens : List String) (settings : Settings) (data : Value)
    (place : Place) : Except Fault (List String) := do
  let field ← FieldRules.read key tokens
  rendered settings.quotes (Node.review settings.strict (.field field) key data place)

/-- Whether two rules say the same under every key, of all data and under all settings. -/
def SayAlike (tokens others : List String) : Prop :=
  ∀ (key : String) (settings : Settings) (data : Value) (place : Place),
    reports key tokens settings data place = reports key others settings data place

/-- The field of a key with a title and a message that are given apart from its directives. -/
def worded (key : String) (title message : Option String) (directives : List Directive) :
    FieldRules :=
  { directives
    title := if isItemLabel key then none else title
    message }

theorem review_filter_asks (field : FieldRules) (place : Place) (value : Value) :
    review { field with directives := field.directives.filter Directive.asks } place value =
      field.review place value := by
  have same := Directive.judgeAll_filter_asks (field.label place) value .fresh field.directives
  rw [review, review, complaints, complaints, clauses, clauses, ← same]
  rfl

theorem reports_eq (key : String) (tokens : List String) (settings : Settings) (data : Value)
    (place : Place) :
    reports key tokens settings data place =
      (tokens.filter Directive.isAskingToken).mapM Directive.read >>= fun directives =>
        rendered settings.quotes ((worded key (firstPayload? "field:" tokens)
          (firstPayload? "error:" tokens) directives).review (place ++ [.key key])
            (data.resolve key)) := by
  rw [Directive.mapM_read_filter, reports, FieldRules.read]
  cases taken : tokens.mapM Directive.read with
  | error fault => rfl
  | ok directives =>
      have read := Run.mapM_eq_ok_iff.mp taken
      have same : ofDirectives key directives = worded key (firstPayload? "field:" tokens)
          (firstPayload? "error:" tokens) directives := by
        rw [ofDirectives, firstPayload?_eq read Directive.title?_of_read,
          firstPayload?_eq read Directive.message?_of_read]
        rfl
      have kept := review_filter_asks (ofDirectives key directives) (place ++ [.key key])
        (data.resolve key)
      rw [same] at kept
      simp only [bind, Except.map, Except.bind, Node.review, same]
      rw [← kept]
      rfl

theorem SayAlike.of_asking {tokens others : List String}
    (asked : tokens.filter Directive.isAskingToken = others.filter Directive.isAskingToken)
    (title : firstPayload? "field:" tokens = firstPayload? "field:" others)
    (message : firstPayload? "error:" tokens = firstPayload? "error:" others) :
    SayAlike tokens others := by
  intro key settings data place
  rw [reports_eq, reports_eq, asked, title, message]

/-- A rule with a message of its own in place of all that there is to say. -/
theorem rendered_review_message (quotes : Quotes) (key text : String) (title : Option String)
    (directives : List Directive) (place : Place) (value : Value) :
    rendered quotes ((worded key title (some text) directives).review place value) =
      (rendered quotes ((worded key title none directives).review place value)).map
        fun messages => if messages.isEmpty then [] else [text] := by
  rw [rendered, rendered, review, review, Run.map_map, Run.map_map, Run.map_map]
  congr 1
  funext complaints
  cases complaints <;> rfl

/-- Whether there is something to say hangs neither on the label nor on the wording. -/
theorem isEmpty_review (quotes : Quotes) (field : FieldRules) (place : Place) (value : Value) :
    (rendered quotes (field.review place value)).map List.isEmpty =
      (Clause.judgeAll (.named "") value .fresh field.clauses).map List.isEmpty := by
  have counted (label : Label) :
      (Clause.judgeAll label value .fresh field.clauses).map List.isEmpty =
        ((Clause.judgeAll label value .fresh field.clauses).map
          (List.map (Complaint.seen Label.blank))).map List.isEmpty := by
    rw [Run.map_map]
    congr 1
    funext complaints
    cases complaints <;> rfl
  have same : Label.blank (field.label place) = Label.blank (.named "") := rfl
  rw [counted, ← Clause.judgeAll_seen Label.blank_steady same, ← counted, rendered, review,
    Run.map_map, Run.map_map]
  congr 1
  funext found
  cases field.message <;> cases found <;> rfl

end FieldRules

theorem after?_append (word payload : String) :
    Text.after? word.toList (word ++ payload).toList = some payload.toList := by
  rw [Text.after?_eq_some_iff, String.toList_append]

theorem eq_append_of_after? {word token : String} {rest : List Char}
    (begins : Text.after? word.toList token.toList = some rest) :
    token = word ++ String.ofList rest := by
  rw [← String.toList_inj, (Text.after?_eq_some_iff _ _ _).mp begins]
  simp

theorem after?_eq_none_iff {word token : String} :
    Text.after? word.toList token.toList = none ↔ ∀ rest, token ≠ word ++ rest := by
  rw [Option.eq_none_iff_forall_ne_some]
  constructor
  · intro unbegun rest same
    rw [same] at unbegun
    exact unbegun _ (after?_append word rest)
  · intro other rest begins
    exact other _ (eq_append_of_after? begins)

theorem firstPayload?_cons (word token : String) (rest : List String) :
    firstPayload? word (token :: rest) =
      ((Text.after? word.toList token.toList).map String.ofList).or (firstPayload? word rest) := by
  rw [firstPayload?, List.findSome?_cons]
  cases Text.after? word.toList token.toList <;> rfl

theorem firstPayload?_append (word : String) (front back : List String) :
    firstPayload? word (front ++ back) = (firstPayload? word front).or (firstPayload? word back) :=
  List.findSome?_append

theorem firstPayload?_filter {word : String} {picked : String → Bool}
    (silent : ∀ token, picked token = false → Text.after? word.toList token.toList = none)
    (tokens : List String) :
    firstPayload? word (tokens.filter picked) = firstPayload? word tokens := by
  induction tokens with
  | nil => rfl
  | cons token rest ih =>
      cases chosen : picked token with
      | true => rw [List.filter_cons_of_pos chosen, firstPayload?_cons, firstPayload?_cons, ih]
      | false =>
          rw [List.filter_cons_of_neg (by simp [chosen]), ih, firstPayload?_cons,
            silent token chosen]
          rfl

namespace Directive

theorem quiet_of_read {token : String} {directive : Directive}
    (taken : read token = .ok directive) (bare : directive.asks = false) :
    isAskingToken token = false := by
  rw [isAskingToken, taken]
  exact bare

theorem silent_of_untitled {token : String} {directive : Directive}
    (taken : read token = .ok directive) (untitled : directive.title? = none) :
    Text.after? "field:".toList token.toList = none := by
  rw [title?_of_read taken, Option.map_eq_none_iff] at untitled
  exact untitled

theorem silent_of_unworded {token : String} {directive : Directive}
    (taken : read token = .ok directive) (unworded : directive.message? = none) :
    Text.after? "error:".toList token.toList = none := by
  rw [message?_of_read taken, Option.map_eq_none_iff] at unworded
  exact unworded

theorem exists_read_of_unknown {token : String} (unknown : isUnknownToken token = true) :
    ∃ text, read token = .ok (.clause (.unknown text)) := by
  rw [isUnknownToken] at unknown
  split at unknown
  · rename_i text taken
    exact ⟨text, taken⟩
  · cases unknown

theorem exists_read_of_title {token : String}
    (begins : (Text.after? "field:".toList token.toList).isSome) :
    ∃ name, read token = .ok (.title name) := by
  obtain ⟨name, begun⟩ := Option.isSome_iff_exists.mp begins
  refine ⟨String.ofList name, ?_⟩
  rw [read, begun]

theorem exists_read_of_message {token : String}
    (begins : (Text.after? "error:".toList token.toList).isSome) :
    ∃ text, read token = .ok (.message text) := by
  obtain ⟨text, begun⟩ := Option.isSome_iff_exists.mp begins
  have untitled : Text.after? "field:".toList token.toList = none := by
    rw [(Text.after?_eq_some_iff _ _ _).mp begun]
    rfl
  refine ⟨String.ofList text, ?_⟩
  rw [read, untitled, begun]

end Directive

namespace FieldRules

section

variable {tokens others : List String} {picked : String → Bool}
  (kept : tokens.filter picked = others.filter picked)

include kept

theorem firstPayload?_of_kept {word : String}
    (silent : ∀ token, picked token = false → Text.after? word.toList token.toList = none) :
    firstPayload? word tokens = firstPayload? word others := by
  rw [← firstPayload?_filter silent tokens, kept, firstPayload?_filter silent others]

theorem firstTitle_of_kept
    (untitled : ∀ token, picked token = false →
      ∃ directive, Directive.read token = .ok directive ∧ directive.title? = none) :
    firstPayload? "field:" tokens = firstPayload? "field:" others := by
  apply firstPayload?_of_kept kept
  intro token dropped
  obtain ⟨directive, taken, none⟩ := untitled token dropped
  exact Directive.silent_of_untitled taken none

theorem firstMessage_of_kept
    (unworded : ∀ token, picked token = false →
      ∃ directive, Directive.read token = .ok directive ∧ directive.message? = none) :
    firstPayload? "error:" tokens = firstPayload? "error:" others := by
  apply firstPayload?_of_kept kept
  intro token dropped
  obtain ⟨directive, taken, none⟩ := unworded token dropped
  exact Directive.silent_of_unworded taken none

/-- Tokens that ask for nothing may be dropped, as long as the first payloads stay. -/
theorem SayAlike.of_kept
    (quiet : ∀ token, picked token = false →
      ∃ directive, Directive.read token = .ok directive ∧ directive.asks = false)
    (title : firstPayload? "field:" tokens = firstPayload? "field:" others)
    (message : firstPayload? "error:" tokens = firstPayload? "error:" others) :
    SayAlike tokens others := by
  have asked (rule : List String) : (rule.filter picked).filter Directive.isAskingToken =
      rule.filter Directive.isAskingToken := by
    rw [List.filter_filter]
    apply List.filter_congr
    intro token _
    cases chosen : picked token with
    | true => simp
    | false =>
        obtain ⟨directive, taken, bare⟩ := quiet token chosen
        rw [Directive.quiet_of_read taken bare]
        rfl
  apply SayAlike.of_asking _ title message
  rw [← asked tokens, kept, asked others]

end

section

variable {tokens others : List String}

theorem SayAlike.of_known
    (kept : (tokens.filter fun token => !Directive.isUnknownToken token) =
      others.filter fun token => !Directive.isUnknownToken token) : SayAlike tokens others := by
  have unknown (token : String) (dropped : (!Directive.isUnknownToken token) = false) :
      ∃ text, Directive.read token = .ok (.clause (.unknown text)) :=
    Directive.exists_read_of_unknown (by simpa using dropped)
  refine SayAlike.of_kept kept ?_ (firstTitle_of_kept kept ?_) (firstMessage_of_kept kept ?_)
  all_goals
    intro token dropped
    obtain ⟨text, taken⟩ := unknown token dropped
    exact ⟨_, taken, rfl⟩

def beginsWith (word token : String) : Bool :=
  (Text.after? word.toList token.toList).isSome

theorem SayAlike.of_first {word : String} (listed : word ∈ ["field:", "error:"])
    (kept : (tokens.filter fun token => !beginsWith word token) =
      others.filter fun token => !beginsWith word token)
    (first : firstPayload? word tokens = firstPayload? word others) : SayAlike tokens others := by
  simp only [List.mem_cons, List.not_mem_nil, or_false] at listed
  rcases listed with rfl | rfl
  · have titled (token : String) (dropped : (!beginsWith "field:" token) = false) :
        ∃ name, Directive.read token = .ok (.title name) :=
      Directive.exists_read_of_title (by simpa [beginsWith] using dropped)
    refine SayAlike.of_kept kept ?_ first (firstMessage_of_kept kept ?_)
    all_goals
      intro token dropped
      obtain ⟨name, taken⟩ := titled token dropped
      exact ⟨_, taken, rfl⟩
  · have worded (token : String) (dropped : (!beginsWith "error:" token) = false) :
        ∃ text, Directive.read token = .ok (.message text) :=
      Directive.exists_read_of_message (by simpa [beginsWith] using dropped)
    refine SayAlike.of_kept kept ?_ (firstTitle_of_kept kept ?_) first
    all_goals
      intro token dropped
      obtain ⟨text, taken⟩ := worded token dropped
      exact ⟨_, taken, rfl⟩

end

theorem beginsWith_append (word payload : String) : beginsWith word (word ++ payload) = true := by
  rw [beginsWith, after?_append]
  rfl

/-- A message of its own takes the place of all that a rule without one has to say. -/
theorem reports_insert_message {before after : List String}
    (unworded : firstPayload? "error:" (before ++ after) = none) (payload key : String)
    (settings : Settings) (data : Value) (place : Place) :
    reports key (before ++ ("error:" ++ payload) :: after) settings data place =
      (reports key (before ++ after) settings data place).map fun messages =>
        if messages.isEmpty then [] else [payload] := by
  obtain ⟨text, taken⟩ := Directive.exists_read_of_message (beginsWith_append "error:" payload)
  have asked : (before ++ ("error:" ++ payload) :: after).filter Directive.isAskingToken =
      (before ++ after).filter Directive.isAskingToken := by
    have quiet := Directive.quiet_of_read taken rfl
    rw [List.filter_append, List.filter_append, List.filter_cons_of_neg (by simp [quiet])]
  have title : firstPayload? "field:" (before ++ ("error:" ++ payload) :: after) =
      firstPayload? "field:" (before ++ after) := by
    rw [firstPayload?_append, firstPayload?_append, firstPayload?_cons,
      Directive.silent_of_untitled taken rfl]
    rfl
  have message : firstPayload? "error:" (before ++ ("error:" ++ payload) :: after) =
      some payload := by
    rw [firstPayload?_append, Option.or_eq_none_iff] at unworded
    rw [firstPayload?_append, unworded.1, firstPayload?_cons, after?_append,
      Option.map_some, String.ofList_toList]
    rfl
  rw [reports_eq, reports_eq, asked, title, message, unworded, Run.map_bind]
  simp only [rendered_review_message]

theorem isEmpty_reports_of_filter {tokens others : List String}
    (asked : tokens.filter Directive.isAskingToken = others.filter Directive.isAskingToken)
    (key : String) (settings : Settings) (data : Value) (place : Place) :
    (reports key tokens settings data place).map List.isEmpty =
      (reports key others settings data place).map List.isEmpty := by
  rw [reports_eq, reports_eq, asked, Run.map_bind, Run.map_bind]
  simp only [isEmpty_review]
  rfl

/-- What a rule says hangs on its checks and markers in order, on its first title and on its first
message. So unknown tokens may come and go, titles and messages may move about while the first of
each stays the first, and later ones may be added. A message of its own replaces what there is to
say, and whether there is anything hangs on the checks and markers alone. -/
theorem reports_transparent :
    (∀ tokens others : List String,
      tokens.filter Directive.isAskingToken = others.filter Directive.isAskingToken →
      firstPayload? "field:" tokens = firstPayload? "field:" others →
      firstPayload? "error:" tokens = firstPayload? "error:" others → SayAlike tokens others) ∧
    (∀ tokens others : List String,
      (tokens.filter fun token => !Directive.isUnknownToken token) =
        (others.filter fun token => !Directive.isUnknownToken token) → SayAlike tokens others) ∧
    Directive.isUnknownToken "" = true ∧
    (∀ word ∈ ["field:", "error:"], ∀ (payload : String) (before between after : List String),
      firstPayload? word (before ++ (word ++ payload) :: (between ++ after)) =
        firstPayload? word (before ++ between ++ (word ++ payload) :: after) →
      SayAlike (before ++ (word ++ payload) :: (between ++ after))
        (before ++ between ++ (word ++ payload) :: after)) ∧
    (∀ word ∈ ["field:", "error:"], ∀ (payload : String) (before after : List String),
      (firstPayload? word before).isSome →
      SayAlike (before ++ (word ++ payload) :: after) (before ++ after)) ∧
    (∀ (payload : String) (before after : List String),
      firstPayload? "error:" (before ++ after) = none → ∀ key settings data place,
        reports key (before ++ ("error:" ++ payload) :: after) settings data place =
          (reports key (before ++ after) settings data place).map fun messages =>
            if messages.isEmpty then [] else [payload]) ∧
    (∀ tokens others : List String,
      tokens.filter Directive.isAskingToken = others.filter Directive.isAskingToken →
      ∀ key settings data place,
        (reports key tokens settings data place).map List.isEmpty =
          (reports key others settings data place).map List.isEmpty) := by
  refine ⟨?_, ?_, ?_, ?_, ?_, ?_, ?_⟩
  · intro tokens others
    exact SayAlike.of_asking
  · intro tokens others
    exact SayAlike.of_known
  · rfl
  · intro word listed payload before between after first
    apply SayAlike.of_first listed _ first
    simp [beginsWith_append]
  · intro word listed payload before after first
    apply SayAlike.of_first listed
    · simp [beginsWith_append]
    · rw [firstPayload?_append, firstPayload?_append, Option.or_of_isSome first,
        Option.or_of_isSome first]
  · intro payload before after unworded
    exact reports_insert_message unworded payload
  · intro tokens others
    exact isEmpty_reports_of_filter

theorem reports_transparent_name :
    (["string", "field:Name", "title:Name", "size:2"].filter Directive.isAskingToken =
        ["field:Name", "", "string", "size:2", "field:Names"].filter Directive.isAskingToken ∧
      SayAlike ["string", "field:Name", "title:Name", "size:2"]
        ["field:Name", "", "string", "size:2", "field:Names"]) ∧
    (firstPayload? "error:" (["field:Name"] ++ ["string"]) = none ∧
      reports "name" (["field:Name"] ++ ("error:" ++ "Who is it?") :: ["string"]) ⟨.none, true⟩
        (.object [("name", .bool true)]) [] = .ok ["Who is it?"]) := by
  obtain ⟨alike, _, _, _, _, custom, _⟩ := reports_transparent
  have asked : ["string", "field:Name", "title:Name", "size:2"].filter Directive.isAskingToken =
      ["field:Name", "", "string", "size:2", "field:Names"].filter Directive.isAskingToken := rfl
  have unworded : firstPayload? "error:" (["field:Name"] ++ ["string"]) = none := rfl
  refine ⟨⟨asked, alike _ _ asked rfl rfl⟩, unworded, ?_⟩
  rw [custom _ _ _ unworded, reports_eq]
  rfl

end FieldRules

end Rulebook
