import Rulebook.Proofs.Arguments
import Rulebook.Proofs.Transparency

/-!
Presence groups. A group is read from tokens of three sorts, and only the order within each sort
matters. What it asks for is a count: so many of its fields are there, each as often as it is listed.
-/

namespace Rulebook

namespace PresenceToken

/-- What a token of a group stands for. -/
inductive Denoted : String → PresenceToken → Prop
  | size {argument : String} {count : Nat} : Text.SpellsCount argument count →
      Denoted ("size:" ++ argument) (.size count)
  | message (text : String) : Denoted ("error:" ++ text) (.message text)
  | field {token : String} : token ≠ "" → Text.after? "size:".toList token.toList = none →
      Text.after? "error:".toList token.toList = none → Denoted token (.field token)

def namesField (token : String) : Bool :=
  !FieldRules.beginsWith "size:" token && !FieldRules.beginsWith "error:" token

theorem unsized (text : String) : Text.after? "size:".toList ("error:" ++ text).toList = none := by
  rw [String.toList_append]
  rfl

theorem unworded (argument : String) :
    Text.after? "error:".toList ("size:" ++ argument).toList = none := by
  rw [String.toList_append]
  rfl

theorem read_eq_ok_iff {group token : String} {made : PresenceToken} :
    read group token = .ok made ↔ Denoted token made := by
  constructor
  · intro taken
    rw [read] at taken
    split at taken
    · rename_i argument begins
      obtain ⟨count, counted, rfl⟩ := Run.map_eq_ok_iff.mp taken
      rw [eq_append_of_after? begins]
      exact .size (Constraint.spells_of_readCount counted)
    · rename_i notSize
      split at taken
      · rename_i text begins
        cases taken
        rw [eq_append_of_after? begins]
        exact .message _
      · rename_i notMessage
        split at taken
        · cases taken
        · rename_i nonempty
          cases taken
          exact .field (by simpa using nonempty) notSize notMessage
  · intro denoted
    cases denoted with
    | size spells =>
        simp only [read, after?_append, Constraint.readCount_of_spells spells]
        rfl
    | message text => simp only [read, unsized, after?_append, String.ofList_toList]
    | field nonempty notSize notMessage =>
        simp only [read, notSize, notMessage, String.isEmpty_iff, nonempty, if_false]

variable {token : String} {made : PresenceToken}

theorem exists_denoted_token : (∃ made, Denoted token made) ↔
    token ≠ "" ∧ ∀ argument, token = "size:" ++ argument →
      ∃ count, Text.SpellsCount argument count := by
  constructor
  · rintro ⟨made, denoted⟩
    cases denoted with
    | size spells =>
        refine ⟨by simp, ?_⟩
        intro argument same
        rw [String.append_right_inj] at same
        exact ⟨_, same ▸ spells⟩
    | message text =>
        refine ⟨by simp, ?_⟩
        intro argument same
        simp [← String.toList_inj] at same
    | field nonempty notSize _ =>
        refine ⟨nonempty, ?_⟩
        rintro argument rfl
        rw [after?_append] at notSize
        cases notSize
  · rintro ⟨nonempty, counted⟩
    cases sized : Text.after? "size:".toList token.toList with
    | some argument =>
        have written := eq_append_of_after? sized
        obtain ⟨count, spells⟩ := counted _ written
        rw [written]
        exact ⟨_, .size spells⟩
    | none =>
        cases worded : Text.after? "error:".toList token.toList with
        | some text =>
            rw [eq_append_of_after? worded]
            exact ⟨_, .message _⟩
        | none => exact ⟨_, .field nonempty sized worded⟩

theorem Denoted.field? (denoted : Denoted token made) :
    made.field? = if namesField token then some token else none := by
  cases denoted with
  | size spells => simp [PresenceToken.field?, namesField, FieldRules.beginsWith_append]
  | message text => simp [PresenceToken.field?, namesField, FieldRules.beginsWith_append]
  | field _ notSize notMessage =>
      rw [namesField, FieldRules.beginsWith, FieldRules.beginsWith, notSize, notMessage]
      rfl

theorem Denoted.message? (denoted : Denoted token made) :
    made.message? = (Text.after? "error:".toList token.toList).map String.ofList := by
  cases denoted with
  | size spells => rw [unworded]; rfl
  | message text => rw [after?_append, Option.map_some, String.ofList_toList]; rfl
  | field _ _ notMessage => rw [notMessage]; rfl

end PresenceToken

namespace PresenceGroup

open PresenceToken

/-- When a group can be read. A later threshold counts for nothing, but it has to be one. -/
structure Readable (tokens : List String) : Prop where
  nonempty : "" ∉ tokens
  counted : ∀ argument, "size:" ++ argument ∈ tokens →
    ∃ count, Text.SpellsCount argument count
  named : ∃ token ∈ tokens, namesField token = true

/-- Whether a group is what tokens make. -/
structure MadeOf (tokens : List String) (group : PresenceGroup) : Prop where
  fields : group.fields = tokens.filter namesField
  threshold : ∀ argument, firstPayload? "size:" tokens = some argument →
    Text.SpellsCount argument group.threshold
  byDefault : firstPayload? "size:" tokens = none → group.threshold = 1
  message : group.message = firstPayload? "error:" tokens

theorem MadeOf.unique {tokens : List String} {group other : PresenceGroup}
    (made : group.MadeOf tokens) (alsoMade : other.MadeOf tokens) : group = other := by
  have fields : group.fields = other.fields := made.fields.trans alsoMade.fields.symm
  have message : group.message = other.message := made.message.trans alsoMade.message.symm
  have threshold : group.threshold = other.threshold := by
    cases first : firstPayload? "size:" tokens with
    | none => rw [made.byDefault first, alsoMade.byDefault first]
    | some argument =>
        exact (made.threshold argument first).unique (alsoMade.threshold argument first)
  cases group
  cases other
  simp_all only

section

variable {tokens : List String} {made : List PresenceToken}
  (denoted : List.Forall₂ Denoted tokens made)

include denoted

theorem fields_ofTokens : (ofTokens made).fields = tokens.filter namesField := by
  change made.filterMap PresenceToken.field? = tokens.filter namesField
  induction denoted with
  | nil => rfl
  | cons head _ ih =>
      rw [List.filterMap_cons, List.filter_cons, head.field?, ih]
      split
      · rename_i unnamed
        rw [if_neg (by simpa using unnamed)]
      · rename_i path named
        obtain ⟨names, rfl⟩ : _ ∧ _ = path := by simpa using named
        rw [if_pos names]

theorem threshold_ofTokens :
    (∀ argument, firstPayload? "size:" tokens = some argument →
      Text.SpellsCount argument (ofTokens made).threshold) ∧
    (firstPayload? "size:" tokens = none → (ofTokens made).threshold = 1) := by
  induction denoted with
  | nil =>
      refine ⟨?_, fun _ => rfl⟩
      intro argument first
      cases first
  | cons head _ ih =>
      rw [firstPayload?_cons]
      cases head with
      | size spells =>
          rw [after?_append, Option.map_some, String.ofList_toList, Option.some_or]
          refine ⟨?_, nofun⟩
          intro argument first
          cases first
          exact spells
      | message text =>
          rw [unsized]
          exact ih
      | field _ notSize _ =>
          rw [notSize]
          exact ih

theorem madeOf_ofTokens : (ofTokens made).MadeOf tokens where
  fields := fields_ofTokens denoted
  threshold := (threshold_ofTokens denoted).1
  byDefault := (threshold_ofTokens denoted).2
  message := firstPayload?_eq denoted Denoted.message?

end

theorem readable_iff {tokens : List String} :
    Readable tokens ↔
      (∀ token ∈ tokens, ∃ made, Denoted token made) ∧ tokens.filter namesField ≠ [] := by
  rw [ne_eq, List.filter_eq_nil_iff]
  simp only [not_forall, not_not, exists_denoted_token]
  constructor
  · intro readable
    obtain ⟨token, named, names⟩ := readable.named
    refine ⟨?_, token, named, names⟩
    intro token member
    refine ⟨?_, ?_⟩
    · rintro rfl
      exact readable.nonempty member
    · rintro argument rfl
      exact readable.counted argument member
  · rintro ⟨stand, token, member, names⟩
    refine ⟨?_, ?_, token, member, names⟩
    · intro empty
      exact (stand "" empty).1 rfl
    · intro argument listed
      exact (stand _ listed).2 argument rfl

theorem exists_denoted_iff {tokens : List String} :
    (∃ made, List.Forall₂ Denoted tokens made) ↔ ∀ token ∈ tokens, ∃ made, Denoted token made := by
  have each : (∃ made, tokens.mapM (PresenceToken.read "") = .ok made) ↔ _ := Run.mapM_yields_iff
  simpa only [Run.mapM_eq_ok_iff, PresenceToken.read_eq_ok_iff] using each

theorem Readable.exists_madeOf {tokens : List String} (readable : Readable tokens) :
    ∃ group : PresenceGroup, group.MadeOf tokens := by
  obtain ⟨made, denoted⟩ := exists_denoted_iff.mpr (readable_iff.mp readable).1
  exact ⟨ofTokens made, madeOf_ofTokens denoted⟩

theorem read_eq_ok_iff {text : String} {group : PresenceGroup} :
    read text = .ok group ↔
      Readable (splitText '|' text) ∧ group.MadeOf (splitText '|' text) := by
  rw [read, Run.bind_eq_ok_iff]
  simp only [Run.mapM_eq_ok_iff, PresenceToken.read_eq_ok_iff, readable_iff, ← exists_denoted_iff,
    List.isEmpty_iff]
  constructor
  · rintro ⟨made, denoted, kept⟩
    have fields := fields_ofTokens denoted
    by_cases empty : (ofTokens made).fields = []
    · rw [if_pos empty] at kept
      cases kept
    · rw [if_neg empty] at kept
      cases kept
      exact ⟨⟨⟨made, denoted⟩, fields ▸ empty⟩, madeOf_ofTokens denoted⟩
  · rintro ⟨⟨⟨made, denoted⟩, nonempty⟩, madeOf⟩
    refine ⟨made, denoted, ?_⟩
    rw [← fields_ofTokens denoted] at nonempty
    rw [if_neg nonempty, madeOf.unique (madeOf_ofTokens denoted)]
    rfl

/-- Whether two lists differ in nothing but how tokens of different sorts are interleaved. -/
structure Interleaved (tokens others : List String) : Prop where
  fields : tokens.filter namesField = others.filter namesField
  sizes : tokens.filter (FieldRules.beginsWith "size:") =
    others.filter (FieldRules.beginsWith "size:")
  messages : tokens.filter (FieldRules.beginsWith "error:") =
    others.filter (FieldRules.beginsWith "error:")

theorem firstPayload?_beginsWith (word : String) (tokens : List String) :
    firstPayload? word (tokens.filter (FieldRules.beginsWith word)) = firstPayload? word tokens := by
  apply firstPayload?_filter
  intro token other
  simpa [FieldRules.beginsWith] using other

namespace Interleaved

variable {tokens others : List String}

theorem symm (mixed : Interleaved tokens others) : Interleaved others tokens where
  fields := mixed.fields.symm
  sizes := mixed.sizes.symm
  messages := mixed.messages.symm

theorem readable (mixed : Interleaved tokens others) (readable : Readable tokens) :
    Readable others := by
  refine ⟨?_, ?_, ?_⟩
  · intro empty
    have kept : "" ∈ others.filter namesField := List.mem_filter.mpr ⟨empty, rfl⟩
    rw [← mixed.fields] at kept
    exact readable.nonempty (List.mem_of_mem_filter kept)
  · intro argument listed
    have kept : "size:" ++ argument ∈ others.filter (FieldRules.beginsWith "size:") :=
      List.mem_filter.mpr ⟨listed, FieldRules.beginsWith_append "size:" argument⟩
    rw [← mixed.sizes] at kept
    exact readable.counted argument (List.mem_of_mem_filter kept)
  · obtain ⟨token, listed, names⟩ := readable.named
    have kept : token ∈ tokens.filter namesField := List.mem_filter.mpr ⟨listed, names⟩
    rw [mixed.fields] at kept
    exact ⟨token, List.mem_filter.mp kept⟩

theorem madeOf (mixed : Interleaved tokens others) {group : PresenceGroup}
    (made : group.MadeOf tokens) : group.MadeOf others := by
  have size : firstPayload? "size:" others = firstPayload? "size:" tokens := by
    rw [← firstPayload?_beginsWith, ← mixed.sizes, firstPayload?_beginsWith]
  have message : firstPayload? "error:" others = firstPayload? "error:" tokens := by
    rw [← firstPayload?_beginsWith, ← mixed.messages, firstPayload?_beginsWith]
  refine ⟨?_, ?_, ?_, ?_⟩
  · rw [made.fields, mixed.fields]
  · rw [size]
    exact made.threshold
  · rw [size]
    exact made.byDefault
  · rw [message]
    exact made.message

end Interleaved

theorem read_interleaved {text other : String}
    (mixed : Interleaved (splitText '|' text) (splitText '|' other)) (group : PresenceGroup) :
    read text = .ok group ↔ read other = .ok group := by
  rw [read_eq_ok_iff, read_eq_ok_iff]
  constructor
  · rintro ⟨readable, made⟩
    exact ⟨mixed.readable readable, mixed.madeOf made⟩
  · rintro ⟨readable, made⟩
    exact ⟨mixed.symm.readable readable, mixed.symm.madeOf made⟩

/-- The fields of a group that are there, each as often as it is listed. -/
def found (group : PresenceGroup) (data : Value) : List String :=
  group.fields.filter fun path => (data.resolve path).isPresent

def breaks (which : Presence) (data : Value) (group : PresenceGroup) : Bool :=
  match which with
  | .atLeast => decide ((group.found data).length < group.threshold)
  | .atMost => decide (group.threshold < (group.found data).length)

/-- What there is to say of a group, on whatever data. -/
def said (which : Presence) (place : Place) (group : PresenceGroup) : Message :=
  match group.message with
  | some text => .custom text
  | none =>
    .presence which group.threshold (group.fields.map fun path => .place (place ++ [.key path]))

theorem review?_eq (which : Presence) (data : Value) (place : Place) (group : PresenceGroup) :
    group.review? which data place =
      if group.breaks which data then some (group.said which place) else none := by
  have counted : which.isViolated (group.present data) group.threshold =
      group.breaks which data := by
    rw [present, List.countP_eq_length_filter]
    cases which <;> rfl
  rw [review?, counted]
  rfl

theorem review_groups (strict : Bool) (which : Presence) (groups : List PresenceGroup)
    (key : String) (data : Value) (place : Place) :
    Node.review strict (.presence which groups) key data place =
      .ok ((groups.filter (breaks which data)).map (said which place)) := by
  rw [Node.review]
  congr 1
  induction groups with
  | nil => rfl
  | cons group rest ih =>
      rw [List.filterMap_cons, List.filter_cons, review?_eq, ih]
      cases group.breaks which data <;> rfl

theorem breaks_perm {group other : PresenceGroup} (fields : group.fields.Perm other.fields)
    (threshold : group.threshold = other.threshold) (which : Presence) (data : Value) :
    group.breaks which data = other.breaks which data := by
  have length : (group.found data).length = (other.found data).length :=
    (fields.filter _).length_eq
  cases which with
  | atLeast => rw [breaks, breaks, length, threshold]
  | atMost => rw [breaks, breaks, length, threshold]

section

variable {group : PresenceGroup} {data other : Value}
  (more : ∀ path ∈ group.fields, (data.resolve path).isPresent → (other.resolve path).isPresent)

include more

theorem length_found_le : (group.found data).length ≤ (group.found other).length := by
  rw [found, found, ← List.countP_eq_length_filter, ← List.countP_eq_length_filter]
  exact List.countP_mono_left more

theorem breaks_atLeast_of_more (held : group.breaks .atLeast data = false) :
    group.breaks .atLeast other = false := by
  have grown := length_found_le more
  rw [breaks, decide_eq_false_iff_not] at held ⊢
  omega

theorem breaks_atMost_of_less (held : group.breaks .atMost other = false) :
    group.breaks .atMost data = false := by
  have grown := length_found_le more
  rw [breaks, decide_eq_false_iff_not] at held ⊢
  omega

end

end PresenceGroup

namespace Value

/-- Whether data is made from other data by filling in values where none are: anywhere in it, and
any number of them. -/
inductive Filled : Value → Value → Prop
  | itself (value : Value) : Filled value value
  | missing {value other : Value} : value.isPresent = false → Filled value other
  | object {entries others : List (String × Value)} :
      (∀ key, Filled ((Value.object entries).get key) ((Value.object others).get key)) →
      Filled (.object entries) (.object others)
  | array {items others : List Value} :
      (∀ index, Filled ((Value.array items).get index) ((Value.array others).get index)) →
      Filled (.array items) (.array others)

namespace Filled

theorem isPresent {value other : Value} (filled : Filled value other)
    (present : value.isPresent = true) : other.isPresent = true := by
  cases filled with
  | itself => exact present
  | missing absent => simp [absent] at present
  | object => rfl
  | array => rfl

theorem get {value other : Value} (filled : Filled value other) (segment : String) :
    Filled (value.get segment) (other.get segment) := by
  cases filled with
  | itself => exact .itself _
  | missing absent =>
      -- Nothing lies below a missing value, so whatever is there afterwards has been filled in.
      apply Filled.missing
      cases value with
      | undefined | null => rfl
      | _ => cases absent
  | object below => exact below segment
  | array below => exact below segment

theorem resolve {value other : Value} (filled : Filled value other) (path : String) :
    Filled (value.resolve path) (other.resolve path) :=
  resolve_of_get get filled path

end Filled

theorem isPresent_iff {value : Value} :
    value.isPresent = true ↔ value ≠ .undefined ∧ value ≠ .null := by
  cases value <;> simp [isPresent, kind?]

end Value

/-- A group is read just if no token is empty, every threshold is a count and some token is about a
field; and it is made of its tokens, however they are interleaved. On every level a walk says one
thing of each group that asks for more or for less than what is there, and nothing of the others.
Whether it does hangs neither on the order of the fields nor, the wrong way, on how many are there. -/
theorem PresenceGroup.read_and_counted :
    (∀ text, (∃ group, read text = .ok group) ↔ Readable (splitText '|' text)) ∧
    (∀ text group, read text = .ok group → group.MadeOf (splitText '|' text)) ∧
    (∀ text other, Interleaved (splitText '|' text) (splitText '|' other) →
      ∀ group, read text = .ok group ↔ read other = .ok group) ∧
    (∀ value : Value, value.isPresent = true ↔ value ≠ .undefined ∧ value ≠ .null) ∧
    (∀ strict which groups key data place,
      Node.review strict (.presence which groups) key data place =
        .ok ((groups.filter (breaks which data)).map (said which place))) ∧
    (∀ group other : PresenceGroup, group.fields.Perm other.fields →
      group.threshold = other.threshold →
      ∀ which data, group.breaks which data = other.breaks which data) ∧
    (∀ (group : PresenceGroup) (data other : Value),
      (∀ path ∈ group.fields, (data.resolve path).isPresent → (other.resolve path).isPresent) →
      (group.breaks .atLeast data = false → group.breaks .atLeast other = false) ∧
        (group.breaks .atMost other = false → group.breaks .atMost data = false)) ∧
    ∀ data other : Value, data.Filled other →
      ∀ path, (data.resolve path).isPresent → (other.resolve path).isPresent := by
  refine ⟨?_, ?_, ?_, ?_, ?_, ?_, ?_, ?_⟩
  · intro text
    simp only [read_eq_ok_iff]
    constructor
    · rintro ⟨group, readable, _⟩
      exact readable
    · intro readable
      obtain ⟨group, made⟩ := readable.exists_madeOf
      exact ⟨group, readable, made⟩
  · intro text group taken
    exact (read_eq_ok_iff.mp taken).2
  · intro text other mixed
    exact read_interleaved mixed
  · intro value
    exact Value.isPresent_iff
  · exact review_groups
  · intro group other fields threshold
    exact breaks_perm fields threshold
  · intro group data other more
    exact ⟨breaks_atLeast_of_more more, breaks_atMost_of_less more⟩
  · intro data other filled path present
    exact (filled.resolve path).isPresent present

theorem PresenceGroup.read_and_counted_contacts :
    ∃ (text other : String) (group turned : PresenceGroup) (data fuller : Value),
      text = "mail|size:2|phone.0|phone.0|error:Call!" ∧
      other = "error:Call!|mail|phone.0|size:2|phone.0" ∧
      data = .object [("mail", .null), ("phone", .array [.string "1"])] ∧
      fuller = .object [("mail", .string "a"), ("phone", .array [.string "1"])] ∧
      Interleaved (splitText '|' text) (splitText '|' other) ∧
      read text = .ok group ∧ read other = .ok group ∧
      group.fields.Perm turned.fields ∧ group.threshold = turned.threshold ∧
      turned.fields = ["phone.0", "mail", "phone.0"] ∧
      data.Filled fuller ∧
      (∀ path ∈ group.fields, (data.resolve path).isPresent → (fuller.resolve path).isPresent) ∧
      turned.breaks .atLeast data = false ∧ group.breaks .atLeast fuller = false ∧
      Node.review true (.presence .atMost [group, turned]) "$atmost" fuller [] =
        .ok [.custom "Call!", .custom "Call!"] := by
  obtain ⟨_, _, interleaved, _, reviewed, permuted, grown, filled⟩ := read_and_counted
  have mixed : Interleaved (splitText '|' "mail|size:2|phone.0|phone.0|error:Call!")
      (splitText '|' "error:Call!|mail|phone.0|size:2|phone.0") :=
    ⟨by decide, by decide, by decide⟩
  have taken : read "mail|size:2|phone.0|phone.0|error:Call!" =
      .ok ⟨["mail", "phone.0", "phone.0"], 2, some "Call!"⟩ := rfl
  have order : ["mail", "phone.0", "phone.0"].Perm ["phone.0", "mail", "phone.0"] :=
    .swap "phone.0" "mail" ["phone.0"]
  have fills : (Value.object [("mail", .null), ("phone", .array [.string "1"])]).Filled
      (.object [("mail", .string "a"), ("phone", .array [.string "1"])]) := by
    apply Value.Filled.object
    intro key
    simp only [Value.get, List.lookup_cons]
    split
    · exact .missing rfl
    · exact .itself _
  have held : breaks .atLeast (.object [("mail", .null), ("phone", .array [.string "1"])])
      ⟨["mail", "phone.0", "phone.0"], 2, some "Call!"⟩ = false := rfl
  have more := fun path (_ : path ∈ ["mail", "phone.0", "phone.0"]) => filled _ _ fills path
  have same := permuted ⟨["mail", "phone.0", "phone.0"], 2, some "Call!"⟩
    ⟨["phone.0", "mail", "phone.0"], 2, some "Call!"⟩ order rfl
  refine ⟨_, _, _, ⟨["phone.0", "mail", "phone.0"], 2, some "Call!"⟩, _, _, rfl, rfl, rfl, rfl,
    mixed, taken, (interleaved _ _ mixed _).mp taken, order, rfl, rfl, fills, more,
    (same _ _).symm.trans held, (grown _ _ _ more).1 held, ?_⟩
  rw [reviewed]
  rfl

end Rulebook
