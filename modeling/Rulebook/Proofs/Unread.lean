import Mathlib.Data.List.Forall2
import Rulebook.Proofs.DottedPaths
import Rulebook.Proofs.Satisfaction

/-!
Data that is not read. A lenient review looks at the data only where keys and groups send it, and
asks no more of a group's field than whether it is there. Data that looks the same in these places
comes to the same messages, or the same fault.
-/

namespace Rulebook

mutual

/-- Whether a node reads the same in two levels of data. -/
def Node.ReadsAlike (node : Node) (key : String) (first second : Value) : Prop :=
  match node with
  | .field _ => first.resolve key = second.resolve key
  | .presence _ groups =>
    ∀ group ∈ groups, ∀ path ∈ group.fields,
      (first.resolve path).isPresent = (second.resolve path).isPresent
  | .nested entries =>
    (∃ fields others, first.resolve key = .object fields ∧ second.resolve key = .object others ∧
      Node.AllReadAlike entries (.object fields) (.object others)) ∨
    ((first.resolve key).entries? = none ∧ (second.resolve key).entries? = none)
  | .each entries =>
    (∃ items others, first.resolve key = .array items ∧ second.resolve key = .array others ∧
      List.Forall₂ (fun item other => Node.AllReadAlike entries item other) items others) ∨
    ((first.resolve key).isPresent = false ∧ (second.resolve key).isPresent = false) ∨
    (((first.resolve key).isPresent = true ∧ (first.resolve key).items? = none) ∧
      (second.resolve key).isPresent = true ∧ (second.resolve key).items? = none)

def Node.AllReadAlike (entries : List (String × Node)) (first second : Value) : Prop :=
  match entries with
  | [] => True
  | (key, node) :: rest =>
    Node.ReadsAlike node key first second ∧ Node.AllReadAlike rest first second

end

namespace Schema

def ReadsAlike (schema : Schema) (first second : Value) : Prop :=
  Node.AllReadAlike schema first second

/-- The paths that a level follows: its keys, and the fields of its groups. -/
def paths (schema : Schema) : List String :=
  schema.flatMap fun (key, node) =>
    match node with
    | .presence _ groups => groups.flatMap PresenceGroup.fields
    | _ => [key]

def Reads (schema : Schema) (name : String) : Prop :=
  ∃ path ∈ schema.paths, (splitText '.' path).head? = some name

end Schema

theorem Run.mapM_zipIdx_congr {ε α β : Type} {relation : α → α → Prop}
    {first second : α × Nat → Except ε β} {items others : List α}
    (same : ∀ item other index, relation item other → first (item, index) = second (other, index))
    (related : List.Forall₂ relation items others) (start : Nat) :
    (items.zipIdx start).mapM first = (others.zipIdx start).mapM second := by
  induction related generalizing start with
  | nil => rfl
  | cons head _ ih =>
      rw [List.zipIdx_cons, List.zipIdx_cons, List.mapM_cons, List.mapM_cons, same _ _ start head,
        ih (start + 1)]

theorem PresenceGroup.review?_congr {group : PresenceGroup} {first second : Value}
    (alike : ∀ path ∈ group.fields,
      (first.resolve path).isPresent = (second.resolve path).isPresent)
    (which : Presence) (place : Place) :
    group.review? which first place = group.review? which second place := by
  have present : group.present first = group.present second := by
    apply List.countP_congr
    intro path member
    rw [alike path member]
  rw [review?, review?, present]

namespace Node

variable {strict : Bool} {entries : Schema} {key : String} {data : Value} {place : Place}

theorem review_nested_of_not_object (other : (data.resolve key).entries? = none) :
    Node.review strict (.nested entries) key data place =
      .ok [.about (place ++ [.key key]) .notObject] := by
  rw [review]
  cases found : data.resolve key with
  | object fields => simp [found, Value.entries?] at other
  | _ => rfl

theorem review_each_of_absent (absent : (data.resolve key).isPresent = false) :
    Node.review strict (.each entries) key data place =
      .ok [.about (place ++ [.key key]) .missing] := by
  rw [review]
  cases found : data.resolve key with
  | undefined => rfl
  | null => rfl
  | _ => simp [found, Value.isPresent, Value.kind?] at absent

theorem review_each_of_not_array (present : (data.resolve key).isPresent = true)
    (other : (data.resolve key).items? = none) :
    Node.review strict (.each entries) key data place =
      .ok [.about (place ++ [.key key]) .notArray] := by
  rw [review]
  cases found : data.resolve key with
  | undefined => simp [found, Value.isPresent, Value.kind?] at present
  | null => simp [found, Value.isPresent, Value.kind?] at present
  | array items => simp [found, Value.items?] at other
  | _ => rfl

end Node

mutual

theorem Node.review_of_readsAlike (node : Node) {key : String} {first second : Value}
    (alike : Node.ReadsAlike node key first second) (place : Place) :
    Node.review false node key first place = Node.review false node key second place :=
  match node with
  | .field rules => by
      rw [Node.ReadsAlike] at alike
      rw [Node.review, Node.review, alike]
  | .presence which groups => by
      rw [Node.ReadsAlike] at alike
      rw [Node.review, Node.review]
      congr 1
      apply List.filterMap_congr
      intro group member
      exact PresenceGroup.review?_congr (alike group member) which place
  | .nested entries => by
      rw [Node.ReadsAlike] at alike
      rcases alike with ⟨fields, others, found, otherFound, inside⟩ | ⟨plain, otherPlain⟩
      · simp only [Node.review, found, otherFound, Schema.closeLevel_lenient]
        exact Node.reviewEntries_of_allReadAlike entries inside _
      · rw [Node.review_nested_of_not_object plain, Node.review_nested_of_not_object otherPlain]
  | .each entries => by
      rw [Node.ReadsAlike] at alike
      rcases alike with ⟨items, others, found, otherFound, inside⟩ | ⟨absent, otherAbsent⟩ |
        ⟨⟨present, plain⟩, otherPresent, otherPlain⟩
      · simp only [Node.review, found, otherFound, Schema.closeLevel_lenient]
        congr 1
        apply Run.mapM_zipIdx_congr _ inside
        intro item other index same
        exact Node.reviewEntries_of_allReadAlike entries same _
      · rw [Node.review_each_of_absent absent, Node.review_each_of_absent otherAbsent]
      · rw [Node.review_each_of_not_array present plain,
          Node.review_each_of_not_array otherPresent otherPlain]

theorem Node.reviewEntries_of_allReadAlike (entries : List (String × Node)) {first second : Value}
    (alike : Node.AllReadAlike entries first second) (place : Place) :
    Node.reviewEntries false entries first place = Node.reviewEntries false entries second place :=
  match entries with
  | [] => by rw [Node.reviewEntries, Node.reviewEntries]
  | (key, node) :: rest => by
      rw [Node.AllReadAlike] at alike
      rw [Node.reviewEntries, Node.reviewEntries, Node.review_of_readsAlike node alike.1 place,
        Node.reviewEntries_of_allReadAlike rest alike.2 place]

end

mutual

theorem Node.readsAlike_of_resolve_eq (node : Node) {key : String} {first second : Value}
    (declared : node.isDeclaration = true) (same : first.resolve key = second.resolve key) :
    Node.ReadsAlike node key first second :=
  match node with
  | .field rules => by
      rw [Node.ReadsAlike]
      exact same
  | .presence which groups => by simp [Node.isDeclaration] at declared
  | .nested entries => by
      rw [Node.ReadsAlike, same]
      cases found : second.resolve key with
      | object fields => exact .inl ⟨fields, fields, rfl, rfl, Node.allReadAlike_refl entries _⟩
      | _ => exact .inr ⟨rfl, rfl⟩
  | .each entries => by
      rw [Node.ReadsAlike, same]
      cases found : second.resolve key with
      | array items =>
          refine .inl ⟨items, items, rfl, rfl, List.forall₂_same.mpr ?_⟩
          intro item _
          exact Node.allReadAlike_refl entries item
      | undefined => exact .inr (.inl ⟨rfl, rfl⟩)
      | null => exact .inr (.inl ⟨rfl, rfl⟩)
      | _ => exact .inr (.inr ⟨⟨rfl, rfl⟩, rfl, rfl⟩)

theorem Node.allReadAlike_refl (entries : List (String × Node)) (data : Value) :
    Node.AllReadAlike entries data data :=
  match entries with
  | [] => by
      rw [Node.AllReadAlike]
      trivial
  | (key, node) :: rest => by
      rw [Node.AllReadAlike]
      refine ⟨?_, Node.allReadAlike_refl rest data⟩
      cases declared : node.isDeclaration with
      | true => exact Node.readsAlike_of_resolve_eq node declared rfl
      | false =>
          cases node with
          | presence which groups =>
              rw [Node.ReadsAlike]
              exact fun _ _ _ _ => rfl
          | _ => simp [Node.isDeclaration] at declared

end

theorem Node.allReadAlike_of_forall {entries : Schema} {first second : Value}
    (alike : ∀ entry ∈ entries, Node.ReadsAlike entry.2 entry.1 first second) :
    Node.AllReadAlike entries first second := by
  induction entries with
  | nil =>
      rw [Node.AllReadAlike]
      trivial
  | cons head rest ih =>
      rw [List.forall_mem_cons] at alike
      rw [Node.AllReadAlike]
      exact ⟨alike.1, ih alike.2⟩

namespace Value

variable {fields changed : List (String × Value)} {name : String}

theorem resolve_eq_of_lookup_eq
    (others : ∀ key, key ≠ name → fields.lookup key = changed.lookup key) {path : String}
    (nonempty : path ≠ "") (unread : (splitText '.' path).head? ≠ some name) :
    (Value.object fields).resolve path = (Value.object changed).resolve path := by
  rw [resolve_eq_descend nonempty, resolve_eq_descend nonempty]
  cases segments : splitText '.' path with
  | nil => simp [splitText] at segments
  | cons segment rest =>
      rw [segments] at unread
      have different : segment ≠ name := by simpa using unread
      have sameChild : (Value.object fields).get segment = (Value.object changed).get segment := by
        rw [get, get, others segment different]
      rw [descend_cons, descend_cons, sameChild]

theorem isPresent_resolve_eq (others : ∀ key, key ≠ name → fields.lookup key = changed.lookup key)
    {path : String} (unread : (splitText '.' path).head? ≠ some name) :
    ((Value.object fields).resolve path).isPresent =
      ((Value.object changed).resolve path).isPresent := by
  by_cases empty : path = ""
  · -- The empty path leads to the object itself, which is there either way.
    rw [empty]
    rfl
  · rw [resolve_eq_of_lookup_eq others empty unread]

end Value

namespace Schema

theorem mem_paths_of_declared {schema : Schema} {key : String} {node : Node}
    (entry : (key, node) ∈ schema) (declared : node.isDeclaration = true) : key ∈ schema.paths := by
  apply List.mem_flatMap.mpr
  refine ⟨(key, node), entry, ?_⟩
  cases node with
  | presence which groups => simp [Node.isDeclaration] at declared
  | _ => exact List.mem_singleton_self key

theorem mem_paths_of_group {schema : Schema} {key path : String} {which : Presence}
    {groups : List PresenceGroup} {group : PresenceGroup}
    (entry : (key, .presence which groups) ∈ schema) (listed : group ∈ groups)
    (member : path ∈ group.fields) : path ∈ schema.paths :=
  List.mem_flatMap.mpr ⟨(key, .presence which groups), entry,
    List.mem_flatMap.mpr ⟨group, listed, member⟩⟩

theorem readsAlike_of_unread {schema : Schema} (named : "" ∉ schema.keys) {name : String}
    (unread : ¬ schema.Reads name) {fields changed : List (String × Value)}
    (others : ∀ key, key ≠ name → fields.lookup key = changed.lookup key) :
    schema.ReadsAlike (.object fields) (.object changed) := by
  have elsewhere {path : String} (member : path ∈ schema.paths) :
      (splitText '.' path).head? ≠ some name := fun head => unread ⟨path, member, head⟩
  apply Node.allReadAlike_of_forall
  rintro ⟨key, node⟩ entry
  cases declared : node.isDeclaration with
  | true =>
      have nonempty : key ≠ "" := by
        rintro rfl
        exact named (List.mem_map.mpr ⟨_, entry, rfl⟩)
      apply Node.readsAlike_of_resolve_eq node declared
      exact Value.resolve_eq_of_lookup_eq others nonempty
        (elsewhere (mem_paths_of_declared entry declared))
  | false =>
      cases node with
      | presence which groups =>
          rw [Node.ReadsAlike]
          intro group listed path member
          exact Value.isPresent_resolve_eq others
            (elsewhere (mem_paths_of_group entry listed member))
      | _ => simp [Node.isDeclaration] at declared

theorem messages_of_readsAlike {schema : Schema} {first second : Value}
    (container : first.IsContainer) (otherContainer : second.IsContainer)
    (alike : schema.ReadsAlike first second) (quotes : Quotes) :
    schema.messages first ⟨quotes, false⟩ = schema.messages second ⟨quotes, false⟩ := by
  rw [messages, messages, review_of_isContainer container, review_of_isContainer otherContainer,
    reviewLevel, reviewLevel, closeLevel_lenient, closeLevel_lenient,
    Node.reviewEntries_of_allReadAlike schema alike]

/-- Data that is not read does not matter to a lenient validation: containers that read alike come
to the same messages or the same fault, and so do objects that differ in a key with which no path of
the schema begins. -/
theorem unread_irrelevant (schema : Schema) (quotes : Quotes) :
    (∀ first second : Value, first.IsContainer → second.IsContainer →
      schema.ReadsAlike first second →
      schema.messages first ⟨quotes, false⟩ = schema.messages second ⟨quotes, false⟩) ∧
    ("" ∉ schema.keys → ∀ name, ¬ schema.Reads name → ∀ fields changed : List (String × Value),
      (∀ key, key ≠ name → fields.lookup key = changed.lookup key) →
      schema.messages (.object fields) ⟨quotes, false⟩ =
        schema.messages (.object changed) ⟨quotes, false⟩) := by
  constructor
  · intro first second container otherContainer alike
    exact messages_of_readsAlike container otherContainer alike quotes
  · intro named name unread fields changed others
    have container (entries : List (String × Value)) : (Value.object entries).IsContainer := trivial
    exact messages_of_readsAlike (container fields) (container changed)
      (readsAlike_of_unread named unread others) quotes

theorem unread_irrelevant_users :
    (ReadsAlike [("users", .each [("name", .field ⟨[.clause (.kind .string)], none, none⟩)])]
        (.object [("users", .array [.object [("name", .null)]])])
        (.object [("users", .array [.object [("name", .null), ("age", .bool true)]])]) ∧
      messages [("users", .each [("name", .field ⟨[.clause (.kind .string)], none, none⟩)])]
          (.object [("users", .array [.object [("name", .null)]])]) ⟨.single, false⟩ =
        messages [("users", .each [("name", .field ⟨[.clause (.kind .string)], none, none⟩)])]
          (.object [("users", .array [.object [("name", .null), ("age", .bool true)]])])
          ⟨.single, false⟩) ∧
    messages [("a.b", .field ⟨[.clause (.kind .string)], none, none⟩)]
        (.object [("a", .null)]) ⟨.none, false⟩ =
      messages [("a.b", .field ⟨[.clause (.kind .string)], none, none⟩)]
        (.object [("b", .bool true), ("a", .null)]) ⟨.none, false⟩ := by
  have alike : ReadsAlike
      [("users", .each [("name", .field ⟨[.clause (.kind .string)], none, none⟩)])]
      (.object [("users", .array [.object [("name", .null)]])])
      (.object [("users", .array [.object [("name", .null), ("age", .bool true)]])]) := by
    refine ⟨.inl ⟨_, _, rfl, rfl, .cons ?_ .nil⟩, trivial⟩
    exact ⟨rfl, trivial⟩
  refine ⟨⟨alike, (unread_irrelevant _ .single).1 _ _ trivial trivial alike⟩, ?_⟩
  apply (unread_irrelevant _ .none).2 (by decide) "b"
  · rintro ⟨path, member, head⟩
    have only : path = "a.b" := List.mem_singleton.mp member
    subst only
    exact absurd head (by decide)
  · intro key different
    have other : (key == "b") = false := beq_false_of_ne different
    simp only [List.lookup_cons, other]

end Schema

end Rulebook
