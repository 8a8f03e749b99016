import Mathlib.Data.Set.List
import Rulebook.Proofs.Run
import Rulebook.Rule.Reading

/-!
Rule trees as documents. Each rule tree has one document that it is read from, and a document that
has not the form of a rule tree is refused: for the first of its keys that holds no rule.
-/

namespace Rulebook

mutual

/-- The document that a rule is read from. -/
def Rule.document : Rule → Document
  | .text directives => .string directives
  | .list directives => .list (directives.map .string)
  | .nested rules => .object (Rule.documents rules)
  | .each rules => .list [.object (Rule.documents rules)]

def Rule.documents : List (String × Rule) → List (String × Document)
  | [] => []
  | (key, rule) :: rest => (key, rule.document) :: Rule.documents rest

end

def RuleTree.document (rules : RuleTree) : Document :=
  .object (Rule.documents rules)

namespace Document

/-- Whether a document has the form of a rule. -/
inductive IsRule : Document → Prop
  | text (directives : String) : IsRule (.string directives)
  | list {items : List Document} : (∀ item ∈ items, ∃ directive, .string directive = item) →
      IsRule (.list items)
  | nested {entries : List (String × Document)} : (∀ entry ∈ entries, IsRule entry.2) →
      IsRule (.object entries)
  | each {entries : List (String × Document)} : (∀ entry ∈ entries, IsRule entry.2) →
      IsRule (.list [.object entries])

def IsRuleTree : Document → Prop
  | .object entries => ∀ entry ∈ entries, entry.2.IsRule
  | _ => False

/-- Whether a document lists several rule trees where one is allowed. -/
def ListsTrees (count : Nat) : Document → Prop
  | .list items => items.length = count ∧ 2 ≤ count ∧ ∀ item ∈ items, item.IsRuleTree
  | _ => False

theorem strings?_eq_some_iff {items : List Document} {directives : List String} :
    strings? items = some directives ↔ items = directives.map .string := by
  induction items generalizing directives with
  | nil => cases directives <;> simp [strings?]
  | cons item rest ih =>
      rw [strings?, List.mapM_cons, ← strings?]
      cases item with
      | string directive =>
          cases directives with
          | nil => simp [Option.bind_eq_some_iff]
          | cons first others => simp [Option.bind_eq_some_iff, ih, and_comm]
      | _ => cases directives <;> simp

end Document

/-- A list holds directives or one rule tree, and never both: the empty list holds directives. -/
theorem Rule.read?_list_eq_some_iff {items : List Document} {rule : Rule} :
    Rule.read? (.list items) = some rule ↔
      (∃ directives, items = directives.map .string ∧ .list directives = rule) ∨
        ∃ rules, Rule.readTrees? items = some [rules] ∧ .each rules = rule := by
  rw [read?]
  cases listed : Document.strings? items with
  | some directives =>
      rw [Document.strings?_eq_some_iff] at listed
      subst listed
      have notTrees (rules : RuleTree) :
          Rule.readTrees? (directives.map .string) ≠ some [rules] := by
        cases directives <;> simp [readTrees?]
      have injective : Function.Injective Document.string := fun _ _ => Document.string.inj
      simp [notTrees, injective.list_map.eq_iff]
  | none =>
      have unlisted (directives : List String) : items ≠ directives.map .string := by
        intro same
        rw [Document.strings?_eq_some_iff.mpr same] at listed
        cases listed
      cases read : Rule.readTrees? items with
      | none => simp [unlisted]
      | some trees =>
          rcases trees with _ | ⟨rules, _ | ⟨second, others⟩⟩
          · simp [unlisted]
          · simp [unlisted]
          · simp [unlisted]

mutual

theorem Rule.read?_eq_some_iff (document : Document) (rule : Rule) :
    Rule.read? document = some rule ↔ document = rule.document := by
  match document with
  | .string directives => cases rule <;> simp [Rule.read?, Rule.document, eq_comm]
  | .object entries =>
      rw [Rule.read?, Option.map_eq_some_iff]
      cases rule <;> simp [Rule.document, Rule.readEntries?_eq_some_iff entries]
  | .list items =>
      have trees (rules : RuleTree) := Rule.readTrees?_eq_some_iff items [rules]
      rw [Rule.read?_list_eq_some_iff]
      cases rule <;> simp [Rule.document, trees, RuleTree.document]
  | .null | .bool _ | .integer _ | .float _ => cases rule <;> simp [Rule.read?, Rule.document]

theorem Rule.readTrees?_eq_some_iff (items : List Document) (trees : List RuleTree) :
    Rule.readTrees? items = some trees ↔ items = trees.map RuleTree.document := by
  match items with
  | [] => cases trees <;> simp [Rule.readTrees?]
  | .object entries :: rest =>
      rw [Rule.readTrees?]
      cases trees with
      | nil => simp [Option.bind_eq_some_iff]
      | cons rules others =>
          simp [Option.bind_eq_some_iff, Rule.readEntries?_eq_some_iff entries,
            Rule.readTrees?_eq_some_iff rest, RuleTree.document]
  | .string _ :: _ | .list _ :: _ => cases trees <;> simp [Rule.readTrees?, RuleTree.document]
  | .null :: _ | .bool _ :: _ | .integer _ :: _ | .float _ :: _ =>
      cases trees <;> simp [Rule.readTrees?, RuleTree.document]

theorem Rule.readEntries?_eq_some_iff (entries : List (String × Document)) (rules : RuleTree) :
    Rule.readEntries? entries = some rules ↔ entries = Rule.documents rules := by
  match entries with
  | [] => cases rules <;> simp [Rule.readEntries?, Rule.documents]
  | (key, document) :: rest =>
      rw [Rule.readEntries?]
      cases rules with
      | nil => simp [Option.bind_eq_some_iff, Rule.documents]
      | cons head others =>
          obtain ⟨name, rule⟩ := head
          simp only [Option.bind_eq_bind, Option.bind_eq_some_iff, Option.pure_def,
            Option.some.injEq, Rule.read?_eq_some_iff document,
            Rule.readEntries?_eq_some_iff rest, Rule.documents, List.cons.injEq, Prod.mk.injEq]
          constructor
          · rintro ⟨read, rfl, others, rfl, ⟨rfl, rfl⟩, rfl⟩
            exact ⟨⟨rfl, rfl⟩, rfl⟩
          · rintro ⟨⟨rfl, rfl⟩, rfl⟩
            exact ⟨rule, rfl, others, rfl, ⟨rfl, rfl⟩, rfl⟩

end

theorem Rule.documents_eq_map (rules : List (String × Rule)) :
    Rule.documents rules = rules.map fun entry => (entry.1, entry.2.document) := by
  induction rules with
  | nil => rfl
  | cons head rest ih => rw [documents, ih, List.map_cons]

theorem Rule.exists_documents {entries : List (String × Document)}
    (rules : ∀ entry ∈ entries, ∃ rule : Rule, rule.document = entry.2) :
    ∃ rules, Rule.documents rules = entries := by
  have read : entries ∈ Set.range (List.map fun entry : String × Rule =>
      (entry.1, entry.2.document)) := by
    rw [Set.range_list_map]
    intro entry member
    obtain ⟨rule, same⟩ := rules entry member
    exact ⟨(entry.1, rule), Prod.ext rfl same⟩
  obtain ⟨rules, same⟩ := read
  exact ⟨rules, (documents_eq_map rules).trans same⟩

mutual

theorem Rule.isRule_document (rule : Rule) : rule.document.IsRule := by
  match rule with
  | .text directives => exact .text directives
  | .list directives =>
      refine .list ?_
      intro item member
      obtain ⟨directive, _, rfl⟩ := List.mem_map.mp member
      exact ⟨directive, rfl⟩
  | .nested rules => exact .nested (Rule.isRule_of_mem_documents rules)
  | .each rules => exact .each (Rule.isRule_of_mem_documents rules)

theorem Rule.isRule_of_mem_documents (rules : List (String × Rule)) :
    ∀ entry ∈ Rule.documents rules, entry.2.IsRule := by
  match rules with
  | [] => simp [Rule.documents]
  | (key, rule) :: rest =>
      rw [Rule.documents, List.forall_mem_cons]
      exact ⟨rule.isRule_document, Rule.isRule_of_mem_documents rest⟩

end

namespace Document

theorem isRule_iff {document : Document} :
    document.IsRule ↔ ∃ rule : Rule, rule.document = document := by
  constructor
  · intro form
    induction form with
    | text directives => exact ⟨.text directives, rfl⟩
    | @list items strings =>
        have listed : items ∈ Set.range (List.map string) := by
          rw [Set.range_list_map]
          exact strings
        obtain ⟨directives, same⟩ := listed
        exact ⟨.list directives, congrArg list same⟩
    | nested _ ih =>
        obtain ⟨rules, same⟩ := Rule.exists_documents ih
        exact ⟨.nested rules, congrArg object same⟩
    | each _ ih =>
        obtain ⟨rules, same⟩ := Rule.exists_documents ih
        exact ⟨.each rules, congrArg (fun entries => list [object entries]) same⟩
  · rintro ⟨rule, rfl⟩
    exact rule.isRule_document

theorem isRuleTree_iff {document : Document} :
    document.IsRuleTree ↔ ∃ rules : RuleTree, rules.document = document := by
  constructor
  · intro form
    cases document with
    | object entries =>
        obtain ⟨rules, same⟩ := Rule.exists_documents fun entry member =>
          isRule_iff.mp (form entry member)
        exact ⟨rules, congrArg object same⟩
    | _ => exact form.elim
  · rintro ⟨rules, rfl⟩
    exact Rule.isRule_of_mem_documents rules

/-- A list of rule trees that is no rule holds at least two of them. -/
theorem listsTrees_iff {document : Document} (refused : ¬ document.IsRule) (count : Nat) :
    document.ListsTrees count ↔ TreeDefect.ofDocument document = .severalTrees count := by
  cases document with
  | list items =>
      have allTrees : (∀ item ∈ items, item.IsRuleTree) ↔
          ∃ trees, Rule.readTrees? items = some trees := by
        simp only [isRuleTree_iff, Rule.readTrees?_eq_some_iff, eq_comm (a := items)]
        exact (Set.ext_iff.mp (Set.range_list_map RuleTree.document) items).symm
      rw [ListsTrees, allTrees, TreeDefect.ofDocument]
      cases read : Rule.readTrees? items with
      | none => simp
      | some trees =>
          rw [Rule.readTrees?_eq_some_iff] at read
          subst read
          have several : 2 ≤ trees.length := by
            rcases trees with _ | ⟨rules, _ | ⟨second, others⟩⟩
            · exact absurd (.list (by simp)) refused
            · exact absurd (isRule_iff.mpr ⟨.each rules, rfl⟩) refused
            · simp
          simp only [List.length_map, TreeDefect.severalTrees.injEq, Option.some.injEq,
            exists_eq', and_true]
          omega
  | _ => simp [ListsTrees, TreeDefect.ofDocument]

theorem severalTrees_or_notRule (document : Document) :
    (∃ count, TreeDefect.ofDocument document = .severalTrees count) ∨
      TreeDefect.ofDocument document = .notRule := by
  cases document with
  | list items =>
      rw [TreeDefect.ofDocument]
      cases Rule.readTrees? items with
      | some trees => exact .inl ⟨trees.length, rfl⟩
      | none => exact .inr rfl
  | _ => exact .inr rfl

end Document

theorem Rule.read_eq_ok_iff {document : Document} {rule : Rule} :
    Rule.read document = .ok rule ↔ document = rule.document := by
  rw [read, ← read?_eq_some_iff]
  cases Rule.read? document <;> simp

theorem Rule.read_eq_error_iff {document : Document} {defect : TreeDefect} :
    Rule.read document = .error defect ↔
      ¬ document.IsRule ∧ TreeDefect.ofDocument document = defect := by
  simp only [Document.isRule_iff, eq_comm (b := document), ← read?_eq_some_iff]
  rw [read]
  cases Rule.read? document <;> simp

theorem RuleTree.read_eq_ok_iff {document : Document} {rules : RuleTree} :
    RuleTree.read document = .ok rules ↔ document = rules.document := by
  cases document with
  | object entries =>
      have entryRead (entry : String × Document) (result : String × Rule) :
          (Rule.read entry.2).map (entry.1, ·) = .ok result ↔
            entry = (result.1, result.2.document) := by
        simp only [Run.map_eq_ok_iff, Rule.read_eq_ok_iff, Prod.ext_iff]
        grind
      rw [read, Run.mapM_eq_ok_iff]
      simp only [entryRead, RuleTree.document, Document.object.injEq, Rule.documents_eq_map]
      rw [← List.forall₂_map_right_iff (R := Eq), List.forall₂_eq_eq_eq]
  | _ => simp [read, document]

/-- A key that holds no rule is told of by what is wrong with the first such key. -/
theorem RuleTree.read_object_eq_error_iff {entries : List (String × Document)}
    {defect : TreeDefect} :
    RuleTree.read (.object entries) = .error defect ↔
      ∃ earlier key value later, entries = earlier ++ (key, value) :: later ∧
        (∀ entry ∈ earlier, entry.2.IsRule) ∧ ¬ value.IsRule ∧
        TreeDefect.ofDocument value = defect := by
  have ruleless (entry : String × Document) :
      Run.fault? ((Rule.read entry.2).map (entry.1, ·)) = none ↔ entry.2.IsRule := by
    rw [Run.fault?_map, Run.fault?_eq_none_iff, Document.isRule_iff]
    simp only [Rule.read_eq_ok_iff, eq_comm (a := entry.2)]
  have faulty (entry : String × Document) :
      Run.fault? ((Rule.read entry.2).map (entry.1, ·)) = some defect ↔
        ¬ entry.2.IsRule ∧ TreeDefect.ofDocument entry.2 = defect := by
    rw [Run.fault?_map, Run.fault?_eq_some_iff, Rule.read_eq_error_iff]
  rw [read, ← Run.fault?_eq_some_iff, Run.fault?_mapM, List.findSome?_eq_some_iff]
  simp only [ruleless, faulty, Prod.exists]
  grind

/-- Reading rule trees is exact. Just the documents of the form of a rule tree are read, each as the
one rule tree that it is the document of, with its keys in order. Else the first key that holds no
rule decides what is wrong: several rule trees in its list, or just no rule. -/
theorem RuleTree.reading_exact :
    (∀ document, (∃ rules, RuleTree.read document = .ok rules) ↔ document.IsRuleTree) ∧
    (∀ document (rules : RuleTree),
      RuleTree.read document = .ok rules ↔ document = rules.document) ∧
    ∀ entries defect, RuleTree.read (.object entries) = .error defect ↔
      ∃ earlier key value later, entries = earlier ++ (key, value) :: later ∧
        (∀ entry ∈ earlier, entry.2.IsRule) ∧ ¬ value.IsRule ∧
        ((∃ count, value.ListsTrees count ∧ defect = .severalTrees count ∧
            defect.text =
              "array rule must hold exactly one object rule, found " ++ count.repr) ∨
          (∀ count, ¬ value.ListsTrees count) ∧ defect = .notRule ∧
            defect.text = "data did not match any variant of untagged enum RawRule") := by
  refine ⟨?_, fun document rules => read_eq_ok_iff, ?_⟩
  · intro document
    rw [Document.isRuleTree_iff]
    exact exists_congr fun rules => read_eq_ok_iff.trans eq_comm
  · intro entries defect
    rw [read_object_eq_error_iff]
    refine exists_congr fun earlier => exists_congr fun key => exists_congr fun value =>
      exists_congr fun later => ?_
    refine and_congr_right' (and_congr_right' (and_congr_right fun refused => ?_))
    simp only [Document.listsTrees_iff refused]
    constructor
    · rintro rfl
      rcases value.severalTrees_or_notRule with ⟨count, several⟩ | single
      · left
        exact ⟨count, several, several, by rw [several]; rfl⟩
      · right
        refine ⟨?_, single, by rw [single]; rfl⟩
        intro count
        rw [single]
        simp
    · rintro (⟨count, several, rfl, _⟩ | ⟨formless, rfl, _⟩)
      · exact several
      · rcases value.severalTrees_or_notRule with ⟨count, several⟩ | single
        · exact absurd several (formless count)
        · exact single

example : RuleTree.read (.object [("a", .object [("b", .list [.object [], .object []])])]) =
    .error .notRule := by
  rfl

end Rulebook
