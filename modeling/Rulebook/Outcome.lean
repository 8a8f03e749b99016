/-!
Outcomes: what a validation comes to. Data is valid, or there are messages; each is there once,
where it was first produced.
-/

namespace Rulebook

def firstOccurrences {α : Type} [DecidableEq α] : List α → List α
  | [] => []
  | a :: rest => a :: (firstOccurrences rest).filter (· ≠ a)

theorem mem_firstOccurrences {α : Type} [DecidableEq α] {a : α} {items : List α} :
    a ∈ firstOccurrences items ↔ a ∈ items := by
  induction items with
  | nil => rfl
  | cons head rest ih =>
      by_cases same : a = head
      · simp [firstOccurrences, same]
      · simp [firstOccurrences, same, ih]

/-- What a validation comes to. The messages are distinct. -/
inductive Outcome where
  | valid
  | invalid (first : String) (others : List String)
  deriving DecidableEq, Repr

namespace Outcome

def ofMessages (messages : List String) : Outcome :=
  match firstOccurrences messages with
  | [] => .valid
  | first :: others => .invalid first others

def isValid : Outcome → Bool
  | .valid => true
  | .invalid _ _ => false

def messages : Outcome → List String
  | .valid => []
  | .invalid first others => first :: others

/-- The messages of an outcome that is not valid. -/
def errors? : Outcome → Option (List String)
  | .valid => none
  | .invalid first others => some (first :: others)

theorem isValid_ofMessages (messages : List String) :
    (ofMessages messages).isValid = messages.isEmpty := by
  cases messages <;> rfl

theorem messages_ofMessages (messages : List String) :
    (ofMessages messages).messages = firstOccurrences messages := by
  rw [ofMessages]
  cases firstOccurrences messages <;> rfl

end Outcome

end Rulebook
