import Rulebook.Clause

/-!
What the earlier clauses of a field mean for the later ones. A clause is judged knowing which kinds
were asked for before it. For the items of arrays this is kept in layers, one for every depth, along
with the ways in which items may be missing. The layers are written while arrays are judged, so what
judging one item leaves behind is what the next item finds.
-/

namespace Rulebook

structure Declared where
  string : Bool
  numeric : Bool
  deriving DecidableEq, Repr

namespace Declared

def nothing : Declared := ⟨false, false⟩

def record (declared : Declared) : Clause → Declared
  | .kind .string => { declared with string := true }
  | .kind .number | .refinement _ => { declared with numeric := true }
  | _ => declared

theorem record_record (declared : Declared) (clause : Clause) :
    (declared.record clause).record clause = declared.record clause := by
  cases clause with
  | kind expected => cases expected <;> rfl
  | _ => rfl

/-- Whether text is asked for that spells a number: then it is measured as that number. -/
def numericText (declared : Declared) : Bool :=
  declared.string && declared.numeric

end Declared

/-- Whether the value is missing in the way that a marker lets pass. -/
def Clause.excuses (value : Value) : Clause → Bool
  | .optional => value.isUndefined
  | .nullable => value.isNull
  | _ => false

theorem Clause.excuses_of_isCheck {clause : Clause} (checked : clause.isCheck) (value : Value) :
    clause.excuses value = false := by
  cases clause <;> simp [isCheck, excuses] at checked ⊢

/-- What the earlier clauses about the items of one depth mean for them. -/
structure Layer where
  allowsUndefined : Bool
  allowsNull : Bool
  declared : Declared
  deriving DecidableEq, Repr

namespace Layer

def blank : Layer := ⟨false, false, .nothing⟩

def record (layer : Layer) : Clause → Layer
  | .optional => { layer with allowsUndefined := true }
  | .nullable => { layer with allowsNull := true }
  | checked => { layer with declared := layer.declared.record checked }

theorem record_record (layer : Layer) (clause : Clause) :
    (layer.record clause).record clause = layer.record clause := by
  cases clause with
  | kind expected => cases expected <;> rfl
  | _ => rfl

theorem record_declared (layer : Layer) (clause : Clause) :
    (layer.record clause).declared = layer.declared.record clause := by
  cases clause <;> rfl

def exempts (layer : Layer) (item : Value) : Bool :=
  (layer.allowsUndefined && item.isUndefined) || (layer.allowsNull && item.isNull)

theorem exempts_record (layer : Layer) (clause : Clause) (item : Value) :
    (layer.record clause).exempts item = (layer.exempts item || clause.excuses item) := by
  cases clause with
  | optional =>
      cases undefined : item.isUndefined <;> simp [record, exempts, Clause.excuses, undefined]
  | nullable => cases null : item.isNull <;> simp [record, exempts, Clause.excuses, null]
  | _ => simp [record, exempts, Clause.excuses]

end Layer

/-- The layers from the items of a value downwards. Layers past the end are blank. -/
abbrev Layers := List Layer

namespace Layers

def first (layers : Layers) : Layer :=
  layers.headD .blank

def below (layers : Layers) : Layers :=
  layers.tail

end Layers

/-- What a field keeps while its clauses are judged one after the other. -/
structure Scope where
  declared : Declared
  layers : Layers

def Scope.fresh : Scope := ⟨.nothing, []⟩

end Rulebook
