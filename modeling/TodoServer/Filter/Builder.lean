import TodoServer.Filter.Basic

/-!
# Building filters

A builder gathers trees one after the other. It remembers the first condition that could not be
made and goes on; asking for the filter then reports it.
-/

namespace TodoServer

/-- Trees gathered so far, and the first error met. -/
structure FilterBuilder where
  nodes : List Node
  error : Option FilterError
  deriving Repr, Inhabited

namespace FilterBuilder

def empty : FilterBuilder := ⟨[], none⟩

/-- Appends a condition, or remembers why there is none. -/
def condition (b : FilterBuilder) (field : String) (comparison : Comparison) (value : Scalar) :
    FilterBuilder :=
  match Condition.of field comparison value with
  | .ok c => { b with nodes := b.nodes ++ [.condition c] }
  | .error e => { b with error := b.error <|> some e }

/-- Appends an equality. -/
def eq (b : FilterBuilder) (field : String) (value : Scalar) : FilterBuilder :=
  b.condition field .eq value

/-- Appends an equality when a value is given. -/
def eqGiven (b : FilterBuilder) (field : String) (value : Option Scalar) : FilterBuilder :=
  match value with
  | some value => b.eq field value
  | none => b

/-- Appends a group of finished trees. -/
def group (b : FilterBuilder) (connective : Connective) (children : List Node) : FilterBuilder :=
  { b with nodes := b.nodes ++ [.group connective children] }

/-- Appends the trees of another builder as one group, and takes over its error. -/
def nested (b : FilterBuilder) (connective : Connective) (inner : FilterBuilder) :
    FilterBuilder :=
  ⟨b.nodes ++ [.group connective inner.nodes], b.error <|> inner.error⟩

/-- The filter gathered, or the first error. -/
def build (b : FilterBuilder) : Except FilterError Filter :=
  match b.error with
  | some e => .error e
  | none => .ok ⟨b.nodes⟩

end FilterBuilder

end TodoServer
