import TodoServer.Filter.Basic
import TodoServer.Sql.Dialect

/-!
# Condition text

A filter becomes the text of a condition and the values that its placeholders bind, the first
placeholder the first value. Groups stand in parentheses, and a group that comes to no text leaves
no trace.
-/

namespace TodoServer

/-- SQL text with the values of its placeholders, in order. -/
structure Fragment where
  text : String
  values : List Scalar
  deriving DecidableEq, Repr, Inhabited

namespace Fragment

def isEmpty (f : Fragment) : Bool :=
  f.text.isEmpty

end Fragment

/-- The text of a condition whose value has a position. -/
def Condition.sql (c : Condition) (d : Dialect) (position : Nat) : String :=
  c.field ++ " " ++ c.comparison.sql ++ " " ++ d.placeholder position ++ c.comparison.trailing

/-- The pieces joined by a connective. -/
def Connective.joined (connective : Connective) (pieces : List String) : String :=
  Text.join (" " ++ connective.sql ++ " ") pieces

mutual

/-- The piece of a tree, if it comes to any text, and its values. `bound` values come before. -/
def Node.piece? (d : Dialect) (bound : Nat) : Node → Option String × List Scalar
  | .condition c => (some (c.sql d (bound + 1)), [c.value])
  | .group connective children =>
    let (pieces, values) := Node.pieces d bound children
    let text := connective.joined pieces
    if text.isEmpty then (none, []) else (some ("(" ++ text ++ ")"), values)

/-- The pieces of siblings and their values. -/
def Node.pieces (d : Dialect) (bound : Nat) : List Node → List String × List Scalar
  | [] => ([], [])
  | node :: rest =>
    let (piece, values) := node.piece? d bound
    let (pieces, others) := Node.pieces d (bound + values.length) rest
    (piece.toList ++ pieces, values ++ others)

end

namespace Fragment

/-- The condition text of siblings behind `bound` values of the enclosing statement. -/
def ofNodes (d : Dialect) (connective : Connective) (bound : Nat) (nodes : List Node) : Fragment :=
  let (pieces, values) := Node.pieces d bound nodes
  ⟨connective.joined pieces, values⟩

/-- The condition text of a filter. -/
def ofFilter (d : Dialect) (bound : Nat) (f : Filter) : Fragment :=
  ofNodes d .and bound f.nodes

end Fragment

/-! ## Empty text

Conditions and groups in parentheses come to text, so only what holds no condition comes to none. -/

theorem Condition.sql_ne_empty (c : Condition) (d : Dialect) (position : Nat) :
    c.sql d position ≠ "" := by
  simp [Condition.sql]

/-- Siblings come to no text exactly when there are none. -/
theorem Connective.joined_eq_empty_iff (connective : Connective) {pieces : List String}
    (h : ∀ piece ∈ pieces, piece ≠ "") : connective.joined pieces = "" ↔ pieces = [] := by
  match pieces, h with
  | [], _ => simp [joined, Text.join]
  | [piece], h => simpa [joined, Text.join] using h
  | piece :: other :: rest, h =>
    simp [joined, Text.join, String.intercalate_cons_cons, h piece]

mutual

theorem Node.piece?_ne_empty (d : Dialect) (bound : Nat) (node : Node) :
    ∀ piece ∈ (node.piece? d bound).1, piece ≠ "" := by
  match node with
  | .condition c => simp [Node.piece?, Condition.sql_ne_empty]
  | .group connective children =>
    simp only [Node.piece?]
    split <;> simp

theorem Node.pieces_ne_empty (d : Dialect) (bound : Nat) (nodes : List Node) :
    ∀ piece ∈ (Node.pieces d bound nodes).1, piece ≠ "" := by
  match nodes with
  | [] => simp [Node.pieces]
  | node :: rest =>
    intro piece h
    simp only [Node.pieces, List.mem_append, Option.mem_toList] at h
    rcases h with h | h
    · exact Node.piece?_ne_empty d bound node piece h
    · exact Node.pieces_ne_empty d _ rest piece h

end

mutual

/-- A tree comes to no text exactly when it holds no condition at any depth. -/
theorem Node.piece?_eq_none_iff (d : Dialect) (bound : Nat) (node : Node) :
    (node.piece? d bound).1 = none ↔ node.conditions = [] := by
  match node with
  | .condition c => simp [Node.piece?, Node.conditions]
  | .group connective children =>
    have joined := connective.joined_eq_empty_iff (Node.pieces_ne_empty d bound children)
    rw [Node.pieces_eq_nil_iff] at joined
    simp only [Node.piece?, Node.conditions, ← joined]
    split <;> simp_all

/-- Siblings come to no piece exactly when they hold no condition at any depth. -/
theorem Node.pieces_eq_nil_iff (d : Dialect) (bound : Nat) (nodes : List Node) :
    (Node.pieces d bound nodes).1 = [] ↔ Node.allConditions nodes = [] := by
  match nodes with
  | [] => simp [Node.pieces, Node.allConditions]
  | node :: rest =>
    simp [Node.pieces, Node.allConditions, Node.piece?_eq_none_iff d bound node,
      Node.pieces_eq_nil_iff d _ rest]

end

/-- Siblings come to no text exactly when they hold no condition at any depth. -/
theorem Node.joined_pieces_eq_empty_iff (d : Dialect) (connective : Connective) (bound : Nat)
    (nodes : List Node) :
    connective.joined (Node.pieces d bound nodes).1 = "" ↔ Node.allConditions nodes = [] := by
  rw [connective.joined_eq_empty_iff (Node.pieces_ne_empty d bound nodes), Node.pieces_eq_nil_iff]

/-- A fragment is empty exactly when its nodes hold no condition at any depth. -/
theorem Fragment.isEmpty_ofNodes (d : Dialect) (connective : Connective) (bound : Nat)
    (nodes : List Node) :
    (ofNodes d connective bound nodes).isEmpty = (Node.allConditions nodes).isEmpty := by
  rw [Bool.eq_iff_iff, isEmpty, String.isEmpty_iff, List.isEmpty_iff]
  exact Node.joined_pieces_eq_empty_iff d connective bound nodes

/-! ## Values -/

mutual

/-- The values of a tree are those of its conditions, in order. -/
theorem Node.piece?_values (d : Dialect) (bound : Nat) (node : Node) :
    (node.piece? d bound).2 = node.conditions.map Condition.value := by
  match node with
  | .condition c => rfl
  | .group connective children =>
    have joined := Node.joined_pieces_eq_empty_iff d connective bound children
    have values := Node.pieces_values d bound children
    simp only [Node.piece?, Node.conditions]
    split <;> simp_all

theorem Node.pieces_values (d : Dialect) (bound : Nat) (nodes : List Node) :
    (Node.pieces d bound nodes).2 = (Node.allConditions nodes).map Condition.value := by
  match nodes with
  | [] => rfl
  | node :: rest =>
    simp [Node.pieces, Node.allConditions, Node.piece?_values d bound node,
      Node.pieces_values d _ rest]

end

@[simp] theorem Fragment.values_ofNodes (d : Dialect) (connective : Connective) (bound : Nat)
    (nodes : List Node) :
    (ofNodes d connective bound nodes).values =
      (Node.allConditions nodes).map Condition.value := by
  simp [ofNodes, Node.pieces_values]

end TodoServer
