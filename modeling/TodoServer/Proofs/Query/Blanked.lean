import TodoServer.Query.Executor

/-!
# Text does not depend on values

Blanking puts null in the place of every value and leaves all names, comparisons, connectives and
the shape of trees as they are. Writing and blanking commute, so what differs in values alone is
written as the same text and refused for the same reason.
-/

namespace TodoServer

/-! ## Blanking -/

/-- The value in the place of every value. -/
def Scalar.blanked (_ : Scalar) : Scalar := .null

/-- A condition without its value. -/
def Condition.blanked (c : Condition) : Condition :=
  { c with value := c.value.blanked }

mutual

/-- A tree without its values. -/
def Node.blanked : Node → Node
  | .condition c => .condition c.blanked
  | .group connective children => .group connective (Node.allBlanked children)

/-- Siblings without their values. -/
def Node.allBlanked : List Node → List Node
  | [] => []
  | node :: rest => node.blanked :: Node.allBlanked rest

end

/-- A filter without its values. -/
def Filter.blanked (f : Filter) : Filter :=
  ⟨Node.allBlanked f.nodes⟩

/-- A record without its values. -/
def Record.blanked (r : Record) : Record :=
  ⟨r.fields.map fun entry => (entry.1, entry.2.blanked)⟩

/-- A text without its values. -/
def Fragment.blanked (f : Fragment) : Fragment :=
  ⟨f.text, f.values.map Scalar.blanked⟩

/-- A command without its values. -/
def Command.blanked : Command → Command
  | .select table columns filter => .select table columns filter.blanked
  | .insert table data => .insert table data.blanked
  | .insertAll table first others => .insertAll table first.blanked (others.map Record.blanked)
  | .update table data filter => .update table data.blanked filter.blanked
  | .delete table filter => .delete table filter.blanked

/-! ## Records -/

namespace Record

variable (r : Record)

@[simp] theorem names_blanked : r.blanked.names = r.names := by
  simp [names, blanked]

@[simp] theorem values_blanked : r.blanked.values = r.values.map Scalar.blanked := by
  simp [values, blanked]

@[simp] theorem size_blanked : r.blanked.size = r.size := by
  simp [size, blanked]

@[simp] theorem isEmpty_blanked : r.blanked.isEmpty = r.isEmpty := by
  simp [isEmpty, blanked]

theorem blanked_set (field : String) (value : Scalar) :
    (r.set field value).blanked = r.blanked.set field value.blanked := by
  obtain ⟨fields⟩ := r
  simp only [set, blanked, mk.injEq]
  induction fields with
  | nil => rfl
  | cons entry rest ih =>
    obtain ⟨name, old⟩ := entry
    by_cases same : name = field
    · simp [place, same]
    · simp [place, same, ih]

theorem blanked_setGiven (field : String) (value : Option Scalar) :
    (r.setGiven field value).blanked = r.blanked.setGiven field (value.map Scalar.blanked) := by
  cases value with
  | none => rfl
  | some value => exact r.blanked_set field value

theorem blanked_ofList (entries : List (String × Scalar)) :
    (ofList entries).blanked = ofList (entries.map fun entry => (entry.1, entry.2.blanked)) := by
  have general (entries : List (String × Scalar)) (r : Record) :
      (entries.foldl (fun r entry => r.set entry.1 entry.2) r).blanked =
        (entries.map fun entry => (entry.1, entry.2.blanked)).foldl
          (fun r entry => r.set entry.1 entry.2) r.blanked := by
    induction entries generalizing r with
    | nil => rfl
    | cons entry rest ih => rw [List.foldl_cons, ih, blanked_set, List.map_cons, List.foldl_cons]
  exact general entries empty

end Record

/-! ## Condition text -/

@[simp] theorem Node.allBlanked_append (a b : List Node) :
    allBlanked (a ++ b) = allBlanked a ++ allBlanked b := by
  induction a with
  | nil => rfl
  | cons node rest ih => rw [List.cons_append, allBlanked, ih, allBlanked, List.cons_append]

theorem Condition.sql_blanked (c : Condition) (d : Dialect) (position : Nat) :
    c.blanked.sql d position = c.sql d position := rfl

mutual

theorem Node.piece?_blanked (d : Dialect) (bound : Nat) (node : Node) :
    node.blanked.piece? d bound =
      ((node.piece? d bound).1, (node.piece? d bound).2.map Scalar.blanked) := by
  match node with
  | .condition c =>
    rw [Node.blanked, Node.piece?, c.sql_blanked]
    rfl
  | .group connective children =>
    rw [Node.blanked, Node.piece?, Node.pieces_blanked d bound children, Node.piece?]
    dsimp only
    split <;> rfl

theorem Node.pieces_blanked (d : Dialect) (bound : Nat) (nodes : List Node) :
    Node.pieces d bound (Node.allBlanked nodes) =
      ((Node.pieces d bound nodes).1, (Node.pieces d bound nodes).2.map Scalar.blanked) := by
  match nodes with
  | [] => rfl
  | node :: rest =>
    have first := Node.piece?_blanked d bound node
    have others := fun bound => Node.pieces_blanked d bound rest
    simp only [Node.allBlanked, Node.pieces, first, others, List.length_map, List.map_append]

end

theorem Fragment.ofNodes_blanked (d : Dialect) (connective : Connective) (bound : Nat)
    (nodes : List Node) :
    ofNodes d connective bound (Node.allBlanked nodes) =
      (ofNodes d connective bound nodes).blanked := by
  rw [ofNodes, Node.pieces_blanked]
  rfl

theorem Fragment.ofFilter_blanked (d : Dialect) (bound : Nat) (f : Filter) :
    ofFilter d bound f.blanked = (ofFilter d bound f).blanked :=
  ofNodes_blanked d .and bound f.nodes

@[simp] theorem Fragment.text_blanked (f : Fragment) : f.blanked.text = f.text := rfl

@[simp] theorem Fragment.isEmpty_blanked (f : Fragment) : f.blanked.isEmpty = f.isEmpty := rfl

/-! ## Commands -/

namespace Command

variable (d : Dialect)

theorem tuples_blanked (bound : Nat) (rows : List Record) :
    tuples d bound (rows.map Record.blanked) = tuples d bound rows := by
  induction rows generalizing bound with
  | nil => rfl
  | cons row rest ih => rw [List.map_cons, tuples, row.size_blanked, ih, tuples]

/-- A command is written with the same text whatever its values are. -/
theorem write_blanked (command : Command) :
    command.blanked.write d = (command.write d).blanked := by
  cases command with
  | select table columns filter =>
    simp only [blanked, write, Fragment.ofFilter_blanked, Fragment.isEmpty_blanked,
      Fragment.text_blanked]
    rfl
  | insert table data =>
    simp only [blanked, write, Record.isEmpty_blanked, Record.names_blanked, Record.size_blanked,
      Record.values_blanked]
    split <;> rfl
  | insertAll table first others =>
    have rows := tuples_blanked d 0 (first :: others)
    rw [List.map_cons] at rows
    have values : (first.blanked :: others.map Record.blanked).flatMap Record.values =
        ((first :: others).flatMap Record.values).map Scalar.blanked := by
      rw [← List.map_cons, List.flatMap_map, List.map_flatMap]
      simp only [Record.values_blanked]
    simp only [blanked, write, Record.names_blanked, rows, values]
    rfl
  | update table data filter =>
    simp only [blanked, write, Record.names_blanked, Record.size_blanked, Record.values_blanked,
      Fragment.ofFilter_blanked, Fragment.text_blanked]
    simp only [Fragment.blanked, List.map_append]
  | delete table filter =>
    simp only [blanked, write, Fragment.ofFilter_blanked, Fragment.text_blanked]
    rfl

/-- A command is refused for the same reason whatever its values are. -/
theorem refusal?_blanked (command : Command) : command.blanked.refusal? d = command.refusal? d := by
  cases command with
  | update table data filter =>
    simp only [blanked, refusal?, Record.isEmpty_blanked, Record.size_blanked,
      Fragment.ofFilter_blanked, Fragment.isEmpty_blanked]
  | delete table filter =>
    simp only [blanked, refusal?, Fragment.ofFilter_blanked, Fragment.isEmpty_blanked]
  | select | insert | insertAll => rfl

end Command

/-! ## Calls -/

namespace Executor.Call

/-- A call without its values. -/
def blanked : Call → Call
  | .select table columns filter => .select table columns filter.blanked
  | .insert table data => .insert table data.blanked
  | .insertAll table rows => .insertAll table (rows.map Record.blanked)
  | .update table data filter => .update table data.blanked filter.blanked
  | .delete table filter => .delete table filter.blanked

/-- The text that a call is written as. There is none for a batch of no records. -/
def text? (d : Dialect) (call : Call) : Except Refusal (Option String) :=
  match call.command? with
  | none => .ok none
  | some command => (Statement.of d command).map fun s => some s.written.text

theorem command?_blanked (call : Call) :
    call.blanked.command? = call.command?.map Command.blanked := by
  cases call with
  | insertAll table rows => cases rows <;> rfl
  | select | insert | update | delete => rfl

theorem text?_blanked (d : Dialect) (call : Call) : call.blanked.text? d = call.text? d := by
  rw [text?, text?, command?_blanked]
  cases call.command? with
  | none => rfl
  | some command =>
    simp only [Option.map_some, Statement.of, command.refusal?_blanked d]
    cases command.refusal? d with
    | none =>
      simp only [Except.map, Statement.written, command.write_blanked d, Fragment.text_blanked]
    | some refusal => rfl

/-- Calls that differ in values alone have the same text, or are
refused for the same reason. -/
theorem text?_eq_of_blanked {call other : Call} (same : call.blanked = other.blanked)
    (d : Dialect) : call.text? d = other.text? d := by
  rw [← text?_blanked d call, same, text?_blanked d other]

theorem texts_issued (d : Dialect) (call : Call) :
    (call.issued d).map (fun s => s.written.text) = (call.text? d).toOption.join.toList := by
  rw [issued, text?]
  cases call.command? with
  | none => rfl
  | some command =>
    cases written : Statement.of d command with
    | ok s => simp [written, Except.map, Except.toOption]
    | error refusal => simp [written, Except.map, Except.toOption]

end Executor.Call

end TodoServer
