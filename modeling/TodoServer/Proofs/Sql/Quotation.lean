import Mathlib.Data.List.Basic
import TodoServer.Proofs.Sql.Outline

/-!
# Statements with their values in place

The log shows a statement with the literal of each value in the place of its placeholder and changes
nothing else, so both dialects show the same. Read with the quoting rule of SQL, what is shown holds
the bound texts in order, and a backslash behind the value of each pattern: no value ends a literal
or is taken for a placeholder.
-/

namespace TodoServer

open Sql

/-! ## Conditions -/

/-- The texts that stand in quotes for a condition: a bound text, and the escape sign of a
pattern. -/
def Condition.quotations (c : Condition) : List String :=
  c.value.toText?.toList ++ if c.comparison = .like then ["\\"] else []

/-- The texts that stand in quotes for a filter. -/
def Filter.quotations (f : Filter) : List String :=
  (Node.allConditions f.nodes).flatMap Condition.quotations

/-- The texts that stand in quotes when a command is shown with its values. -/
def Command.quotations : Command → List String
  | select _ _ filter => filter.quotations
  | insert _ data => data.values.filterMap Scalar.toText?
  | insertAll _ first others => ((first :: others).flatMap Record.values).filterMap Scalar.toText?
  | update _ data filter => data.values.filterMap Scalar.toText? ++ filter.quotations
  | delete _ filter => filter.quotations

/-- A condition as its words, its value and the clause of a pattern. -/
def Condition.outline (c : Condition) : Outline :=
  .words (c.field ++ " " ++ c.comparison.sql ++ " ") :: .value c.value ::
    if c.comparison = .like then [.escape] else []

mutual

/-- The outline of a tree, if it holds a condition. -/
def Node.outlines : Node → List Outline
  | .condition c => [c.outline]
  | .group connective children =>
    match Node.allOutlines children with
    | [] => []
    | first :: others =>
      [.words "(" ::
        (Outline.join (" " ++ connective.sql ++ " ") (first :: others) ++ [.words ")"])]

/-- The outlines of siblings that hold a condition. -/
def Node.allOutlines : List Node → List Outline
  | [] => []
  | node :: rest => node.outlines ++ Node.allOutlines rest

end

/-- The outline of a filter. -/
def Filter.outline (f : Filter) : Outline :=
  Outline.join " AND " (Node.allOutlines f.nodes)

namespace Condition

variable (c : Condition)

theorem written_outline (d : Dialect) (position : Nat) :
    c.outline.written d position = (c.sql d position).toList := by
  rw [outline, Condition.sql]
  cases c.comparison <;> simp [Outline.written, Comparison.trailing]

theorem values_outline : c.outline.values = [c.value] := by
  rw [outline]
  split <;> rfl

theorem quotations_outline : c.outline.quotations = c.quotations := by
  rw [outline, Condition.quotations]
  split <;> simp [Outline.quotations]

theorem spaced_outline (plain : isPlain c.field = true) : c.outline.Spaced := by
  have symbols : isPlain c.comparison.sql = true := by cases c.comparison <;> rfl
  have words : isPlain (c.field ++ " " ++ c.comparison.sql ++ " ") = true := by
    have blank : isPlain " " = true := rfl
    simp only [isPlain_append, plain, symbols, blank, Bool.and_self]
  rw [outline]
  split
  · exact .words words (.value _ rfl (.escape rfl .nil))
  · exact .words words (.value _ rfl .nil)

end Condition

mutual

/-- A tree is written as its outline, which lists the values of its conditions. -/
theorem Node.written_outlines (d : Dialect) (bound : Nat) (node : Node) :
    Outline.writtenAll d (bound + 1) node.outlines = (node.piece? d bound).1.toList ∧
      node.outlines.flatMap Outline.values = node.conditions.map Condition.value := by
  match node with
  | .condition c =>
    simp [Node.outlines, Node.piece?, Node.conditions, Outline.writtenAll, c.written_outline,
      c.values_outline]
  | .group connective children =>
    obtain ⟨texts, values⟩ := Node.written_allOutlines d bound children
    -- A group is dropped when no condition stands in it, however deep its own groups go.
    have blank := Node.joined_pieces_eq_empty_iff d connective bound children
    cases inner : Node.allOutlines children with
    | nil =>
      have nothing : Node.allConditions children = [] := by simpa [inner] using values.symm
      simp [Node.outlines, inner, Node.piece?, Node.conditions, nothing, blank.2 nothing,
        Outline.writtenAll]
    | cons first others =>
      rw [inner] at texts values
      have some : Node.allConditions children ≠ [] := by
        intro nothing
        rw [(Node.pieces_eq_nil_iff d bound children).2 nothing] at texts
        cases texts
      have joined := Outline.written_join d (bound + 1) (" " ++ connective.sql ++ " ")
        (first :: others)
      rw [texts] at joined
      have piece : ((Node.group connective children).piece? d bound).1 =
          .some ("(" ++ connective.joined (Node.pieces d bound children).1 ++ ")") := by
        simp [Node.piece?, mt blank.1 some]
      constructor
      · simp only [Node.outlines, inner, piece, Outline.writtenAll, Outline.written,
          Outline.written_append, joined, Connective.joined, Option.toList_some]
        simp [String.ofList_append, String.append_assoc]
      · simpa [Node.outlines, inner, Node.conditions, Outline.values] using values

theorem Node.written_allOutlines (d : Dialect) (bound : Nat) (nodes : List Node) :
    Outline.writtenAll d (bound + 1) (Node.allOutlines nodes) = (Node.pieces d bound nodes).1 ∧
      (Node.allOutlines nodes).flatMap Outline.values =
        (Node.allConditions nodes).map Condition.value := by
  match nodes with
  | [] => exact ⟨rfl, rfl⟩
  | node :: rest =>
    obtain ⟨first, values⟩ := Node.written_outlines d bound node
    obtain ⟨others, later⟩ :=
      Node.written_allOutlines d (bound + node.conditions.length) rest
    rw [Nat.add_right_comm] at others
    constructor
    · rw [Node.allOutlines, Outline.writtenAll_append, first, values, List.length_map, others]
      simp [Node.pieces, Node.piece?_values]
    · rw [Node.allOutlines, List.flatMap_append, values, later, Node.allConditions, List.map_append]

end

mutual

theorem Node.quotations_outlines (node : Node) :
    node.outlines.flatMap Outline.quotations = node.conditions.flatMap Condition.quotations := by
  match node with
  | .condition c => simp [Node.outlines, Node.conditions, c.quotations_outline]
  | .group connective children =>
    have inside := Node.quotations_allOutlines children
    cases inner : Node.allOutlines children with
    | nil => simpa [Node.outlines, inner, Node.conditions] using inside
    | cons first others =>
      simpa [Node.outlines, inner, Node.conditions, Outline.quotations] using inside

theorem Node.quotations_allOutlines (nodes : List Node) :
    (Node.allOutlines nodes).flatMap Outline.quotations =
      (Node.allConditions nodes).flatMap Condition.quotations := by
  match nodes with
  | [] => rfl
  | node :: rest =>
    rw [Node.allOutlines, List.flatMap_append, Node.quotations_outlines node,
      Node.quotations_allOutlines rest, Node.allConditions, List.flatMap_append]

end

mutual

theorem Node.spaced_outlines (node : Node)
    (plain : ∀ c ∈ node.conditions, isPlain c.field = true) :
    ∀ outline ∈ node.outlines, outline.Spaced := by
  match node with
  | .condition c =>
    simpa [Node.outlines] using c.spaced_outline (plain c (by simp [Node.conditions]))
  | .group connective children =>
    have inside := Node.spaced_allOutlines children plain
    cases inner : Node.allOutlines children with
    | nil => simp [Node.outlines, inner]
    | cons first others =>
      have joined : (Outline.join (" " ++ connective.sql ++ " ") (first :: others)).Spaced := by
        refine Outline.Spaced.join ?_ ?_ (inner ▸ inside) <;> cases connective <;> rfl
      simpa [Node.outlines, inner] using
        Outline.Spaced.words rfl (joined.append (.words rfl .nil) rfl)

theorem Node.spaced_allOutlines (nodes : List Node)
    (plain : ∀ c ∈ Node.allConditions nodes, isPlain c.field = true) :
    ∀ outline ∈ Node.allOutlines nodes, outline.Spaced := by
  match nodes with
  | [] => simp [Node.allOutlines]
  | node :: rest =>
    simp only [Node.allConditions, List.mem_append] at plain
    intro outline mem
    rcases List.mem_append.1 mem with first | later
    · exact Node.spaced_outlines node (fun c h => plain c (.inl h)) outline first
    · exact Node.spaced_allOutlines rest (fun c h => plain c (.inr h)) outline later

end

namespace Filter

variable (f : Filter)

theorem written_outline (d : Dialect) (bound : Nat) :
    f.outline.written d (bound + 1) = (Fragment.ofFilter d bound f).text.toList := by
  rw [outline, Outline.written_join, (Node.written_allOutlines d bound f.nodes).1]
  rfl

theorem values_outline : f.outline.values = f.values := by
  rw [outline, Outline.values_join, (Node.written_allOutlines .sqlite 0 f.nodes).2, Filter.values]

theorem quotations_outline : f.outline.quotations = f.quotations := by
  rw [outline, Outline.quotations_join, Node.quotations_allOutlines, Filter.quotations]

theorem spaced_outline (plain : ∀ name ∈ f.fields, isPlain name = true) : f.outline.Spaced :=
  Outline.Spaced.join rfl rfl
    (Node.spaced_allOutlines f.nodes fun c mem => plain c.field (List.mem_map_of_mem mem))

end Filter

/-! ## Records -/

/-- Places of values alone are written as their placeholders. -/
theorem Sql.Outline.writtenAll_values (d : Dialect) (position : Nat) (vs : List Scalar) :
    Outline.writtenAll d position (vs.map fun v => [.value v]) =
      d.placeholders position vs.length := by
  induction vs generalizing position with
  | nil => rfl
  | cons v rest ih =>
    rw [List.map_cons, Outline.writtenAll, List.length_cons, d.placeholders_succ, ← ih]
    simp [Outline.written, Outline.values]

namespace Record

variable (r : Record)

/-- The places of a record's values. -/
def outline : Outline :=
  Outline.join ", " (r.values.map fun v => [.value v])

/-- The places of a record's values in parentheses. -/
def tuple : Outline :=
  .words "(" :: (r.outline ++ [.words ")"])

/-- The assignments of a record's values to its fields. -/
def assignments : List Outline :=
  r.fields.map fun (name, v) => [.words (name ++ " = "), .value v]

theorem written_outline (d : Dialect) (position : Nat) :
    r.outline.written d position = (d.placeholderList position r.size).toList := by
  rw [outline, Outline.written_join, Outline.writtenAll_values, r.length_values]
  rfl

@[simp] theorem values_outline : r.outline.values = r.values := by
  rw [outline, Outline.values_join, List.flatMap_map]
  exact List.flatMap_singleton' r.values

@[simp] theorem quotations_outline :
    r.outline.quotations = r.values.filterMap Scalar.toText? := by
  rw [outline, Outline.quotations_join, List.flatMap_map, List.filterMap_eq_flatMap_toList]
  simp [Outline.quotations]

theorem spaced_outline : r.outline.Spaced := by
  refine Outline.Spaced.join rfl rfl fun o mem => ?_
  obtain ⟨v, -, rfl⟩ := List.mem_map.1 mem
  exact .value v rfl .nil

theorem spaced_tuple : r.tuple.Spaced :=
  .words rfl (r.spaced_outline.append (.words rfl .nil) rfl)

theorem writtenAll_tuples (d : Dialect) (bound : Nat) (rows : List Record) :
    Outline.writtenAll d (bound + 1) (rows.map tuple) = Command.tuples d bound rows := by
  induction rows generalizing bound with
  | nil => rfl
  | cons row rest ih =>
    have others := ih (bound + row.size)
    rw [Nat.add_right_comm] at others
    rw [List.map_cons, Outline.writtenAll, Command.tuples]
    simp [tuple, Outline.written, Outline.written_append, written_outline, Outline.values, others,
      String.ofList_append, String.append_assoc]

theorem writtenAll_assignments (d : Dialect) (position : Nat) :
    Outline.writtenAll d position r.assignments = Command.assignments d position r.names := by
  obtain ⟨fields⟩ := r
  simp only [assignments, names]
  induction fields generalizing position with
  | nil => rfl
  | cons field rest ih =>
    rw [List.map_cons, List.map_cons, Outline.writtenAll, Command.assignments, Outline.written,
      Outline.written, Outline.written, List.append_nil, ← String.toList_append,
      String.ofList_toList]
    exact congrArg _ (ih (position + 1))

theorem flatMap_values_assignments : r.assignments.flatMap Outline.values = r.values := by
  rw [assignments, List.flatMap_map, values, List.map_eq_flatMap]
  rfl

theorem flatMap_quotations_assignments :
    r.assignments.flatMap Outline.quotations = r.values.filterMap Scalar.toText? := by
  rw [assignments, List.flatMap_map, values, List.filterMap_map, List.filterMap_eq_flatMap_toList]
  exact List.flatMap_congr fun field _ => List.append_nil _

theorem spaced_assignments (plain : ∀ name ∈ r.names, isPlain name = true) :
    ∀ outline ∈ r.assignments, outline.Spaced := by
  intro outline mem
  obtain ⟨⟨name, v⟩, held, rfl⟩ := List.mem_map.1 mem
  have words : isPlain (name ++ " = ") = true := by
    rw [isPlain_append, plain name (List.mem_map_of_mem held)]
    rfl
  exact .words words (.value v rfl .nil)

end Record

/-! ## Statements -/

theorem Sql.isPlain_comma : isPlain ", " = true :=
  rfl

theorem Sql.isPlain_commas {parts : List String} (h : ∀ part ∈ parts, isPlain part = true) :
    isPlain (Text.join ", " parts) = true :=
  Text.all_join isPlain_comma h

namespace Command

/-- The columns of a selection as they are written. -/
def projection (columns : List String) : String :=
  if columns.isEmpty then "*" else Text.join ", " columns

/-- The outline of a command. -/
def outline : Command → Outline
  | select table columns filter =>
    .words ("SELECT " ++ projection columns ++ " FROM " ++ table) ::
      if (Node.allConditions filter.nodes).isEmpty then [] else .words " WHERE " :: filter.outline
  | insert table data =>
    if data.isEmpty then [.words ("INSERT INTO " ++ table ++ " DEFAULT VALUES")]
    else
      .words ("INSERT INTO " ++ table ++ " (" ++ Text.join ", " data.names ++ ") VALUES (") ::
        (data.outline ++ [.words ")"])
  | insertAll table first others =>
    .words ("INSERT INTO " ++ table ++ " (" ++ Text.join ", " first.names ++ ") VALUES ") ::
      Outline.join ", " ((first :: others).map Record.tuple)
  | update table data filter =>
    .words ("UPDATE " ++ table ++ " SET ") ::
      (Outline.join ", " data.assignments ++ .words " WHERE " :: filter.outline)
  | delete table filter => .words ("DELETE FROM " ++ table ++ " WHERE ") :: filter.outline

/-- A command is written as its outline. -/
theorem written_outline (d : Dialect) (command : Command) :
    command.outline.written d 1 = (command.write d).text.toList := by
  cases command with
  | select table columns filter =>
    have condition := filter.written_outline d 0
    simp only [outline, write, Fragment.ofFilter, Fragment.isEmpty_ofNodes] at condition ⊢
    split
    · simp [Outline.written, projection]
    · simp [Outline.written, projection, condition]
  | insert table data =>
    simp only [outline, write]
    split
    · simp [Outline.written]
    · simp [Outline.written, Outline.written_append, data.written_outline]
  | insertAll table first others =>
    have tuples := Record.writtenAll_tuples d 0 (first :: others)
    simp only [outline, write, Outline.written, Outline.written_join, tuples]
    simp
  | update table data filter =>
    have set := data.writtenAll_assignments d 1
    have condition := filter.written_outline d data.size
    rw [Nat.add_comm] at condition
    simp only [outline, write, Outline.written, Outline.written_append, Outline.written_join, set,
      Outline.values_join, data.flatMap_values_assignments, data.length_values, condition]
    simp
  | delete table filter =>
    have condition := filter.written_outline d 0
    simp only [outline, write, Outline.written, condition]
    simp

theorem values_outline (command : Command) : command.outline.values = command.values := by
  cases command with
  | select table columns filter =>
    simp only [outline, values, Outline.values]
    split
    · next blank => rw [Filter.values, List.isEmpty_iff.1 blank]; rfl
    · exact filter.values_outline
  | insert table data =>
    simp only [outline, values]
    split
    · next blank => simp_all [Record.isEmpty, Record.values, Outline.values]
    · simp [Outline.values]
  | insertAll table first others =>
    have single (row : Record) : row.tuple.values = row.values := by
      simp [Record.tuple, Outline.values]
    simp only [outline, values, Outline.values, Outline.values_join, List.flatMap_map, single]
  | update table data filter =>
    simp only [outline, values, Outline.values, Outline.values_append, Outline.values_join,
      data.flatMap_values_assignments, filter.values_outline]
  | delete table filter => exact filter.values_outline

theorem quotations_outline (command : Command) :
    command.outline.quotations = command.quotations := by
  cases command with
  | select table columns filter =>
    simp only [outline, quotations, Outline.quotations]
    split
    · next blank => rw [Filter.quotations, List.isEmpty_iff.1 blank]; rfl
    · exact filter.quotations_outline
  | insert table data =>
    simp only [outline, quotations]
    split
    · next blank => simp_all [Record.isEmpty, Record.values, Outline.quotations]
    · simp [Outline.quotations]
  | insertAll table first others =>
    have single (row : Record) : row.tuple.quotations = row.values.filterMap Scalar.toText? := by
      simp [Record.tuple, Outline.quotations]
    simp only [outline, quotations, Outline.quotations, Outline.quotations_join, List.flatMap_map,
      single, List.filterMap_flatMap]
  | update table data filter =>
    simp only [outline, quotations, Outline.quotations, Outline.quotations_append,
      Outline.quotations_join, data.flatMap_quotations_assignments, filter.quotations_outline]
  | delete table filter => exact filter.quotations_outline

/-- Words around plain names are plain. -/
theorem isPlain_around {a s b : String} (ha : isPlain a = true) (h : isPlain s = true)
    (hb : isPlain b = true) : isPlain (a ++ s ++ b) = true :=
  Text.all_around ha h hb

theorem spaced_outline {command : Command} (plain : ∀ name ∈ command.names, isPlain name = true) :
    command.outline.Spaced := by
  cases command with
  | select table columns filter =>
    simp only [names, List.cons_append, List.forall_mem_cons, List.forall_mem_append] at plain
    obtain ⟨named, projected, compared⟩ := plain
    have listed : isPlain (projection columns) = true := by
      rw [projection]
      split
      · rfl
      · exact isPlain_commas projected
    have front : isPlain ("SELECT " ++ projection columns ++ " FROM " ++ table) = true := by
      rw [isPlain_append, isPlain_around rfl listed rfl, named]
      rfl
    refine .words front ?_
    split
    · exact .nil
    · exact .words rfl (filter.spaced_outline compared)
  | insert table data =>
    simp only [names, List.forall_mem_cons] at plain
    have front := isPlain_around (a := "INSERT INTO ") (b := " (") rfl plain.1 rfl
    have columns := isPlain_commas plain.2
    rw [outline]
    split
    · exact .words (isPlain_around rfl plain.1 rfl) .nil
    · exact .words (isPlain_around front columns rfl)
        (data.spaced_outline.append (.words rfl .nil) rfl)
  | insertAll table first others =>
    simp only [names, List.forall_mem_cons] at plain
    have front := isPlain_around (a := "INSERT INTO ") (b := " (") rfl plain.1 rfl
    have columns := isPlain_commas plain.2
    refine .words (isPlain_around front columns rfl) (Outline.Spaced.join rfl rfl fun o mem => ?_)
    obtain ⟨row, -, rfl⟩ := List.mem_map.1 mem
    exact row.spaced_tuple
  | update table data filter =>
    simp only [names, List.cons_append, List.forall_mem_cons, List.forall_mem_append] at plain
    obtain ⟨named, fields, compared⟩ := plain
    have set := Outline.Spaced.join isPlain_comma rfl (data.spaced_assignments fields)
    have condition := filter.spaced_outline compared
    exact .words (isPlain_around rfl named rfl) (set.append (.words rfl condition) rfl)
  | delete table filter =>
    simp only [names, List.forall_mem_cons] at plain
    exact .words (isPlain_around rfl plain.1 rfl) (filter.spaced_outline plain.2)

end Command

theorem Sql.isUnmarked_of_isPlain {s : String} (plain : isPlain s = true) :
    isUnmarked s = true := by
  have safe := isPlain_iff.1 plain
  rw [isUnmarked, List.all_eq_true]
  intro c mem
  obtain ⟨question, dollar, -⟩ := safe c mem
  simp [question, dollar]

/-- Whether a command is refused does not depend on the dialect. -/
theorem Command.refusal?_eq (d d' : Dialect) (command : Command) :
    command.refusal? d = command.refusal? d' := by
  cases command <;> simp only [refusal?, Fragment.ofFilter, Fragment.isEmpty_ofNodes]

/-- What the log shows for a command is what its outline shows. -/
theorem Command.inlined_write (d : Dialect) {command : Command}
    (plain : ∀ name ∈ command.names, isPlain name = true) :
    inlined (command.write d).text (command.write d).values =
      String.ofList command.outline.shown := by
  have put := flatten_inlineFrom_written (spaced_outline plain) d [] fun _ => rfl
  rw [List.nil_append, List.length_nil, Nat.zero_add, command.written_outline,
    command.values_outline] at put
  rw [inlined, command.values_write, put]

/-- **What the log shows is faithful.** A statement holds one placeholder for each value, and is
shown with the placeholders replaced from left to right by the literals of its values and nothing
else changed. In the other dialect the same command is shown as the same text. Read with the quoting
rule of SQL, what is shown holds the bound texts, and a backslash behind the value of each
pattern. -/
theorem shown_statement_faithful {d : Dialect} {command : Command} {s : Statement}
    (made : Statement.of d command = .ok s) (plain : ∀ name ∈ command.names, isPlain name = true) :
    (marks s.written.text.toList).length = s.written.values.length ∧
      inlined s.written.text s.written.values =
        replaced (s.written.values.map literal) s.written.text ∧
      (∀ d' : Dialect, ∃ s' : Statement, Statement.of d' command = .ok s' ∧
        inlined s'.written.text s'.written.values = inlined s.written.text s.written.values) ∧
      quotations? (inlined s.written.text s.written.values) = some command.quotations := by
  obtain ⟨granted, rfl⟩ := Statement.of_eq_ok_iff.1 made
  have shown := Command.inlined_write d plain
  have spaced := Command.spaced_outline plain
  simp only [Statement.written]
  refine ⟨?_, ?_, fun d' => ⟨⟨command, d'⟩, ?_, ?_⟩, ?_⟩
  · have unmarked : ∀ name ∈ command.names, isUnmarked name = true :=
      fun name mem => isUnmarked_of_isPlain (plain name mem)
    rw [(command.marked_write d unmarked).marks_eq, command.values_write]
    simp [Dialect.placeholders]
  · have put := replacedFrom_written spaced d 1
    rw [command.written_outline, command.values_outline] at put
    rw [shown, replaced, command.values_write, List.map_map]
    exact congrArg String.ofList put.symm
  · exact Statement.of_eq_ok_iff.2 ⟨(command.refusal?_eq d' d).trans granted, rfl⟩
  · exact (Command.inlined_write d' plain).trans shown.symm
  · rw [shown, quotations?, String.toList_ofList, quotationsFrom_shown spaced,
      command.quotations_outline]

/-- An update whose values look like placeholders, hold quotes and end in a backslash. -/
def quotedUpdate : Command :=
  .update "todos" (.ofList [("title", .text "it\x27s ?"), ("description", .text "$1\n\x27"),
      ("completed", .bool true)])
    ⟨[.condition ⟨"title", .like, .text "100\\%"⟩, .condition ⟨"id", .like, .integer 4⟩]⟩

theorem shown_quotedUpdate :
    Statement.of .postgres quotedUpdate = .ok ⟨quotedUpdate, .postgres⟩ ∧
      (∀ name ∈ quotedUpdate.names, isPlain name = true) ∧
      quotations? (inlined (quotedUpdate.write .postgres).text
        (quotedUpdate.write .postgres).values) =
        some ["it\x27s ?", "$1\n\x27", "100\\%", "\\", "\\"] ∧
      ∃ s : Statement, Statement.of .sqlite quotedUpdate = .ok s ∧
        inlined s.written.text s.written.values =
          inlined (quotedUpdate.write .postgres).text (quotedUpdate.write .postgres).values := by
  have made : Statement.of .postgres quotedUpdate = .ok ⟨quotedUpdate, .postgres⟩ := by
    refine Statement.of_eq_ok_iff.2 ⟨?_, rfl⟩
    rw [quotedUpdate, Command.refusal?, Fragment.ofFilter, Fragment.isEmpty_ofNodes]
    decide
  have plain : ∀ name ∈ quotedUpdate.names, isPlain name = true := by decide
  obtain ⟨-, -, dialects, quoted⟩ := shown_statement_faithful made plain
  exact ⟨made, plain, quoted, dialects .sqlite⟩

end TodoServer
