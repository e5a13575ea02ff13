import TodoServer.Proofs.Text.Parts
import TodoServer.Sql.Statement

/-!
# Placeholders in written text

The placeholders of a statement, read from left to right, are those of the positions from one on,
and the values stand in the same order. The positions run through the whole text: past the
assignments of an update into its condition, and from one tuple of a batch into the next.
-/

namespace TodoServer

namespace Sql

/-- The placeholders in a text from left to right: question marks, and dollar signs with the digits
behind them. -/
def marks : List Char → List String
  | [] => []
  | c :: rest =>
    if c = '?' then "?" :: marks rest
    else if c = '$' then String.ofList ('$' :: rest.takeWhile Char.isDigit) :: marks rest
    else marks rest

/-- Whether a text holds no sign that starts a placeholder. -/
def isUnmarked (s : String) : Bool :=
  s.toList.all fun c => c ≠ '?' && c ≠ '$'

/-- Whether a text ends the digits before it and holds no placeholder itself. -/
def isSeparator (s : String) : Bool :=
  isUnmarked s && s.toList.head?.any fun c => !c.isDigit

/-- Whatever follows, unless it is a digit, a text holds these placeholders. -/
def Marked (text : String) (ms : List String) : Prop :=
  ∀ rest : List Char, (∀ c ∈ rest.head?, c.isDigit = false) →
    marks (text.toList ++ rest) = ms ++ marks rest

theorem marks_append_of_isUnmarked {s : String} (h : isUnmarked s = true) (rest : List Char) :
    marks (s.toList ++ rest) = marks rest := by
  rw [isUnmarked] at h
  generalize s.toList = cs at h
  induction cs with
  | nil => rfl
  | cons c cs ih =>
    rw [List.all_cons, Bool.and_eq_true] at h
    obtain ⟨question, dollar⟩ : c ≠ '?' ∧ c ≠ '$' := by simpa using h.1
    rw [List.cons_append, marks, if_neg question, if_neg dollar]
    exact ih h.2

@[simp] theorem isUnmarked_append (a b : String) :
    isUnmarked (a ++ b) = (isUnmarked a && isUnmarked b) := by
  simp [isUnmarked]

theorem isUnmarked_around {a s b : String} (ha : isUnmarked a = true) (h : isUnmarked s = true)
    (hb : isUnmarked b = true) : isUnmarked (a ++ s ++ b) = true :=
  Text.all_around ha h hb

theorem isUnmarked_join (separator : String) {parts : List String}
    (plain : isUnmarked separator = true) (h : ∀ part ∈ parts, isUnmarked part = true) :
    isUnmarked (Text.join separator parts) = true :=
  Text.all_join plain h

namespace Marked

theorem of_isUnmarked {s : String} (h : isUnmarked s = true) : Marked s [] :=
  fun rest _ => marks_append_of_isUnmarked h rest

theorem behind {a b : String} {ms : List String} (h : isUnmarked a = true) (hb : Marked b ms) :
    Marked (a ++ b) ms := by
  intro rest ends
  rw [String.toList_append, List.append_assoc, marks_append_of_isUnmarked h]
  exact hb rest ends

/-- Placeholders go on behind a separator. -/
theorem separated {a separator b : String} {ms ns : List String} (ha : Marked a ms)
    (h : isSeparator separator = true) (hb : Marked b ns) :
    Marked (a ++ separator ++ b) (ms ++ ns) := by
  intro rest ends
  obtain ⟨plain, start⟩ := Bool.and_eq_true_iff.1 h
  have head : ∀ c ∈ (separator.toList ++ (b.toList ++ rest)).head?, c.isDigit = false := by
    cases spelled : separator.toList <;> simp_all
  rw [String.toList_append, String.toList_append, List.append_assoc, List.append_assoc,
    ha _ head, marks_append_of_isUnmarked plain, hb rest ends, List.append_assoc]

/-- A separator may follow placeholders. -/
theorem stopped {a separator : String} {ms : List String} (ha : Marked a ms)
    (h : isSeparator separator = true) : Marked (a ++ separator) ms := by
  have nothing : Marked "" [] := of_isUnmarked rfl
  simpa using ha.separated h nothing

theorem enclosed {a : String} {ms : List String} (h : Marked a ms) :
    Marked ("(" ++ a ++ ")") ms := by
  rw [String.append_assoc]
  exact behind rfl (h.stopped rfl)

end Marked

/-- Digits start no placeholder. -/
theorem marks_append_of_digits {cs : List Char} (inside : ∀ c ∈ cs, c.isDigit = true)
    (rest : List Char) : marks (cs ++ rest) = marks rest := by
  have plain : isUnmarked (String.ofList cs) = true := by
    simp only [isUnmarked, String.toList_ofList, List.all_eq_true]
    intro c h
    have digit := inside c h
    simp only [Bool.and_eq_true, decide_eq_true_eq]
    constructor <;> rintro rfl <;> cases digit
  simpa using marks_append_of_isUnmarked plain rest

/-- A numbered placeholder is a dollar sign and the digits of its number. -/
theorem toList_placeholder_postgres (position : Nat) :
    (Dialect.postgres.placeholder position).toList = '$' :: Nat.toDigits 10 position := by
  simp [Dialect.placeholder, Text.decimalNat]

theorem marked_placeholder (d : Dialect) (position : Nat) :
    Marked (d.placeholder position) [d.placeholder position] := by
  intro rest ends
  cases d with
  | sqlite => simp [Dialect.placeholder, marks]
  | postgres =>
    have inside := Text.isDigit_of_mem_toDigits (n := position)
    have stop : rest.takeWhile Char.isDigit = [] := by
      cases rest with
      | nil => rfl
      | cons c rest => simp [ends c rfl]
    have number : (Nat.toDigits 10 position ++ rest).takeWhile Char.isDigit =
        Nat.toDigits 10 position := by
      rw [List.takeWhile_append_of_pos inside, stop, List.append_nil]
    simp only [toList_placeholder_postgres, List.cons_append, marks, number,
      marks_append_of_digits inside]
    rw [← toList_placeholder_postgres, String.ofList_toList]
    simp

/-- These texts hold these placeholders one after the other. -/
inductive MarkedAll : List String → List String → Prop
  | nil : MarkedAll [] []
  | cons {text : String} {texts ms ns : List String} :
      Marked text ms → MarkedAll texts ns → MarkedAll (text :: texts) (ms ++ ns)

namespace MarkedAll

theorem single {text : String} {ms : List String} (h : Marked text ms) : MarkedAll [text] ms := by
  simpa using cons h nil

theorem append {a b ms ns : List String} (ha : MarkedAll a ms) (hb : MarkedAll b ns) :
    MarkedAll (a ++ b) (ms ++ ns) := by
  induction ha with
  | nil => exact hb
  | cons first _ ih =>
    rw [List.cons_append, List.append_assoc]
    exact cons first ih

theorem join (separator : String) {parts ms : List String} (h : isSeparator separator = true)
    (all : MarkedAll parts ms) : Marked (Text.join separator parts) ms := by
  induction all with
  | nil => exact Marked.of_isUnmarked rfl
  | @cons first others _ _ marked behind ih =>
    cases behind with
    | nil => simpa [Text.join] using marked
    | @cons second others _ _ _ _ =>
      rw [Text.join, String.intercalate_cons_cons]
      exact marked.separated h ih

end MarkedAll

end Sql

namespace Dialect

variable (d : Dialect)

theorem placeholders_succ (start count : Nat) :
    d.placeholders start (count + 1) =
      d.placeholder start :: d.placeholders (start + 1) count := by
  simp [placeholders, List.range'_succ]

/-- Placeholders go on where others stopped. -/
theorem placeholders_append (start a b : Nat) :
    d.placeholders start a ++ d.placeholders (start + a) b = d.placeholders start (a + b) := by
  simp only [placeholders, ← List.map_append, List.range'_append_1]

theorem markedAll_placeholders (start count : Nat) :
    Sql.MarkedAll (d.placeholders start count) (d.placeholders start count) := by
  induction count generalizing start with
  | zero => exact .nil
  | succ count ih =>
    rw [placeholders_succ]
    exact .cons (Sql.marked_placeholder d start) (ih (start + 1))

theorem marked_placeholderList (start count : Nat) :
    Sql.Marked (d.placeholderList start count) (d.placeholders start count) :=
  (d.markedAll_placeholders start count).join ", " rfl

end Dialect

/-! ## Conditions -/

theorem Condition.marked_sql (c : Condition) (d : Dialect) (position : Nat)
    (plain : Sql.isUnmarked c.field = true) :
    Sql.Marked (c.sql d position) [d.placeholder position] := by
  have mark := Sql.marked_placeholder d position
  have value : Sql.Marked (d.placeholder position ++ c.comparison.trailing)
      [d.placeholder position] := by
    cases c.comparison with
    | like => exact mark.stopped rfl
    | eq | ne | lt | gt | le | ge => simpa [Comparison.trailing] using mark
  have symbols : Sql.isUnmarked c.comparison.sql = true := by cases c.comparison <;> rfl
  have before : Sql.isUnmarked (c.field ++ " " ++ c.comparison.sql ++ " ") = true :=
    Sql.isUnmarked_around (by rw [Sql.isUnmarked_append, plain]; rfl) symbols rfl
  rw [Condition.sql, String.append_assoc]
  exact value.behind before

/-- The words between siblings hold no placeholder and end the one before them. -/
theorem Connective.isSeparator_sql (connective : Connective) :
    Sql.isSeparator (" " ++ connective.sql ++ " ") = true := by
  cases connective <;> rfl

mutual

/-- The placeholders of a tree are those behind the values before it, one for each condition. -/
theorem Node.markedAll_piece? (d : Dialect) (bound : Nat) (node : Node)
    (plain : ∀ c ∈ node.conditions, Sql.isUnmarked c.field = true) :
    Sql.MarkedAll (node.piece? d bound).1.toList
      (d.placeholders (bound + 1) node.conditions.length) := by
  match node with
  | .condition c =>
    exact .single (c.marked_sql d (bound + 1) (plain c (by simp [Node.conditions])))
  | .group connective children =>
    simp only [Node.conditions] at plain ⊢
    have inner := (Node.markedAll_pieces d bound children plain).join _ connective.isSeparator_sql
    have joined := Node.joined_pieces_eq_empty_iff d connective bound children
    simp only [Node.piece?]
    split
    · next blank =>
      rw [joined.1 (String.isEmpty_iff.1 blank)]
      exact .nil
    · exact .single inner.enclosed

theorem Node.markedAll_pieces (d : Dialect) (bound : Nat) (nodes : List Node)
    (plain : ∀ c ∈ Node.allConditions nodes, Sql.isUnmarked c.field = true) :
    Sql.MarkedAll (Node.pieces d bound nodes).1
      (d.placeholders (bound + 1) (Node.allConditions nodes).length) := by
  match nodes with
  | [] => exact .nil
  | node :: rest =>
    simp only [Node.allConditions, List.mem_append] at plain
    have first := Node.markedAll_piece? d bound node fun c h => plain c (.inl h)
    have others := Node.markedAll_pieces d (bound + node.conditions.length) rest
      fun c h => plain c (.inr h)
    rw [Nat.add_right_comm] at others
    simpa [Node.pieces, Node.piece?_values, Node.allConditions, d.placeholders_append]
      using first.append others

end

theorem Fragment.marked_ofNodes (d : Dialect) (connective : Connective) (bound : Nat)
    (nodes : List Node) (plain : ∀ c ∈ Node.allConditions nodes, Sql.isUnmarked c.field = true) :
    Sql.Marked (ofNodes d connective bound nodes).text
      (d.placeholders (bound + 1) (Node.allConditions nodes).length) :=
  (Node.markedAll_pieces d bound nodes plain).join _ connective.isSeparator_sql

theorem Fragment.marked_ofFilter (d : Dialect) (bound : Nat) (f : Filter)
    (plain : ∀ name ∈ f.fields, Sql.isUnmarked name = true) :
    Sql.Marked (ofFilter d bound f).text (d.placeholders (bound + 1) f.values.length) := by
  rw [Filter.values, List.length_map]
  exact marked_ofNodes d .and bound f.nodes fun c h => plain c.field (List.mem_map_of_mem h)

/-! ## Statements -/

@[simp] theorem Record.length_values (r : Record) : r.values.length = r.size := by
  simp [values, size]

@[simp] theorem Record.length_names (r : Record) : r.names.length = r.size := by
  simp [names, size]

namespace Command

variable (d : Dialect)

theorem markedAll_tuples (bound : Nat) (rows : List Record) :
    Sql.MarkedAll (tuples d bound rows)
      (d.placeholders (bound + 1) (rows.flatMap Record.values).length) := by
  induction rows generalizing bound with
  | nil => exact .nil
  | cons row rest ih =>
    have first := (d.marked_placeholderList (bound + 1) row.size).enclosed
    have others := ih (bound + row.size)
    rw [Nat.add_right_comm] at others
    rw [List.flatMap_cons, List.length_append, row.length_values, ← d.placeholders_append]
    exact .cons first others

theorem markedAll_assignments (position : Nat) (names : List String)
    (plain : ∀ name ∈ names, Sql.isUnmarked name = true) :
    Sql.MarkedAll (assignments d position names) (d.placeholders position names.length) := by
  induction names generalizing position with
  | nil => exact .nil
  | cons name rest ih =>
    have before : Sql.isUnmarked (name ++ " = ") = true := by
      rw [Sql.isUnmarked_append, plain name List.mem_cons_self]
      rfl
    have others := ih (position + 1) fun other h => plain other (List.mem_cons_of_mem name h)
    rw [List.length_cons, d.placeholders_succ]
    exact .cons ((Sql.marked_placeholder d position).behind before) others

/-- The names that stand in the text of a command. -/
def names : Command → List String
  | select table columns filter => table :: columns ++ filter.fields
  | insert table data => table :: data.names
  | insertAll table first _ => table :: first.names
  | update table data filter => table :: data.names ++ filter.fields
  | delete table filter => table :: filter.fields

theorem marked_select (table : String) (columns : List String) (filter : Filter)
    (named : Sql.isUnmarked table = true)
    (projected : ∀ column ∈ columns, Sql.isUnmarked column = true)
    (compared : ∀ field ∈ filter.fields, Sql.isUnmarked field = true) :
    Sql.Marked ((select table columns filter).write d).text
      (d.placeholders 1 filter.values.length) := by
  have projection : Sql.isUnmarked
      (if columns.isEmpty then "*" else Text.join ", " columns) = true := by
    split
    · rfl
    · exact Sql.isUnmarked_join ", " rfl projected
  have front := Sql.isUnmarked_around (a := "SELECT ") (b := " FROM ") rfl projection rfl
  have condition := Fragment.marked_ofFilter d 0 filter compared
  simp only [write]
  split
  · next blank =>
    rw [Fragment.ofFilter, Fragment.isEmpty_ofNodes, List.isEmpty_iff] at blank
    have nothing : filter.values = [] := by rw [Filter.values, blank, List.map_nil]
    have whole := Sql.isUnmarked_around (b := "") front named rfl
    rw [String.append_empty] at whole
    rw [nothing]
    exact .of_isUnmarked whole
  · exact condition.behind (Sql.isUnmarked_around front named rfl)

theorem marked_insert (table : String) (data : Record) (named : Sql.isUnmarked table = true)
    (fields : ∀ name ∈ data.names, Sql.isUnmarked name = true) :
    Sql.Marked ((insert table data).write d).text (d.placeholders 1 data.values.length) := by
  have front := Sql.isUnmarked_around (a := "INSERT INTO ") (b := " (") rfl named rfl
  have columns := Sql.isUnmarked_join ", " rfl fields
  have bound := d.marked_placeholderList 1 data.size
  rw [data.length_values]
  simp only [write]
  split
  · next blank =>
    have nothing : data.size = 0 := List.isEmpty_iff_length_eq_zero.1 blank
    rw [nothing]
    exact .of_isUnmarked (Sql.isUnmarked_around rfl named rfl)
  · exact (bound.behind (Sql.isUnmarked_around front columns rfl)).stopped rfl

theorem marked_insertAll (table : String) (first : Record) (others : List Record)
    (named : Sql.isUnmarked table = true)
    (fields : ∀ name ∈ first.names, Sql.isUnmarked name = true) :
    Sql.Marked ((insertAll table first others).write d).text
      (d.placeholders 1 ((first :: others).flatMap Record.values).length) := by
  have front := Sql.isUnmarked_around (a := "INSERT INTO ") (b := " (") rfl named rfl
  have columns := Sql.isUnmarked_join ", " rfl fields
  have rows := (markedAll_tuples d 0 (first :: others)).join ", " rfl
  exact rows.behind (Sql.isUnmarked_around front columns rfl)

theorem marked_update (table : String) (data : Record) (filter : Filter)
    (named : Sql.isUnmarked table = true)
    (fields : ∀ name ∈ data.names, Sql.isUnmarked name = true)
    (compared : ∀ field ∈ filter.fields, Sql.isUnmarked field = true) :
    Sql.Marked ((update table data filter).write d).text
      (d.placeholders 1 (data.values ++ filter.values).length) := by
  have front := Sql.isUnmarked_around (a := "UPDATE ") (b := " SET ") rfl named rfl
  have set := (markedAll_assignments d 1 data.names fields).join ", " rfl
  have condition := Fragment.marked_ofFilter d data.size filter compared
  rw [data.length_names] at set
  rw [List.length_append, data.length_values, ← d.placeholders_append, Nat.add_comm 1]
  exact (set.behind front).separated rfl condition

theorem marked_delete (table : String) (filter : Filter) (named : Sql.isUnmarked table = true)
    (compared : ∀ field ∈ filter.fields, Sql.isUnmarked field = true) :
    Sql.Marked ((delete table filter).write d).text (d.placeholders 1 filter.values.length) := by
  have condition := Fragment.marked_ofFilter d 0 filter compared
  exact condition.behind (Sql.isUnmarked_around rfl named rfl)

/-- What a command is written as holds the placeholders of its values. -/
theorem marked_write (command : Command)
    (plain : ∀ name ∈ command.names, Sql.isUnmarked name = true) :
    Sql.Marked (command.write d).text (d.placeholders 1 command.values.length) := by
  cases command with
  | select table columns filter =>
    simp only [names, List.cons_append, List.forall_mem_cons, List.forall_mem_append] at plain
    obtain ⟨named, projected, compared⟩ := plain
    exact marked_select d table columns filter named projected compared
  | insert table data =>
    simp only [names, List.forall_mem_cons] at plain
    exact marked_insert d table data plain.1 plain.2
  | insertAll table first others =>
    simp only [names, List.forall_mem_cons] at plain
    exact marked_insertAll d table first others plain.1 plain.2
  | update table data filter =>
    simp only [names, List.cons_append, List.forall_mem_cons, List.forall_mem_append] at plain
    obtain ⟨named, fields, compared⟩ := plain
    exact marked_update d table data filter named fields compared
  | delete table filter =>
    simp only [names, List.forall_mem_cons] at plain
    exact marked_delete d table filter plain.1 plain.2

end Command

/-- Nothing but its placeholders stands behind a text in `marks`. -/
theorem Sql.Marked.marks_eq {text : String} {ms : List String} (h : Sql.Marked text ms) :
    Sql.marks text.toList = ms := by
  have whole := h [] (by simp)
  simpa [Sql.marks] using whole

/-- **Placeholders match values.** Read from left to right, a statement holds the placeholders of
the positions from one on, one for each value, and its values are those of its command in order.
Condition text holds those behind the values bound before it. -/
theorem placeholders_match_values (d : Dialect) :
    (∀ (command : Command) (s : Statement),
      Statement.of d command = .ok s →
      (∀ name ∈ command.names, Sql.isUnmarked name = true) →
      Sql.marks s.written.text.toList = d.placeholders 1 s.written.values.length ∧
        s.written.values = command.values) ∧
    (∀ (connective : Connective) (bound : Nat) (nodes : List Node),
      (∀ c ∈ Node.allConditions nodes, Sql.isUnmarked c.field = true) →
      let f := Fragment.ofNodes d connective bound nodes
      Sql.marks f.text.toList = d.placeholders (bound + 1) f.values.length ∧
        f.values = (Node.allConditions nodes).map Condition.value) := by
  constructor
  · intro command s accepted plain
    obtain ⟨-, rfl⟩ := Statement.of_eq_ok_iff.1 accepted
    have values := command.values_write d
    rw [Statement.written, values]
    exact ⟨(command.marked_write d plain).marks_eq, rfl⟩
  · intro connective bound nodes plain
    have values := Fragment.values_ofNodes d connective bound nodes
    have marked := Fragment.marked_ofNodes d connective bound nodes plain
    refine ⟨?_, values⟩
    rw [values, List.length_map]
    exact marked.marks_eq

/-- An update whose values look like placeholders and whose condition comes behind two of them. -/
def sampleUpdate : Command :=
  .update "todos" (.ofList [("title", .text "$3"), ("completed", .bool true)])
    ⟨[.condition ⟨"id", .eq, .integer 4⟩, .group .or [.group .and [],
      .condition ⟨"title", .like, .text "?%"⟩]]⟩

theorem placeholders_match_sampleUpdate :
    (Statement.of .postgres sampleUpdate = .ok ⟨sampleUpdate, .postgres⟩ ∧
      Sql.marks (sampleUpdate.write .postgres).text.toList = ["$1", "$2", "$3", "$4"] ∧
      (sampleUpdate.write .postgres).values =
        [.text "$3", .bool true, .integer 4, .text "?%"]) ∧
    Sql.marks (Fragment.ofNodes .sqlite .or 2
      [.condition ⟨"id", .lt, .null⟩, .group .and []]).text.toList = ["?"] := by
  have accepted : Statement.of .postgres sampleUpdate = .ok ⟨sampleUpdate, .postgres⟩ := by
    refine Statement.of_eq_ok_iff.2 ⟨?_, rfl⟩
    rw [sampleUpdate, Command.refusal?, Fragment.ofFilter, Fragment.isEmpty_ofNodes]
    decide
  have plain : ∀ name ∈ sampleUpdate.names, Sql.isUnmarked name = true := by decide
  have statement :=
    (placeholders_match_values .postgres).1 sampleUpdate ⟨sampleUpdate, .postgres⟩ accepted plain
  have fragment := (placeholders_match_values .sqlite).2 .or 2
    [.condition ⟨"id", .lt, .null⟩, .group .and []] (by decide)
  exact ⟨⟨accepted, statement⟩, fragment.1⟩

end TodoServer
