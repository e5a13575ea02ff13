import TodoServer.Proofs.Query.Trace

/-!
# Writes stay in scope

Whatever a runner answers, a sequence of calls hands over one statement for each call that may reach
storage, in order, and none for a call that is refused. A write without a condition at some depth of
its filter is refused, so no statement changes or removes rows that no condition asked for.
-/

namespace TodoServer

/-- Some condition stands in a tree, however deep. -/
inductive Node.HasCondition : Node → Prop
  | condition (c : Condition) : HasCondition (.condition c)
  | group (connective : Connective) {children : List Node} {child : Node} :
      child ∈ children → child.HasCondition → HasCondition (.group connective children)

/-- Some condition stands in a filter, however deep. -/
def Filter.HasCondition (f : Filter) : Prop :=
  ∃ node ∈ f.nodes, node.HasCondition

mutual

theorem Node.hasCondition_iff (node : Node) : node.HasCondition ↔ node.conditions ≠ [] := by
  match node with
  | .condition c => exact ⟨fun _ => List.cons_ne_nil c [], fun _ => .condition c⟩
  | .group connective children =>
    rw [Node.conditions, ← Node.any_hasCondition_iff children]
    constructor
    · rintro (_ | ⟨-, inside, held⟩)
      exact ⟨_, inside, held⟩
    · rintro ⟨child, inside, held⟩
      exact .group connective inside held

theorem Node.any_hasCondition_iff (nodes : List Node) :
    (∃ node ∈ nodes, node.HasCondition) ↔ Node.allConditions nodes ≠ [] := by
  match nodes with
  | [] => simp [Node.allConditions]
  | node :: rest =>
    have first := Node.hasCondition_iff node
    have others := Node.any_hasCondition_iff rest
    simp only [Node.allConditions, List.mem_cons, exists_eq_or_imp, first, others, ne_eq,
      List.append_eq_nil_iff, Classical.not_and_iff_not_or_not]

end

/-! ## What is refused -/

/-- The text of a filter is empty exactly when no condition stands in it. -/
theorem Fragment.isEmpty_ofFilter_iff (d : Dialect) (bound : Nat) (f : Filter) :
    (ofFilter d bound f).isEmpty = true ↔ ¬f.HasCondition := by
  rw [ofFilter, isEmpty_ofNodes, Filter.HasCondition, Node.any_hasCondition_iff,
    List.isEmpty_iff, ne_eq, Classical.not_not]

theorem Fragment.text_ofFilter_ne_empty (d : Dialect) (bound : Nat) {f : Filter}
    (held : f.HasCondition) : (ofFilter d bound f).text ≠ "" := by
  intro blank
  have empty : (ofFilter d bound f).isEmpty = true := String.isEmpty_iff.2 blank
  exact (isEmpty_ofFilter_iff d bound f).1 empty held

namespace Command

variable (d : Dialect) (table : String) {data : Record} {filter : Filter}

theorem refusal?_update_of_isEmpty (filter : Filter) (empty : data.isEmpty = true) :
    (update table data filter).refusal? d = some (.missingUpdateData table) := by
  rw [refusal?, if_pos empty]

theorem refusal?_update_of_unscoped (present : data.isEmpty = false)
    (unscoped : ¬filter.HasCondition) :
    (update table data filter).refusal? d = some (.missingFilter "update" table) := by
  have blank := (Fragment.isEmpty_ofFilter_iff d data.size filter).2 unscoped
  rw [refusal?, if_neg (by simp [present]), if_pos blank]

theorem refusal?_update_of_scoped (present : data.isEmpty = false)
    (held : filter.HasCondition) : (update table data filter).refusal? d = none := by
  have text := fun empty => (Fragment.isEmpty_ofFilter_iff d data.size filter).1 empty held
  rw [refusal?, if_neg (by simp [present]), if_neg text]

theorem refusal?_delete_of_unscoped (unscoped : ¬filter.HasCondition) :
    (delete table filter).refusal? d = some (.missingFilter "delete from" table) := by
  have blank := (Fragment.isEmpty_ofFilter_iff d 0 filter).2 unscoped
  rw [refusal?, if_pos blank]

theorem refusal?_delete_of_scoped (held : filter.HasCondition) :
    (delete table filter).refusal? d = none := by
  have text := fun empty => (Fragment.isEmpty_ofFilter_iff d 0 filter).1 empty held
  rw [refusal?, if_neg text]

end Command

namespace Executor

variable {σ : Type}

/-! ## Sequences of calls -/

/-- A call with what came of it. -/
structure Exchange (σ : Type) where
  call : Call
  /-- The state of the runner when the call was made. -/
  before : σ
  answer : Except QueryError Reply
  /-- The statements handed to the runner. -/
  issued : List Statement
  /-- The entries written to the log. -/
  logged : List LogEntry
  /-- The state of the runner when the call returned. -/
  after : σ

/-- Makes a call and keeps what came of it. -/
def exchange (r : Runner σ) (call : Call) (state : σ) : Exchange σ :=
  let (answer, (after, issued), logged) := run (logging (noting r)) call ((state, []), [])
  ⟨call, state, answer, issued, logged, after⟩

/-- Makes calls one after the other, whatever comes of them. -/
def exchanges (r : Runner σ) : List Call → σ → List (Exchange σ)
  | [], _ => []
  | call :: rest, state =>
    let x := exchange r call state
    x :: exchanges r rest x.after

/-- The text of a statement ends in a condition, and the condition is not empty. -/
def EndsIn (s : Statement) (condition : Fragment) : Prop :=
  (∃ front, s.written.text = front ++ " WHERE " ++ condition.text) ∧ condition.text ≠ ""

/-- What came of a call to a runner of a dialect, as far as scope goes. -/
structure Exchange.Scoped (d : Dialect) (x : Exchange σ) : Prop where
  select : ∀ table columns filter, x.call = .select table columns filter →
    x.issued = [⟨.select table columns filter, d⟩]
  insert : ∀ table data, x.call = .insert table data → x.issued = [⟨.insert table data, d⟩]
  insertNone : ∀ table, x.call = .insertAll table [] → x.issued = [] ∧ x.answer = .ok (.id 0)
  insertSome : ∀ table first others, x.call = .insertAll table (first :: others) →
    x.issued = [⟨.insertAll table first others, d⟩]
  /-- An update without data is refused for that, whatever its filter. -/
  updateNothing : ∀ table data filter, x.call = .update table data filter → data.isEmpty = true →
    x.issued = [] ∧ x.answer = .error (.refused (.missingUpdateData table))
  updateUnscoped : ∀ table data filter, x.call = .update table data filter →
    data.isEmpty = false → ¬filter.HasCondition →
    x.issued = [] ∧ x.answer = .error (.refused (.missingFilter "update" table))
  updateScoped : ∀ table data filter, x.call = .update table data filter →
    data.isEmpty = false → filter.HasCondition →
    ∃ s, x.issued = [s] ∧ s = ⟨.update table data filter, d⟩ ∧
      EndsIn s (.ofFilter d data.size filter)
  deleteUnscoped : ∀ table filter, x.call = .delete table filter → ¬filter.HasCondition →
    x.issued = [] ∧ x.answer = .error (.refused (.missingFilter "delete from" table))
  deleteScoped : ∀ table filter, x.call = .delete table filter → filter.HasCondition →
    ∃ s, x.issued = [s] ∧ s = ⟨.delete table filter, d⟩ ∧ EndsIn s (.ofFilter d 0 filter)
  /-- Each statement is logged with its values in place, and nothing else is. -/
  logged : x.logged.map LogEntry.sql =
    x.issued.map fun s => Sql.inlined s.written.text s.written.values
  /-- Without a statement the runner is left alone. -/
  quiet : x.issued = [] → x.after = x.before

theorem exchange_eq (r : Runner σ) (call : Call) (state : σ) :
    exchange r call state =
      ⟨call, state, (run r call state).1, call.issued r.dialect,
        (call.issued r.dialect).map announce, (run r call state).2⟩ := by
  simp only [exchange, run_logging, run_noting, List.nil_append]
  rfl

theorem run_state_of_issued_nil {r : Runner σ} {call : Call} (h : call.issued r.dialect = [])
    (state : σ) : (run r call state).2 = state := by
  cases call with
  | select table columns filter => cases h
  | insert table data => cases h
  | insertAll table rows =>
    cases rows with
    | nil => rfl
    | cons first others => cases h
  | update table data filter => exact execute_state_of_handed_nil h state
  | delete table filter => exact execute_state_of_handed_nil h state

/-- Each call stays in scope. -/
theorem exchange_scoped (r : Runner σ) (call : Call) (state : σ) :
    (exchange r call state).Scoped r.dialect := by
  rw [exchange_eq]
  constructor
  case select =>
    rintro table columns filter rfl
    rfl
  case insert =>
    rintro table data rfl
    rfl
  case insertNone =>
    rintro table rfl
    exact ⟨rfl, rfl⟩
  case insertSome =>
    rintro table first others rfl
    rfl
  case updateNothing =>
    rintro table data filter rfl empty
    have refused := Command.refusal?_update_of_isEmpty r.dialect table filter empty
    refine ⟨handed_of_refused refused, ?_⟩
    simp [run, update, execute_of_refused refused, Except.map]
  case updateUnscoped =>
    rintro table data filter rfl present unscoped
    have refused := Command.refusal?_update_of_unscoped r.dialect table present unscoped
    refine ⟨handed_of_refused refused, ?_⟩
    simp [run, update, execute_of_refused refused, Except.map]
  case updateScoped =>
    rintro table data filter rfl present held
    have accepted := Command.refusal?_update_of_scoped r.dialect table present held
    have text := Fragment.text_ofFilter_ne_empty r.dialect data.size held
    exact ⟨_, handed_of_accepted accepted, rfl, ⟨_, rfl⟩, text⟩
  case deleteUnscoped =>
    rintro table filter rfl unscoped
    have refused := Command.refusal?_delete_of_unscoped r.dialect table unscoped
    refine ⟨handed_of_refused refused, ?_⟩
    simp [run, delete, execute_of_refused refused, Except.map]
  case deleteScoped =>
    rintro table filter rfl held
    have accepted := Command.refusal?_delete_of_scoped r.dialect table held
    have text := Fragment.text_ofFilter_ne_empty r.dialect 0 held
    exact ⟨_, handed_of_accepted accepted, rfl, ⟨_, rfl⟩, text⟩
  case logged =>
    rw [List.map_map]
    rfl
  case quiet =>
    intro nothing
    exact run_state_of_issued_nil nothing state

/-- **No unscoped write reaches storage.** Whatever a runner answers to a sequence of calls, each
call stays in scope, and what a call hands over depends on that call alone. -/
theorem exchanges_scoped (r : Runner σ) (calls : List Call) (state : σ) :
    (exchanges r calls state).map Exchange.call = calls ∧
    (exchanges r calls state).map Exchange.issued = calls.map (Call.issued r.dialect) ∧
    ∀ x ∈ exchanges r calls state, x.Scoped r.dialect := by
  induction calls generalizing state with
  | nil => simp [exchanges]
  | cons call rest ih =>
    obtain ⟨made, issued, stay⟩ := ih (exchange r call state).after
    have first := exchange_eq r call state
    refine ⟨?_, ?_, ?_⟩
    · rw [exchanges, List.map_cons, made, first]
    · rw [exchanges, List.map_cons, issued, List.map_cons, first]
    · intro x h
      rcases List.mem_cons.1 h with rfl | h
      · exact exchange_scoped r call state
      · exact stay x h

end Executor

end TodoServer
