import TodoServer.Proofs.Data.Record
import TodoServer.Proofs.Service.Opening

/-!
# Operations confined to one user

Whatever a runner answers, the operations that a user may carry out on the own account and the own
todos hand over statements that can reach rows of that user alone. What such statements keep, the
operations keep.
-/

namespace TodoServer

/-- A filter accepts no row whose field has another value, as one of its trees says so. -/
def Filter.Demands (f : Filter) (field : String) (value : Scalar) : Prop :=
  .condition ⟨field, .eq, value⟩ ∈ f.nodes

/-- The columns of an account that change. -/
def User.openColumns : List String := ["name", "email", "password_hash", "updated_at"]

/-- The columns of a todo that change. -/
def Todo.openColumns : List String := ["title", "description", "completed", "updated_at"]

/-- Commands that reach the account of a user and the todos of that user, and no others. -/
inductive Command.ConfinedTo (userId : Int) : Command → Prop
  | readAccount (columns : List String) {filter : Filter} :
    filter.Demands "id" (.integer userId) → ConfinedTo userId (.select User.table columns filter)
  | readTodos (columns : List String) {filter : Filter} :
    filter.Demands "user_id" (.integer userId) →
    ConfinedTo userId (.select Todo.table columns filter)
  | addTodo (todo : NewTodo) (time : String) :
    ConfinedTo userId (.insert Todo.table (todo.toRecord userId time))
  | addTodos (first : NewTodo) (others : List NewTodo) (time : String) :
    ConfinedTo userId (.insertAll Todo.table (first.toRecord userId time)
      (others.map (·.toRecord userId time)))
  | changeAccount {data : Record} {filter : Filter} :
    data.names ⊆ User.openColumns → filter.Demands "id" (.integer userId) →
    ConfinedTo userId (.update User.table data filter)
  | changeTodos {data : Record} {filter : Filter} :
    data.names ⊆ Todo.openColumns → filter.Demands "user_id" (.integer userId) →
    ConfinedTo userId (.update Todo.table data filter)
  | dropAccount {filter : Filter} :
    filter.Demands "id" (.integer userId) → ConfinedTo userId (.delete User.table filter)
  | dropTodos {filter : Filter} :
    filter.Demands "user_id" (.integer userId) → ConfinedTo userId (.delete Todo.table filter)

variable {σ : Type}

/-- Statements confined to a user keep a property of the states of a runner. -/
structure Runner.Keeps (r : Runner σ) (userId : Int) (holds : σ → Prop) : Prop where
  fetch : ∀ s : Statement, s.command.ConfinedTo userId → ∀ state, holds state →
    holds (r.fetch s state).2
  execute : ∀ s : Statement, s.command.ConfinedTo userId → ∀ state, holds state →
    holds (r.execute s state).2
  log : ∀ s : Statement, s.command.ConfinedTo userId → ∀ state, holds state →
    holds (Executor.log r s state)

variable {r : Runner σ} {userId : Int} {holds : σ → Prop}

/-! ## Commands -/

namespace Executor

/-- The statements noted so far are confined to a user. -/
theorem noting_keeps (r : Runner σ) (userId : Int) :
    (noting r).Keeps userId fun state => ∀ s ∈ state.2, s.command.ConfinedTo userId := by
  have appended (s : Statement) (confined : s.command.ConfinedTo userId) (noted : List Statement)
      (all : ∀ s ∈ noted, s.command.ConfinedTo userId) :
      ∀ s' ∈ noted ++ [s], s'.command.ConfinedTo userId := by
    intro s' mem
    rcases List.mem_append.1 mem with old | new
    · exact all s' old
    · exact List.mem_singleton.1 new ▸ confined
  refine ⟨fun s confined state all => appended s confined state.2 all,
    fun s confined state all => appended s confined state.2 all, fun s confined state all => ?_⟩
  rw [log_noting]
  exact all

/-- A command becomes the statement that holds it. -/
theorem command_of_statement {command : Command} {s : Statement}
    (made : statement r command = .ok s) : s.command = command := by
  rw [statement] at made
  cases written : Statement.of r.dialect command with
  | error refusal =>
    rw [written] at made
    cases made
  | ok s' =>
    rw [written] at made
    cases made
    obtain ⟨-, rfl⟩ := Statement.of_eq_ok_iff.1 written
    rfl

variable (keeps : r.Keeps userId holds) {command : Command} {state : σ}

include keeps

theorem fetch_keeps (confined : command.ConfinedTo userId) (held : holds state) :
    holds (fetch r command state).2 := by
  rw [fetch]
  cases made : statement r command with
  | error e => exact held
  | ok s =>
    have own : s.command.ConfinedTo userId := command_of_statement made ▸ confined
    exact keeps.fetch s own _ (keeps.log s own state held)

theorem execute_keeps (confined : command.ConfinedTo userId) (held : holds state) :
    holds (execute r command state).2 := by
  rw [execute]
  cases made : statement r command with
  | error e => exact held
  | ok s =>
    have own : s.command.ConfinedTo userId := command_of_statement made ▸ confined
    exact keeps.execute s own _ (keeps.log s own state held)

end Executor

open Executor

/-! ## Filters and data -/

theorem Users.demands_identified (userId : Int) :
    Filter.Demands ⟨[.condition ⟨"id", .eq, .integer userId⟩]⟩ "id" (.integer userId) :=
  List.mem_cons_self

theorem Todos.demands_owned (userId todoId : Int) :
    Filter.Demands ⟨[.condition ⟨"id", .eq, .integer todoId⟩,
      .condition ⟨"user_id", .eq, .integer userId⟩]⟩ "user_id" (.integer userId) :=
  List.mem_cons_of_mem _ List.mem_cons_self

theorem Todos.demands_listing {completed : Option Bool} {search : Option String} {filter : Filter}
    (built : orFilter (listing userId completed search).build = .ok filter) :
    filter.Demands "user_id" (.integer userId) := by
  cases blank : wanted search <;> cases completed <;>
    simp only [listing, blank] at built <;> cases built <;> exact List.mem_cons_self

namespace Record

theorem names_empty_subset (fields : List String) : empty.names ⊆ fields :=
  List.nil_subset fields

variable {record : Record} {fields : List String} (known : record.names ⊆ fields) {field : String}
  (added : field ∈ fields)

include known added

theorem names_set_subset (value : Scalar) : (record.set field value).names ⊆ fields := by
  intro name mem
  rcases (mem_names_set record field name value).1 mem with rfl | old
  · exact added
  · exact known old

theorem names_setGiven_subset (value : Option Scalar) :
    (record.setGiven field value).names ⊆ fields := by
  cases value with
  | none => exact known
  | some value => exact names_set_subset known added value

end Record

theorem Users.names_changes (now : Instant) (salt : List UInt8)
    (name email password : Option String) :
    (changes now salt name email password).names ⊆ User.openColumns := by
  have named := Record.names_setGiven_subset (Record.names_empty_subset User.openColumns)
    (by decide : "name" ∈ User.openColumns) (name.map .text)
  have mailed := Record.names_setGiven_subset named (by decide : "email" ∈ User.openColumns)
    (email.map .text)
  have given := Record.names_setGiven_subset mailed (by decide : "password_hash" ∈ User.openColumns)
    (password.map fun password => .text (Auth.hashPassword password salt))
  rw [changes]
  split
  · exact given
  · exact Record.names_set_subset given (by decide) _

theorem Todos.names_changes (now : Instant) (title description : Option String) :
    (changes now title description).names ⊆ Todo.openColumns := by
  have titled := Record.names_setGiven_subset (Record.names_empty_subset Todo.openColumns)
    (by decide : "title" ∈ Todo.openColumns) (title.map .text)
  have given := Record.names_setGiven_subset titled (by decide : "description" ∈ Todo.openColumns)
    (description.map .text)
  rw [changes]
  split
  · exact given
  · exact Record.names_set_subset given (by decide) _

/-! ## The user service -/

section

variable (keeps : r.Keeps userId holds) {state : σ} (held : holds state)

include keeps held

namespace Users

theorem get_keeps : holds (get r userId state).2 :=
  fetch_keeps keeps (.readAccount [] (demands_identified userId)) held

theorem update_keeps (now : Instant) (salt : List UInt8) (name email password : Option String) :
    holds (update r now salt userId name email password state).2 :=
  execute_keeps keeps
    (.changeAccount (names_changes now salt name email password) (demands_identified userId)) held

theorem delete_keeps : holds (delete r userId state).2 :=
  execute_keeps keeps (.dropAccount (demands_identified userId)) held

end Users

/-! ## The todo service -/

namespace Todos

theorem list_keeps (completed : Option Bool) (search : Option String) :
    holds (list r userId completed search state).2 := by
  rw [list]
  cases built : orFilter (listing userId completed search).build with
  | error e => exact held
  | ok filter => exact fetch_keeps keeps (.readTodos [] (demands_listing built)) held

theorem get_keeps (todoId : Int) : holds (get r userId todoId state).2 :=
  fetch_keeps keeps (.readTodos [] (demands_owned userId todoId)) held

theorem insert_keeps (now : Instant) (todo : NewTodo) :
    holds (insert r now userId todo state).2 :=
  execute_keeps keeps (.addTodo todo now.text) held

theorem insertMany_keeps (now : Instant) (todos : List NewTodo) :
    holds (insertMany r now userId todos state).2 := by
  cases todos with
  | nil => exact held
  | cons first others => exact execute_keeps keeps (.addTodos first others now.text) held

theorem update_keeps (now : Instant) (todoId : Int) (title description : Option String) :
    holds (update r now userId todoId title description state).2 :=
  execute_keeps keeps
    (.changeTodos (names_changes now title description) (demands_owned userId todoId)) held

theorem delete_keeps (todoId : Int) : holds (delete r userId todoId state).2 :=
  execute_keeps keeps (.dropTodos (demands_owned userId todoId)) held

theorem completion_keeps (todoId : Int) : holds (completion r userId todoId state).2 :=
  fetch_keeps keeps (.readTodos ["completed"] (demands_owned userId todoId)) held

theorem flip_keeps (now : Instant) (todoId : Int) (seen : Bool) :
    holds (flip r now userId todoId seen state).2 := by
  have names : (Record.ofList [("completed", .bool !seen), ("updated_at", .text now.text)]).names ⊆
      Todo.openColumns := by
    have both : (Record.ofList [("completed", .bool !seen),
      ("updated_at", .text now.text)]).names = ["completed", "updated_at"] := rfl
    rw [both]
    decide
  have demands : Filter.Demands ⟨[.condition ⟨"id", .eq, .integer todoId⟩,
      .condition ⟨"user_id", .eq, .integer userId⟩, .condition ⟨"completed", .eq, .bool seen⟩]⟩
      "user_id" (.integer userId) := List.mem_cons_of_mem _ List.mem_cons_self
  exact execute_keeps keeps (.changeTodos names demands) held

/-- One more statement of a toggle keeps what confined statements keep. -/
theorem Toggle.step_keeps (now : Instant) (todoId : Int) (t : Toggle) :
    holds (t.step r now userId todoId state).2 := by
  cases t with
  | reading => exact completion_keeps keeps held todoId
  | writing seen => exact flip_keeps keeps held now todoId seen
  | done answer => exact held

end Todos

end

end TodoServer
