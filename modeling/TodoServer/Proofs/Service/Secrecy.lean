import TodoServer.Proofs.Storage.Secrecy

/-!
# Operations and stored passwords

On two pools that differ in nothing but stored passwords the operations that requests other than
logins lead to answer alike. An account that is read differs in its stored password alone, so that
its document is the same.
-/

namespace TodoServer

open Storage

namespace AgreeUpTo

variable {ε ε' α β : Type} {related : α → β → Prop} {x : Except ε α} {y : Except ε β}

theorem mapError (agree : AgreeUpTo related x y) (f : ε → ε') :
    AgreeUpTo related (x.mapError f) (y.mapError f) := by
  cases agree with
  | failed e => exact .failed (f e)
  | done both => exact .done both

theorem of_eq {x y : Except ε α} (same : x = y) : AgreeUpTo Eq x y := by
  subst same
  cases x with
  | error e => exact .failed e
  | ok a => exact .done rfl

theorem eq {x y : Except ε α} (agree : AgreeUpTo Eq x y) : x = y := by
  cases agree with
  | failed e => rfl
  | done both => rw [both]

end AgreeUpTo

/-- Two pools that differ at most in stored passwords. -/
structure Storage.Pool.SameButHashes (p q : Pool) : Prop where
  isOpen : p.isOpen = q.isOpen
  database : p.database.SameButHashes q.database

/-- Runs that answer the same and leave pools that differ at most in stored passwords. -/
structure Indistinct {α : Type} (x y : α × Pool) : Prop where
  answer : x.1 = y.1
  state : x.2.SameButHashes y.2

theorem Indistinct.map {α β : Type} {x y : α × Pool} (same : Indistinct x y) (f : α → β) :
    Indistinct (f x.1, x.2) (f y.1, y.2) :=
  ⟨congrArg f same.answer, same.state⟩

/-! ## Statements -/

section

variable {p q : Pool} (same : p.SameButHashes q) {command : Command}

include same

theorem Storage.Pool.execute_indistinct {s : Statement} (discreet : s.command.Discreet) :
    Indistinct (p.execute s) (q.execute s) := by
  have written : AgreeUpTo Database.SameOutcome
      (checkValues s >>= fun () => p.database.write s.command)
      (checkValues s >>= fun () => q.database.write s.command) :=
    .bind_same _ fun _ _ => Database.write_agrees same.database discreet
  rw [execute, execute, same.isOpen]
  split
  · generalize (checkValues s >>= fun () => p.database.write s.command) = x at written ⊢
    generalize (checkValues s >>= fun () => q.database.write s.command) = y at written ⊢
    cases written with
    | failed e => exact ⟨rfl, same⟩
    | @done x y both =>
      obtain ⟨outcome, left⟩ := both
      simp only [outcome]
      exact ⟨rfl, rfl, left⟩
  · exact ⟨rfl, same⟩

namespace Executor

/-- A command that reads two databases alike is answered alike. -/
theorem fetch_agrees {related : List Record → List Record → Prop}
    (reads : AgreeUpTo related (p.database.read command) (q.database.read command)) :
    AgreeUpTo related (fetch Pool.runner command p).1 (fetch Pool.runner command q).1 := by
  rw [fetch, fetch]
  cases made : statement Pool.runner command with
  | error e => exact .failed e
  | ok s =>
    have fetched : AgreeUpTo related (p.fetch s) (q.fetch s) := by
      rw [Pool.fetch, Pool.fetch, same.isOpen, command_of_statement made]
      split
      · exact .bind_same _ fun _ _ => reads
      · exact .failed _
    exact fetched.mapError QueryError.storage

theorem execute_indistinct (discreet : command.Discreet) :
    Indistinct (execute Pool.runner command p) (execute Pool.runner command q) := by
  rw [execute, execute]
  cases made : statement Pool.runner command with
  | error e => exact ⟨rfl, same⟩
  | ok s =>
    exact (Pool.execute_indistinct same (command_of_statement made ▸ discreet)).map
      (·.mapError QueryError.storage)

/-- A command about another table than that of the accounts is answered the same. -/
theorem fetch_apart (other : TableId.named? command.table ≠ some .users) :
    Indistinct (fetch Pool.runner command p) (fetch Pool.runner command q) := by
  have reads := Database.read_apart same.database other
  refine ⟨(fetch_agrees same (.of_eq reads)).eq, ?_⟩
  rw [state_fetch, state_fetch]
  exact same

variable {table : String} (other : TableId.named? table ≠ some .users)

include other

theorem select_apart (columns : List String) (filter : Filter) :
    Indistinct (select Pool.runner table columns filter p)
      (select Pool.runner table columns filter q) :=
  @fetch_apart _ _ same (.select table columns filter) other

theorem insert_apart (data : Record) :
    Indistinct (insert Pool.runner table data p) (insert Pool.runner table data q) :=
  (execute_indistinct same (@Command.Discreet.apart (.insert table data) other)).map
    (insertedId table)

theorem insertAll_apart (rows : List Record) :
    Indistinct (insertAll Pool.runner table rows p) (insertAll Pool.runner table rows q) := by
  cases rows with
  | nil => exact ⟨rfl, same⟩
  | cons first others =>
    exact (execute_indistinct same
      (@Command.Discreet.apart (.insertAll table first others) other)).map (insertedId table)

theorem update_apart (data : Record) (filter : Filter) :
    Indistinct (update Pool.runner table data filter p) (update Pool.runner table data filter q) :=
  (execute_indistinct same (@Command.Discreet.apart (.update table data filter) other)).map
    (·.map WriteOutcome.affected)

theorem delete_apart (filter : Filter) :
    Indistinct (delete Pool.runner table filter p) (delete Pool.runner table filter q) :=
  (execute_indistinct same (@Command.Discreet.apart (.delete table filter) other)).map
    (·.map WriteOutcome.affected)

end Executor

end

open Executor

/-! ## The user service -/

/-- The record of an account that differs at most in the stored password is read as an account that
is shown the same. -/
theorem User.ofRecord_agrees {row other : Row} (same : row.SameButHash other)
    {outputs : List Output}
    (every : Output.ofText? .users "*" = some outputs) (count : Nat) :
    AgreeUpTo (fun u v => u.toJson = v.toJson) (User.ofRecord (Database.record outputs row count))
      (User.ofRecord (Database.record outputs other count)) := by
  have columns : Output.ofText? .users "*" = some [.term "id" (.column 0), .term "name" (.column 1),
      .term "email" (.column 2), .term "password_hash" (.column 3), .term "created_at" (.column 4),
      .term "updated_at" (.column 5)] := rfl
  cases columns.symm.trans every
  cases same with
  | mk key name email others old new =>
    refine .bind_same _ fun id _ => .bind_same _ fun name _ => .bind_same _ fun email _ => ?_
    refine AgreeUpTo.bind (.done trivial : AgreeUpTo (fun _ _ => True) _ _) fun _ _ _ => ?_
    exact .bind_same _ fun created _ => .bind_same _ fun updated _ => .done rfl

section

variable {p q : Pool} (same : p.SameButHashes q)

namespace Users

theorem state_get (p : Pool) (userId : Int) : (get Pool.runner userId p).2 = p := by
  simp only [get, identified_eq, first]
  exact state_fetch p _

include same

/-- The account of an id is shown the same. -/
theorem get_agrees (userId : Int) :
    AgreeUpTo (fun u v => u.map User.toJson = v.map User.toJson) (get Pool.runner userId p).1
      (get Pool.runner userId q).1 := by
  have named : Term.ofText? .users "id" = some (.column 0) := rfl
  have apart : 0 ≠ hashPosition := by decide
  have every : Output.ofText? .users "*" = some _ := rfl
  have reads := @Database.select_agrees _ _ same.database ⟨"id", .eq, .integer userId⟩ _ named
    apart [] _ every rfl
  simp only [get, identified_eq, first, Executor.select]
  refine AgreeUpTo.bind ((fetch_agrees same reads).mapError _) fun records others both => ?_
  cases both with
  | nil => exact .done rfl
  | cons here _ =>
    obtain ⟨row, row', count, alike, rfl, rfl⟩ := here
    exact ((User.ofRecord_agrees alike every count).mapError _).map fun _ _ shown =>
      congrArg some shown

theorem insert_indistinct (now : Instant) (salt : List UInt8) (name email password : String) :
    Indistinct (insert Pool.runner now salt name email password p)
      (insert Pool.runner now salt name email password q) :=
  (execute_indistinct same (.addAccount now salt name email password)).map
    fun answer => orQuery (insertedId User.table answer)

theorem update_indistinct (now : Instant) (salt : List UInt8) (userId : Int)
    (name email password : Option String) :
    Indistinct (update Pool.runner now salt userId name email password p)
      (update Pool.runner now salt userId name email password q) :=
  (execute_indistinct same (.changeAccount now salt name email password userId)).map
    fun answer => orQuery (answer.map WriteOutcome.affected)

theorem delete_indistinct (userId : Int) :
    Indistinct (delete Pool.runner userId p) (delete Pool.runner userId q) :=
  (execute_indistinct same (.dropAccount userId)).map
    fun answer => orQuery (answer.map WriteOutcome.affected)

end Users

/-! ## The todo service -/

theorem Todo.named_ne_users : TableId.named? Todo.table ≠ some .users := by decide

namespace Todos

include same

theorem fetch_indistinct (filter : Except ServiceError Filter) :
    Indistinct (fetch Pool.runner filter p) (fetch Pool.runner filter q) := by
  cases filter with
  | error e => exact ⟨rfl, same⟩
  | ok filter =>
    exact (select_apart same Todo.named_ne_users [] filter).map
      fun answer => orQuery answer >>= fun rows => orRow (rows.mapM Todo.ofRecord)

theorem get_indistinct (userId todoId : Int) :
    Indistinct (get Pool.runner userId todoId p) (get Pool.runner userId todoId q) :=
  (fetch_indistinct same (owned userId todoId)).map (·.map List.head?)

theorem insert_indistinct (now : Instant) (userId : Int) (todo : NewTodo) :
    Indistinct (insert Pool.runner now userId todo p) (insert Pool.runner now userId todo q) :=
  (insert_apart same Todo.named_ne_users _).map orQuery

theorem insertMany_indistinct (now : Instant) (userId : Int) (todos : List NewTodo) :
    Indistinct (insertMany Pool.runner now userId todos p)
      (insertMany Pool.runner now userId todos q) :=
  (insertAll_apart same Todo.named_ne_users _).map orQuery

theorem update_indistinct (now : Instant) (userId todoId : Int)
    (title description : Option String) :
    Indistinct (update Pool.runner now userId todoId title description p)
      (update Pool.runner now userId todoId title description q) :=
  (update_apart same Todo.named_ne_users _ _).map orQuery

theorem delete_indistinct (userId todoId : Int) :
    Indistinct (delete Pool.runner userId todoId p) (delete Pool.runner userId todoId q) := by
  simp only [delete, owned_eq]
  exact (delete_apart same Todo.named_ne_users _).map orQuery

theorem completion_indistinct (userId todoId : Int) :
    Indistinct (completion Pool.runner userId todoId p) (completion Pool.runner userId todoId q) :=
  (select_apart same Todo.named_ne_users _ _).map fun answer => orQuery answer >>= flagOf

theorem flip_indistinct (now : Instant) (userId todoId : Int) (seen : Bool) :
    Indistinct (flip Pool.runner now userId todoId seen p)
      (flip Pool.runner now userId todoId seen q) := by
  simp only [flip]
  split
  · exact ⟨rfl, same⟩
  · exact (update_apart same Todo.named_ne_users _ _).map orQuery

/-- One more statement of a toggle leads to the same. -/
theorem Toggle.step_indistinct (now : Instant) (userId todoId : Int) (t : Toggle) :
    Indistinct (t.step Pool.runner now userId todoId p)
      (t.step Pool.runner now userId todoId q) := by
  cases t with
  | reading =>
    obtain ⟨answer, state⟩ := completion_indistinct same userId todoId
    refine ⟨?_, state⟩
    simp only [step, answer]
  | writing seen =>
    obtain ⟨answer, state⟩ := flip_indistinct same now userId todoId seen
    refine ⟨?_, state⟩
    simp only [step, answer]
  | done answer => exact ⟨rfl, same⟩

end Todos

end

/-! ## Credentials -/

namespace Storage.Database

/-- The first account with an email. -/
def account? (db : Database) (email : String) : Option Row :=
  (db.rowsOf .users).find? (·.cell 2 = .text email)

/-- Whether a password is the one that is stored for the first account with an email. -/
def Accepts (db : Database) (email password : String) : Prop :=
  ∃ row hash, db.account? email = some row ∧ row.cell hashPosition = .text hash ∧
    Auth.verifyPassword? password hash = some true

theorem account?_of_filter {db : Database} {t : Table} (stored : db.users = some t) {email : String}
    {row : Row} {more : List Row} (found : t.rows.filter (·.cell 2 = .text email) = row :: more) :
    db.account? email = some row := by
  have rows : db.rowsOf .users = t.rows := rowsOf_eq stored
  rw [account?, rows, ← List.head?_filter, found, List.head?_cons]

/-- A password is accepted when it is the one stored in the row that it is checked with. -/
theorem accepts_iff {db : Database} {email password hash : String} {row : Row}
    (found : db.account? email = some row) (cell : row.cell hashPosition = .text hash) :
    db.Accepts email password ↔ Auth.verifyPassword? password hash = some true := by
  constructor
  · rintro ⟨other, hash', found', cell', right⟩
    cases found.symm.trans found'
    cases cell.symm.trans cell'
    exact right
  · exact fun right => ⟨row, hash, found, cell, right⟩

/-- A single condition is accepted when it holds. -/
theorem accepts_single {value : Condition → Except StorageError Truth} {c : Condition}
    {truth : Truth}
    (found : value c = .ok truth) :
    Filter.accepts value ⟨[.condition c]⟩ = .ok (decide (truth = .yes)) := by
  simp only [Filter.accepts, Node.truthAll, Node.truth, found]
  cases truth <;> rfl

/-- Any row is looked at for an email, whatever else it holds. -/
theorem accepts_email (row : Row) (email : String) :
    Filter.accepts (conditionTruth .users row) ⟨[.condition ⟨"email", .eq, .text email⟩]⟩ =
      .ok (decide (row.cell 2 = .text email)) := by
  have named : Term.ofText? .users "email" = some (.column 2) := rfl
  cases stored : row.cell 2 with
  | null =>
    have truth : conditionTruth .users row ⟨"email", .eq, .text email⟩ = .ok .unknown := by
      simp only [conditionTruth, named, compareTruth, termValue, stored]
      rfl
    exact accepts_single truth
  | integer | real | blob =>
    have truth : conditionTruth .users row ⟨"email", .eq, .text email⟩ = .ok .no := by
      rw [conditionTruth_eq 2 named (by rw [stored]; rfl) rfl, stored]
      rfl
    exact accepts_single truth
  | text other =>
    have truth : conditionTruth .users row ⟨"email", .eq, .text email⟩ =
        .ok (.ofBool (decide (other = email))) := by
      rw [conditionTruth_eq 2 named (by rw [stored]; rfl) rfl, stored, ← Cell.text_beq]
      rfl
    simp only [accepts_single truth, Cell.text.injEq]
    cases decide (other = email) <;> rfl

/-- A search for an email finds the rows with that email. -/
theorem find_email (t : Table) (email : String) :
    find .users t ⟨[.condition ⟨"email", .eq, .text email⟩]⟩ =
      .ok (t.rows.filter (·.cell 2 = .text email)) := by
  have named : checkFields .users ⟨[.condition ⟨"email", .eq, .text email⟩]⟩ = .ok () :=
    checkFields_of_columns .users (rfl : _ = ["email"]) (by decide)
  have found := accepted_map fun row (_ : row ∈ t.rows) => accepts_email (id row) email
  rw [List.map_id, List.map_id] at found
  simp only [find, TableId.schema, named, visitOrder_of_mem List.mem_cons_self]
  exact found

end Storage.Database

open Storage.Database

namespace Users

/-- The record of an account that a password is checked with. -/
def credentialsRecord (row : Row) : Record :=
  ⟨[("id", .integer row.key), ("password_hash", (row.cell hashPosition).toScalar)]⟩

/-- What becomes of credentials, whatever is stored. -/
theorem fst_authenticate (p : Pool) (email password : String) :
    (authenticate Pool.runner email password p).1 =
      if p.isOpen then
        match p.database.users with
        | none => .error (.query (.storage (.database "no such table: users")))
        | some t => credentialsOf password
            ((t.rows.filter (·.cell 2 = .text email)).map credentialsRecord)
      else .error (.query (.storage .poolClosed)) := by
  obtain ⟨db, isOpen⟩ := p
  simp only [authenticate, mailed_eq, Executor.select]
  cases isOpen with
  | false => rfl
  | true =>
    have few : ([.text email] : List Scalar).length ≤ Pool.valueLimit := Nat.le_of_ble_eq_true rfl
    have fetched : Executor.fetch Pool.runner (.select User.table ["id", "password_hash"]
        ⟨[.condition ⟨"email", .eq, .text email⟩]⟩) (.of db) =
          (((db.select User.table ["id", "password_hash"]
            ⟨[.condition ⟨"email", .eq, .text email⟩]⟩).mapError .storage), .of db) :=
      fetch_pool rfl few
    change orQuery (Executor.fetch Pool.runner _ (.of db)).1 >>= _ = _
    rw [fetched]
    cases stored : db.users with
    | none =>
      have absent : db.resolve User.table = .error (.database "no such table: users") := by
        have named : TableId.named? User.table = some .users := rfl
        simp only [resolve, named, Database.table?, stored]
        rfl
      simp only [Database.select, absent]
      rfl
    | some t =>
      have resolved : db.resolve User.table = .ok (.users, t) :=
        resolve_eq_ok_iff.2 ⟨rfl, stored⟩
      rw [select_of_found resolved rfl rfl (find_email t email)]
      rfl

/-- Credentials are answered by the row that they are checked with, when its password can be
read. -/
theorem credentialsOf_readable {row : Row} (readable : row.SameButHash row) (password : String)
    (more : List Record) :
    ∃ hash, row.cell hashPosition = .text hash ∧
      credentialsOf password (credentialsRecord row :: more) =
        .ok (if Auth.verifyPassword? password hash = some true then some row.key else none) := by
  cases readable with
  | @mk key name email others hash _ read _ =>
    refine ⟨hash, rfl, ?_⟩
    have checked : (Auth.verifyPassword? password hash).isSome = true := by
      rw [Auth.verifyPassword?, Option.isSome_map]
      exact read
    obtain ⟨accepted, answer⟩ := Option.isSome_iff_exists.1 checked
    have stored : orRow ((credentialsRecord ⟨key, name :: email :: .text hash :: others⟩).text
        "password_hash") = .ok hash := rfl
    simp only [credentialsOf, stored, bind, Except.bind, answer]
    cases accepted <;> rfl

/-- Nobody is let in whose password is not the one that is stored, be it that the email is unknown
or that the password is wrong. -/
theorem authenticate_of_not_accepts {p : Pool} (isOpen : p.isOpen = true)
    (present : p.database.users.isSome = true)
    (readable : ∀ row ∈ p.database.rowsOf .users, row.SameButHash row) {email password : String}
    (refused : ¬p.database.Accepts email password) :
    (authenticate Pool.runner email password p).1 = .ok none := by
  obtain ⟨t, stored⟩ := Option.isSome_iff_exists.1 present
  have rows : p.database.rowsOf .users = t.rows := rowsOf_eq stored
  rw [fst_authenticate, if_pos isOpen]
  simp only [stored]
  cases found : t.rows.filter (·.cell 2 = .text email) with
  | nil => rfl
  | cons row more =>
    have held : row ∈ t.rows := List.mem_of_mem_filter (found ▸ List.mem_cons_self)
    obtain ⟨hash, cell, answer⟩ := credentialsOf_readable (readable row (rows ▸ held)) password
      (more.map credentialsRecord)
    have first := account?_of_filter stored found
    rw [accepts_iff first cell] at refused
    rw [List.map_cons, answer, if_neg refused]

/-- Credentials are answered the same where they are accepted alike. -/
theorem authenticate_agrees {p q : Pool} (same : p.SameButHashes q) {email password : String}
    (decided : p.database.Accepts email password ↔ q.database.Accepts email password) :
    (authenticate Pool.runner email password p).1 =
      (authenticate Pool.runner email password q).1 := by
  rw [fst_authenticate, fst_authenticate, same.isOpen]
  obtain ⟨absent, absent'⟩ | ⟨t, t', stored, stored', tables⟩ := same.database.users_cases
  · rw [absent, absent']
  · -- The search is by email, so that both check the password of the same account.
    have apart : 2 ≠ hashPosition := by decide
    have rows := filter_of_forall₂ tables.rows (p := fun row => row.cell 2 = .text email)
      (q := fun row => row.cell 2 = .text email) fun _ _ both => by rw [both.cell apart]
    simp only [stored, stored']
    cases found : t.rows.filter (·.cell 2 = .text email) with
    | nil =>
      rw [found] at rows
      rw [List.forall₂_nil_left_iff.1 rows]
    | cons row more =>
      rw [found] at rows
      obtain ⟨row', more', here, -, found'⟩ := List.forall₂_cons_left_iff.1 rows
      obtain ⟨hash, cell, answer⟩ := credentialsOf_readable here.left password
        (more.map credentialsRecord)
      obtain ⟨hash', cell', answer'⟩ := credentialsOf_readable here.right password
        (more'.map credentialsRecord)
      have first := account?_of_filter stored found
      have first' := account?_of_filter stored' found'
      rw [accepts_iff first cell, accepts_iff first' cell'] at decided
      simp only [found', List.map_cons, answer, answer', decided, here.key]

end Users

end TodoServer
