import TodoServer.Proofs.Api.Effect

/-!
# What answers report

A request that fails or only reads leaves the database as it is, and the answer to a request that
writes shows what is stored then.
-/

namespace TodoServer

open Storage

/-! ## Rows as they are shown -/

/-- What a document tells of a cell. A truth value is a number there. -/
inductive Storage.Cell.Shows : Cell → Json → Prop
  | null : Shows .null .null
  | integer (n : Int) : Shows (.integer n) (.int n)
  | flag (b : Bool) : Shows (.integer (if b then 1 else 0)) (.bool b)
  | text (s : String) : Shows (.text s) (.str s)

/-- The columns of which callers are told. -/
def Storage.TableId.shownColumns (id : TableId) : List String :=
  id.schema.columnNames.filter (· ≠ "password_hash")

/-- A document with a field for each column of which callers are told, which tells what a row holds
in that column. -/
def Storage.Row.ShownAs (row : Row) (id : TableId) (document : Json) : Prop :=
  ∃ fields, document = .obj fields ∧ fields.map Prod.fst = id.shownColumns ∧
    ∀ field ∈ fields, ∃ position, id.schema.position? field.1 = some position ∧
      (row.cell position).Shows field.2

theorem User.row_shownAs (u : User) : u.row.ShownAs .users u.toJson := by
  refine ⟨_, rfl, rfl, ?_⟩
  simp only [List.forall_mem_cons, List.not_mem_nil, false_implies, implies_true, and_true]
  exact ⟨⟨0, by decide, .integer _⟩, ⟨1, by decide, .text _⟩, ⟨2, by decide, .text _⟩,
    ⟨4, by decide, .text _⟩, ⟨5, by decide, .text _⟩⟩

theorem Todo.row_shownAs (t : Todo) : t.row.ShownAs .todos t.toJson := by
  have description : ((t.description.map Cell.text).getD .null).Shows
      ((t.description.map Json.str).getD .null) := by
    cases t.description with
    | none => exact .null
    | some text => exact .text text
  refine ⟨_, rfl, rfl, ?_⟩
  simp only [List.forall_mem_cons, List.not_mem_nil, false_implies, implies_true, and_true]
  exact ⟨⟨0, by decide, .integer _⟩, ⟨1, by decide, .text _⟩, ⟨2, by decide, description⟩,
    ⟨3, by decide, .flag _⟩, ⟨4, by decide, .integer _⟩, ⟨5, by decide, .text _⟩,
    ⟨6, by decide, .text _⟩⟩

namespace Api

/-! ## Effects of requests that fail or only read -/

theorem ApiError.not_success (e : ApiError) : ¬e.response.status < 300 := by
  cases e <;> exact Nat.not_lt.2 (Nat.le_of_ble_eq_true rfl)

section

variable {manager : Auth.Manager} {moment : Moment} {s s' : Store}
  {answer : Except ApiError Http.Response}

/-- An endpoint for everybody leaves all as it is, or it is registration and reports success. -/
theorem OpenEndpoint.Effect.eq_or_registers {request : Http.Request} {endpoint : OpenEndpoint}
    (effect : endpoint.Effect manager moment request s answer s') :
    s' = s ∨ endpoint = .register ∧ (Site.told answer).status = 201 := by
  cases effect with
  | refused | told | entered => exact .inl rfl
  | registered => exact .inr ⟨rfl, rfl⟩

/-- An endpoint of the caller's own leaves all as it is, or it is asked by another method than `GET`
and reports success. -/
theorem OwnEndpoint.Effect.eq_or_succeeds {endpoint : OwnEndpoint} {userId : Int}
    (effect : endpoint.Effect moment userId s answer s') :
    s' = s ∨ (Endpoint.owner endpoint).method ≠ "GET" ∧
      (Site.told answer).status ∈ [200, 201, 204] := by
  cases effect with
  | refused | profile | listed | todo => exact .inl rfl
  | profileChanged | accountRemoved | created | createdMany | todoChanged | todoRemoved
  | completed =>
    exact .inr ⟨by simp [Endpoint.method],
      by simp [Site.told, Http.Response.json, Http.Response.bare]⟩

/-- Only registration creates something for everybody. -/
theorem OpenEndpoint.Effect.status_of_ne_register {request : Http.Request} {endpoint : OpenEndpoint}
    (effect : endpoint.Effect manager moment request s answer s') (other : endpoint ≠ .register)
    (success : (Site.told answer).status < 300) : (Site.told answer).status = 200 := by
  cases effect with
  | refused e => exact absurd success e.not_success
  | told _ _ status => exact status
  | entered => rfl
  | registered => exact absurd rfl other

/-- An endpoint that is asked by `GET` creates and removes nothing. -/
theorem OwnEndpoint.Effect.status_of_get {endpoint : OwnEndpoint} {userId : Int}
    (effect : endpoint.Effect moment userId s answer s')
    (reads : (Endpoint.owner endpoint).method = "GET")
    (success : (Site.told answer).status < 300) : (Site.told answer).status = 200 := by
  cases effect with
  | refused e => exact absurd success e.not_success
  | profile | listed | todo => rfl
  | profileChanged | accountRemoved | created | createdMany | todoChanged | todoRemoved
  | completed => exact absurd reads (by simp [Endpoint.method])

namespace Site.Effect

variable {site : Site Pool} {request : Http.Request} {response : Http.Response}

/-- A request leaves all as it is, or it is answered with success by an endpoint with another method
than `GET`. -/
theorem eq_or_succeeds (effect : site.Effect moment request s response s') :
    s' = s ∨ ∃ endpoint, request.endpoint? = some endpoint ∧ endpoint.method ≠ "GET" ∧
      endpoint ≠ .everybody .login ∧ response.status ∈ [200, 201, 204] := by
  cases effect with
  | permitted | unrouted | unadmitted => exact .inl rfl
  | everybody endpoint answer _ routed effect =>
    rcases effect.eq_or_registers with same | ⟨rfl, status⟩
    · exact .inl same
    · refine .inr ⟨_, routed, by simp [Endpoint.method], by simp, ?_⟩
      rw [status_finished, status]
      exact List.mem_cons_of_mem _ List.mem_cons_self
  | owner endpoint userId answer _ routed _ effect =>
    rcases effect.eq_or_succeeds with same | ⟨method, status⟩
    · exact .inl same
    · refine .inr ⟨_, routed, method, by simp, ?_⟩
      rw [status_finished]
      exact status

end Site.Effect

end

/-! ## Reports -/

namespace Site

/-- What an endpoint answers, and the database that it leaves behind, when the answer reports a
write: a status, a body, and a database in which the rows that the body shows are stored or the row
that was asked for is gone. -/
inductive Reports (site : Site Pool) (moment : Moment) (request : Http.Request) (db : Database) :
    Endpoint → Nat → Http.Body → Database → Prop
  | registered (users : Table) (row : Row) (document : Json) :
    db.users = some users → row.key ∉ users.rows.map Row.key → row.ShownAs .users document →
    Reports site moment request db (.everybody .register) 201 (.json document)
      (db.setTable .users ⟨users.rows ++ [row], row.key⟩)
  | profileChanged (userId : Int) (users : Table) (old new : Row) (document : Json) :
    site.Admits request moment.now userId → db.users = some users → old ∈ users.rows →
    old.key = userId → new.key = userId → new.cell 5 = .text moment.now.text →
    new.ShownAs .users document →
    Reports site moment request db (.owner .changeProfile) 200 (.json document)
      (db.setTable .users { users with
        rows := users.rows.map fun row => if row.key = userId then new else row })
  | accountRemoved (userId : Int) (users todos : Table) :
    site.Admits request moment.now userId → db.users = some users → db.todos = some todos →
    userId ∈ users.rows.map Row.key →
    Reports site moment request db (.owner .removeAccount) 204 .empty
      ((db.setTable .users { users with rows := users.rows.filter (·.key ≠ userId) }).setTable
        .todos { todos with rows := todos.rows.filter (·.cell 4 ≠ .integer userId) })
  | created (userId : Int) (todos : Table) (row : Row) (document : Json) :
    site.Admits request moment.now userId → db.todos = some todos →
    row.key ∉ todos.rows.map Row.key → row.cell 4 = .integer userId →
    row.ShownAs .todos document →
    Reports site moment request db (.owner .createTodo) 201 (.json document)
      (db.setTable .todos ⟨todos.rows ++ [row], row.key⟩)
  | createdMany (userId : Int) (todos : Table) (rows : List Row) (last : Int) :
    site.Admits request moment.now userId → db.todos = some todos →
    (∀ row ∈ rows, row.key ∉ todos.rows.map Row.key ∧ row.cell 4 = .integer userId) →
    (rows.map Row.key).Pairwise (· < ·) → (rows.map Row.key).getLast? = some last →
    Reports site moment request db (.owner .createTodos) 201
      (.json (.obj [("count", .int rows.length), ("last_id", .int last)]))
      (db.setTable .todos ⟨todos.rows ++ rows, last⟩)
  | todoChanged (userId : Int) (part : String) (todos : Table) (old new : Row) (document : Json) :
    site.Admits request moment.now userId → db.todos = some todos → old ∈ todos.rows →
    pathId part = .ok old.key → old.cell 4 = .integer userId → new.key = old.key →
    new.cell 6 = .text moment.now.text → new.ShownAs .todos document →
    Reports site moment request db (.owner (.changeTodo part)) 200 (.json document)
      (db.setTable .todos { todos with
        rows := todos.rows.map fun row => if row.key = old.key then new else row })
  | todoRemoved (userId : Int) (part : String) (todos : Table) (row : Row) :
    site.Admits request moment.now userId → db.todos = some todos → row ∈ todos.rows →
    pathId part = .ok row.key → row.cell 4 = .integer userId →
    Reports site moment request db (.owner (.removeTodo part)) 204 .empty
      (db.setTable .todos { todos with rows := todos.rows.filter (·.key ≠ row.key) })
  | completed (userId : Int) (part : String) (todos : Table) (old new : Row) (document : Json) :
    site.Admits request moment.now userId → db.todos = some todos → old ∈ todos.rows →
    pathId part = .ok old.key → old.cell 4 = .integer userId → new.key = old.key →
    new.cell 3 ≠ old.cell 3 → new.cell 6 = .text moment.now.text → new.ShownAs .todos document →
    Reports site moment request db (.owner (.completeTodo part)) 200 (.json document)
      (db.setTable .todos { todos with
        rows := todos.rows.map fun row => if row.key = old.key then new else row })

section

variable {s s' : Store} {rest : Database}

/-- No row has a key that is not issued yet. -/
theorem fresh_user (valid : s.Valid) {id : Int} (above : s.lastUser < id) :
    id ∉ (s.users.map User.row).map Row.key := by
  rw [List.map_map]
  intro used
  have old := valid.userIds.le_last id used
  omega

theorem fresh_todo (valid : s.Valid) {id : Int} (above : s.lastTodo < id) :
    id ∉ (s.todos.map Todo.row).map Row.key := by
  rw [List.map_map]
  intro used
  have old := valid.todoIds.le_last id used
  omega

/-- A todo that is removed for its owner is removed by its key. -/
theorem filter_todo_row (valid : s.Valid) {userId : Int} {todo : Todo}
    (found : s.todo? userId todo.id = some todo) :
    (s.dropTodo userId todo.id).2.todos.map Todo.row =
      (s.todos.map Todo.row).filter (·.key ≠ todo.row.key) := by
  obtain ⟨held, -, own⟩ := Store.mem_of_todo? found
  rw [List.filter_map]
  congr 1
  refine List.filter_congr fun t there => ?_
  by_cases same : t.id = todo.id
  · cases valid.todoIds.eq_of_same there held same
    simp [own, Todo.row]
  · simp [same, Todo.row]

/-- The removal of an account removes its row and the rows that it owns. -/
theorem fill_dropUser (userId : Int) :
    (s.dropUser userId).2.fill rest =
      ((s.fill rest).setTable .users
        ⟨(s.users.map User.row).filter (·.key ≠ userId), s.lastUser⟩).setTable .todos
        ⟨(s.todos.map Todo.row).filter (·.cell 4 ≠ .integer userId), s.lastTodo⟩ := by
  rw [Todo.filter_owner_row_ne, List.filter_map]
  rfl

theorem fill_todos_added (added : List Todo) (last : Int) :
    Store.fill { s with todos := s.todos ++ added, lastTodo := last } rest =
      (s.fill rest).setTable .todos ⟨s.todos.map Todo.row ++ added.map Todo.row, last⟩ := by
  rw [← List.map_append]
  rfl

variable {site : Site Pool} {moment : Moment} {request : Http.Request}
  {answer : Except ApiError Http.Response}

/-- A success of an endpoint of the caller's own by another method than `GET` reports a write. -/
theorem reports_of_owner {endpoint : OwnEndpoint} {userId : Int} (valid : s.Valid)
    (admits : site.Admits request moment.now userId)
    (effect : endpoint.Effect moment userId s answer s')
    (success : (told answer).status < 300) (writes : (Endpoint.owner endpoint).method ≠ "GET") :
    site.Reports moment request (s.fill rest) (.owner endpoint) (told answer).status
      (told answer).body (s'.fill rest) := by
  cases effect with
  | refused e => exact absurd success e.not_success
  | profile | listed | todo => exact absurd rfl writes
  | profileChanged old new found same checked time =>
    obtain ⟨held, rfl⟩ := Store.mem_of_user? found
    rw [Store.fill_user_replaced]
    exact .profileChanged old.id ⟨s.users.map User.row, s.lastUser⟩ old.row new.row _ admits rfl
      (List.mem_map_of_mem held) rfl same (congrArg Cell.text time) new.row_shownAs
  | accountRemoved user found =>
    obtain ⟨held, rfl⟩ := Store.mem_of_user? found
    have key : user.id ∈ (s.users.map User.row).map Row.key :=
      List.mem_map.2 ⟨user.row, List.mem_map_of_mem held, rfl⟩
    rw [fill_dropUser]
    exact .accountRemoved user.id ⟨s.users.map User.row, s.lastUser⟩
      ⟨s.todos.map Todo.row, s.lastTodo⟩ admits rfl rfl key
  | created todo owner own next sound =>
    have fresh := fresh_todo valid (by omega : s.lastTodo < todo.id)
    rw [fill_todos_added]
    exact .created userId ⟨s.todos.map Todo.row, s.lastTodo⟩ todo.row _ admits rfl fresh
      (Todo.owner_row.2 own) todo.row_shownAs
  | createdMany added last owner own sound more issued final =>
    have keys : (added.map Todo.row).map Row.key = added.map Todo.id := List.map_map
    have count : added.length = (added.map Todo.row).length := (List.length_map _).symm
    rw [fill_todos_added, told, Http.Response.json, count]
    refine .createdMany userId ⟨s.todos.map Todo.row, s.lastTodo⟩ (added.map Todo.row) last admits
      rfl ?_ ?_ ?_
    · intro row mem
      obtain ⟨t, new, rfl⟩ := List.mem_map.1 mem
      exact ⟨fresh_todo valid (own t new).2, Todo.owner_row.2 (own t new).1⟩
    · exact keys ▸ issued.ascending
    · exact keys ▸ final
  | todoChanged part old new read found same owner flag sound time =>
    obtain ⟨held, -, own⟩ := Store.mem_of_todo? found
    rw [Store.fill_todo_replaced]
    exact .todoChanged userId part ⟨s.todos.map Todo.row, s.lastTodo⟩ old.row new.row _ admits rfl
      (List.mem_map_of_mem held) read (Todo.owner_row.2 own) same (congrArg Cell.text time)
      new.row_shownAs
  | todoRemoved part todo read found =>
    obtain ⟨held, -, own⟩ := Store.mem_of_todo? found
    have stored : (s.dropTodo userId todo.id).2.fill rest = (s.fill rest).setTable .todos
        ⟨(s.todos.map Todo.row).filter (·.key ≠ todo.row.key), s.lastTodo⟩ := by
      rw [← filter_todo_row valid found]
      rfl
    rw [stored]
    exact .todoRemoved userId part ⟨s.todos.map Todo.row, s.lastTodo⟩ todo.row admits rfl
      (List.mem_map_of_mem held) read (Todo.owner_row.2 own)
  | completed part old read found =>
    obtain ⟨held, -, own⟩ := Store.mem_of_todo? found
    have flipped : (old.flipped old.completed moment.now.text).row.cell 3 ≠ old.row.cell 3 := by
      change Cell.integer (if !old.completed then 1 else 0) ≠
        .integer (if old.completed then 1 else 0)
      cases old.completed <;> decide
    rw [Store.fill_todo_replaced]
    exact .completed userId part ⟨s.todos.map Todo.row, s.lastTodo⟩ old.row _ _ admits rfl
      (List.mem_map_of_mem held) read (Todo.owner_row.2 own) rfl flipped rfl (Todo.row_shownAs _)

/-- A success of registration reports a write. -/
theorem reports_of_register {manager : Auth.Manager} (valid : s.Valid)
    (effect : OpenEndpoint.Effect manager moment request s .register answer s')
    (success : (told answer).status < 300) :
    site.Reports moment request (s.fill rest) (.everybody .register) (told answer).status
      (told answer).body (s'.fill rest) := by
  cases effect with
  | refused e => exact absurd success e.not_success
  | told response other => simp at other
  | registered user next checked =>
    have fresh := fresh_user valid (by omega : s.lastUser < user.id)
    rw [Store.fill_user_added]
    exact .registered ⟨s.users.map User.row, s.lastUser⟩ user.row _ rfl fresh user.row_shownAs

theorem body_finished (sent : request.method ≠ "HEAD") (r : Http.Response) :
    (site.finished request r).body = r.body := by
  rw [finished, if_neg sent]
  rfl

namespace Effect

variable {response : Http.Response}

/-- What was created or removed, and what was put successfully, is stored. -/
theorem reports (valid : s.Valid) (effect : site.Effect moment request s response s')
    (success : response.status = 201 ∨ response.status = 204 ∨
      (response.status = 200 ∧ request.method = "PUT")) :
    ∃ endpoint, request.endpoint? = some endpoint ∧
      site.Reports moment request (s.fill rest) endpoint response.status response.body
        (s'.fill rest) := by
  have small : response.status < 300 := by omega
  cases effect with
  | permitted asked =>
    have status :
        (site.permission request (Resource.ofPath? request.target.path)).status = 200 := rfl
    rw [status, asked] at success
    exact absurd success (by decide)
  | unrouted _ _ refused =>
    simp only [List.mem_cons, List.not_mem_nil, or_false] at refused
    omega
  | unadmitted endpoint failure =>
    rw [status_finished] at small
    exact absurd small failure.toApiError.not_success
  | everybody endpoint answer _ routed effect =>
    have asked := method_of_endpoint? routed
    rw [status_finished] at small success ⊢
    by_cases registers : endpoint = .register
    · subst registers
      rw [body_finished (method_ne_head routed (by decide))]
      exact ⟨_, routed, reports_of_register valid effect small⟩
    · have status := effect.status_of_ne_register registers small
      have put : request.method = "PUT" := by simpa [status] using success
      rw [put] at asked
      cases endpoint <;> exact absurd asked (by decide)
  | owner endpoint userId answer _ routed called effect =>
    have asked := method_of_endpoint? routed
    rw [status_finished] at small success ⊢
    by_cases reads : (Endpoint.owner endpoint).method = "GET"
    · have status := effect.status_of_get reads small
      have put : request.method = "PUT" := by simpa [status] using success
      rw [reads, put] at asked
      exact absurd asked (by decide)
    · rw [body_finished (method_ne_head routed reads)]
      exact ⟨_, routed, reports_of_owner valid (caller_eq_ok_iff.1 called) effect small reads⟩

end Effect

end

/-- A todo that is there is removed with success. -/
theorem status_of_removed {s : Store} {rest : Database} (valid : s.Valid)
    {manager : Auth.Manager} {origins : Http.Origins} {moment : Moment} {request : Http.Request}
    {part : String} {userId todoId : Int} {todo : Todo}
    (routed : request.endpoint? = some (.owner (.removeTodo part)))
    (admits : (onPool manager origins).Admits request moment.now userId)
    (read : pathId part = .ok todoId) (found : s.todo? userId todoId = some todo) :
    ((onPool manager origins).answer moment request (s.pool rest)).1.response.status = 204 := by
  have removed : Todos.remove Pool.runner userId part (s.pool rest) =
      (.ok (.bare 204), (s.dropTodo userId todoId).2.pool rest) := by
    rw [Todos.remove, read, accepting, TodoServer.Todos.delete_pool valid, Store.dropTodo, found]
    rfl
  rw [answer_owner routed, caller_eq_ok_iff.2 admits]
  simp only [status_finished, fst_respond]
  change (told (Todos.remove Pool.runner userId part (s.pool rest)).1).status = 204
  rw [removed]
  rfl

end Site

end Api

/-! ## Failure, reading and writing -/

open Api

/-- **What is answered is what is stored.** On every reachable database a request that is not
answered with success changes nothing, nor does one that is sent by `GET` or that asks for a token.
An answer that something was created or removed, and a success of a `PUT`, reports a write that took
effect: what its body tells of a row the row holds afterwards. -/
theorem answers_report_the_store {db : Database} (reachable : Reachable db) (manager : Auth.Manager)
    (origins : Http.Origins) (moment : Moment) (request : Http.Request) :
    ∃ answer db', (Site.onPool manager origins).answer moment request (.of db) = (answer, .of db') ∧
      (¬(200 ≤ answer.response.status ∧ answer.response.status < 300) → db' = db) ∧
      (request.method = "GET" → db' = db) ∧
      (request.method = "POST" → request.target.path = "/api/v1/auth/login" → db' = db) ∧
      (answer.response.status = 201 ∨ answer.response.status = 204 ∨
          (answer.response.status = 200 ∧ request.method = "PUT") →
        ∃ endpoint, request.endpoint? = some endpoint ∧
          (Site.onPool manager origins).Reports moment request db endpoint answer.response.status
            answer.response.body db') := by
  obtain ⟨s, rest, valid, rfl⟩ := reachable.filled
  obtain ⟨answer, s', answered, effect⟩ :=
    @Site.answer_leaves s rest valid manager origins moment request
  refine ⟨answer, s'.fill rest, answered, ?failed, ?read, ?login, fun success =>
    effect.reports valid success⟩
  case failed =>
    intro failed
    rcases effect.eq_or_succeeds with same | ⟨endpoint, -, -, -, status⟩
    · rw [same]
    · simp only [List.mem_cons, List.not_mem_nil, or_false] at status
      omega
  case read =>
    intro get
    rcases effect.eq_or_succeeds with same | ⟨endpoint, routed, writes, -, -⟩
    · rw [same]
    · have asked := method_of_endpoint? routed
      rw [get] at asked
      exact absurd asked.symm writes
  case login =>
    intro post path
    rcases effect.eq_or_succeeds with same | ⟨endpoint, routed, -, other, -⟩
    · rw [same]
    · have named : Resource.ofPath? request.target.path = some .login := by rw [path]; decide
      rw [Http.Request.endpoint?, named, post] at routed
      exact absurd (Option.some_inj.1 routed).symm other

/-- A request of the first user to remove the first todo. -/
def Http.Request.forRemoval : Request :=
  ⟨"DELETE", ⟨"", "/api/v1/todos/1", none⟩, [⟨"authorization", "Bearer " ++ Site.sampleToken⟩], []⟩

theorem Http.Request.endpoint?_forRemoval :
    forRemoval.endpoint? = some (.owner (.removeTodo "1")) := by
  have named : Resource.ofPath? "/api/v1/todos/1" = some (.todo "1") := by decide
  rw [endpoint?, forRemoval, named, Option.bind_some]
  rfl

/-- The first user removes a todo, and the answer reports that it is gone. -/
theorem answers_report_the_store_sample :
    Reachable (sampleDatabase "Bread") ∧
      ∃ answer db', Site.sample.answer .sample .forRemoval (.of (sampleDatabase "Bread")) =
        (answer, .of db') ∧ answer.response.status = 204 ∧
        Site.sample.Reports .sample .forRemoval (sampleDatabase "Bread")
          (.owner (.removeTodo "1")) 204 answer.response.body db' := by
  have reachable : Reachable (sampleDatabase "Bread") := reachable_sampleDatabase (by decide)
  obtain ⟨answer, db', answered, -, -, -, reports⟩ := answers_report_the_store reachable
    Site.sample.manager Site.sample.origins .sample .forRemoval
  have found : (Store.sample "Bread").todo? 1 1 = some ⟨1, "50% off", none, false, 1,
      Moment.sample.now.text, Moment.sample.now.text⟩ := rfl
  have read : pathId "1" = .ok 1 := by decide +kernel
  have removed : answer.response.status = 204 :=
    (congrArg (fun x => x.1.response.status) answered).symm.trans
      (Site.status_of_removed (Store.valid_sample (by decide)) Http.Request.endpoint?_forRemoval
        (Site.admits_sampleToken rfl) read found)
  obtain ⟨endpoint, routed, report⟩ := reports (.inr (.inl removed))
  cases Http.Request.endpoint?_forRemoval.symm.trans routed
  exact ⟨reachable, answer, db', answered, removed, removed ▸ report⟩

end TodoServer
