import TodoServer.Proofs.Api.Access
import TodoServer.Proofs.Store.Isolation

/-!
# Requests on a store

What each endpoint answers on a database that is filled by a valid store, and the store that it
leaves behind, as one relation with a case for each way in which a request can end. A request that
is refused leaves the store alone.
-/

namespace TodoServer

open Storage

/-! ## New todos -/

namespace Store

variable {s : Store}

/-- The last of some new todos gets the last id. -/
theorem getLast?_newTodos (userId : Int) (time : String) (last : Int) {new : List NewTodo}
    (given : new ≠ []) :
    ((newTodos userId time last new).map Todo.id).getLast? = some (last + new.length) := by
  induction new generalizing last with
  | nil => exact absurd rfl given
  | cons first others ih =>
    rw [newTodos, List.map_cons]
    cases others with
    | nil => rfl
    | cons second more =>
      rw [List.getLast?_cons, ih (last + 1) (List.cons_ne_nil _ _), Option.getD_some]
      congr 1
      simp only [List.length_cons]
      omega

theorem length_newTodos (userId : Int) (time : String) (last : Int) (new : List NewTodo) :
    (newTodos userId time last new).length = new.length := by
  induction new generalizing last with
  | nil => rfl
  | cons first others ih => rw [newTodos, List.length_cons, List.length_cons, ih]

end Store

/-- Credentials belong to a stored account with their email. -/
theorem Users.mem_of_credited {s : Store} {email password : String} {userId : Int}
    (found : credited s email password = .ok (some userId)) :
    ∃ user ∈ s.users, user.email = email ∧ user.id = userId := by
  rw [credited] at found
  split at found
  · cases found
  · next user mailed =>
    rw [opened] at found
    split at found <;> cases found
    exact ⟨user, List.mem_of_find?_eq_some mailed, by simpa using List.find?_some mailed, rfl⟩

/-- A list holds todos of its owner in their order. -/
theorem Todos.sublist_of_listed {s : Store} {userId : Int} {completed : Option Bool}
    {search : Option String} {todos : List Todo}
    (found : listed s userId completed search = .ok todos) : todos.Sublist (s.owned userId) := by
  have own (p : Todo → Bool) :
      (s.todos.filter fun t => isListed userId completed t && p t).Sublist (s.owned userId) := by
    rw [Store.filter_isListed]
    exact List.filter_sublist
  rw [listed] at found
  split at found
  · cases found
    simpa using own fun _ => true
  · next text asked =>
    split at found
    · cases found
    · cases found
      exact own (isLike (pattern text))

namespace Api

/-! ## Effects of endpoints -/

/-- What an endpoint for everybody answers on a store, and the store that it leaves behind. -/
inductive OpenEndpoint.Effect (manager : Auth.Manager) (moment : Moment) (request : Http.Request)
    (s : Store) : OpenEndpoint → Except ApiError Http.Response → Store → Prop
  | refused {endpoint : OpenEndpoint} (e : ApiError) :
    Effect manager moment request s endpoint (.error e) s
  | told {endpoint : OpenEndpoint} (response : Http.Response) :
    endpoint ∈ [.health, .description, .docs] → response.status = 200 →
    Effect manager moment request s endpoint (.ok response) s
  | entered (credentials : Credentials) (user : User) :
    credentialsForm.ofRequest openLimit request = .ok credentials → user ∈ s.users →
    user.email = credentials.email →
    Effect manager moment request s .login
      (.ok (.json 200 (Accounts.tokenDocument (manager.issue moment.now moment.tokenId user.id)))) s
  | registered (user : User) :
    user.id = s.lastUser + 1 → Store.checkUser s.users user = .ok () →
    Effect manager moment request s .register (.ok (.json 201 user.toJson))
      { s with users := s.users ++ [user], lastUser := user.id }

/-- What an endpoint of the caller's own answers on a store, and the store that it leaves behind. -/
inductive OwnEndpoint.Effect (moment : Moment) (userId : Int) (s : Store) :
    OwnEndpoint → Except ApiError Http.Response → Store → Prop
  | refused {endpoint : OwnEndpoint} (e : ApiError) : Effect moment userId s endpoint (.error e) s
  | profile (user : User) :
    s.user? userId = some user → Effect moment userId s .profile (.ok (.json 200 user.toJson)) s
  | profileChanged (old new : User) :
    s.user? userId = some old → new.id = old.id →
    Store.checkUser (s.users.filter (·.id ≠ old.id)) new = .ok () →
    new.updatedAt = moment.now.text →
    Effect moment userId s .changeProfile (.ok (.json 200 new.toJson))
      { s with users := s.users.map fun u => if u.id = old.id then new else u }
  | accountRemoved (user : User) :
    s.user? userId = some user →
    Effect moment userId s .removeAccount (.ok (.bare 204)) (s.dropUser userId).2
  | listed (todos : List Todo) :
    todos.Sublist (s.owned userId) →
    Effect moment userId s .listTodos (.ok (.json 200 (.arr (todos.map Todo.toJson)))) s
  | created (todo : Todo) :
    s.hasUser userId = true → todo.userId = userId → todo.id = s.lastTodo + 1 →
    todo.fault? = none →
    Effect moment userId s .createTodo (.ok (.json 201 todo.toJson))
      { s with todos := s.todos ++ [todo], lastTodo := todo.id }
  | createdMany (added : List Todo) (last : Int) :
    s.hasUser userId = true → (∀ t ∈ added, t.userId = userId ∧ s.lastTodo < t.id) →
    (∀ t ∈ added, t.fault? = none) → s.lastTodo ≤ last → Issued (added.map Todo.id) last →
    (added.map Todo.id).getLast? = some last →
    Effect moment userId s .createTodos
      (.ok (.json 201 (.obj [("count", .int added.length), ("last_id", .int last)])))
      { s with todos := s.todos ++ added, lastTodo := last }
  | todo (part : String) (todo : Todo) :
    pathId part = .ok todo.id → s.todo? userId todo.id = some todo →
    Effect moment userId s (.todo part) (.ok (.json 200 todo.toJson)) s
  | todoChanged (part : String) (old new : Todo) :
    pathId part = .ok old.id → s.todo? userId old.id = some old → new.id = old.id →
    new.userId = old.userId → new.completed = old.completed → new.fault? = none →
    new.updatedAt = moment.now.text →
    Effect moment userId s (.changeTodo part) (.ok (.json 200 new.toJson))
      { s with todos := s.todos.map fun t => if t.id = old.id then new else t }
  | todoRemoved (part : String) (todo : Todo) :
    pathId part = .ok todo.id → s.todo? userId todo.id = some todo →
    Effect moment userId s (.removeTodo part) (.ok (.bare 204)) (s.dropTodo userId todo.id).2
  | completed (part : String) (old : Todo) :
    pathId part = .ok old.id → s.todo? userId old.id = some old →
    Effect moment userId s (.completeTodo part)
      (.ok (.json 200 (old.flipped old.completed moment.now.text).toJson))
      { s with todos := s.todos.map fun t =>
          if t.id = old.id then old.flipped old.completed moment.now.text else t }

/-! ## Replies -/

/-- A reply that leaves an open pool on a database that is filled by a store. -/
def Leaves (rest : Database) (effect : Except ApiError Http.Response → Store → Prop)
    (reply : Reply Pool) : Prop :=
  ∃ s, reply.2 = s.pool rest ∧ effect reply.1 s

section

variable {α : Type} {s : Store} {rest : Database}
  {effect : Except ApiError Http.Response → Store → Prop}

theorem leaves_of_effect {answer : Except ApiError Http.Response} (ends : effect answer s) :
    Leaves rest effect (answer, s.pool rest) :=
  ⟨s, rfl, ends⟩

theorem leaves_accepting {x : Except Rejection α} {next : α → Reply Pool}
    (refused : ∀ e, effect (.error e) s) (accepted : ∀ a, x = .ok a → Leaves rest effect (next a)) :
    Leaves rest effect (accepting x (s.pool rest) next) := by
  cases x with
  | error rejection => exact leaves_of_effect (refused _)
  | ok a => exact accepted a rfl

theorem leaves_after_read {x : Except ServiceError α} {next : α → Pool → Reply Pool}
    (refused : ∀ e, effect (.error e) s)
    (found : ∀ a, x = .ok a → Leaves rest effect (next a (s.pool rest))) :
    Leaves rest effect (after (x, s.pool rest) next) := by
  cases x with
  | error e => exact leaves_of_effect (refused _)
  | ok a => exact found a rfl

theorem leaves_after_write {written : Except StorageError (α × Store)}
    {next : α → Pool → Reply Pool}
    (refused : ∀ e, effect (.error e) s)
    (stored : ∀ a s', written = .ok (a, s') → Leaves rest effect (next a (s'.pool rest))) :
    Leaves rest effect (after (Store.pooled rest (s.settle written)) next) := by
  cases written with
  | error e => exact leaves_of_effect (refused _)
  | ok x => exact stored x.1 x.2 rfl

end

/-- A value that was read off a request breaks no rule. -/
theorem Form.violations_of_ofRequest {α : Type} {form : Form α} {limit : Nat}
    {request : Http.Request} {value : α} (read : form.ofRequest limit request = .ok value) :
    form.violations value = [] := by
  rw [ofRequest] at read
  split at read
  · split at read
    · cases read
    · split at read
      · cases read
      · split at read
        · rw [checked] at read
          split at read
          · next none =>
            cases read
            exact List.isEmpty_iff.1 none
          · cases read
        · cases read
  · cases read

/-- A batch that was read off a request is neither empty nor too long for one statement. -/
theorem length_of_batch {limit : Nat} {request : Http.Request} {todos : List NewTodo}
    (read : batchForm.ofRequest limit request = .ok todos) :
    todos ≠ [] ∧ 6 * todos.length ≤ Pool.valueLimit := by
  have rules := (List.append_eq_nil_iff.1 (Form.violations_of_ofRequest read)).1
  rw [batchRule, Violation.check] at rules
  split at rules
  · next bounds =>
    rw [Bool.and_eq_true, decide_eq_true_eq, decide_eq_true_eq, largestBatch] at bounds
    refine ⟨List.length_pos_iff.1 bounds.1, ?_⟩
    rw [Pool.valueLimit]
    omega
  · cases rules

section

variable {s : Store} {rest : Database} (valid : s.Valid) (moment : Moment) (request : Http.Request)
  (userId : Int) (part : String)

/-! ## Accounts -/

namespace Accounts

theorem shown_pool (s : Store) (rest : Database) (status : Nat) (userId : Int) :
    shown Pool.runner status userId (s.pool rest) =
      ((s.user? userId).elim (.error missing) fun u => .ok (.json status u.toJson),
        s.pool rest) := by
  rw [shown, Users.get_pool]
  cases s.user? userId <;> rfl

theorem shown_of_mem (valid : s.Valid) {u : User} (held : u ∈ s.users) (status : Nat) :
    shown Pool.runner status u.id (s.pool rest) = (.ok (.json status u.toJson), s.pool rest) := by
  rw [shown_pool, valid.user?_of_mem held]
  rfl

include valid in
theorem register_leaves (manager : Auth.Manager) :
    Leaves rest (OpenEndpoint.Effect manager moment request s .register)
      (register Pool.runner moment request (s.pool rest)) := by
  rw [register]
  refine leaves_accepting .refused fun account _ => ?_
  rw [Users.insert_pool valid]
  refine leaves_after_write .refused fun userId s' added => ?_
  have valid' : s'.Valid := valid.change (.of_addUser added)
  obtain ⟨next, checked, rfl⟩ := Store.addUser_eq_ok added
  have held := List.mem_append_right s.users (List.mem_singleton_self
    (⟨userId, account.name, account.email, Auth.hashPassword account.password moment.salt,
      moment.now.text, moment.now.text⟩ : User))
  rw [shown_of_mem valid' held]
  exact leaves_of_effect (.registered _ next checked)

theorem login_leaves (manager : Auth.Manager) :
    Leaves rest (OpenEndpoint.Effect manager moment request s .login)
      (login Pool.runner manager moment request (s.pool rest)) := by
  rw [login]
  refine leaves_accepting .refused fun credentials read => ?_
  rw [Users.authenticate_pool]
  refine leaves_after_read .refused fun found credited => ?_
  cases found with
  | none => exact leaves_of_effect (.refused _)
  | some userId =>
    obtain ⟨user, held, mailed, rfl⟩ := Users.mem_of_credited credited
    exact leaves_of_effect (.entered credentials user read held mailed)

theorem profile_leaves :
    Leaves rest (OwnEndpoint.Effect moment userId s .profile)
      (shown Pool.runner 200 userId (s.pool rest)) := by
  rw [shown_pool]
  cases found : s.user? userId with
  | none => exact leaves_of_effect (.refused _)
  | some user => exact leaves_of_effect (.profile user found)

include valid in
theorem change_leaves :
    Leaves rest (OwnEndpoint.Effect moment userId s .changeProfile)
      (change Pool.runner moment userId request (s.pool rest)) := by
  rw [change]
  refine leaves_accepting .refused fun given _ => ?_
  by_cases absent : given.name = none ∧ given.email = none ∧ given.password = none
  · obtain ⟨name, email, password⟩ := given
    obtain ⟨rfl, rfl, rfl⟩ := absent
    exact leaves_of_effect (.refused _)
  · rw [Users.update_pool valid _ _ _ absent]
    refine leaves_after_write .refused fun count s' changed => ?_
    have valid' : s'.Valid := valid.change (.of_changeUser changed fun _ => rfl)
    rcases Store.changeUser_eq_ok changed with ⟨-, rfl, rfl⟩ | ⟨old, found, rfl, checked, rfl⟩
    · exact leaves_of_effect (.refused _)
    · obtain ⟨held, rfl⟩ := Store.mem_of_user? found
      have shown := @shown_of_mem _ rest valid' _ (List.mem_map.2 ⟨old, held, if_pos rfl⟩) 200
      exact ⟨_, congrArg Prod.snd shown, congrArg Prod.fst shown ▸
        .profileChanged old _ found rfl checked rfl⟩

include valid in
theorem remove_leaves :
    Leaves rest (OwnEndpoint.Effect moment userId s .removeAccount)
      (remove Pool.runner userId (s.pool rest)) := by
  rw [remove, Users.delete_pool valid]
  cases found : s.user? userId with
  | none =>
    rw [valid.dropUser_of_none found]
    exact leaves_of_effect (.refused missing)
  | some user =>
    have one : (s.dropUser userId).1 = 1 := by rw [Store.dropUser, found]; rfl
    rw [one]
    exact leaves_of_effect (.accountRemoved user found)

end Accounts

/-! ## Todos -/

namespace Todos

theorem shown_pool (s : Store) (rest : Database) (status : Nat) (userId todoId : Int) :
    shown Pool.runner status userId todoId (s.pool rest) =
      ((s.todo? userId todoId).elim (.error (missing todoId)) fun t => .ok (.json status t.toJson),
        s.pool rest) := by
  rw [shown, TodoServer.Todos.get_pool]
  cases s.todo? userId todoId <;> rfl

theorem shown_of_mem (valid : s.Valid) {t : Todo} (held : t ∈ s.todos) (status : Nat) :
    shown Pool.runner status t.userId t.id (s.pool rest) =
      (.ok (.json status t.toJson), s.pool rest) := by
  rw [shown_pool, valid.todo?_of_mem held]
  rfl

theorem list_leaves :
    Leaves rest (OwnEndpoint.Effect moment userId s .listTodos)
      (list Pool.runner userId request (s.pool rest)) := by
  rw [list]
  refine leaves_accepting .refused fun listing _ => ?_
  rw [TodoServer.Todos.list_pool]
  refine leaves_after_read .refused fun todos listed => ?_
  exact leaves_of_effect (.listed todos (TodoServer.Todos.sublist_of_listed listed))

include valid in
theorem create_leaves :
    Leaves rest (OwnEndpoint.Effect moment userId s .createTodo)
      (create Pool.runner moment userId request (s.pool rest)) := by
  rw [create]
  refine leaves_accepting .refused fun new _ => ?_
  rw [TodoServer.Todos.insert_pool valid]
  refine leaves_after_write .refused fun todoId s' added => ?_
  have valid' : s'.Valid := valid.change (.of_addTodos valid added)
  obtain ⟨rfl, owner, sound, rfl⟩ := Store.addTodos_eq_ok added
  let todo : Todo := ⟨s.lastTodo + 1, new.title, new.description, false, userId, moment.now.text,
    moment.now.text⟩
  have shown := @shown_of_mem _ rest valid' todo
    (List.mem_append_right s.todos (List.mem_singleton_self todo)) 201
  exact ⟨_, congrArg Prod.snd shown, congrArg Prod.fst shown ▸
    .created todo owner rfl rfl (sound todo (List.mem_singleton_self todo))⟩

include valid in
theorem createMany_leaves :
    Leaves rest (OwnEndpoint.Effect moment userId s .createTodos)
      (createMany Pool.runner moment userId request (s.pool rest)) := by
  rw [createMany]
  refine leaves_accepting .refused fun new read => ?_
  obtain ⟨given, few⟩ := length_of_batch read
  rw [TodoServer.Todos.insertMany_pool valid _ _ given few]
  refine leaves_after_write .refused fun last s' added => ?_
  obtain ⟨rfl, owner, sound, rfl⟩ := Store.addTodos_eq_ok added
  obtain ⟨owned, ascending, bound⟩ := Store.newTodos_spec userId moment.now.text s.lastTodo new
  have nonneg := valid.todoIds.last_nonneg
  have issued : Issued ((Store.newTodos userId moment.now.text s.lastTodo new).map Todo.id)
      (s.lastTodo + new.length) := by
    refine ⟨ascending, fun id mem => ?_, by omega⟩
    obtain ⟨t, held, rfl⟩ := List.mem_map.1 mem
    exact bound t held
  rw [← Store.length_newTodos userId moment.now.text s.lastTodo new] at issued ⊢
  refine leaves_of_effect (.createdMany _ _ owner owned sound (by omega) issued ?_)
  rw [Store.getLast?_newTodos _ _ _ given, Store.length_newTodos]

theorem get_leaves :
    Leaves rest (OwnEndpoint.Effect moment userId s (.todo part))
      (get Pool.runner userId part (s.pool rest)) := by
  rw [get]
  refine leaves_accepting .refused fun todoId read => ?_
  rw [shown_pool]
  cases found : s.todo? userId todoId with
  | none => exact leaves_of_effect (.refused _)
  | some todo =>
    obtain ⟨-, rfl, -⟩ := Store.mem_of_todo? found
    exact leaves_of_effect (.todo part todo read found)

include valid in
theorem change_leaves :
    Leaves rest (OwnEndpoint.Effect moment userId s (.changeTodo part))
      (change Pool.runner moment userId part request (s.pool rest)) := by
  rw [change]
  refine leaves_accepting .refused fun todoId read => ?_
  refine leaves_accepting .refused fun given _ => ?_
  by_cases absent : given.title = none ∧ given.description = none
  · obtain ⟨title, description⟩ := given
    obtain ⟨rfl, rfl⟩ := absent
    exact leaves_of_effect (.refused _)
  · rw [TodoServer.Todos.update_pool valid _ _ _ absent]
    refine leaves_after_write .refused fun count s' changed => ?_
    have valid' : s'.Valid := valid.change (.of_changeTodo changed fun _ => ⟨rfl, rfl, rfl⟩)
    rcases Store.changeTodo_eq_ok changed with ⟨-, rfl, rfl⟩ | ⟨old, found, rfl, sound, rfl⟩
    · exact leaves_of_effect (.refused _)
    · have there := (Option.filter_eq_some_iff.1 found).1
      obtain ⟨held, rfl, rfl⟩ := Store.mem_of_todo? there
      have shown := @shown_of_mem _ rest valid' _ (List.mem_map.2 ⟨old, held, if_pos rfl⟩) 200
      exact ⟨_, congrArg Prod.snd shown, congrArg Prod.fst shown ▸
        .todoChanged part old _ read there rfl rfl rfl sound rfl⟩

include valid in
theorem remove_leaves :
    Leaves rest (OwnEndpoint.Effect moment userId s (.removeTodo part))
      (remove Pool.runner userId part (s.pool rest)) := by
  rw [remove]
  refine leaves_accepting .refused fun todoId read => ?_
  rw [TodoServer.Todos.delete_pool valid]
  cases found : s.todo? userId todoId with
  | none =>
    rw [Store.dropTodo_of_none found]
    exact leaves_of_effect (.refused _)
  | some todo =>
    obtain ⟨-, rfl, -⟩ := Store.mem_of_todo? found
    have one : (s.dropTodo userId todo.id).1 = 1 := by rw [Store.dropTodo, found]; rfl
    rw [one]
    exact leaves_of_effect (.todoRemoved part todo read found)

/-- Alone, such a request reads the flag, writes it and shows the todo. -/
theorem run_completing (moment : Moment) (userId todoId : Int) (valid : s.Valid) :
    Completing.run Pool.runner moment.now userId todoId 3 (.toggling .reading) (s.pool rest) =
      match s.todo? userId todoId with
      | none => (.answered (.error (.ofService (.notFound "todo" todoId))), s.pool rest)
      | some old => (.answered (.ok (.json 200 (old.flipped old.completed moment.now.text).toJson)),
          Store.pool { s with todos := s.todos.map fun t =>
            if t.id = old.id then old.flipped old.completed moment.now.text else t } rest) := by
  cases found : s.todo? userId todoId with
  | none =>
    have unseen : s.flag? userId todoId = none := by rw [Store.flag?, found]; rfl
    have read : Completing.step Pool.runner moment.now userId todoId (.toggling .reading)
        (s.pool rest) =
          (.answered (.error (.ofService (.notFound "todo" todoId))), s.pool rest) := by
      rw [Completing.step, TodoServer.Todos.Toggle.step_pool valid, TodoServer.Todos.Toggle.effect,
        unseen]
    rw [Completing.run, read]
    rfl
  | some old =>
    obtain ⟨held, rfl, rfl⟩ := Store.mem_of_todo? found
    have seen : s.flag? old.userId old.id = some old.completed := by rw [Store.flag?, found]; rfl
    have read : Completing.step Pool.runner moment.now old.userId old.id (.toggling .reading)
        (s.pool rest) = (.toggling (.writing old.completed), s.pool rest) := by
      rw [Completing.step, TodoServer.Todos.Toggle.step_pool valid, TodoServer.Todos.Toggle.effect,
        seen]
    obtain ⟨s', changed, flip⟩ := Store.changeTodo_of_flag valid moment.now.text seen
    have wrote : Completing.step Pool.runner moment.now old.userId old.id
        (.toggling (.writing old.completed)) (s.pool rest) = (.loading, s'.pool rest) := by
      rw [Completing.step, TodoServer.Todos.Toggle.step_pool valid, TodoServer.Todos.Toggle.effect,
        if_pos seen, changed]
      rfl
    have valid' : s'.Valid := valid.flip flip
    rcases Store.changeTodo_eq_ok changed with ⟨-, zero, -⟩ | ⟨todo, kept, -, -, rfl⟩
    · cases zero
    · cases found.symm.trans (Option.filter_eq_some_iff.1 kept).1
      have shown := @shown_of_mem _ rest valid' (old.flipped old.completed moment.now.text)
        (List.mem_map.2 ⟨old, held, if_pos rfl⟩) 200
      have told : Completing.step Pool.runner moment.now old.userId old.id .loading _ =
          (.answered _, _) := congrArg (fun x => (Completing.answered x.1, x.2)) shown
      simp only [Completing.run, read, wrote]
      exact told

include valid in
theorem complete_leaves :
    Leaves rest (OwnEndpoint.Effect moment userId s (.completeTodo part))
      (complete Pool.runner moment userId part (s.pool rest)) := by
  rw [complete]
  refine leaves_accepting .refused fun todoId read => ?_
  rw [run_completing moment userId todoId valid]
  cases found : s.todo? userId todoId with
  | none => exact leaves_of_effect (.refused _)
  | some old =>
    obtain ⟨-, rfl, -⟩ := Store.mem_of_todo? found
    exact leaves_of_effect (.completed part old read found)

end Todos

end

/-! ## Sites -/

namespace Site

variable {manager : Auth.Manager} {origins : Http.Origins} {moment : Moment}
  {request : Http.Request}
  {s s' : Store} {rest : Database}

/-- The response that tells how an endpoint answers. -/
def told : Except ApiError Http.Response → Http.Response
  | .ok response => response
  | .error e => e.response

theorem fst_respond {σ : Type} (reply : Reply σ) : (respond reply).1 = told reply.1 := by
  rw [respond]
  split
  · next answered => rw [answered]; rfl
  · next failed => rw [failed]; rfl

/-- What a site answers to a request on a store, and the store that it leaves behind. -/
inductive Effect (site : Site Pool) (moment : Moment) (request : Http.Request) (s : Store) :
    Http.Response → Store → Prop
  | permitted :
    request.method = "OPTIONS" →
    Effect site moment request s
      (site.permission request (Resource.ofPath? request.target.path)) s
  | unrouted (response : Http.Response) :
    request.endpoint? = none → response.status ∈ [401, 404, 405] →
    Effect site moment request s response s
  | unadmitted (endpoint : OwnEndpoint) (failure : AuthFailure) :
    request.endpoint? = some (.owner endpoint) →
    caller site.manager moment.now request = .error failure →
    Effect site moment request s (site.finished request failure.toApiError.response) s
  | everybody (endpoint : OpenEndpoint) (answer : Except ApiError Http.Response) (s' : Store) :
    request.endpoint? = some (.everybody endpoint) →
    endpoint.Effect site.manager moment request s answer s' →
    Effect site moment request s (site.finished request (told answer)) s'
  | owner (endpoint : OwnEndpoint) (userId : Int) (answer : Except ApiError Http.Response)
      (s' : Store) :
    request.endpoint? = some (.owner endpoint) →
    caller site.manager moment.now request = .ok userId →
    endpoint.Effect moment userId s answer s' →
    Effect site moment request s (site.finished request (told answer)) s'

theorem answerOpen_leaves (valid : s.Valid) (endpoint : OpenEndpoint) :
    Leaves rest (endpoint.Effect manager moment request s)
      ((onPool manager origins).answerOpen moment endpoint request (s.pool rest)) := by
  cases endpoint with
  | health | description | docs =>
    exact leaves_of_effect (.told _ (by simp) rfl)
  | login => exact Accounts.login_leaves moment request manager
  | register => exact Accounts.register_leaves valid moment request manager

theorem answerOwn_leaves (valid : s.Valid) (endpoint : OwnEndpoint) (userId : Int) :
    Leaves rest (endpoint.Effect moment userId s)
      ((onPool manager origins).answerOwn moment endpoint userId request (s.pool rest)) := by
  cases endpoint with
  | profile => exact Accounts.profile_leaves moment userId
  | changeProfile => exact Accounts.change_leaves valid moment request userId
  | removeAccount => exact Accounts.remove_leaves valid moment userId
  | listTodos => exact Todos.list_leaves moment request userId
  | createTodo => exact Todos.create_leaves valid moment request userId
  | createTodos => exact Todos.createMany_leaves valid moment request userId
  | todo part => exact Todos.get_leaves moment userId part
  | changeTodo part => exact Todos.change_leaves valid moment request userId part
  | removeTodo part => exact Todos.remove_leaves valid moment userId part
  | completeTodo part => exact Todos.complete_leaves valid moment userId part

/-- A request to a site on a database that is filled by a valid store has one of these effects. -/
theorem answer_leaves (valid : s.Valid) (manager : Auth.Manager) (origins : Http.Origins)
    (moment : Moment) (request : Http.Request) :
    ∃ answer s', (onPool manager origins).answer moment request (s.pool rest) =
        (answer, s'.pool rest) ∧
      (onPool manager origins).Effect moment request s answer.response s' := by
  cases routed : request.endpoint? with
  | none =>
    by_cases asked : request.method = "OPTIONS"
    · refine ⟨⟨_, none⟩, s, ?_, .permitted asked⟩
      simp only [answer, if_pos asked]
      rfl
    · obtain ⟨answer, refused, same⟩ := @answer_unrouted _ (onPool manager origins) moment _ routed
      exact ⟨answer, s, same _, .unrouted answer.response routed (refused asked)⟩
  | some endpoint =>
    cases endpoint with
    | everybody endpoint =>
      obtain ⟨s', left, effect⟩ :=
        @answerOpen_leaves manager origins moment request s rest valid endpoint
      rw [answer_everybody routed, fst_respond, left]
      exact ⟨_, s', rfl, .everybody endpoint _ s' routed effect⟩
    | owner endpoint =>
      rw [answer_owner routed]
      cases called : caller (onPool manager origins).manager moment.now request with
      | error failure => exact ⟨_, s, rfl, .unadmitted endpoint failure routed called⟩
      | ok userId =>
        obtain ⟨s', left, effect⟩ :=
          @answerOwn_leaves manager origins moment request s rest valid endpoint userId
        simp only [fst_respond, left]
        exact ⟨_, s', rfl, .owner endpoint userId _ s' routed called effect⟩

end Site

/-! ## What an effect leaves behind -/

section

variable {manager : Auth.Manager} {moment : Moment} {s s' : Store}
  {answer : Except ApiError Http.Response}

theorem OpenEndpoint.Effect.change {request : Http.Request} {endpoint : OpenEndpoint}
    (effect : endpoint.Effect manager moment request s answer s') : s.Change s' := by
  cases effect with
  | refused | told | entered => exact .none
  | registered user next checked => exact .userAdded user next checked

/-- An endpoint of the caller's own writes once, or flips a flag, or leaves all as it is. -/
theorem OwnEndpoint.Effect.change {endpoint : OwnEndpoint} {userId : Int} (valid : s.Valid)
    (effect : endpoint.Effect moment userId s answer s') :
    s.Change s' ∨ ∃ todoId seen, Store.Flip userId todoId seen s s' := by
  cases effect with
  | refused | profile | listed | todo => exact .inl .none
  | profileChanged old new _ same checked => exact .inl (.userChanged old new same checked)
  | accountRemoved => exact .inl (.userDropped userId)
  | created todo owner own next sound =>
    have nonneg := valid.todoIds.last_nonneg
    have issued : Issued [todo.id] todo.id :=
      ⟨List.pairwise_singleton _ _, fun id mem => Int.le_of_eq (List.mem_singleton.1 mem), by omega⟩
    refine .inl (.todosAdded userId todo.id [todo] owner ?_ ?_ (by omega) issued)
    · intro t mem
      cases List.mem_singleton.1 mem
      exact ⟨own, by omega⟩
    · intro t mem
      cases List.mem_singleton.1 mem
      exact sound
  | createdMany added last owner own sound more issued =>
    exact .inl (.todosAdded userId last added owner own sound more issued)
  | todoChanged part old new _ found same owner flag sound =>
    exact .inl (.todoChanged old new (Store.mem_of_todo? found).1 same owner flag sound)
  | todoRemoved part todo => exact .inl (.todoDropped userId todo.id)
  | completed part old _ found =>
    obtain ⟨held, -, own⟩ := Store.mem_of_todo? found
    exact .inr ⟨old.id, old.completed,
      .flipped old _ held ⟨rfl, own, rfl⟩ rfl rfl rfl (valid.todos old held)⟩

namespace Site.Effect

variable {site : Site Pool} {request : Http.Request} {response : Http.Response}

theorem valid (effect : site.Effect moment request s response s') (valid : s.Valid) : s'.Valid := by
  cases effect with
  | permitted | unrouted | unadmitted => exact valid
  | everybody endpoint answer _ _ effect => exact valid.change effect.change
  | owner endpoint userId answer _ _ _ effect =>
    rcases effect.change valid with change | ⟨todoId, seen, flip⟩
    · exact valid.change change
    · exact valid.flip flip

theorem follows (effect : site.Effect moment request s response s') (valid : s.Valid) :
    s.Follows s' := by
  cases effect with
  | permitted | unrouted | unadmitted => exact .refl s
  | everybody endpoint answer _ _ effect => exact effect.change.follows
  | owner endpoint userId answer _ _ _ effect =>
    rcases effect.change valid with change | ⟨todoId, seen, flip⟩
    · exact change.follows
    · exact flip.follows

end Site.Effect

end

end Api

end TodoServer
