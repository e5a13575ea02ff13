import TodoServer.Proofs.Api.Report
import TodoServer.Proofs.Api.Submission
import TodoServer.Proofs.Store.Batch

/-!
# Conflicts

What is answered to a submission that passes the rules of its form. For an account that is there the
only conflict is an email that belongs to another account, as long as storage sees all texts that it
checks. A submission with a text that it does not see is never stored.
-/

namespace TodoServer

open Storage

namespace Api

/-! ## Answers to submissions -/

/-- What is answered to an accepted submission, and the store that is left behind. -/
structure Submission.Outcome (submission : Submission) (taken : Prop) (s : Store)
    (answer : Except ApiError Http.Response) (s' : Store) : Prop where
  conflict : (Site.told answer).status = 409 → submission.isSeen = true → taken
  unstored : submission.isSeen = false → s' = s ∧ ¬(Site.told answer).status < 300

section

variable {submission : Submission} {taken : Prop} {s s' : Store} {rest : Database}

theorem Submission.Outcome.refused {e : ApiError} (other : e.status ≠ 409) :
    submission.Outcome taken s (.error e) s :=
  ⟨fun status => absurd status other, fun _ => ⟨rfl, e.not_success⟩⟩

theorem Submission.Outcome.stored {answer : Except ApiError Http.Response}
    (seen : submission.isSeen = true) (other : (Site.told answer).status ≠ 409) :
    submission.Outcome taken s answer s' :=
  ⟨fun status => absurd status other, fun unseen => by rw [seen] at unseen; cases unseen⟩

/-- Of the errors of storage a conflict alone is told as one. -/
theorem ApiError.conflict_of_status {e : StorageError}
    (status : (ofService (.query (.storage e))).status = 409) : ∃ detail, e = .conflict detail := by
  cases e with
  | conflict detail => exact ⟨detail, rfl⟩
  | database | notFound | unavailable | migrationFailed | io => cases status

theorem Submission.leaves_written {α : Type} {written : Except StorageError (α × Store)}
    {next : α → Pool → Reply Pool}
    (conflict : ∀ detail, written = .error (.conflict detail) → submission.isSeen = true → taken)
    (stored : ∀ a s', written = .ok (a, s') →
      Leaves rest (submission.Outcome taken s) (next a (s'.pool rest))) :
    Leaves rest (submission.Outcome taken s)
      (after (Store.pooled rest (s.settle written)) next) := by
  cases written with
  | ok x => exact stored x.1 x.2 rfl
  | error e =>
    refine leaves_of_effect ⟨fun status seen => ?_, fun _ => ⟨rfl, ApiError.not_success _⟩⟩
    obtain ⟨detail, rfl⟩ := ApiError.conflict_of_status status
    exact conflict detail rfl seen

/-- A conflict on an account is a check that it fails or an email that is taken. -/
theorem checkUser_eq_error {others : List User} {u : User} {e : StorageError}
    (refused : Store.checkUser others u = .error e) :
    u.fault? ≠ none ∨ ∃ x ∈ others, x.email = u.email := by
  rw [Store.checkUser] at refused
  split at refused
  · next check failed =>
    rw [failed]
    exact .inl (Option.some_ne_none check)
  · split at refused
    · next used =>
      obtain ⟨x, held, same⟩ := List.any_eq_true.1 used
      exact .inr ⟨x, held, of_decide_eq_true same⟩
    · cases refused

theorem addUser_eq_conflict {name email hash time detail : String}
    (refused : s.addUser name email hash time = .error (.conflict detail)) :
    User.fault? ⟨s.lastUser + 1, name, email, hash, time, time⟩ ≠ none ∨
      ∃ u ∈ s.users, u.email = email := by
  rw [Store.addUser] at refused
  split at refused
  · cases refused
  · cases checked : Store.checkUser s.users ⟨s.lastUser + 1, name, email, hash, time, time⟩ with
    | ok _ =>
      simp only [checked, bind, Except.bind] at refused
      cases refused
    | error e => exact checkUser_eq_error checked

/-- A change of an account that is there is refused for the checks of an account alone. -/
theorem changeUser_eq_error {userId : Int} {change : User → User} {e : StorageError}
    (refused : s.changeUser userId change = .error e) :
    ∃ old, s.user? userId = some old ∧
      ((change old).fault? ≠ none ∨
        ∃ x ∈ s.users, x.id ≠ userId ∧ x.email = (change old).email) := by
  rw [Store.changeUser] at refused
  split at refused
  · cases refused
  · next old found =>
    refine ⟨old, found, ?_⟩
    cases checked : Store.checkUser (s.users.filter (·.id ≠ userId)) (change old) with
    | ok _ =>
      simp only [checked, bind, Except.bind] at refused
      cases refused
    | error e' =>
      rcases checkUser_eq_error checked with fault | ⟨x, held, same⟩
      · exact .inl fault
      · obtain ⟨held, other⟩ := List.mem_filter.1 held
        exact .inr ⟨x, held, of_decide_eq_true other, same⟩

/-- A change of a todo is refused for the check of a todo alone. -/
theorem changeTodo_eq_error {userId todoId : Int} {condition : Todo → Bool} {change : Todo → Todo}
    {e : StorageError} (refused : s.changeTodo userId todoId condition change = .error e) :
    ∃ old ∈ s.todos, (change old).fault? ≠ none := by
  rw [Store.changeTodo] at refused
  split at refused
  · cases refused
  · next old found =>
    refine ⟨old, (Store.mem_of_todo? (Option.filter_eq_some_iff.1 found).1).1, fun sound => ?_⟩
    rw [Store.checkTodo_eq_ok_iff.2 sound] at refused
    cases refused

/-! ### Accounts -/

theorem Accounts.status_shown (status : Nat) (userId : Int) (other : status ≠ 409) :
    (Site.told (Accounts.shown Pool.runner status userId (s.pool rest)).1).status ≠ 409 := by
  rw [Accounts.shown_pool]
  cases s.user? userId with
  | none => exact show 404 ≠ 409 by decide
  | some u => exact other

theorem Accounts.shown_leaves (seen : submission.isSeen = true) (status : Nat) (userId : Int)
    (other : status ≠ 409) :
    Leaves rest (submission.Outcome taken s)
      (Accounts.shown Pool.runner status userId (s'.pool rest)) :=
  ⟨s', congrArg Prod.snd (Accounts.shown_pool s' rest status userId),
    .stored seen (Accounts.status_shown status userId other)⟩

theorem Accounts.register_submits (valid : s.Valid) (moment : Moment) {request : Http.Request}
    {account : Registration} (read : registrationForm.ofRequest openLimit request = .ok account) :
    Leaves rest
      ((Submission.registration account).Outcome (∃ u ∈ s.users, u.email = account.email) s)
      (Accounts.register Pool.runner moment request (s.pool rest)) := by
  have accepted : (Submission.registration account).violations = [] :=
    Form.violations_of_ofRequest read
  rw [Accounts.register, read, accepting, Users.insert_pool valid]
  refine Submission.leaves_written (fun detail refused seen => ?_) fun userId s' added => ?_
  · rcases addUser_eq_conflict refused with fault | taken
    · exact absurd ((fault?_registered accepted _ _ _ _).2 seen) fault
    · exact taken
  · obtain ⟨-, checked, -⟩ := Store.addUser_eq_ok added
    have seen := (fault?_registered accepted _ _ _ _).1 (Store.checkUser_eq_ok_iff.1 checked).1
    exact shown_leaves seen 201 userId (by decide)

theorem Accounts.change_submits (valid : s.Valid) (moment : Moment) {request : Http.Request}
    {userId : Int} {change : ProfileChange} (known : s.hasUser userId = true)
    (read : profileForm.ofRequest ownLimit request = .ok change) :
    Leaves rest ((Submission.profile change).Outcome
        (∃ u ∈ s.users, u.id ≠ userId ∧ change.email = some u.email) s)
      (Accounts.change Pool.runner moment userId request (s.pool rest)) := by
  have accepted : (Submission.profile change).violations = [] := Form.violations_of_ofRequest read
  rw [Accounts.change, read, accepting]
  by_cases absent : change.name = none ∧ change.email = none ∧ change.password = none
  · obtain ⟨name, email, password⟩ := change
    obtain ⟨rfl, rfl, rfl⟩ := absent
    exact leaves_of_effect (.refused (show 400 ≠ 409 by decide))
  · rw [Users.update_pool valid _ _ _ absent]
    refine Submission.leaves_written (fun detail refused seen => ?_) fun count s' changed => ?_
    · obtain ⟨old, found, fault | ⟨u, held, other, same⟩⟩ := changeUser_eq_error refused
      · obtain ⟨stored, -⟩ := Store.mem_of_user? found
        exact absurd ((fault?_changed accepted (valid.users old stored) _ _).2 seen) fault
      · obtain ⟨stored, mine⟩ := Store.mem_of_user? found
        refine ⟨u, held, other, ?_⟩
        cases given : change.email with
        | some email => simpa [Users.changed, given] using same.symm
        | none =>
          -- The account keeps its email, which no other account has.
          have shared : u.email = old.email := by simpa [Users.changed, given] using same
          exact absurd ((congrArg User.id (valid.eq_of_email held stored shared)).trans mine) other
    · rcases Store.changeUser_eq_ok changed with ⟨missing, -, -⟩ | ⟨old, found, rfl, checked, rfl⟩
      · rw [Store.hasUser_eq_isSome, missing] at known
        cases known
      · obtain ⟨stored, -⟩ := Store.mem_of_user? found
        have seen := (fault?_changed accepted (valid.users old stored) _ _).1
          (Store.checkUser_eq_ok_iff.1 checked).1
        exact shown_leaves seen 200 userId (by decide)

/-! ### Todos -/

theorem Todos.status_shown (status : Nat) (userId todoId : Int) (other : status ≠ 409) :
    (Site.told (Todos.shown Pool.runner status userId todoId (s.pool rest)).1).status ≠ 409 := by
  rw [Todos.shown_pool]
  cases s.todo? userId todoId with
  | none => exact show 404 ≠ 409 by decide
  | some t => exact other

theorem Todos.shown_leaves (seen : submission.isSeen = true) (status : Nat) (userId todoId : Int)
    (other : status ≠ 409) :
    Leaves rest (submission.Outcome taken s)
      (Todos.shown Pool.runner status userId todoId (s'.pool rest)) :=
  ⟨s', congrArg Prod.snd (Todos.shown_pool s' rest status userId todoId),
    .stored seen (Todos.status_shown status userId todoId other)⟩

/-- New todos of an account that is there meet no conflict if they are titled. -/
theorem addTodos_eq_conflict {userId : Int} {time detail : String} {new : List NewTodo}
    (known : s.hasUser userId = true)
    (refused : s.addTodos userId time new = .error (.conflict detail)) :
    ¬∀ t ∈ new, t.IsTitled := by
  rcases Store.addTodos_eq_error refused with ⟨-, exhausted⟩ | ⟨faulty, -⟩
  · cases exhausted
  · exact fun titled => faulty ⟨titled, known⟩

theorem Todos.create_submits (valid : s.Valid) (moment : Moment) {request : Http.Request}
    {userId : Int} {new : NewTodo} (known : s.hasUser userId = true)
    (read : newTodoForm.ofRequest ownLimit request = .ok new) :
    Leaves rest ((Submission.todo new).Outcome False s)
      (Todos.create Pool.runner moment userId request (s.pool rest)) := by
  have rules : todoRules new = [] := Form.violations_of_ofRequest read
  have titled : (∀ t ∈ [new], t.IsTitled) ↔ (Submission.todo new).isSeen = true := by
    rw [List.forall_mem_singleton]
    exact title_of_rule (List.append_eq_nil_iff.1 rules).1
  rw [Todos.create, read, accepting, TodoServer.Todos.insert_pool valid]
  refine Submission.leaves_written (fun detail refused seen => ?_) fun todoId s' added => ?_
  · exact addTodos_eq_conflict known refused (titled.2 seen)
  · have seen := titled.1 (Store.addTodos_eq_ok_iff.1 added).2.1
    exact shown_leaves seen 201 userId todoId (by decide)

/-- A todo whose title is not seen is told as a conflict while there is an id for it. -/
theorem Todos.create_of_unseen (valid : s.Valid) (moment : Moment) {request : Http.Request}
    {userId : Int} {new : NewTodo} (room : s.lastTodo + 1 ≤ Database.keyLimit)
    (read : newTodoForm.ofRequest ownLimit request = .ok new)
    (unseen : Text.isSeen new.title = false) :
    Todos.create Pool.runner moment userId request (s.pool rest) =
      (.error (.conflict "CONFLICT" "The request conflicts with existing data"), s.pool rest) := by
  have rules : todoRules new = [] := Form.violations_of_ofRequest read
  rw [Todos.create, read, accepting, TodoServer.Todos.insert_pool valid]
  cases written : s.addTodos userId moment.now.text [new] with
  | ok x =>
    have titled := (Store.addTodos_eq_ok_iff.1 written).2.1 new List.mem_cons_self
    have seen := (title_of_rule (List.append_eq_nil_iff.1 rules).1).1 titled
    rw [unseen] at seen
    cases seen
  | error e =>
    rcases Store.addTodos_eq_error written with ⟨full, -⟩ | ⟨-, detail, rfl⟩
    · exact absurd room (Int.not_le.2 full)
    · rfl

theorem Todos.createMany_submits (valid : s.Valid) (moment : Moment) {request : Http.Request}
    {userId : Int} {new : List NewTodo} (known : s.hasUser userId = true)
    (read : batchForm.ofRequest ownLimit request = .ok new) :
    Leaves rest ((Submission.batch new).Outcome False s)
      (Todos.createMany Pool.runner moment userId request (s.pool rest)) := by
  have accepted : batchForm.violations new = [] := Form.violations_of_ofRequest read
  have rules := Violation.ofItems_eq_nil_iff.1 (List.append_eq_nil_iff.1 accepted).2
  have titled : (∀ t ∈ new, t.IsTitled) ↔ (Submission.batch new).isSeen = true := by
    rw [Submission.isSeen, List.all_eq_true]
    exact forall₂_congr fun t mem => title_of_rule (List.append_eq_nil_iff.1 (rules t mem)).1
  obtain ⟨some, few⟩ := length_of_batch read
  rw [Todos.createMany, read, accepting, TodoServer.Todos.insertMany_pool valid _ _ some few]
  refine Submission.leaves_written (fun detail refused seen => ?_) fun last s' added => ?_
  · exact addTodos_eq_conflict known refused (titled.2 seen)
  · have seen := titled.1 (Store.addTodos_eq_ok_iff.1 added).2.1
    exact leaves_of_effect (.stored seen (show 201 ≠ 409 by decide))

theorem Todos.change_submits (valid : s.Valid) (moment : Moment) {request : Http.Request}
    {userId : Int} {part : String} {change : TodoChange}
    (read : todoChangeForm.ofRequest ownLimit request = .ok change) :
    Leaves rest ((Submission.todoChange change).Outcome False s)
      (Todos.change Pool.runner moment userId part request (s.pool rest)) := by
  have accepted : (Submission.todoChange change).violations = [] :=
    Form.violations_of_ofRequest read
  rw [Todos.change]
  cases found : pathId part with
  | error rejection => exact leaves_of_effect (.refused (show 400 ≠ 409 by decide))
  | ok todoId =>
    rw [accepting, read, accepting]
    by_cases absent : change.title = none ∧ change.description = none
    · obtain ⟨title, description⟩ := change
      obtain ⟨rfl, rfl⟩ := absent
      exact leaves_of_effect (.refused (show 400 ≠ 409 by decide))
    · rw [TodoServer.Todos.update_pool valid _ _ _ absent]
      refine Submission.leaves_written (fun detail refused seen => ?_) fun count s' changed => ?_
      · obtain ⟨old, held, fault⟩ := changeTodo_eq_error refused
        exact absurd ((fault?_todoChanged accepted (valid.todos old held) _).2 seen) fault
      · rcases Store.changeTodo_eq_ok changed with ⟨-, rfl, rfl⟩ | ⟨old, found, rfl, sound, rfl⟩
        · exact leaves_of_effect (.refused (show 404 ≠ 409 by decide))
        · have held := (Store.mem_of_todo? (Option.filter_eq_some_iff.1 found).1).1
          have seen := (fault?_todoChanged accepted (valid.todos old held) _).1 sound
          exact shown_leaves seen 200 userId todoId (by decide)

/-- An account beside that of the caller has the email that a submission asks for. -/
def Submission.IsTaken (submission : Submission) (site : Site Pool) (moment : Moment)
    (request : Http.Request) (endpoint : Endpoint) (db : Database) : Prop :=
  ∃ email, submission.email? = some email ∧ ∃ row ∈ db.rowsOf .users, row.cell 2 = .text email ∧
    (endpoint ≠ .everybody .register → caller site.manager moment.now request ≠ .ok row.key)

/-- What is told of an accepted submission is what its endpoint replies. -/
theorem Submission.told_of_leaves {site : Site Pool} {moment : Moment} {request : Http.Request}
    {endpoint : Endpoint} {db : Database} {reply : Reply Pool}
    (answered : site.answer moment request (s.pool rest) =
      (⟨site.finished request (Site.respond reply).1, none⟩, reply.2))
    (leaves : Leaves rest (submission.Outcome taken s) reply)
    (named : taken → submission.IsTaken site moment request endpoint db) :
    ∃ answer s', site.answer moment request (s.pool rest) = (answer, s'.pool rest) ∧
      (answer.response.status = 409 → submission.isSeen = true →
        submission.IsTaken site moment request endpoint db) ∧
      (submission.isSeen = false → s' = s ∧ ¬answer.response.status < 300) := by
  obtain ⟨s', left, outcome⟩ := leaves
  rw [left] at answered
  refine ⟨_, s', answered, ?_, ?_⟩
  · rw [Site.status_finished, Site.fst_respond]
    exact fun status seen => named (outcome.conflict status seen)
  · rw [Site.status_finished, Site.fst_respond]
    exact outcome.unstored

/-- The answer to a submission of an account that is there. -/
theorem Submission.told (valid : s.Valid) (manager : Auth.Manager) (origins : Http.Origins)
    (moment : Moment) {request : Http.Request} {endpoint : Endpoint}
    (routed : request.endpoint? = some endpoint) (given : submission.From request endpoint)
    (known : ∀ userId, caller manager moment.now request = .ok userId → s.hasUser userId = true) :
    ∃ answer s', (Site.onPool manager origins).answer moment request (s.pool rest) =
        (answer, s'.pool rest) ∧
      (answer.response.status = 409 → submission.isSeen = true →
        submission.IsTaken (.onPool manager origins) moment request endpoint (s.fill rest)) ∧
      (submission.isSeen = false → s' = s ∧ ¬answer.response.status < 300) := by
  cases endpoint with
  | everybody endpoint =>
    cases given with
    | registration read =>
      refine told_of_leaves (Site.answer_everybody routed _)
        (Accounts.register_submits valid moment read) ?_
      rintro ⟨u, held, mailed⟩
      exact ⟨_, rfl, u.row, List.mem_map_of_mem held, congrArg Cell.text mailed,
        fun other => absurd rfl other⟩
  | owner endpoint =>
    have answered : (Site.onPool manager origins).answer moment request (s.pool rest) = _ :=
      Site.answer_owner routed (s.pool rest)
    cases called : caller manager moment.now request with
    | error failure =>
      have unadmitted : caller (Site.onPool manager origins).manager moment.now request =
          .error failure := called
      rw [unadmitted] at answered
      refine ⟨_, s, answered, fun status => ?_, fun _ => ⟨rfl, ?_⟩⟩
      · rw [Site.status_finished] at status
        exact absurd (show 401 = 409 from status) (by decide)
      · rw [Site.status_finished]
        exact ApiError.not_success _
    | ok userId =>
      have admitted : caller (Site.onPool manager origins).manager moment.now request =
          .ok userId := called
      have there := known userId called
      rw [admitted] at answered
      cases given with
      | profile read =>
        refine told_of_leaves answered (Accounts.change_submits valid moment there read) ?_
        rintro ⟨u, held, other, mailed⟩
        refine ⟨_, mailed, u.row, List.mem_map_of_mem held, rfl, fun _ same => other ?_⟩
        exact (Except.ok.inj (admitted.symm.trans same)).symm
      | todo read =>
        exact told_of_leaves answered (Todos.create_submits valid moment there read) False.elim
      | batch read =>
        exact told_of_leaves answered (Todos.createMany_submits valid moment there read) False.elim
      | todoChange read =>
        exact told_of_leaves answered (Todos.change_submits valid moment read) False.elim

end

end Api

open Api

/-- **Accepted submissions meet the constraints.** The rows of a submission that passes the rules of
its form have values where they are needed and pass the checks of their tables, and for an account
that is there the only conflict is an email that belongs to another account, as long as no text
holds a NUL where a check looks: at the start of a name or title, or as the third sign of an email.
With such a text the submission is not stored. -/
theorem accepted_submissions {db : Database} (reachable : Reachable db) (manager : Auth.Manager)
    (origins : Http.Origins) (moment : Moment) {submission : Submission} :
    (submission.violations = [] → submission.isSeen = true →
      ∀ userId id row, submission.Writes moment userId db id row → row.Keeps id) ∧
    (∀ request endpoint, request.endpoint? = some endpoint → submission.From request endpoint →
      (∀ userId, caller manager moment.now request = .ok userId → userId ∈ db.keysOf .users) →
      ∃ answer db', (Site.onPool manager origins).answer moment request (.of db) =
          (answer, .of db') ∧
        (answer.response.status = 409 → submission.isSeen = true →
          submission.IsTaken (.onPool manager origins) moment request endpoint db) ∧
        (submission.isSeen = false → db' = db ∧ ¬answer.response.status < 300)) := by
  obtain ⟨s, rest, valid, rfl⟩ := reachable.filled
  constructor
  · exact fun accepted seen userId id row => Submission.rows_keep valid accepted seen
  · intro request endpoint routed given known
    have there (userId : Int) (called : caller manager moment.now request = .ok userId) :
        s.hasUser userId = true := by
      have known := known userId called
      rw [Store.keysOf_users] at known
      exact Store.hasUser_iff.2 known
    obtain ⟨answer, s', answered, conflict, unstored⟩ :=
      Submission.told valid manager origins moment routed given there
    refine ⟨answer, s'.fill rest, answered, conflict, fun unseen => ?_⟩
    obtain ⟨same, failed⟩ := unstored unseen
    exact ⟨congrArg (·.fill rest) same, failed⟩

/-- A request of the first user to create a todo. -/
def Http.Request.forCreation (document : String) : Request :=
  ⟨"POST", ⟨"", "/api/v1/todos", none⟩, [⟨"content-type", "application/json"⟩,
    ⟨"authorization", "Bearer " ++ Site.sampleToken⟩], Text.utf8 document⟩

theorem Http.Request.endpoint?_forCreation (document : String) :
    (forCreation document).endpoint? = some (.owner .createTodo) := by
  have named : Resource.ofPath? "/api/v1/todos" = some .todos := by decide
  have found : Resource.todos.endpoint? "POST" = some (.owner .createTodo) := by decide
  rw [endpoint?, forCreation, named, Option.bind_some, found]

theorem Http.Request.read_forCreation :
    newTodoForm.ofRequest ownLimit (forCreation "\x7b\"title\":\"Milk\"\x7d") = .ok ⟨"Milk", none⟩ ∧
      newTodoForm.ofRequest ownLimit (forCreation "\x7b\"title\":\"\\u0000Milk\"\x7d") =
        .ok ⟨"\x00Milk", none⟩ := by
  decide +kernel

theorem caller_forCreation (document : String) (userId : Int) :
    caller Site.sample.manager Moment.sample.now (.forCreation document) = .ok userId ↔
      userId = 1 := by
  rw [Site.caller_eq_ok_iff.2 (Site.admits_sampleToken (rfl :
    (Http.Request.forCreation document).header? "authorization" = some ("Bearer " ++
      Site.sampleToken)))]
  exact ⟨fun same => (Except.ok.inj same).symm, fun same => same ▸ rfl⟩

/-- The first user creates a todo, whose row passes its check, and meets no conflict. -/
theorem accepted_submissions_sample :
    Reachable (sampleDatabase "Bread") ∧ (Submission.todo ⟨"Milk", none⟩).violations = [] ∧
      (Submission.todo ⟨"Milk", none⟩).isSeen = true ∧
      (∃ row,
        (Submission.todo ⟨"Milk", none⟩).Writes .sample 1 (sampleDatabase "Bread") .todos row ∧
        row.Keeps .todos) ∧
      ∃ answer db', Site.sample.answer .sample (.forCreation "\x7b\"title\":\"Milk\"\x7d")
          (.of (sampleDatabase "Bread")) = (answer, .of db') ∧ answer.response.status ≠ 409 := by
  have reachable : Reachable (sampleDatabase "Bread") := reachable_sampleDatabase (by decide)
  obtain ⟨keeps, told⟩ := @accepted_submissions _ reachable Site.sample.manager
    Site.sample.origins .sample (.todo ⟨"Milk", none⟩)
  have writes : (Submission.todo ⟨"Milk", none⟩).Writes .sample 1 (sampleDatabase "Bread") .todos
      (Todo.row ⟨1, "Milk", none, false, 1, Moment.sample.now.text, Moment.sample.now.text⟩) :=
    .created _ .empty _ ⟨[1, 2, 3, 4, 5, 6], rfl, rfl⟩
  have read := Http.Request.read_forCreation.1
  obtain ⟨answer, db', answered, conflict, -⟩ := told _ _ (Http.Request.endpoint?_forCreation _)
    (.todo read) fun userId called => by
      rw [(caller_forCreation _ userId).1 called]
      decide
  have accepted := Form.violations_of_ofRequest read
  refine ⟨reachable, accepted, rfl, ⟨_, writes, keeps accepted rfl _ _ _ writes⟩,
    answer, db', answered, fun status => ?_⟩
  obtain ⟨email, asked, -⟩ := conflict status rfl
  cases asked

/-- A title that starts with NUL is accepted, but its row fails the check, and the first user is
told of a conflict though no email is asked for. -/
theorem hidden_title_conflicts :
    (Submission.todo ⟨"\x00Milk", none⟩).violations = [] ∧
      (∃ row, (Submission.todo ⟨"\x00Milk", none⟩).Writes .sample 1 (sampleDatabase "Bread")
        .todos row ∧ ¬row.Keeps .todos) ∧
      (Submission.todo ⟨"\x00Milk", none⟩).From
        (.forCreation "\x7b\"title\":\"\\u0000Milk\"\x7d") (.owner .createTodo) ∧
      Reachable (sampleDatabase "Bread") ∧ 1 ∈ (sampleDatabase "Bread").keysOf .users ∧
      caller Site.sample.manager Moment.sample.now
        (.forCreation "\x7b\"title\":\"\\u0000Milk\"\x7d") = .ok 1 ∧
      (Submission.todo ⟨"\x00Milk", none⟩).email? = none ∧
      (Site.sample.answer .sample (.forCreation "\x7b\"title\":\"\\u0000Milk\"\x7d")
        (.of (sampleDatabase "Bread"))).1.response.status = 409 := by
  have reachable : Reachable (sampleDatabase "Bread") := reachable_sampleDatabase (by decide)
  have read := Http.Request.read_forCreation.2
  have called := (caller_forCreation "\x7b\"title\":\"\\u0000Milk\"\x7d" 1).2 rfl
  have writes :
      (Submission.todo ⟨"\x00Milk", none⟩).Writes .sample 1 (sampleDatabase "Bread") .todos
      (Todo.row ⟨1, "\x00Milk", none, false, 1, Moment.sample.now.text, Moment.sample.now.text⟩) :=
    .created _ .empty _ ⟨[1, 2, 3, 4, 5, 6], rfl, rfl⟩
  have accepted : (Submission.todo ⟨"\x00Milk", none⟩).violations = [] :=
    Form.violations_of_ofRequest read
  have fails : ¬Row.Keeps (Todo.row ⟨1, "\x00Milk", none, false, 1, Moment.sample.now.text,
      Moment.sample.now.text⟩) .todos := by
    rw [Todo.row_keeps_iff, fault?_created accepted]
    decide
  have created : Todos.create Pool.runner .sample 1 _ ((Store.sample "Bread").pool
      (Migration.surroundings 0 Crypto.sha256Hex)) = _ :=
    Todos.create_of_unseen (Store.valid_sample (by decide)) .sample (by decide) read (by decide)
  refine ⟨accepted, ⟨_, writes, fails⟩, .todo read, reachable, by decide, called, rfl, ?_⟩
  rw [Site.answer_owner (Http.Request.endpoint?_forCreation _), called]
  simp only [Site.status_finished, Site.fst_respond]
  exact congrArg (fun reply : Reply Pool => (Site.told reply.1).status) created

end TodoServer
