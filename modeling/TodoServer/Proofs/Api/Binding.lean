import TodoServer.Proofs.Api.Absence
import TodoServer.Proofs.Auth.Password

/-!
# Tokens and accounts

A token stays bound to the account for which it was given, over every run of requests: as long as
the account is there a request that bears the token reaches nothing else, and once the account is
gone the token opens nothing any more, whoever registers afterwards.
-/

namespace TodoServer

open Storage

/-! ## Runs of requests -/

/-- What comes later than something later comes later. -/
theorem Store.Follows.trans {s s' s'' : Store} (first : s.Follows s') (second : s'.Follows s'') :
    s.Follows s'' := by
  refine ⟨Int.le_trans first.lastUser second.lastUser,
    Int.le_trans first.lastTodo second.lastTodo, fun id mem => ?_, fun id mem => ?_⟩
  · rcases second.users id mem with old | new
    · exact first.users id old
    · exact .inr (Int.lt_of_le_of_lt first.lastUser new)
  · rcases second.todos id mem with old | new
    · exact first.todos id old
    · exact .inr (Int.lt_of_le_of_lt first.lastTodo new)

namespace Api

/-- What requests lead to: whole requests one after the other, and between them single turns of the
operations that other requests ask for which are not over yet. -/
inductive Site.Leads (site : Site Pool) (p : Pool) : Pool → Prop
  | start : Leads site p p
  | request {q : Pool} (moment : Moment) (request : Http.Request) :
    Leads site p q → Leads site p (site.answer moment request q).2
  | turn {q : Pool} (moment : Moment) (task : Task) :
    Leads site p q → Leads site p (task.step site.runner moment q).2

variable {manager : Auth.Manager} {origins : Http.Origins} {s : Store} {rest : Database}

/-- From a database that is filled by a valid store requests lead to others that come later. -/
theorem Site.Leads.filled (valid : s.Valid) {p : Pool}
    (leads : (onPool manager origins).Leads (s.pool rest) p) :
    ∃ s', p = s'.pool rest ∧ s'.Valid ∧ s.Follows s' := by
  induction leads with
  | start => exact ⟨s, rfl, valid, .refl s⟩
  | request moment request _ ih =>
    obtain ⟨s₁, rfl, valid₁, follows⟩ := ih
    obtain ⟨answer, s₂, answered, effect⟩ :=
      @answer_leaves s₁ rest valid₁ manager origins moment request
    exact ⟨s₂, congrArg Prod.snd answered, effect.valid valid₁,
      follows.trans (effect.follows valid₁)⟩
  | turn moment task _ ih =>
    obtain ⟨s₁, rfl, valid₁, follows⟩ := ih
    exact ⟨_, congrArg Prod.snd (Task.step_pool valid₁ moment task),
      Task.effect_valid valid₁ moment task, follows.trans (Task.effect_follows valid₁ moment task)⟩

/-- What callers of the services lead to is among what requests lead to. -/
theorem Site.leads_of_reachable {db : Database} (reachable : Reachable db) :
    ∃ now, (onPool manager origins).Leads (Pool.fresh now) (.of db) := by
  obtain ⟨now, operations, schedule, reached⟩ := reachable
  have leads : (onPool manager origins).Leads (Pool.fresh now)
      ((Run.start (operations.map Task.ofOperation) (Pool.fresh now)).follow
        (Task.step Pool.runner) schedule).state :=
    Run.follow_induction (motive := fun run => Leads _ _ run.state) schedule .start
      fun _ _ task moment _ before => .turn moment task before
  exact ⟨now, reached ▸ leads⟩

/-- An account may be removed in a turn between requests. -/
theorem Site.leads_dropUser (valid : s.Valid) (moment : Moment) (userId : Int) :
    (onPool manager origins).Leads (s.pool rest) ((s.dropUser userId).2.pool rest) := by
  let removal : Task := .single (.deleteUser userId) rfl none
  have turn : (onPool manager origins).Leads (s.pool rest)
      (removal.step Pool.runner moment (s.pool rest)).2 := .turn moment removal .start
  rw [Task.step_pool valid] at turn
  exact turn

/-- An account that was there and is gone does not come back. -/
theorem absent_of_follows {s s' : Store} {userId : Int} (issued : userId ≤ s.lastUser)
    (absent : s.hasUser userId = false) (follows : s.Follows s') : s'.hasUser userId = false := by
  rw [← Bool.not_eq_true, Store.hasUser_iff] at absent ⊢
  intro mem
  rcases follows.users userId mem with old | new
  · exact absent old
  -- Keys of new accounts lie above all that were issued before.
  · omega

end Api

/-! ## What a request shows -/

/-- What a body tells is what rows hold that belong to one user. -/
inductive Storage.Database.Tells (db : Database) (userId : Int) : Http.Body → Prop
  | nothing : Tells db userId .empty
  | account (row : Row) (document : Json) :
    row ∈ db.rowsOf .users → row.key = userId → row.ShownAs .users document →
    Tells db userId (.json document)
  | todo (row : Row) (document : Json) :
    row ∈ db.ownRows userId → row.ShownAs .todos document → Tells db userId (.json document)
  | todos (rows : List Row) (documents : List Json) :
    (∀ row ∈ rows, row ∈ db.ownRows userId) →
    List.Forall₂ (fun row document => row.ShownAs .todos document) rows documents →
    Tells db userId (.json (.arr documents))
  | todosCreated (rows : List Row) (last : Int) :
    (∀ row ∈ rows, row ∈ db.ownRows userId) → (rows.map Row.key).getLast? = some last →
    Tells db userId (.json (.obj [("count", .int rows.length), ("last_id", .int last)]))

namespace Api

section

variable {moment : Moment} {request : Http.Request} {s s' : Store} {rest : Database} {userId : Int}
  {answer : Except ApiError Http.Response}

theorem mem_ownRows {t : Todo} (held : t ∈ s.todos) (own : t.userId = userId) :
    t.row ∈ (s.fill rest).ownRows userId :=
  List.mem_filter.2 ⟨List.mem_map_of_mem held, decide_eq_true (Todo.owner_row.2 own)⟩

theorem forall₂_shownAs (todos : List Todo) :
    List.Forall₂ (fun (row : Row) document => row.ShownAs .todos document) (todos.map Todo.row)
      (todos.map Todo.toJson) := by
  induction todos with
  | nil => exact .nil
  | cons t others ih => exact .cons t.row_shownAs ih

/-- What an endpoint of the caller's own tells with success is the caller's. -/
theorem OwnEndpoint.Effect.tells {endpoint : OwnEndpoint}
    (effect : endpoint.Effect moment userId s answer s')
    (success : (Site.told answer).status < 300) :
    (s'.fill rest).Tells userId (Site.told answer).body := by
  cases effect with
  | refused e => exact absurd success e.not_success
  | profile user found =>
    obtain ⟨held, own⟩ := Store.mem_of_user? found
    exact .account user.row _ (List.mem_map_of_mem held) own user.row_shownAs
  | profileChanged old new found same =>
    obtain ⟨held, own⟩ := Store.mem_of_user? found
    have stored : new ∈ s.users.map fun u => if u.id = old.id then new else u :=
      List.mem_map.2 ⟨old, held, if_pos rfl⟩
    exact .account new.row _ (List.mem_map_of_mem stored) (same.trans own) new.row_shownAs
  | accountRemoved | todoRemoved => exact .nothing
  | listed todos sub =>
    refine .todos (todos.map Todo.row) _ (fun row mem => ?_) (forall₂_shownAs todos)
    obtain ⟨t, there, rfl⟩ := List.mem_map.1 mem
    obtain ⟨held, own⟩ := List.mem_filter.1 (sub.subset there)
    exact mem_ownRows held (of_decide_eq_true own)
  | created todo _ own =>
    exact .todo todo.row _ (mem_ownRows (List.mem_append_right _ (List.mem_singleton_self _)) own)
      todo.row_shownAs
  | createdMany added last _ own _ _ _ final =>
    have count : added.length = (added.map Todo.row).length := (List.length_map _).symm
    have keys : (added.map Todo.row).map Row.key = added.map Todo.id := List.map_map
    rw [Site.told, Http.Response.json, count]
    refine .todosCreated (added.map Todo.row) last (fun row mem => ?_) (keys ▸ final)
    obtain ⟨t, new, rfl⟩ := List.mem_map.1 mem
    exact mem_ownRows (List.mem_append_right _ new) (own t new).1
  | todo part todo _ found =>
    obtain ⟨held, -, own⟩ := Store.mem_of_todo? found
    exact .todo todo.row _ (mem_ownRows held own) todo.row_shownAs
  | todoChanged part old new _ found _ owner =>
    obtain ⟨held, -, own⟩ := Store.mem_of_todo? found
    have stored : new ∈ s.todos.map fun t => if t.id = old.id then new else t :=
      List.mem_map.2 ⟨old, held, if_pos rfl⟩
    exact .todo new.row _ (mem_ownRows stored (owner.trans own)) new.row_shownAs
  | completed part old _ found =>
    obtain ⟨held, -, own⟩ := Store.mem_of_todo? found
    have stored : old.flipped old.completed moment.now.text ∈ s.todos.map fun t =>
        if t.id = old.id then old.flipped old.completed moment.now.text else t :=
      List.mem_map.2 ⟨old, held, if_pos rfl⟩
    exact .todo _ _ (mem_ownRows stored own) (Todo.row_shownAs _)

/-- An endpoint for everybody keeps every row. -/
theorem OpenEndpoint.Effect.rows_subset {manager : Auth.Manager} {endpoint : OpenEndpoint}
    (effect : endpoint.Effect manager moment request s answer s') (id : TableId) :
    (s.fill rest).rowsOf id ⊆ (s'.fill rest).rowsOf id := by
  cases effect with
  | refused | told | entered => exact List.Subset.refl _
  | registered user =>
    cases id with
    | users =>
      rw [Store.rowsOf_users, Store.rowsOf_users, List.map_append]
      exact List.subset_append_left _ _
    | versions | history | todos => exact List.Subset.refl _

end

/-! ## Tokens of accounts -/

namespace Site

/-- The site on another runner. -/
def on {σ : Type} (site : Site Pool) (r : Runner σ) : Site σ := ⟨r, site.manager, site.origins⟩

/-- A login that is answered with a token. -/
structure Enters (site : Site Pool) (moment : Moment) (login : Http.Request) (p : Pool)
    (token : String) : Prop where
  routed : login.endpoint? = some (.everybody .login)
  status : (site.answer moment login p).1.response.status = 200
  body : ∃ issued : Auth.IssuedToken, issued.token = token ∧
    (site.answer moment login p).1.response.body = .json (Accounts.tokenDocument issued)

/-- What becomes of a request for an account that is gone: lists are empty, all else fails, whatever
other requests do after its first statement, and nothing changes. -/
structure Forgotten (site : Site Pool) (userId : Int) (moment : Moment) (request : Http.Request)
    (p : Pool) : Prop where
  stays : ∀ q, site.Leads p q → userId ∉ q.database.keysOf .users
  still : ∀ endpoint, request.endpoint? = some (.owner endpoint) →
    (site.answer moment request p).2 = p
  empty : ∀ listing, request.endpoint? = some (.owner .listTodos) →
    site.Admits request moment.now userId → listingOfQuery request.target.query = .ok listing →
    ∀ (σ : Type) (r : Runner σ) (state : σ), r.AnswersAs state p →
      ((site.on r).answer moment request state).1.response.status = 200 ∧
        (request.method = "GET" →
          ((site.on r).answer moment request state).1.response.body = .json (.arr []))
  fails : ∀ endpoint, request.endpoint? = some (.owner endpoint) → endpoint ≠ .listTodos →
    ∀ (σ : Type) (r : Runner σ) (state : σ), r.AnswersAs state p →
      300 ≤ ((site.on r).answer moment request state).1.response.status

/-- What becomes of a request that bears a token of an account. -/
structure Bound (site : Site Pool) (userId : Int) (moment : Moment) (request : Http.Request)
    (p : Pool) : Prop where
  named : ∀ other, site.Admits request moment.now other → other = userId
  confined : ∀ endpoint, request.endpoint? = some (.owner endpoint) →
    ∀ (σ : Type) (r : Runner σ) (state : σ), ∀ s ∈ (site.on r).issued moment request state,
      s.command.ConfinedTo userId
  spared : ∀ endpoint, request.endpoint? = some (.owner endpoint) →
    p.database.SparesOthers userId (site.answer moment request p).2.database
  shown : ∀ endpoint, request.endpoint? = some (.owner endpoint) →
    (site.answer moment request p).1.response.status < 300 →
    (site.answer moment request p).2.database.Tells userId
      (site.answer moment request p).1.response.body
  elsewhere : (∀ endpoint, request.endpoint? ≠ some (.owner endpoint)) → ∀ id,
    p.database.rowsOf id ⊆ (site.answer moment request p).2.database.rowsOf id
  gone : userId ∉ p.database.keysOf .users → site.Forgotten userId moment request p

section

variable {manager : Auth.Manager} {origins : Http.Origins} {moment : Moment}
  {request : Http.Request} {s s' : Store} {rest : Database} {userId : Int}

/-- A token that a login gives is a token of the account with the email that was given. -/
theorem Enters.issued {login : Http.Request} {token : String} (valid : s.Valid)
    (entered : (onPool manager origins).Enters moment login (s.pool rest) token) :
    ∃ user ∈ s.users, token = (manager.issue moment.now moment.tokenId user.id).token ∧
      ∃ credentials, credentialsForm.ofRequest openLimit login = .ok credentials ∧
        user.email = credentials.email := by
  obtain ⟨routed, status, issued, rfl, body⟩ := entered
  obtain ⟨s', -, effect⟩ := @answerOpen_leaves manager origins moment login s rest valid .login
  have sent : login.method ≠ "HEAD" := method_ne_head routed (by decide)
  rw [answer_everybody routed] at status body
  simp only [fst_respond, status_finished, body_finished sent] at status body
  generalize ((onPool manager origins).answerOpen moment .login login (s.pool rest)).1 = reply at *
  cases effect with
  | refused e =>
    have failed := e.not_success
    rw [told] at status
    omega
  | told response other => simp at other
  | entered credentials user read held mailed =>
    refine ⟨user, held, ?_, credentials, read, mailed⟩
    have documents := Http.Body.json.inj body
    simp only [Accounts.tokenDocument, Json.obj.injEq, List.cons.injEq, Prod.mk.injEq,
      Json.str.injEq] at documents
    exact documents.1.2.symm

/-- Who knows the password of an account is given a token of it. -/
theorem enters_of_password {login : Http.Request} {credentials : Credentials} {user : User}
    (routed : login.endpoint? = some (.everybody .login))
    (read : credentialsForm.ofRequest openLimit login = .ok credentials)
    (found : s.users.find? (·.email = credentials.email) = some user)
    (known : Auth.verifyPassword? credentials.password user.passwordHash = some true) :
    (onPool manager origins).Enters moment login (s.pool rest)
      (manager.issue moment.now moment.tokenId user.id).token := by
  have credited : Users.credited s credentials.email credentials.password = .ok (some user.id) := by
    rw [Users.credited, found]
    simp only [Users.opened, known]
  have answered : (onPool manager origins).answerOpen moment .login login (s.pool rest) =
      (.ok (.json 200 (Accounts.tokenDocument (manager.issue moment.now moment.tokenId user.id))),
        s.pool rest) := by
    change Accounts.login Pool.runner manager moment login (s.pool rest) = _
    rw [Accounts.login, read, accepting, Users.authenticate_pool, credited]
    rfl
  have sent : login.method ≠ "HEAD" := method_ne_head routed (by decide)
  refine ⟨routed, ?_, _, rfl, ?_⟩
  · rw [answer_everybody routed, answered, status_finished]
    rfl
  · rw [answer_everybody routed, answered]
    exact body_finished sent _

/-- The tokens of an account let nobody in for another. -/
theorem eq_of_admits {now : Instant} {tokenId : String} {now' : Instant} {other : Int}
    (borne : request.Bears (manager.issue now tokenId userId).token)
    (admits : (onPool manager origins).Admits request now' other) : other = userId := by
  obtain ⟨token, claims, borne', valid, named⟩ := admits
  have same : token = (manager.issue now tokenId userId).token :=
    Option.some_inj.1
      ((bearerToken?_eq_some_iff.2 borne').symm.trans (bearerToken?_eq_some_iff.2 borne))
  subst same
  exact Auth.Manager.eq_of_validate_issue valid named

/-- What a caller is told with success is the caller's. -/
theorem Effect.tells {endpoint : OwnEndpoint} {response : Http.Response}
    (effect : (onPool manager origins).Effect moment request s response s')
    (routed : request.endpoint? = some (.owner endpoint))
    (named : ∀ other, (onPool manager origins).Admits request moment.now other → other = userId)
    (success : response.status < 300) : (s'.fill rest).Tells userId response.body := by
  cases effect with
  | permitted asked =>
    obtain ⟨_, -, -, other⟩ := resource_of_endpoint? routed
    exact absurd asked other
  | unrouted _ none => cases routed.symm.trans none
  | unadmitted _ failure =>
    rw [status_finished] at success
    exact absurd success failure.toApiError.not_success
  | everybody _ _ _ routed' => cases routed.symm.trans routed'
  | owner endpoint other answer _ _ called effect =>
    cases named other (caller_eq_ok_iff.1 called)
    rw [status_finished] at success
    by_cases head : request.method = "HEAD"
    · rw [finished, if_pos head]
      exact .nothing
    · rw [body_finished head]
      exact effect.tells success

/-- A request for what is not the caller's keeps every row. -/
theorem Effect.rows_subset {response : Http.Response}
    (effect : (onPool manager origins).Effect moment request s response s')
    (other : ∀ endpoint, request.endpoint? ≠ some (.owner endpoint)) (id : TableId) :
    (s.fill rest).rowsOf id ⊆ (s'.fill rest).rowsOf id := by
  cases effect with
  | permitted | unrouted | unadmitted => exact List.Subset.refl _
  | everybody endpoint answer _ _ effect => exact effect.rows_subset id
  | owner endpoint _ _ _ routed => exact absurd routed (other endpoint)

section

variable (valid : s.Valid) (absent : s.hasUser userId = false)
  (named : ∀ other, (onPool manager origins).Admits request moment.now other → other = userId)

include valid absent

/-- The list of an account that is gone is empty. -/
theorem list_of_absent {listing : Listing} (routed : request.endpoint? = some (.owner .listTodos))
    (admits : (onPool manager origins).Admits request moment.now userId)
    (read : listingOfQuery request.target.query = .ok listing) {σ : Type} {r : Runner σ} {state : σ}
    (same : r.AnswersAs state (s.pool rest)) :
    (((onPool manager origins).on r).answer moment request state).1.response =
      ((onPool manager origins).on r).finished request (.json 200 (.arr [])) := by
  have listed :
      (((onPool manager origins).on r).answerOwn moment .listTodos userId request state).1 =
      .ok (.json 200 (.arr [])) := Todos.list_of_absent same valid absent read
  have called : caller ((onPool manager origins).on r).manager moment.now request = .ok userId :=
    caller_eq_ok_iff.2 admits
  simp only [answer_owner routed, called, fst_respond, listed]
  rfl

include named

/-- What else is asked for an account that is gone fails. -/
theorem status_of_absent {endpoint : OwnEndpoint}
    (routed : request.endpoint? = some (.owner endpoint)) (other : endpoint ≠ .listTodos) {σ : Type}
    {r : Runner σ} {state : σ} (same : r.AnswersAs state (s.pool rest)) :
    300 ≤ (((onPool manager origins).on r).answer moment request state).1.response.status := by
  rw [answer_owner routed]
  cases called : caller ((onPool manager origins).on r).manager moment.now request with
  | error failure =>
    rw [status_finished]
    exact Nat.not_lt.1 failure.toApiError.not_success
  | ok found =>
    cases named found (caller_eq_ok_iff.1 called)
    obtain ⟨e, failed⟩ := fails_of_absent same valid absent manager origins moment request other
    rw [status_finished, fst_respond]
    change 300 ≤
      (told (answerOwn ⟨r, manager, origins⟩ moment endpoint userId request state).1).status
    rw [failed]
    exact Nat.not_lt.1 e.not_success

theorem forgotten (issued : userId ≤ s.lastUser) :
    (onPool manager origins).Forgotten userId moment request (s.pool rest) := by
  constructor
  case stays =>
    intro q leads
    obtain ⟨s', rfl, -, follows⟩ := leads.filled valid
    have gone := absent_of_follows issued absent follows
    rw [← Bool.not_eq_true, Store.hasUser_iff, ← Store.keysOf_users rest] at gone
    exact gone
  case still =>
    intro endpoint routed
    -- What changes something succeeds, and without an account nothing but the list does.
    obtain ⟨answer, s', answered, effect⟩ :=
      @answer_leaves s rest valid manager origins moment request
    rcases effect.eq_or_succeeds with same | ⟨endpoint', routed', writes, -, success⟩
    · rw [answered, same]
    · cases routed.symm.trans routed'
      have other : endpoint ≠ .listTodos := by
        rintro rfl
        exact writes rfl
      have failed := status_of_absent valid absent named routed other (s.pool rest).runner_answersAs
      change 300 ≤ ((onPool manager origins).answer moment request (s.pool rest)).1.response.status
        at failed
      rw [answered] at failed
      have failed : 300 ≤ answer.response.status := failed
      simp only [List.mem_cons, List.not_mem_nil, or_false] at success
      omega
  case empty =>
    intro listing routed admits read σ r state same
    rw [list_of_absent valid absent routed admits read same, status_finished]
    exact ⟨rfl, fun get => body_finished (by rw [get]; decide) _⟩
  case fails =>
    intro endpoint routed other σ r state same
    exact status_of_absent valid absent named routed other same

end

/-- A request that bears a token of an account is bound to it. -/
theorem bound (valid : s.Valid) (sound : (s.fill rest).Sound) (issued : userId ≤ s.lastUser)
    (named : ∀ other, (onPool manager origins).Admits request moment.now other → other = userId) :
    (onPool manager origins).Bound userId moment request (s.pool rest) := by
  constructor
  case named => exact named
  case confined =>
    intro endpoint routed σ r state
    have guarded : ((onPool manager origins).on r).Guards moment request endpoint := guards routed
    -- The token may be over by now, and then nobody is let in.
    by_cases admits : (onPool manager origins).Admits request moment.now userId
    · exact guarded.confined userId admits state
    · have none : ∀ other, ¬((onPool manager origins).on r).Admits request moment.now other := by
        intro other admitted
        cases named other admitted
        exact admits admitted
      rw [guarded.silent none state]
      exact List.forall_mem_nil _
  case spared =>
    intro endpoint routed
    rw [answer_owner routed]
    cases called : caller (onPool manager origins).manager moment.now request with
    | error failure => exact .refl userId _
    | ok other =>
      cases named other (caller_eq_ok_iff.1 called)
      exact (@answerOwn_keeps _ (onPool manager origins) userId _
        (Pool.keeps_spares userId (s.fill rest)) (s.pool rest) ⟨sound, .refl userId _⟩ moment
        endpoint request).2
  case shown =>
    intro endpoint routed success
    obtain ⟨answer, s', answered, effect⟩ :=
      @answer_leaves s rest valid manager origins moment request
    rw [answered] at success ⊢
    exact effect.tells routed named success
  case elsewhere =>
    intro other id
    obtain ⟨answer, s', answered, effect⟩ :=
      @answer_leaves s rest valid manager origins moment request
    rw [answered]
    exact effect.rows_subset other id
  case gone =>
    intro absent
    refine forgotten valid ?_ named issued
    rw [← Bool.not_eq_true, Store.hasUser_iff, ← Store.keysOf_users rest]
    exact absent

end

end Site

end Api

/-! ## Runs -/

open Api

/-- **A token is bound to one account for ever.** Over every run of requests from a new database, a
token that a login gives is the token of the account with the email that was given, and whatever
requests come after the login, every request that bears the token is bound to that account: it acts
for nobody else, it reads, shows and changes what belongs to the account alone, and once the account
is gone it lists nothing, fails otherwise and changes nothing. -/
theorem token_bound_for_ever (manager : Auth.Manager) (origins : Http.Origins) (now : Int)
    {before : Pool} (reached : (Site.onPool manager origins).Leads (Pool.fresh now) before)
    {moment : Moment} {login : Http.Request} {token : String}
    (entered : (Site.onPool manager origins).Enters moment login before token) :
    ∃ userId, (∃ row ∈ before.database.rowsOf .users, row.key = userId ∧
        ∃ credentials, credentialsForm.ofRequest openLimit login = .ok credentials ∧
          row.cell 2 = .text credentials.email) ∧
      ∀ p, (Site.onPool manager origins).Leads before p →
        ∀ (moment : Moment) (request : Http.Request), request.Bears token →
          (Site.onPool manager origins).Bound userId moment request p := by
  rw [Pool.fresh_eq] at reached
  obtain ⟨s, rfl, valid, -⟩ := reached.filled Store.valid_empty
  obtain ⟨user, held, rfl, credentials, read, mailed⟩ := entered.issued valid
  refine ⟨user.id, ⟨user.row, List.mem_map_of_mem held, rfl, credentials, read,
    congrArg Cell.text mailed⟩, ?_⟩
  intro p leads later request borne
  obtain ⟨s', rfl, valid', follows⟩ := leads.filled valid
  have issued : user.id ≤ s.lastUser := valid.userIds.le_last _ (List.mem_map_of_mem held)
  exact Site.bound valid' (valid'.sound now _) (Int.le_trans issued follows.lastUser)
    fun other => Site.eq_of_admits borne

/-- A request for a token with the password of the first user. -/
def Http.Request.forEntry : Request :=
  ⟨"POST", ⟨"", "/api/v1/auth/login", none⟩, [⟨"content-type", "application/json"⟩],
    Text.utf8 "\x7b\"email\":\"ann@example.org\",\"password\":\"secret\"\x7d"⟩

theorem Http.Request.endpoint?_forEntry : forEntry.endpoint? = some (.everybody .login) := by
  have named : Resource.ofPath? "/api/v1/auth/login" = some .login := by decide
  rw [endpoint?, forEntry, named, Option.bind_some]
  rfl

theorem Http.Request.read_forEntry :
    credentialsForm.ofRequest openLimit forEntry = .ok ⟨"ann@example.org", "secret"⟩ := by
  decide +kernel

/-- The first user logs in. -/
theorem Site.enters_sampleToken :
    Site.sample.Enters .sample .forEntry (.of (sampleDatabase "Bread")) sampleToken := by
  let ann : User := ⟨1, "Ann", "ann@example.org", Auth.hashPassword "secret" [],
    Moment.sample.now.text, Moment.sample.now.text⟩
  have found : (Store.sample "Bread").users.find? (·.email = "ann@example.org") = some ann :=
    List.find?_cons_of_pos (decide_eq_true (rfl : ann.email = "ann@example.org"))
  have known : Auth.verifyPassword? "secret" ann.passwordHash = some true :=
    Auth.verifyPassword?_hashPassword "secret" []
  have entered : (Site.onPool Site.sample.manager Site.sample.origins).Enters .sample .forEntry
      ((Store.sample "Bread").pool (Migration.surroundings 0 Crypto.sha256Hex))
      (Site.sample.manager.issue Moment.sample.now Moment.sample.tokenId ann.id).token :=
    Site.enters_of_password Http.Request.endpoint?_forEntry Http.Request.read_forEntry found known
  exact entered

/-- What is left when the first user removes the account. -/
def databaseOfOthers : Database :=
  ((Store.sample "Bread").dropUser 1).2.fill (Migration.surroundings 0 Crypto.sha256Hex)

/-- The first user logs in, and a request for todos with the token is bound to the account. When the
account is removed later, the request is one of somebody forgotten. -/
theorem token_bound_for_ever_sample :
    (∃ now, Site.sample.Leads (Pool.fresh now) (.of (sampleDatabase "Bread"))) ∧
    Site.sample.Enters .sample .forEntry (.of (sampleDatabase "Bread")) Site.sampleToken ∧
    Site.sample.Bound 1 .sample (.forTodos [⟨"authorization", "Bearer " ++ Site.sampleToken⟩])
      (.of (sampleDatabase "Bread")) ∧
    Site.sample.Forgotten 1 .sample (.forTodos [⟨"authorization", "Bearer " ++ Site.sampleToken⟩])
      (.of databaseOfOthers) := by
  have reachable : Reachable (sampleDatabase "Bread") := reachable_sampleDatabase (by decide)
  obtain ⟨now, reached⟩ :=
    @Site.leads_of_reachable Site.sample.manager Site.sample.origins _ reachable
  obtain ⟨userId, -, bound⟩ := token_bound_for_ever Site.sample.manager Site.sample.origins now
    reached Site.enters_sampleToken
  have bears : (Http.Request.forTodos [⟨"authorization", "Bearer " ++ Site.sampleToken⟩]).Bears
      Site.sampleToken :=
    bears_of_visible (Auth.Token.visible_of_mem_sign _ _) (Auth.Token.sign_ne_empty _ _) rfl
  have here := bound _ .start .sample _ bears
  cases here.named 1 (Site.admits_sampleToken rfl)
  have valid : (Store.sample "Bread").Valid := Store.valid_sample (by decide)
  have later := bound (.of databaseOfOthers) (Site.leads_dropUser valid .sample 1) .sample _ bears
  have absent : (1 : Int) ∉ databaseOfOthers.keysOf .users := by
    rw [databaseOfOthers, Store.keysOf_users]
    decide
  exact ⟨⟨now, reached⟩, Site.enters_sampleToken, here, later.gone absent⟩

end TodoServer
