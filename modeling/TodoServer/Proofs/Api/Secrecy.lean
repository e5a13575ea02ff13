import TodoServer.Proofs.Api.Binding
import TodoServer.Proofs.Service.Secrecy

/-!
# Responses and stored passwords

The responses to requests other than logins tell nothing of the passwords that are stored, and a
login tells nothing but whether the password that is given is accepted.
-/

namespace TodoServer

open Storage

namespace Api

variable {α : Type} {p q : Pool}

/-! ## Replies -/

theorem after_indistinct {x y : Except ServiceError α × Pool} (same : Indistinct x y)
    {next : α → Pool → Reply Pool}
    (kept : ∀ a p q, p.SameButHashes q → Indistinct (next a p) (next a q)) :
    Indistinct (after x next) (after y next) := by
  obtain ⟨answer, state⟩ := same
  rw [after, after, answer]
  split
  · exact kept _ _ _ state
  · exact ⟨rfl, state⟩

theorem accepting_indistinct {x : Except Rejection α} (same : p.SameButHashes q)
    {next next' : α → Reply Pool} (kept : ∀ a, Indistinct (next a) (next' a)) :
    Indistinct (accepting x p next) (accepting x q next') := by
  cases x with
  | ok a => exact kept a
  | error rejection => exact ⟨rfl, same⟩

variable (same : p.SameButHashes q)

include same

/-! ## Accounts -/

namespace Accounts

/-- The document of an account leaves the stored password out. -/
theorem shown_indistinct (status : Nat) (userId : Int) :
    Indistinct (shown Pool.runner status userId p) (shown Pool.runner status userId q) := by
  have answers := Users.get_agrees same userId
  have stays := Users.state_get p userId
  have stays' := Users.state_get q userId
  rw [shown, shown, after, after, stays, stays']
  generalize (Users.get Pool.runner userId p).1 = x at answers ⊢
  generalize (Users.get Pool.runner userId q).1 = y at answers ⊢
  cases answers with
  | failed e => exact ⟨rfl, same⟩
  | @done u v both =>
    cases u with
    | none =>
      cases Option.map_eq_none_iff.1 both.symm
      exact ⟨rfl, same⟩
    | some user =>
      obtain ⟨user', rfl, shown⟩ := Option.map_eq_some_iff.1 both.symm
      refine ⟨?_, same⟩
      simp only [shown]

theorem register_indistinct (moment : Moment) (request : Http.Request) :
    Indistinct (register Pool.runner moment request p) (register Pool.runner moment request q) :=
  accepting_indistinct same fun _ =>
    after_indistinct (Users.insert_indistinct same _ _ _ _ _) fun userId _ _ same =>
      shown_indistinct same 201 userId

theorem change_indistinct (moment : Moment) (userId : Int) (request : Http.Request) :
    Indistinct (change Pool.runner moment userId request p)
      (change Pool.runner moment userId request q) := by
  refine accepting_indistinct same fun given => ?_
  refine after_indistinct (Users.update_indistinct same _ _ _ _ _ _) fun count _ _ same => ?_
  cases count with
  | zero => exact ⟨rfl, same⟩
  | succ => exact shown_indistinct same 200 userId

theorem remove_indistinct (userId : Int) :
    Indistinct (remove Pool.runner userId p) (remove Pool.runner userId q) := by
  refine after_indistinct (Users.delete_indistinct same _) fun count _ _ same => ?_
  cases count <;> exact ⟨rfl, same⟩

end Accounts

/-! ## Todos -/

namespace Todos

theorem shown_indistinct (status : Nat) (userId todoId : Int) :
    Indistinct (shown Pool.runner status userId todoId p)
      (shown Pool.runner status userId todoId q) := by
  refine after_indistinct (TodoServer.Todos.get_indistinct same userId todoId) ?_
  intro found _ _ same
  cases found <;> exact ⟨rfl, same⟩

theorem list_indistinct (userId : Int) (request : Http.Request) :
    Indistinct (list Pool.runner userId request p) (list Pool.runner userId request q) :=
  accepting_indistinct same fun _ =>
    after_indistinct (TodoServer.Todos.fetch_indistinct same _) fun _ _ _ same => ⟨rfl, same⟩

theorem create_indistinct (moment : Moment) (userId : Int) (request : Http.Request) :
    Indistinct (create Pool.runner moment userId request p)
      (create Pool.runner moment userId request q) :=
  accepting_indistinct same fun _ =>
    after_indistinct (TodoServer.Todos.insert_indistinct same _ _ _) fun todoId _ _ same =>
      shown_indistinct same 201 userId todoId

theorem createMany_indistinct (moment : Moment) (userId : Int) (request : Http.Request) :
    Indistinct (createMany Pool.runner moment userId request p)
      (createMany Pool.runner moment userId request q) :=
  accepting_indistinct same fun _ =>
    after_indistinct (TodoServer.Todos.insertMany_indistinct same _ _ _)
      fun _ _ _ same => ⟨rfl, same⟩

theorem get_indistinct (userId : Int) (part : String) :
    Indistinct (get Pool.runner userId part p) (get Pool.runner userId part q) :=
  accepting_indistinct same fun todoId => shown_indistinct same 200 userId todoId

theorem change_indistinct (moment : Moment) (userId : Int) (part : String)
    (request : Http.Request) :
    Indistinct (change Pool.runner moment userId part request p)
      (change Pool.runner moment userId part request q) := by
  refine accepting_indistinct same fun todoId => accepting_indistinct same fun given => ?_
  refine after_indistinct (TodoServer.Todos.update_indistinct same _ _ _ _ _)
    fun count _ _ same => ?_
  cases count with
  | zero => exact ⟨rfl, same⟩
  | succ => exact shown_indistinct same 200 userId todoId

theorem remove_indistinct (userId : Int) (part : String) :
    Indistinct (remove Pool.runner userId part p) (remove Pool.runner userId part q) := by
  refine accepting_indistinct same fun todoId => ?_
  refine after_indistinct (TodoServer.Todos.delete_indistinct same _ _) fun count _ _ same => ?_
  cases count <;> exact ⟨rfl, same⟩

namespace Completing

/-- One more statement of a request that flips a flag leads to the same. -/
theorem step_indistinct (now : Instant) (userId todoId : Int) (c : Completing) :
    Indistinct (c.step Pool.runner now userId todoId p)
      (c.step Pool.runner now userId todoId q) := by
  cases c with
  | toggling t =>
    obtain ⟨next, state⟩ := TodoServer.Todos.Toggle.step_indistinct same now userId todoId t
    refine ⟨?_, state⟩
    simp only [step, next]
  | loading =>
    obtain ⟨answer, state⟩ := shown_indistinct same 200 userId todoId
    refine ⟨?_, state⟩
    simp only [step, answer]
  | answered answer => exact ⟨rfl, same⟩

theorem run_indistinct (now : Instant) (userId todoId : Int) (n : Nat) (c : Completing) :
    Indistinct (run Pool.runner now userId todoId n c p)
      (run Pool.runner now userId todoId n c q) := by
  induction n generalizing c p q with
  | zero => exact ⟨rfl, same⟩
  | succ n ih =>
    obtain ⟨next, state⟩ := step_indistinct same now userId todoId c
    rw [run, run]
    simp only [next]
    exact ih state _

end Completing

theorem complete_indistinct (moment : Moment) (userId : Int) (part : String) :
    Indistinct (complete Pool.runner moment userId part p)
      (complete Pool.runner moment userId part q) :=
  accepting_indistinct same fun todoId =>
    (Completing.run_indistinct same moment.now userId todoId 3 (.toggling .reading)).map
      (Completing.answer todoId)

end Todos

end Api

/-- Whether a request asks for a token. -/
def Http.Request.IsLogin (request : Request) : Prop :=
  request.endpoint? = some (.everybody .login)

namespace Api.Site

/-- The answers to requests one after the other, each with what it takes from its surroundings, and
the state after them. -/
def answers {σ : Type} (site : Site σ) : List (Moment × Http.Request) → σ → List Answer × σ
  | [], state => ([], state)
  | (moment, request) :: rest, state =>
    let (answer, state) := site.answer moment request state
    let (others, state) := answers site rest state
    (answer :: others, state)

/-- What a login shows of the passwords that are stored in one of two pools: no more than whether it
is accepted, and not even whether there is an account with the email when it is not. -/
structure LoginConceals (site : Site Pool) (moment : Moment) (login : Http.Request) (p q : Pool) :
    Prop where
  state : (site.answer moment login p).2 = p
  decided : (∀ credentials, credentialsForm.ofRequest openLimit login = .ok credentials →
      (p.database.Accepts credentials.email credentials.password ↔
        q.database.Accepts credentials.email credentials.password)) →
    (site.answer moment login p).1 = (site.answer moment login q).1
  refused : ∀ credentials, credentialsForm.ofRequest openLimit login = .ok credentials →
    p.isOpen = true → p.database.users.isSome = true →
    ¬p.database.Accepts credentials.email credentials.password →
    site.answer moment login p =
      site.unauthorized login "INVALID_CREDENTIALS" "Invalid email or password" p

section

variable {manager : Auth.Manager} {origins : Http.Origins} {moment : Moment}
  {request : Http.Request} {p q : Pool} (same : p.SameButHashes q)

theorem fst_respond_congr {x y : Reply Pool} (same : x.1 = y.1) :
    (respond x).1 = (respond y).1 := by
  rw [respond, respond, same]
  split <;> rfl

include same

/-! ## Requests other than logins -/

theorem answerOpen_indistinct {endpoint : OpenEndpoint} (other : endpoint ≠ .login) :
    Indistinct ((onPool manager origins).answerOpen moment endpoint request p)
      ((onPool manager origins).answerOpen moment endpoint request q) := by
  cases endpoint with
  | health | description | docs => exact ⟨rfl, same⟩
  | login => exact absurd rfl other
  | register => exact Accounts.register_indistinct same moment request

theorem answerOwn_indistinct (endpoint : OwnEndpoint) (userId : Int) :
    Indistinct ((onPool manager origins).answerOwn moment endpoint userId request p)
      ((onPool manager origins).answerOwn moment endpoint userId request q) := by
  cases endpoint with
  | profile => exact Accounts.shown_indistinct same 200 userId
  | changeProfile => exact Accounts.change_indistinct same moment userId request
  | removeAccount => exact Accounts.remove_indistinct same userId
  | listTodos => exact Todos.list_indistinct same userId request
  | createTodo => exact Todos.create_indistinct same moment userId request
  | createTodos => exact Todos.createMany_indistinct same moment userId request
  | todo part => exact Todos.get_indistinct same userId part
  | changeTodo part => exact Todos.change_indistinct same moment userId part request
  | removeTodo part => exact Todos.remove_indistinct same userId part
  | completeTodo part => exact Todos.complete_indistinct same moment userId part

/-- A request other than a login is answered the same. -/
theorem answer_indistinct (other : ¬request.IsLogin) :
    Indistinct ((onPool manager origins).answer moment request p)
      ((onPool manager origins).answer moment request q) := by
  have told {x y : Reply Pool} (both : Indistinct x y) :
      @Indistinct Answer (⟨(onPool manager origins).finished request (respond x).1, none⟩, x.2)
        (⟨(onPool manager origins).finished request (respond y).1, none⟩, y.2) :=
    ⟨by rw [fst_respond_congr both.answer], both.state⟩
  cases routed : request.endpoint? with
  | none =>
    obtain ⟨answer, -, stays⟩ := answer_unrouted routed
    rw [stays, stays]
    exact ⟨rfl, same⟩
  | some endpoint =>
    cases endpoint with
    | everybody endpoint =>
      have ne_login : endpoint ≠ .login := by
        rintro rfl
        exact other routed
      rw [answer_everybody routed, answer_everybody routed]
      exact told (answerOpen_indistinct same ne_login)
    | owner endpoint =>
      rw [answer_owner routed, answer_owner routed]
      -- The token alone says who the caller is, so that both admit the same one.
      split
      · exact ⟨rfl, same⟩
      · exact told (answerOwn_indistinct same endpoint _)

/-- Requests other than logins are answered the same one after the other. -/
theorem answers_indistinct {requests : List (Moment × Http.Request)}
    (others : ∀ x ∈ requests, ¬x.2.IsLogin) :
    Indistinct ((onPool manager origins).answers requests p)
      ((onPool manager origins).answers requests q) := by
  induction requests generalizing p q with
  | nil => exact ⟨rfl, same⟩
  | cons first rest ih =>
    obtain ⟨moment, request⟩ := first
    obtain ⟨answer, state⟩ := @answer_indistinct manager origins moment request _ _ same
      (others _ List.mem_cons_self)
    obtain ⟨later, final⟩ := ih state fun x mem => others x (List.mem_cons_of_mem _ mem)
    refine ⟨?_, final⟩
    simp only [answers, answer, later]

/-! ## Logins -/

theorem login_agrees
    (decided : ∀ credentials, credentialsForm.ofRequest openLimit request = .ok credentials →
      (p.database.Accepts credentials.email credentials.password ↔
        q.database.Accepts credentials.email credentials.password)) :
    (Accounts.login Pool.runner manager moment request p).1 =
      (Accounts.login Pool.runner manager moment request q).1 := by
  rw [Accounts.login, Accounts.login]
  cases read : credentialsForm.ofRequest openLimit request with
  | error rejection => rfl
  | ok credentials =>
    have answer := Users.authenticate_agrees same (decided credentials read)
    simp only [accepting, after, answer]
    split
    · split <;> rfl
    · rfl

theorem login_of_not_accepts {credentials : Credentials}
    (read : credentialsForm.ofRequest openLimit request = .ok credentials)
    (isOpen : p.isOpen = true)
    (present : p.database.users.isSome = true)
    (refused : ¬p.database.Accepts credentials.email credentials.password) :
    (Accounts.login Pool.runner manager moment request p).1 =
      .error AuthFailure.credentials.toApiError := by
  have readable := same.database.readable
  have answer := Users.authenticate_of_not_accepts isOpen present readable refused
  rw [Accounts.login, read]
  simp only [accepting, after, answer]

theorem loginConceals (login : request.IsLogin) :
    (onPool manager origins).LoginConceals moment request p q := by
  have stays : (Accounts.login Pool.runner manager moment request p).2 = p :=
    Accounts.state_login manager moment request p
  constructor
  case state =>
    rw [answer_everybody login]
    exact stays
  case decided =>
    intro decided
    rw [answer_everybody login, answer_everybody login]
    have told := @login_agrees manager moment request _ _ same decided
    exact congrArg (fun response => (⟨finished _ request response, none⟩ : Answer))
      (fst_respond_congr told)
  case refused =>
    intro credentials read isOpen present refused
    have told := @login_of_not_accepts manager moment request _ _ same credentials read isOpen
      present refused
    have response : (respond (Accounts.login Pool.runner manager moment request p)).1 =
        (ApiError.unauthorized "INVALID_CREDENTIALS" "Invalid email or password").response := by
      rw [respond, told]
      rfl
    rw [answer_everybody login, unauthorized]
    exact congrArg₂ (fun response (state : Pool) =>
      ((⟨finished _ request response, none⟩ : Answer), state)) response stays

end

end Api.Site

open Api

/-- **Stored passwords do not flow into responses.** On two pools that differ in nothing but stored
passwords, requests other than logins are answered the same, one after the other, and leave two
pools that again differ in nothing but stored passwords; and a login tells nothing but whether the
password that is given is accepted. -/
theorem responses_conceal_passwords (manager : Auth.Manager) (origins : Http.Origins) {p q : Pool}
    (same : p.SameButHashes q) :
    (∀ requests : List (Moment × Http.Request), (∀ x ∈ requests, ¬x.2.IsLogin) →
      Indistinct ((Site.onPool manager origins).answers requests p)
        ((Site.onPool manager origins).answers requests q)) ∧
    ∀ (moment : Moment) (login : Http.Request), login.IsLogin →
      (Site.onPool manager origins).LoginConceals moment login p q :=
  ⟨fun _ others => Site.answers_indistinct same others,
    fun _ _ asked => Site.loginConceals same asked⟩

/-! ## Other passwords for the users of a store -/

/-- A store with other passwords for all of its users. -/
def Store.rehashed (s : Store) (hash : User → String) : Store :=
  { s with users := s.users.map fun u => { u with passwordHash := hash u } }

/-- Other passwords make databases that differ in nothing but stored passwords. -/
theorem Store.sameButHashes_rehashed {s : Store} (rest : Database) {hash : User → String}
    (readable : ∀ u ∈ s.users, Auth.IsHash u.passwordHash) (hashes : ∀ u, Auth.IsHash (hash u)) :
    (s.fill rest).SameButHashes ((s.rehashed hash).fill rest) := by
  have rows : List.Forall₂ Row.SameButHash (s.users.map User.row)
      ((s.rehashed hash).users.map User.row) := by
    rw [rehashed, List.map_map]
    refine List.forall₂_map_left_iff.2 (List.forall₂_map_right_iff.2 (List.forall₂_same.2 ?_))
    exact fun u held => .mk u.id _ _ _ (readable u held) (hashes u)
  exact ⟨.some ⟨rows, rfl⟩, rfl, rfl, rfl, rfl⟩

theorem Storage.Pool.sameButHashes_of {a b : Database} (same : a.SameButHashes b) :
    (of a).SameButHashes (of b) :=
  ⟨rfl, same⟩

/-- The password of the first user with an email is the one that is accepted. -/
theorem Store.accepts_fill (s : Store) (rest : Database) (email password : String) :
    (s.fill rest).Accepts email password ↔ ∃ u, s.users.find? (·.email = email) = some u ∧
      Auth.verifyPassword? password u.passwordHash = some true := by
  have sought : (fun row : Row => decide (row.cell 2 = .text email)) ∘ User.row =
      fun u => decide (u.email = email) := by
    funext u
    have cell : u.row.cell 2 = .text u.email := rfl
    simp only [Function.comp_apply, cell, Cell.text.injEq]
  rw [Database.Accepts, Database.account?, rowsOf_users, List.find?_map, sought]
  constructor
  · rintro ⟨row, hash, found, cell, right⟩
    obtain ⟨u, held, rfl⟩ := Option.map_eq_some_iff.1 found
    cases cell
    exact ⟨u, held, right⟩
  · rintro ⟨u, found, right⟩
    exact ⟨u.row, u.passwordHash, by rw [found, Option.map_some], rfl, right⟩

/-- The sample database in which the same passwords are stored with another salt. -/
def saltedDatabase : Database :=
  ((Store.sample "Bread").rehashed fun _ => Auth.hashPassword "secret" [1]).fill
    (Migration.surroundings 0 Crypto.sha256Hex)

/-- A request for a token with an email that is not there. -/
def Http.Request.forStranger : Request :=
  ⟨"POST", ⟨"", "/api/v1/auth/login", none⟩, [⟨"content-type", "application/json"⟩],
    Text.utf8 "\x7b\"email\":\"eve@example.org\",\"password\":\"secret\"\x7d"⟩

theorem Http.Request.endpoint?_forStranger : forStranger.endpoint? = some (.everybody .login) := by
  have named : Resource.ofPath? "/api/v1/auth/login" = some .login := by decide
  rw [endpoint?, forStranger, named, Option.bind_some]
  rfl

theorem Http.Request.read_forStranger :
    credentialsForm.ofRequest openLimit forStranger = .ok ⟨"eve@example.org", "secret"⟩ := by
  decide +kernel

/-- The todos of the first user, who then removes one of them, and two logins: one with the same
password under another salt, and one with an email that is not there. -/
theorem responses_conceal_passwords_sample :
    (Pool.of (sampleDatabase "Bread")).SameButHashes (.of saltedDatabase) ∧
    Indistinct
      (Site.sample.answers [(.sample, .forTodos [⟨"authorization", "Bearer " ++ Site.sampleToken⟩]),
        (.sample, .forRemoval)] (.of (sampleDatabase "Bread")))
      (Site.sample.answers [(.sample, .forTodos [⟨"authorization", "Bearer " ++ Site.sampleToken⟩]),
        (.sample, .forRemoval)] (.of saltedDatabase)) ∧
    (Site.sample.answer .sample .forEntry (.of (sampleDatabase "Bread"))).1 =
      (Site.sample.answer .sample .forEntry (.of saltedDatabase)).1 ∧
    Site.sample.answer .sample .forStranger (.of (sampleDatabase "Bread")) =
      Site.sample.unauthorized .forStranger "INVALID_CREDENTIALS" "Invalid email or password"
        (.of (sampleDatabase "Bread")) := by
  have readable : ∀ u ∈ (Store.sample "Bread").users, Auth.IsHash u.passwordHash := by
    intro u held
    rcases List.mem_cons.1 held with rfl | held
    · exact Auth.isHash_hashPassword "secret" []
    · rw [List.mem_singleton.1 held]
      exact Auth.isHash_hashPassword "secret" []
  have same : (Pool.of (sampleDatabase "Bread")).SameButHashes (.of saltedDatabase) := by
    rw [sampleDatabase, saltedDatabase]
    exact Pool.sameButHashes_of
      (Store.sameButHashes_rehashed _ readable fun _ => Auth.isHash_hashPassword "secret" [1])
  have accepted : (sampleDatabase "Bread").Accepts "ann@example.org" "secret" := by
    rw [sampleDatabase, Store.accepts_fill]
    exact ⟨_, List.find?_cons_of_pos (decide_eq_true rfl),
      Auth.verifyPassword?_hashPassword "secret" []⟩
  have salted : saltedDatabase.Accepts "ann@example.org" "secret" := by
    rw [saltedDatabase, Store.accepts_fill]
    exact ⟨_, List.find?_cons_of_pos (decide_eq_true rfl),
      Auth.verifyPassword?_hashPassword "secret" [1]⟩
  have stranger : ¬(sampleDatabase "Bread").Accepts "eve@example.org" "secret" := by
    rw [sampleDatabase, Store.accepts_fill]
    rintro ⟨u, found, -⟩
    have absent : ∀ u ∈ (Store.sample "Bread").users, u.email ≠ "eve@example.org" := by
      intro u held
      rcases List.mem_cons.1 held with rfl | held
      · decide
      · rw [List.mem_singleton.1 held]
        decide
    have mailed := List.find?_some found
    exact absent u (List.mem_of_find?_eq_some found) (of_decide_eq_true mailed)
  obtain ⟨others, logins⟩ :=
    responses_conceal_passwords Site.sample.manager Site.sample.origins same
  refine ⟨same, others _ ?_, (logins .sample _ Http.Request.endpoint?_forEntry).decided ?_,
    (logins .sample _ Http.Request.endpoint?_forStranger).refused _
    Http.Request.read_forStranger rfl rfl stranger⟩
  · intro x mem login
    rcases List.mem_cons.1 mem with rfl | mem
    · cases (Http.Request.endpoint?_forTodos _).symm.trans login
    · rw [List.mem_singleton.1 mem] at login
      cases Http.Request.endpoint?_forRemoval.symm.trans login
  · intro credentials read
    cases Http.Request.read_forEntry.symm.trans read
    exact iff_of_true accepted salted

end TodoServer
