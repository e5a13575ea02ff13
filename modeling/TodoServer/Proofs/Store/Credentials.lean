import TodoServer.Proofs.Auth.WrittenForm
import TodoServer.Proofs.Store.Isolation
import TodoServer.Proofs.Store.Soundness

/-!
# Credentials along a run

The password of an account is the one that was last given for it by a creation or a change that
succeeded. What is stored of each account is a hash of that password, whatever else callers do, so
that credentials belong to the account with their email exactly when their password derives the same
bytes.
-/

namespace TodoServer

open Storage

/-! ## Passwords that were given -/

/-- The password that an operation gives for an account. A creation or a change that is refused
gives none, and neither does a change that finds no account. -/
def Operation.passwordGiven? (operation : Operation) (answer : Except ServiceError Outcome)
    (userId : Int) : Option String :=
  match operation, answer with
  | insertUser _ _ password, .ok (.id id) => if id = userId then some password else none
  | updateUser id _ _ (some password), .ok (.affected (_ + 1)) =>
    if id = userId then some password else none
  | _, _ => none

/-- The password that a turn gives for an account. -/
def Turn.passwordGiven? {σ : Type} (turn : Turn Task σ) (userId : Int) : Option String :=
  match turn.before with
  | .single operation _ none => turn.after.answer?.bind (operation.passwordGiven? · userId)
  | _ => none

/-- The password that was given last for an account. -/
def Run.lastPassword? {σ : Type} (run : Run Task σ) (userId : Int) : Option String :=
  run.turns.reverse.findSome? (·.passwordGiven? userId)

namespace Store

variable {s s' : Store} {given : Int → Option String}

/-- Each account has a hash of the password that was just given for it, or the hash that it had when
none was given. -/
def Rehashes (given : Int → Option String) (s s' : Store) : Prop :=
  ∀ u ∈ s'.users,
    (∃ password salt, given u.id = some password ∧
      u.passwordHash = Auth.hashPassword password salt) ∨
    (given u.id = none ∧ ∃ old ∈ s.users, old.id = u.id ∧ old.passwordHash = u.passwordHash)

theorem Rehashes.of_subset (none : ∀ userId, given userId = none) (kept : s'.users ⊆ s.users) :
    Rehashes given s s' :=
  fun u mem => .inr ⟨none u.id, u, kept mem, rfl, rfl⟩

end Store

namespace Operation

variable {s : Store} (moment : Moment)

theorem passwordGiven?_error (operation : Operation) (e : ServiceError) (userId : Int) :
    operation.passwordGiven? (.error e) userId = none := by
  rw [passwordGiven?] <;> simp

theorem effect_updateUser {name email password : Option String} (userId : Int)
    (given : ¬(name = none ∧ email = none ∧ password = none)) (s : Store) :
    effect moment (updateUser userId name email password) s =
      shaped .affected (s.settle (s.changeUser userId (Users.changed moment.now.text name email
        (password.map (Auth.hashPassword · moment.salt))))) := by
  cases name <;> cases email <;> cases password <;>
    first | rfl | exact absurd ⟨rfl, rfl, rfl⟩ given

theorem rehashes_insertUser (valid : s.Valid) (name email password : String) :
    Store.Rehashes
      ((insertUser name email password).passwordGiven?
        ((insertUser name email password).effect moment s).1)
      s ((insertUser name email password).effect moment s).2 := by
  rw [effect]
  cases added : s.addUser name email (Auth.hashPassword password moment.salt) moment.now.text with
  | error e => exact .of_subset (passwordGiven?_error _ _) (List.Subset.refl _)
  | ok x =>
    obtain ⟨id, s'⟩ := x
    obtain ⟨rfl, -, rfl⟩ := Store.addUser_eq_ok added
    intro u mem
    rcases List.mem_append.1 mem with old | new
    · have other : s.lastUser + 1 ≠ u.id := by
        have bound := valid.userIds.le_last u.id (List.mem_map_of_mem old)
        omega
      exact .inr ⟨if_neg other, u, old, rfl, rfl⟩
    · obtain rfl := List.mem_singleton.1 new
      exact .inl ⟨password, moment.salt, if_pos rfl, rfl⟩

theorem rehashes_updateUser (valid : s.Valid) (userId : Int) (name email password : Option String) :
    Store.Rehashes
      ((updateUser userId name email password).passwordGiven?
        ((updateUser userId name email password).effect moment s).1)
      s ((updateUser userId name email password).effect moment s).2 := by
  by_cases absent : name = none ∧ email = none ∧ password = none
  · obtain ⟨rfl, rfl, rfl⟩ := absent
    exact .of_subset (passwordGiven?_error _ _) (List.Subset.refl _)
  · rw [effect_updateUser moment userId absent]
    cases changed : s.changeUser userId (Users.changed moment.now.text name email
        (password.map (Auth.hashPassword · moment.salt))) with
    | error e => exact .of_subset (passwordGiven?_error _ _) (List.Subset.refl _)
    | ok x =>
      obtain ⟨count, s'⟩ := x
      obtain ⟨-, rfl, rfl⟩ | ⟨old, found, rfl, -, rfl⟩ := Store.changeUser_eq_ok changed
      · refine .of_subset (fun id => ?_) (List.Subset.refl _)
        cases password <;> rfl
      · obtain ⟨held, rfl⟩ := Store.mem_of_user? found
        intro u mem
        obtain ⟨x, stored, rfl⟩ := List.mem_map.1 mem
        by_cases same : x.id = old.id
        · rw [if_pos same]
          cases password with
          | none => exact .inr ⟨rfl, old, held, rfl, rfl⟩
          | some password => exact .inl ⟨password, moment.salt, if_pos rfl, rfl⟩
        · rw [if_neg same]
          refine .inr ⟨?_, x, stored, rfl, rfl⟩
          cases password with
          | none => rfl
          | some password => exact if_neg fun other => same other.symm

/-- An operation leaves each account with a hash of the password that it gives for the account, or
with the hash that the account had. -/
theorem rehashes (valid : s.Valid) (operation : Operation) :
    Store.Rehashes (operation.passwordGiven? (operation.effect moment s).1)
      s (operation.effect moment s).2 := by
  -- Operations on todos leave the accounts alone.
  have todos {userId : Int} (owner : operation.owner? = some userId)
      (none : ∀ answer userId, operation.passwordGiven? answer userId = none) :
      Store.Rehashes (operation.passwordGiven? (operation.effect moment s).1)
        s (operation.effect moment s).2 := by
    refine .of_subset (fun _ => none _ _) ?_
    rw [(effect_keepsOthers owner valid moment).users]
    exact List.Subset.refl _
  cases operation with
  | insertUser name email password => exact rehashes_insertUser moment valid name email password
  | updateUser userId name email password =>
    exact rehashes_updateUser moment valid userId name email password
  | getUser | authenticate => exact .of_subset (fun _ => rfl) (List.Subset.refl _)
  | findUser name email =>
    refine .of_subset (fun _ => rfl) ?_
    cases name <;> cases email <;> exact List.Subset.refl _
  | deleteUser => exact .of_subset (fun _ => rfl) List.filter_sublist.subset
  | listTodos | getTodo | insertTodo | insertTodos | updateTodo | isCompleted | toggle
    | deleteTodo =>
    exact todos rfl fun _ _ => rfl

end Operation

/-- Credentials belong to the account with their email if it accepts their password. -/
theorem Users.credited_iff {s : Store} (valid : s.Valid) (checkable : s.IsCheckable)
    (email password : String) :
    ∃ found, credited s email password = .ok found ∧ ∀ userId, found = some userId ↔
      ∃ u ∈ s.users, u.id = userId ∧ u.email = email ∧
        Auth.verifyPassword? password u.passwordHash = some true := by
  rw [credited]
  cases mailed : s.users.find? (·.email = email) with
  | none =>
    refine ⟨none, rfl, fun userId => ⟨fun same => (Option.some_ne_none _ same.symm).elim, ?_⟩⟩
    rintro ⟨u, held, -, same, -⟩
    exact absurd same (by simpa using List.find?_eq_none.1 mailed u held)
  | some u =>
    have held := List.mem_of_find?_eq_some mailed
    have own : u.email = email := by simpa using List.find?_some mailed
    obtain ⟨accepted, verified⟩ := Option.isSome_iff_exists.1 (checkable u held password)
    refine ⟨if accepted then some u.id else none, ?_, fun userId => ⟨fun found => ?_, ?_⟩⟩
    · simp only [opened, verified]
      cases accepted <;> rfl
    · cases accepted with
      | false => exact absurd found (Option.some_ne_none userId).symm
      | true => exact ⟨u, held, Option.some_inj.1 found, own, verified⟩
    · rintro ⟨v, stored, rfl, same, opens⟩
      obtain rfl := valid.eq_of_email stored held (same.trans own.symm)
      rw [verified, Option.some_inj] at opens
      rw [opens, if_pos rfl]

/-! ## Runs -/

/-- A turn leaves each account with a hash of the password that it gives for the account, or with
the hash that the account had. -/
theorem Task.rehashes {s : Store} (valid : s.Valid) (moment : Moment) (caller : Nat) (task : Task) :
    Store.Rehashes
      (Turn.passwordGiven? ⟨caller, task, (task.effect moment s).1, s, (task.effect moment s).2⟩)
      s (task.effect moment s).2 := by
  cases task with
  | single operation plain answer =>
    cases answer with
    | none => exact Operation.rehashes moment valid operation
    | some answer => exact .of_subset (fun _ => rfl) (List.Subset.refl _)
  | toggle userId todoId progress =>
    refine .of_subset (fun _ => rfl) ?_
    cases progress with
    | reading | done => exact List.Subset.refl _
    | writing seen =>
      simp only [effect, Todos.Toggle.effect]
      split
      · have kept : s.KeepsOthers userId (s.after (s.changeTodo userId todoId (·.completed = seen)
            (Todo.flipped seen moment.now.text))) :=
          .after fun _ changed => .changeTodo valid (fun _ => by rfl) changed
        rw [kept.users]
        exact List.Subset.refl _
      · exact List.Subset.refl _

namespace Run

/-- What is stored of each account is a hash of the password that was given last for it. -/
def StoresLast (run : Run Task Store) : Prop :=
  ∀ u ∈ run.state.users, ∃ password salt, run.lastPassword? u.id = some password ∧
    u.passwordHash = Auth.hashPassword password salt

theorem lastPassword?_append {σ : Type} (tasks : List Task) (state : σ) (turns : List (Turn Task σ))
    (turn : Turn Task σ) (userId : Int) :
    lastPassword? ⟨tasks, state, turns ++ [turn]⟩ userId =
      (turn.passwordGiven? userId).or (lastPassword? ⟨tasks, state, turns⟩ userId) := by
  rw [lastPassword?, List.reverse_append, List.reverse_singleton, List.singleton_append,
    List.findSome?_cons]
  cases turn.passwordGiven? userId <;> rfl

theorem lastPassword?_map {σ ρ : Type} (f : σ → ρ) (run : Run Task σ) (userId : Int) :
    (run.map f).lastPassword? userId = run.lastPassword? userId := by
  rw [lastPassword?, lastPassword?, map, ← List.map_reverse, List.findSome?_map]
  rfl

/-- A run on the empty store stores the passwords that were given last. -/
theorem storesLast_follow (tasks : List Task) (schedule : List (Nat × Moment)) :
    ((start tasks Store.empty).follow Task.effect schedule).StoresLast := by
  refine (follow_induction (motive := fun run => run.state.Valid ∧ run.StoresLast) schedule
    ⟨Store.valid_empty, fun u mem => by cases mem⟩ ?_).2
  rintro run caller task moment - ⟨valid, last⟩
  refine ⟨Task.effect_valid valid moment task, fun u mem => ?_⟩
  rw [lastPassword?_append]
  rcases Task.rehashes valid moment caller task u mem with
    ⟨password, salt, given, hash⟩ | ⟨none, old, held, same, kept⟩
  · exact ⟨password, salt, by rw [given]; rfl, hash⟩
  · obtain ⟨password, salt, given, hash⟩ := last old held
    rw [none, Option.none_or, ← same, ← kept]
    exact ⟨password, salt, given, hash⟩

/-- An account has an email and a password that derives the bytes which the password that was given
last for it derives, with the salt and the iterations that are stored of the account. -/
def Opens (run : Run Task Pool) (email password : String) (u : User) : Prop :=
  u.email = email ∧ ∃ hash last,
    Auth.PasswordHash.parse? u.passwordHash = some hash ∧ run.lastPassword? u.id = some last ∧
      (Crypto.Pbkdf2.derived (Text.utf8 password) hash.salt hash.iterations).bytes =
        (Crypto.Pbkdf2.derived (Text.utf8 last) hash.salt hash.iterations).bytes

/-- What credentials come to after a run. -/
structure TracksPasswords (run : Run Task Pool) : Prop where
  /-- Credentials belong to the account that they open, and asking changes nothing. -/
  authenticates : ∀ email password, ∃ found,
    Users.authenticate Pool.runner email password run.state = (.ok found, run.state) ∧
      ∀ userId, found = some userId ↔
        ∃ u : User, u.row ∈ run.state.database.rowsOf .users ∧ u.id = userId ∧
          run.Opens email password u
  /-- The password that was given last for an account opens it with its email. -/
  last_opens : ∀ u : User, u.row ∈ run.state.database.rowsOf .users →
    ∃ last, run.lastPassword? u.id = some last ∧
      Users.authenticate Pool.runner u.email last run.state = (.ok (some u.id), run.state)

variable {run : Run Task Store} {u : User}

/-- With the hash of the password that was given last, an account is opened by the passwords that
are accepted. -/
theorem opens_map_iff (rest : Database) {last : String} {salt : List UInt8}
    (given : run.lastPassword? u.id = some last)
    (hash : u.passwordHash = Auth.hashPassword last salt) (email password : String) :
    (run.map (·.pool rest)).Opens email password u ↔
      u.email = email ∧ Auth.verifyPassword? password u.passwordHash = some true := by
  have positive : Auth.PasswordHash.standardIterations ≠ 0 := by decide
  have bounded : Auth.PasswordHash.standardIterations < UInt32.size := by decide
  have read : Auth.PasswordHash.parse? (Auth.hashPassword last salt) =
      some (Auth.PasswordHash.fresh last salt) :=
    Auth.PasswordHash.parse?_text positive bounded (Crypto.Digest.length_bytes _)
  have verified : Auth.verifyPassword? password (Auth.hashPassword last salt) = _ :=
    Auth.verifyPassword?_of last password salt positive bounded
  rw [Opens, hash, read, lastPassword?_map, given, verified, Option.some_inj, decide_eq_true_iff]
  refine and_congr_right fun _ => ⟨?_, fun derives => ⟨_, _, rfl, rfl, derives⟩⟩
  rintro ⟨_, _, same, kept, derives⟩
  cases same
  cases kept
  exact derives

theorem StoresLast.tracksPasswords (stores : run.StoresLast) (valid : run.state.Valid)
    (rest : Database) : (run.map (·.pool rest)).TracksPasswords := by
  have opens {u : User} (held : u ∈ run.state.users) (email password : String) :
      (run.map (·.pool rest)).Opens email password u ↔
        u.email = email ∧ Auth.verifyPassword? password u.passwordHash = some true := by
    obtain ⟨last, salt, given, hash⟩ := stores u held
    exact opens_map_iff rest given hash email password
  have checkable : run.state.IsCheckable := by
    intro u held password
    obtain ⟨last, salt, -, hash⟩ := stores u held
    rw [hash]
    exact Auth.isSome_verifyPassword? last password salt
  have authenticates (email password : String) : ∃ found,
      Users.authenticate Pool.runner email password (run.state.pool rest) =
          (.ok found, run.state.pool rest) ∧
        ∀ userId, found = some userId ↔
          ∃ u : User, u.row ∈ (run.state.fill rest).rowsOf .users ∧ u.id = userId ∧
            (run.map (·.pool rest)).Opens email password u := by
    have answer : Users.authenticate Pool.runner email password (run.state.pool rest) = _ :=
      Users.authenticate_pool email password
    obtain ⟨found, credited, exactly⟩ := Users.credited_iff valid checkable email password
    rw [credited] at answer
    refine ⟨found, answer, fun userId => (exactly userId).trans (exists_congr fun u => ?_)⟩
    rw [Store.mem_users_iff]
    exact and_congr_right fun held => and_congr_right fun _ => (opens held email password).symm
  refine ⟨authenticates, fun u stored => ?_⟩
  have held := (Store.mem_users_iff rest).1 stored
  obtain ⟨last, salt, given, hash⟩ := stores u held
  have accepted : Auth.verifyPassword? last u.passwordHash = some true := by
    rw [hash]
    exact Auth.verifyPassword?_hashPassword last salt
  obtain ⟨found, answer, exactly⟩ := authenticates u.email last
  refine ⟨last, (lastPassword?_map _ run u.id).trans given, ?_⟩
  rw [← (exactly u.id).2 ⟨u, stored, rfl, (opens held u.email last).2 ⟨rfl, accepted⟩⟩]
  exact answer

end Run

/-- **Authentication tracks the password that was given last.** After every run from a new database,
credentials belong to the account with their email exactly when their password derives, under the
salt and the iterations that are stored, the same bytes as the password that was given last for that
account. -/
theorem authentication_tracks_last_password (now : Int) (operations : List Operation)
    (schedule : List (Nat × Moment)) :
    ((Run.start (operations.map Task.ofOperation) (Pool.fresh now)).follow
      (Task.step Pool.runner) schedule).TracksPasswords := by
  rw [Run.follow_fresh]
  exact (Run.storesLast_follow _ schedule).tracksPasswords
    (Run.follow_valid Store.valid_empty schedule) _

end TodoServer
