import TodoServer.Proofs.Store.Batch

/-!
# Writes to accounts

A new account goes behind the others if its name and its email pass their checks and nobody has the
email, as long as an id is left. A change of an account touches its row alone. What is refused
changes nothing, and todos are never touched.
-/

namespace TodoServer

open Storage

namespace Storage.Database

/-- The database with one more account behind the others. -/
def withUser (db : Database) (u : User) : Database :=
  db.setTable .users ⟨db.rowsOf .users ++ [u.row], u.id⟩

/-- The database with an account in the place of the one of the same id. -/
def replaceUser (db : Database) (u : User) : Database :=
  db.setTable .users
    ⟨(db.rowsOf .users).map fun row => if row.key = u.id then u.row else row,
      db.lastKeyOf .users⟩

end Storage.Database

/-- Whether a name passes the check of its column. -/
def User.IsNamed (name : String) : Prop :=
  1 ≤ (Text.untilNul name).length ∧ (Text.untilNul name).length ≤ 100

/-- Whether an email passes the check of its column. -/
def User.IsMailed (email : String) : Prop :=
  3 ≤ (Text.untilNul email).length

namespace Store

variable {s : Store} (rest : Database) {userId : Int} {u : User}

/-! ## One account of a store -/

/-- The store with an account in the place of the one of the same id. -/
def replaceUser (s : Store) (u : User) : Store :=
  { s with users := s.users.map fun x => if x.id = u.id then u else x }

theorem fill_replaceUser (u : User) : (s.replaceUser u).fill rest = (s.fill rest).replaceUser u :=
  fill_user_replaced rest u u

theorem fill_withUser (u : User) :
    fill { s with users := s.users ++ [u], lastUser := u.id } rest = (s.fill rest).withUser u :=
  fill_user_added rest u

/-- An account that fails a constraint is a conflict. -/
theorem checkUser_eq_conflict {others : List User} (faulty : checkUser others u ≠ .ok ()) :
    ∃ detail, checkUser others u = .error (.conflict detail) := by
  rw [checkUser] at faulty ⊢
  cases fault : u.fault? with
  | some check => exact ⟨_, rfl⟩
  | none =>
    simp only [fault] at faulty ⊢
    by_cases used : others.any (·.email = u.email) = true
    · exact ⟨_, if_pos used⟩
    · exact absurd (if_neg used) faulty

theorem addUser_of_full {name email hash time : String} (full : ¬s.lastUser < Database.keyLimit) :
    s.addUser name email hash time = .error idsExhausted := by
  have next : Database.keyLimit < s.lastUser + 1 := by omega
  simp only [addUser, next, if_true, bind, Except.bind]

theorem addUser_of_refused {name email hash time : String} {e : StorageError}
    (room : s.lastUser < Database.keyLimit)
    (refused : checkUser s.users ⟨s.lastUser + 1, name, email, hash, time, time⟩ = .error e) :
    s.addUser name email hash time = .error e := by
  have next : ¬Database.keyLimit < s.lastUser + 1 := by omega
  simp only [addUser, next, if_false, refused, bind, Except.bind]

variable {change : User → User}

theorem changeUser_of_none (missing : s.user? userId = none) :
    s.changeUser userId change = .ok (0, s) := by
  rw [changeUser, missing]

theorem changeUser_of_checked (found : s.user? userId = some u) (same : (change u).id = u.id)
    (checked : checkUser (s.users.filter (·.id ≠ userId)) (change u) = .ok ()) :
    s.changeUser userId change = .ok (1, s.replaceUser (change u)) := by
  obtain ⟨-, rfl⟩ := mem_of_user? found
  simp only [changeUser, found, checked, bind, Except.bind, replaceUser, same]

theorem changeUser_of_refused {e : StorageError} (found : s.user? userId = some u)
    (refused : checkUser (s.users.filter (·.id ≠ userId)) (change u) = .error e) :
    s.changeUser userId change = .error e := by
  simp only [changeUser, found, refused, bind, Except.bind]

theorem todos_after_changeUser :
    ((s.after (s.changeUser userId change)).fill rest).table? .todos =
      (s.fill rest).table? .todos := by
  cases changed : s.changeUser userId change with
  | error e => rfl
  | ok x =>
    obtain ⟨count, s'⟩ := x
    obtain ⟨-, -, rfl⟩ | ⟨_, -, -, -, rfl⟩ := changeUser_eq_ok changed <;> rfl

end Store

namespace Users

variable {s : Store} {userId : Int} {u : User}

/-! ## What may be written -/

/-- Whether the name and the email that are asked for pass their checks, and no other account has
the email. -/
structure Allowed (db : Database) (userId : Int) (name email : Option String) : Prop where
  named : ∀ given, name = some given → User.IsNamed given
  mailed : ∀ given, email = some given → User.IsMailed given
  free : ∀ given, email = some given →
    ∀ u : User, u.row ∈ db.rowsOf .users → u.email = given → u.id = userId

/-- The constraints on an account that is changed are those on what is asked for. -/
theorem checkUser_changed_iff (valid : s.Valid) (rest : Database)
    (found : s.user? userId = some u) (time : String) (name email hash : Option String) :
    Store.checkUser (s.users.filter (·.id ≠ userId)) (changed time name email hash u) = .ok () ↔
      Allowed (s.fill rest) userId name email := by
  obtain ⟨stored, mine⟩ := Store.mem_of_user? found
  rw [Store.checkUser_eq_ok_iff, User.fault?_eq_none_iff]
  constructor
  · rintro ⟨⟨named, mailed⟩, free⟩
    refine ⟨?_, ?_, ?_⟩
    · rintro given rfl
      exact named
    · rintro given rfl
      exact mailed
    · rintro given rfl v held same
      by_contra other
      exact free v (List.mem_filter.2 ⟨(Store.mem_users_iff rest).1 held, decide_eq_true other⟩)
        same
  · rintro ⟨named, mailed, free⟩
    have sound := (User.fault?_eq_none_iff u).1 (valid.users u stored)
    refine ⟨⟨?_, ?_⟩, fun v mem same => ?_⟩
    · cases name with
      | none => exact sound.1
      | some given => exact named given rfl
    · cases email with
      | none => exact sound.2
      | some given => exact mailed given rfl
    · obtain ⟨held, other⟩ := List.mem_filter.1 mem
      refine of_decide_eq_true other ?_
      cases email with
      | none => rw [valid.eq_of_email held stored same, mine]
      | some given => exact free given rfl v ((Store.mem_users_iff rest).2 held) same

/-- What the creation of an account comes to on a database. -/
structure InsertsExactly (db : Database) (now : Instant) (salt : List UInt8)
    (name email password : String) : Prop where
  /-- The account goes behind the others under a fresh id. -/
  stores : User.IsNamed name → User.IsMailed email →
    (∀ u : User, u.row ∈ db.rowsOf .users → u.email ≠ email) →
    db.lastKeyOf .users < Database.keyLimit →
      insert Pool.runner now salt name email password (.of db) =
          (.ok (db.lastKeyOf .users + 1), .of (db.withUser ⟨db.lastKeyOf .users + 1, name, email,
            Auth.hashPassword password salt, now.text, now.text⟩)) ∧
        db.lastKeyOf .users + 1 ∉ db.keysOf .users
  /-- Otherwise nothing changes. What is reported is a conflict if there is an id left, and that
  there is none if nothing else is wrong. -/
  refuses : ¬(User.IsNamed name ∧ User.IsMailed email ∧
      (∀ u : User, u.row ∈ db.rowsOf .users → u.email ≠ email) ∧
      db.lastKeyOf .users < Database.keyLimit) →
    ∃ e, insert Pool.runner now salt name email password (.of db) =
        (.error (.query (.storage e)), .of db) ∧
      (db.lastKeyOf .users < Database.keyLimit → ∃ detail, e = .conflict detail) ∧
      (¬db.lastKeyOf .users < Database.keyLimit → e = Store.idsExhausted)

/-- What a change of the account of an id comes to on a database, where that account is found or is
not. -/
structure UpdatesExactly (db : Database) (now : Instant) (salt : List UInt8) (userId : Int)
    (found : Option User) (name email password : Option String) : Prop where
  idle : name = none ∧ email = none ∧ password = none →
    update Pool.runner now salt userId name email password (.of db) =
      (.error (.query (.refused (.missingUpdateData "users"))), .of db)
  missing : ¬(name = none ∧ email = none ∧ password = none) → found = none →
    update Pool.runner now salt userId name email password (.of db) = (.ok 0, .of db)
  refuses : ¬(name = none ∧ email = none ∧ password = none) → found ≠ none →
    ¬Allowed db userId name email →
      ∃ detail, update Pool.runner now salt userId name email password (.of db) =
        (.error (.query (.storage (.conflict detail))), .of db)
  changes : ¬(name = none ∧ email = none ∧ password = none) → ∀ u, found = some u →
    Allowed db userId name email →
      update Pool.runner now salt userId name email password (.of db) =
        (.ok 1, .of (db.replaceUser
          (changed now.text name email (password.map (Auth.hashPassword · salt)) u)))
  todos : ∃ db', (update Pool.runner now salt userId name email password (.of db)).2 = .of db' ∧
    db'.table? .todos = db.table? .todos

theorem insertsExactly (valid : s.Valid) (rest : Database) (now : Instant) (salt : List UInt8)
    (name email password : String) :
    InsertsExactly (s.fill rest) now salt name email password := by
  have done : insert Pool.runner now salt name email password (s.pool rest) = _ :=
    insert_pool valid now salt name email password
  have last : (s.fill rest).lastKeyOf .users = s.lastUser := rfl
  have checked : Store.checkUser s.users ⟨s.lastUser + 1, name, email,
      Auth.hashPassword password salt, now.text, now.text⟩ = .ok () ↔
      User.IsNamed name ∧ User.IsMailed email ∧
        ∀ u : User, u.row ∈ (s.fill rest).rowsOf .users → u.email ≠ email := by
    rw [Store.checkUser_eq_ok_iff, User.fault?_eq_none_iff, and_assoc]
    simp only [Store.mem_users_iff]
    rfl
  refine ⟨fun named mailed free room => ?_, fun wrong => ?_⟩
  · rw [Store.addUser_of_checked room (checked.2 ⟨named, mailed, free⟩)] at done
    refine ⟨?_, ?_⟩
    · rw [last, ← Store.fill_withUser]
      exact done
    · rw [last, Store.keysOf_users]
      exact valid.userIds.next_notMem
  · by_cases room : s.lastUser < Database.keyLimit
    · have faulty := mt checked.1 fun ⟨named, mailed, free⟩ => wrong ⟨named, mailed, free, room⟩
      obtain ⟨detail, refused⟩ := Store.checkUser_eq_conflict faulty
      rw [Store.addUser_of_refused room refused] at done
      exact ⟨_, done, fun _ => ⟨detail, rfl⟩, fun full => absurd room full⟩
    · rw [Store.addUser_of_full room] at done
      exact ⟨_, done, fun other => absurd other room, fun _ => rfl⟩

theorem updatesExactly (valid : s.Valid) (rest : Database) (now : Instant) (salt : List UInt8)
    (userId : Int) (name email password : Option String) :
    UpdatesExactly (s.fill rest) now salt userId (s.user? userId) name email password := by
  have idle (absent : name = none ∧ email = none ∧ password = none) :
      update Pool.runner now salt userId name email password (.of (s.fill rest)) =
        (.error (.query (.refused (.missingUpdateData "users"))), .of (s.fill rest)) := by
    obtain ⟨rfl, rfl, rfl⟩ := absent
    rfl
  have done (given : ¬(name = none ∧ email = none ∧ password = none)) :
      update Pool.runner now salt userId name email password (s.pool rest) = _ :=
    update_pool valid now salt userId given
  have checked (u : User) (found : s.user? userId = some u) :=
    checkUser_changed_iff valid rest found
    now.text name email (password.map (Auth.hashPassword · salt))
  refine ⟨idle, fun given missing => ?_, fun given held forbidden => ?_,
    fun given u found allowed => ?_, ?_⟩
  · have answer := done given
    rw [Store.changeUser_of_none missing] at answer
    exact answer
  · obtain ⟨u, found⟩ := Option.ne_none_iff_exists'.1 held
    obtain ⟨detail, refused⟩ := Store.checkUser_eq_conflict (mt (checked u found).1 forbidden)
    have answer := done given
    rw [Store.changeUser_of_refused found refused] at answer
    exact ⟨detail, answer⟩
  · have answer := done given
    rw [Store.changeUser_of_checked found rfl ((checked u found).2 allowed), Store.pooled,
      Store.pool, Store.pool] at answer
    rw [← Store.fill_replaceUser]
    exact answer
  · by_cases absent : name = none ∧ email = none ∧ password = none
    · exact ⟨_, congrArg Prod.snd (idle absent), rfl⟩
    · exact ⟨_, congrArg Prod.snd (done absent), Store.todos_after_changeUser rest⟩

end Users

/-- **A write to an account touches that account alone.** On a reachable database a new account goes
behind the others, or is refused and changes nothing. A change of an account replaces its row, and
one that is refused or finds no account changes nothing. -/
theorem user_writes_exact {db : Database} (reachable : Reachable db) (now : Instant)
    (salt : List UInt8) :
    (∀ name email password, Users.InsertsExactly db now salt name email password) ∧
      ∀ userId, ∃ found : Option User,
        (∀ u, found = some u ↔ u.row ∈ db.rowsOf .users ∧ u.id = userId) ∧
        ∀ name email password,
          Users.UpdatesExactly db now salt userId found name email password := by
  obtain ⟨s, rest, valid, rfl⟩ := reachable.filled
  refine ⟨Users.insertsExactly valid rest now salt, fun userId => ⟨s.user? userId, fun u => ?_,
    Users.updatesExactly valid rest now salt userId⟩⟩
  rw [Store.mem_users_iff]
  constructor
  · exact Store.mem_of_user?
  · rintro ⟨held, rfl⟩
    exact valid.user?_of_mem held

/-- Cid becomes the third user, and Ann gets neither the email of Bob's nor loses her own. -/
theorem user_writes_in_sampleDatabase :
    Reachable (sampleDatabase "Bread") ∧
      Users.insert Pool.runner ⟨0⟩ [] "Cid" "cid@example.org" "plum"
        (.of (sampleDatabase "Bread")) =
        (.ok 3, .of ((sampleDatabase "Bread").withUser ⟨3, "Cid", "cid@example.org",
          Auth.hashPassword "plum" [], Instant.text ⟨0⟩, Instant.text ⟨0⟩⟩)) ∧
      (∃ detail, Users.update Pool.runner ⟨0⟩ [] 1 none (some "bob@example.org") none
          (.of (sampleDatabase "Bread")) =
        (.error (.query (.storage (.conflict detail))), .of (sampleDatabase "Bread"))) ∧
      (Users.update Pool.runner ⟨0⟩ [] 1 none (some "ann@example.org") none
        (.of (sampleDatabase "Bread"))).1 = .ok 1 := by
  have reachable : Reachable (sampleDatabase "Bread") :=
    reachable_sampleDatabase (by decide +kernel)
  obtain ⟨inserts, updates⟩ := user_writes_exact reachable ⟨0⟩ []
  obtain ⟨found, held, ann⟩ := updates 1
  -- The two accounts that there are.
  have users (u : User) : u.row ∈ (sampleDatabase "Bread").rowsOf .users ↔
      u ∈ (Store.sample "Bread").users := Store.mem_users_iff _
  have own : found = some ⟨1, "Ann", "ann@example.org", Auth.hashPassword "secret" [],
      Instant.text ⟨0⟩, Instant.text ⟨0⟩⟩ :=
    (held _).2 ⟨(users _).2 (.head _), rfl⟩
  have given (email : String) :
      ¬((none : Option String) = none ∧ some email = none ∧ (none : Option String) = none) := by
    simp
  have named : User.IsNamed "Cid" := by
    rw [User.IsNamed]
    decide +kernel
  have mailed : User.IsMailed "cid@example.org" ∧ User.IsMailed "ann@example.org" := by
    rw [User.IsMailed, User.IsMailed]
    decide +kernel
  refine ⟨reachable, ?_, ?_, ?_⟩
  · refine ((inserts _ _ "plum").stores named mailed.1 (fun u stored => ?_) ?_).1
    · have stored := (users u).1 stored
      simp only [Store.sample, List.mem_cons, List.not_mem_nil, or_false] at stored
      rcases stored with rfl | rfl <;> simp
    · exact (by decide : (2 : Int) < Database.keyLimit)
  · refine (ann none (some "bob@example.org") none).refuses (given _) (by simp [own])
      fun allowed => ?_
    have bob := allowed.free _ rfl _ ((users _).2 (.tail _ (.head _))) rfl
    exact absurd bob (by decide)
  · have allowed : Users.Allowed (sampleDatabase "Bread") 1 none (some "ann@example.org") := by
      refine ⟨by simp, ?_, ?_⟩
      · intro _ same
        cases same
        exact mailed.2
      · intro _ same u stored
        cases same
        have stored := (users u).1 stored
        simp only [Store.sample, List.mem_cons, List.not_mem_nil, or_false] at stored
        rcases stored with rfl | rfl <;> simp
    rw [(ann none (some "ann@example.org") none).changes (given _) _ own allowed]

/-! ## The last id -/

namespace Operation

/-- An account that is created and removed some times, with the ids that it gets. -/
def turnover : Int → Nat → List Operation
  | _, 0 => []
  | last, count + 1 =>
    insertUser "Ann" "ann@example.org" "secret" :: deleteUser (last + 1) ::
      turnover (last + 1) count

theorem plain_turnover (last : Int) (count : Nat) :
    ∀ operation ∈ turnover last count, operation.toggled? = none := by
  induction count generalizing last with
  | zero => exact List.forall_mem_nil _
  | succ count ih => exact List.forall_mem_cons.2 ⟨rfl, List.forall_mem_cons.2 ⟨rfl, ih _⟩⟩

/-- An account that is created and removed takes an id each time. -/
theorem effects_turnover (moment : Moment) (count : Nat) {s : Store} (none : s.users = [])
    (room : s.lastUser + count ≤ Database.keyLimit) :
    (effects moment (turnover s.lastUser count) s).users = [] ∧
      (effects moment (turnover s.lastUser count) s).lastUser = s.lastUser + count := by
  induction count generalizing s with
  | zero => exact ⟨none, (Int.add_zero _).symm⟩
  | succ count ih =>
    rw [turnover, effects_insertUser (by omega) (by decide +kernel) (by decide +kernel)
      (by simp [none])]
    -- The account that was created is the only one, so its removal leaves none.
    let added : Store := { s with
      users := s.users ++ [⟨s.lastUser + 1, "Ann", "ann@example.org",
        Auth.hashPassword "secret" moment.salt, moment.now.text, moment.now.text⟩]
      lastUser := s.lastUser + 1 }
    have gone : (added.dropUser (s.lastUser + 1)).2.users = [] := by
      simp [added, Store.dropUser, none]
    have last : (added.dropUser (s.lastUser + 1)).2.lastUser = s.lastUser + 1 := rfl
    obtain ⟨users, lastUser⟩ := ih gone (by rw [last]; omega)
    refine ⟨users, lastUser.trans ?_⟩
    rw [last]
    omega

end Operation

/-- Every id of an account up to the greatest key is the last one in some reachable database without
accounts. -/
theorem exists_reachable_lastUser {last : Nat} (bound : (last : Int) ≤ Database.keyLimit) :
    ∃ (s : Store) (rest : Database), s.Valid ∧ Reachable (s.fill rest) ∧ s.users = [] ∧
      s.lastUser = last := by
  have plain := Operation.plain_turnover Store.empty.lastUser last
  obtain ⟨users, lastUser⟩ := Operation.effects_turnover .sample last (s := .empty) rfl
    (by simpa [Store.empty] using bound)
  exact ⟨_, _, Operation.valid_effects .sample _ plain Store.valid_empty,
    Reachable.inOrder 0 .sample _ plain, users, lastUser.trans (Int.zero_add _)⟩

/-- With no id left, an account that nothing is wrong with is not created. -/
theorem insert_refused_at_last_id :
    ¬∀ (db : Database), Reachable db → ∀ (now : Instant) (salt : List UInt8)
      (name email password : String), User.IsNamed name → User.IsMailed email →
      (∀ u : User, u.row ∈ db.rowsOf .users → u.email ≠ email) →
      ∃ id, (Users.insert Pool.runner now salt name email password (.of db)).1 = .ok id := by
  intro succeeds
  obtain ⟨s, rest, valid, reachable, users, last⟩ :=
    exists_reachable_lastUser (by decide : ((9223372036854775807 : Nat) : Int) ≤ Database.keyLimit)
  have full : ¬s.lastUser < Database.keyLimit := by
    rw [last]
    decide
  have named : User.IsNamed "Ann" := by
    rw [User.IsNamed]
    decide +kernel
  have mailed : User.IsMailed "ann@example.org" := by
    rw [User.IsMailed]
    decide +kernel
  have free (u : User) (stored : u.row ∈ (s.fill rest).rowsOf .users) :
      u.email ≠ "ann@example.org" := by
    rw [Store.mem_users_iff, users] at stored
    cases stored
  obtain ⟨e, refused, -⟩ := (Users.insertsExactly valid rest ⟨0⟩ [] "Ann" "ann@example.org"
    "secret").refuses fun sound => full sound.2.2.2
  obtain ⟨id, stored⟩ := succeeds _ reachable ⟨0⟩ [] _ _ "secret" named mailed free
  rw [refused] at stored
  cases stored

end TodoServer
