import TodoServer.Proofs.Service.Opening
import TodoServer.Proofs.Store.Execution

/-!
# The user service on a store

What each operation of the user service answers on a database that is filled by a valid store, and
the store it leaves behind.
-/

namespace TodoServer

open Storage Storage.Database

variable {s : Store} {rest : Database}

namespace Users

theorem find_identified (s : Store) (userId : Int) :
    Database.find .users ⟨s.users.map User.row, s.lastUser⟩
        ⟨[.condition ⟨"id", .eq, .integer userId⟩]⟩ =
      .ok ((s.users.filter (·.id = userId)).map User.row) := by
  refine find_users rfl (checkFields_of_columns .users (rfl : _ = ["id"]) (by decide)) fun u _ => ?_
  rw [accepts_cons (truth_user_id u userId), accepts_nil]
  cases decide (u.id = userId) <;> rfl

theorem find_mailed (s : Store) (email : String) :
    Database.find .users ⟨s.users.map User.row, s.lastUser⟩
        ⟨[.condition ⟨"email", .eq, .text email⟩]⟩ =
      .ok ((s.users.filter (·.email = email)).map User.row) := by
  refine find_users rfl
    (checkFields_of_columns .users (rfl : _ = ["email"]) (by decide)) fun u _ => ?_
  rw [accepts_cons (truth_user_email u email), accepts_nil]
  cases decide (u.email = email) <;> rfl

variable (valid : s.Valid)

include valid in
theorem insert_pool (now : Instant) (salt : List UInt8) (name email password : String) :
    insert Pool.runner now salt name email password (s.pool rest) =
      Store.pooled rest (s.settle
        (s.addUser name email (Auth.hashPassword password salt) now.text)) := by
  have done : Executor.insert Pool.runner "users" (newRecord now salt name email password)
      (s.pool rest) = _ :=
    Executor.insert_pool (show 5 ≤ 32766 by decide)
      (insertRows_user valid name email (Auth.hashPassword password salt) now.text)
  rw [insert, User.table, done]
  rfl

theorem first_pool {filter : Filter} {users : List User}
    (few : filter.values.length ≤ Pool.valueLimit)
    (found : Database.find .users ⟨s.users.map User.row, s.lastUser⟩ filter =
      .ok (users.map User.row)) :
    first Pool.runner (.ok filter) (s.pool rest) = (.ok users.head?, s.pool rest) := by
  rw [first, User.table, Executor.select_pool few, select_users found]
  cases users <;> rfl

theorem get_pool (userId : Int) :
    get Pool.runner userId (s.pool rest) = (.ok (s.user? userId), s.pool rest) := by
  rw [get, identified_eq, first_pool (by exact Nat.le_of_ble_eq_true rfl)
    (find_identified s userId), List.head?_filter]
  rfl

include valid in
theorem delete_pool (userId : Int) :
    delete Pool.runner userId (s.pool rest) =
      (.ok (s.dropUser userId).1, (s.dropUser userId).2.pool rest) := by
  simp only [delete, identified_eq, User.table,
    Executor.delete_pool ⟨_, List.mem_cons_self, .condition _⟩
    (by exact Nat.le_of_ble_eq_true rfl) (delete_user valid (find_identified s userId))]
  rfl

/-- The id of an account for those who know its password. -/
def opened (u : User) (password : String) : Except ServiceError (Option Int) :=
  match Auth.verifyPassword? password u.passwordHash with
  | none => .error .malformedPassword
  | some false => .ok none
  | some true => .ok (some u.id)

/-- The account that credentials belong to. -/
def credited (s : Store) (email password : String) : Except ServiceError (Option Int) :=
  match s.users.find? (·.email = email) with
  | none => .ok none
  | some u => opened u password

theorem credentialsOf_found (u : User) (password : String) (more : List Record) :
    credentialsOf password
      (⟨[("id", .integer u.id), ("password_hash", .text u.passwordHash)]⟩ :: more) =
      opened u password := by
  change (match Auth.verifyPassword? password u.passwordHash with
    | none => Except.error ServiceError.malformedPassword
    | some false => Except.ok none
    | some true => Except.ok (some u.id)) = opened u password
  rfl

theorem authenticate_pool (email password : String) :
    authenticate Pool.runner email password (s.pool rest) =
      (credited s email password, s.pool rest) := by
  have answer : credentialsOf password ((s.users.filter (·.email = email)).map fun u =>
      ⟨[("id", .integer u.id), ("password_hash", .text u.passwordHash)]⟩) =
      credited s email password := by
    rw [credited, ← List.head?_filter]
    cases s.users.filter (·.email = email) with
    | nil => rfl
    | cons u others => exact credentialsOf_found u password _
  have selected : Executor.select Pool.runner "users" ["id", "password_hash"]
      ⟨[.condition ⟨"email", .eq, .text email⟩]⟩ (s.pool rest) = _ :=
    Executor.select_pool (Nat.le_of_ble_eq_true rfl)
  rw [select_credentials (find_mailed s email)] at selected
  rw [authenticate, mailed_eq, User.table]
  simp only [selected]
  rw [← answer]
  rfl

/-- The changes of an account that are asked for. -/
def changed (time : String) (name email hash : Option String) (u : User) : User :=
  { u with
    name := name.getD u.name
    email := email.getD u.email
    passwordHash := hash.getD u.passwordHash
    updatedAt := time }

/-- The fields of the changes that are asked for. -/
def placed (time : String) (name email hash : Option String) : Placed :=
  (name.map fun name => (1, "name", .text name)).toList ++
    (email.map fun email => (2, "email", .text email)).toList ++
    (hash.map fun hash => (3, "password_hash", .text hash)).toList ++
    [(5, "updated_at", .text time)]

section

variable (time : String) (name email hash : Option String)

theorem dataPosition_placed :
    ∀ x ∈ placed time name email hash, dataPosition .users x.2.1 = .ok x.1 := by
  have columns : dataPosition .users "name" = .ok 1 ∧ dataPosition .users "email" = .ok 2 ∧
      dataPosition .users "password_hash" = .ok 3 ∧ dataPosition .users "updated_at" = .ok 5 :=
    ⟨rfl, rfl, rfl, rfl⟩
  cases name <;> cases email <;> cases hash <;> simp [placed, columns]

theorem assignAll_placed (u : User) :
    assignAll .users ((placed time name email hash).map fun x => (x.1, x.2.2)) u.row =
      .ok (changed time name email hash u).row := by
  cases name <;> cases email <;> cases hash <;> rfl

theorem length_placed :
    1 ≤ (placed time name email hash).length ∧ (placed time name email hash).length ≤ 4 := by
  cases name <;> cases email <;> cases hash <;> simp [placed]

end

theorem fields_changes {name email password : Option String} (now : Instant) (salt : List UInt8)
    (given : ¬(name = none ∧ email = none ∧ password = none)) :
    (changes now salt name email password).fields =
      (placed now.text name email (password.map (Auth.hashPassword · salt))).map Prod.snd := by
  cases name <;> cases email <;> cases password <;> first | rfl | exact absurd ⟨rfl, rfl, rfl⟩ given

include valid in
theorem update_pool {name email password : Option String} (now : Instant) (salt : List UInt8)
    (userId : Int) (given : ¬(name = none ∧ email = none ∧ password = none)) :
    update Pool.runner now salt userId name email password (s.pool rest) =
      Store.pooled rest (s.settle (s.changeUser userId
        (changed now.text name email (password.map (Auth.hashPassword · salt))))) := by
  have fields := fields_changes now salt given
  obtain ⟨present, few⟩ :=
    length_placed now.text name email (password.map (Auth.hashPassword · salt))
  have some : (changes now salt name email password).isEmpty = false := by
    rw [Record.isEmpty, fields, List.isEmpty_eq_false_iff, ← List.length_pos_iff, List.length_map]
    exact present
  have few : ((changes now salt name email password).values ++ [Scalar.integer userId]).length ≤
      Pool.valueLimit := by
    rw [List.length_append, Record.values, fields, List.length_map, List.length_map,
      List.length_singleton, Pool.valueLimit]
    omega
  have done : Executor.update Pool.runner "users" (changes now salt name email password)
      ⟨[.condition ⟨"id", .eq, .integer userId⟩]⟩ (s.pool rest) = _ :=
    Executor.update_pool some ⟨_, List.mem_cons_self, .condition _⟩ few
      (update_user valid (find_identified s userId) fields (dataPosition_placed _ name email _)
        (assignAll_placed _ name email _) fun _ => rfl)
  simp only [update, identified_eq, User.table, done]
  rfl

/-! ## Looking up -/

/-- The account with a name, or else the one with an email. -/
def lookedUp (s : Store) (name email : Option String) : Option User :=
  (name.bind fun name => s.users.find? (·.name = name)).or
    (email.bind fun email => s.users.find? (·.email = email))

theorem find_pool {name email : Option String} (given : ¬(name = none ∧ email = none)) :
    find Pool.runner name email (s.pool rest) = (.ok (lookedUp s name email), s.pool rest) := by
  let named (n : String) : Alternative := (⟨"name", .eq, .text n⟩, (·.name = n))
  let mailed (e : String) : Alternative := (⟨"email", .eq, .text e⟩, (·.email = e))
  let alternatives := (name.map named).toList ++ (email.map mailed).toList
  let filter : Filter := ⟨[.group .or (alternatives.map fun a => .condition a.1)]⟩
  have built : namedOrMailed name email = .ok filter := by
    cases name <;> cases email <;> first | rfl | exact absurd ⟨rfl, rfl⟩ given
  have through : alternatives? .users filter = some (alternatives.map Prod.fst) := by
    cases name <;> cases email <;> first | rfl | exact absurd ⟨rfl, rfl⟩ given
  have truths : ∀ a ∈ alternatives, ∀ u : User,
      conditionTruth .users u.row a.1 = .ok (.ofBool (a.2 u)) := by
    intro a mem u
    rcases List.mem_append.1 mem with byName | byEmail
    · obtain ⟨n, _, rfl⟩ := Option.map_eq_some_iff.1 (Option.mem_toList.1 byName)
      exact truth_user_name u n
    · obtain ⟨e, _, rfl⟩ := Option.map_eq_some_iff.1 (Option.mem_toList.1 byEmail)
      exact truth_user_email u e
  have fields : checkFields .users filter = .ok () := by
    cases name <;> cases email
    · exact absurd ⟨rfl, rfl⟩ given
    · exact checkFields_of_columns .users (rfl : _ = ["email"]) (by decide)
    · exact checkFields_of_columns .users (rfl : _ = ["name"]) (by decide)
    · exact checkFields_of_columns .users (rfl : _ = ["name", "email"]) (by decide)
  have few : filter.values.length ≤ Pool.valueLimit := by
    cases name <;> cases email <;> exact Nat.le_of_ble_eq_true rfl
  have one {α : Type} (o : Option α) (f : α → Alternative) :
      (o.map f).toList.findSome? (fun a => s.users.find? a.2) =
        o.bind fun x => s.users.find? (f x).2 := by
    cases o <;> simp
  obtain ⟨visited, found, head⟩ :=
    find_alternatives s.users s.lastUser rfl through truths fields
  rw [find, built, first_pool few found, head, List.findSome?_append, one, one]
  rfl

end Users

end TodoServer
