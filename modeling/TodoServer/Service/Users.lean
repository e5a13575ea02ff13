import TodoServer.Auth.Password
import TodoServer.Data.Instant
import TodoServer.Filter.Builder
import TodoServer.Query.Executor
import TodoServer.Service.Error
import TodoServer.Service.User

/-!
# The user service

Accounts are created, looked up, changed and removed, and credentials are checked. Each operation
issues at most one statement.
-/

namespace TodoServer.Users

variable {σ : Type} (r : Runner σ)

/-- The filter of one account. -/
def identified (userId : Int) : Except ServiceError Filter :=
  orFilter (FilterBuilder.empty.eq "id" (.integer userId)).build

/-- The first account that a filter accepts. -/
def first (filter : Except ServiceError Filter) (state : σ) :
    Except ServiceError (Option User) × σ :=
  match filter with
  | .error e => (.error e, state)
  | .ok filter =>
    let (answer, state) := Executor.select r User.table [] filter state
    (do
      match ← orQuery answer with
      | [] => .ok none
      | row :: _ => (orRow (User.ofRecord row)).map some, state)

/-- The row of a new account. -/
def newRecord (now : Instant) (salt : List UInt8) (name email password : String) : Record :=
  .ofList [("name", .text name), ("email", .text email),
    ("password_hash", .text (Auth.hashPassword password salt)), ("created_at", .text now.text),
    ("updated_at", .text now.text)]

/-- Creates an account and reports its id. -/
def insert (now : Instant) (salt : List UInt8) (name email password : String) (state : σ) :
    Except ServiceError Int × σ :=
  let (answer, state) :=
    Executor.insert r User.table (newRecord now salt name email password) state
  (orQuery answer, state)

/-- The account of an id. -/
def get (userId : Int) (state : σ) : Except ServiceError (Option User) × σ :=
  first r (identified userId) state

/-- The filter of the accounts with a name or an email. -/
def namedOrMailed (name email : Option String) : Except ServiceError Filter :=
  if name.isNone && email.isNone then .error (.query (.expression .lookupWithoutKey))
  else
    let either := (FilterBuilder.empty.eqGiven "name" (name.map .text)).eqGiven "email"
      (email.map .text)
    orFilter (FilterBuilder.empty.nested .or either).build

/-- The first account with a name or an email. -/
def find (name email : Option String) (state : σ) : Except ServiceError (Option User) × σ :=
  first r (namedOrMailed name email) state

/-- The changed columns of an account. The time is set when anything else is. -/
def changes (now : Instant) (salt : List UInt8) (name email password : Option String) : Record :=
  let given := ((Record.empty.setGiven "name" (name.map .text)).setGiven "email"
    (email.map .text)).setGiven "password_hash"
      (password.map fun password => .text (Auth.hashPassword password salt))
  if given.isEmpty then given else given.set "updated_at" (.text now.text)

/-- Changes an account and reports how many rows that touched. -/
def update (now : Instant) (salt : List UInt8) (userId : Int) (name email password : Option String)
    (state : σ) : Except ServiceError Nat × σ :=
  match identified userId with
  | .error e => (.error e, state)
  | .ok filter =>
    let (answer, state) :=
      Executor.update r User.table (changes now salt name email password) filter state
    (orQuery answer, state)

/-- Removes an account, and with it all its todos, and reports how many accounts that touched. -/
def delete (userId : Int) (state : σ) : Except ServiceError Nat × σ :=
  match identified userId with
  | .error e => (.error e, state)
  | .ok filter =>
    let (answer, state) := Executor.delete r User.table filter state
    (orQuery answer, state)

/-- The account of the first of some rows whose password is the one given. -/
def credentialsOf (password : String) : List Record → Except ServiceError (Option Int)
  | [] => .ok none
  | row :: _ => do
    let stored ← orRow (row.text "password_hash")
    match Auth.verifyPassword? password stored with
    | none => .error .malformedPassword
    | some false => .ok none
    | some true => (orRow (row.int "id")).map some

/-- The account that an email and a password belong to. -/
def authenticate (email password : String) (state : σ) : Except ServiceError (Option Int) × σ :=
  match orFilter (FilterBuilder.empty.eq "email" (.text email)).build with
  | .error e => (.error e, state)
  | .ok filter =>
    let (answer, state) := Executor.select r User.table ["id", "password_hash"] filter state
    (orQuery answer >>= credentialsOf password, state)

end TodoServer.Users
