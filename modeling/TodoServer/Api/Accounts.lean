import TodoServer.Api.Reply
import TodoServer.Auth.Manager

/-!
# Endpoints of accounts

Registration and login are open to everybody; the profile is that of the caller.
-/

namespace TodoServer.Api.Accounts

variable {σ : Type} (r : Runner σ)

/-- What is told of an account that is not there. -/
def missing : ApiError := .notFound "USER_NOT_FOUND" "User not found"

/-- Shows an account as it is stored. -/
def shown (status : Nat) (userId : Int) (state : σ) : Reply σ :=
  after (Users.get r userId state) fun
    | some user, state => (.ok (.json status user.toJson), state)
    | none, state => (.error missing, state)

/-- Creates an account. -/
def register (moment : Moment) (request : Http.Request) (state : σ) : Reply σ :=
  accepting (registrationForm.ofRequest openLimit request) state fun account =>
    after (Users.insert r moment.now moment.salt account.name account.email account.password state)
      fun userId state => shown r 201 userId state

/-- The document of a new token. -/
def tokenDocument (issued : Auth.IssuedToken) : Json :=
  .obj [("token", .str issued.token), ("token_type", .str "Bearer"),
    ("expires_in", .int issued.expiresIn)]

/-- Gives a token for credentials. -/
def login (manager : Auth.Manager) (moment : Moment) (request : Http.Request) (state : σ) :
    Reply σ :=
  accepting (credentialsForm.ofRequest openLimit request) state fun credentials =>
    after (Users.authenticate r credentials.email credentials.password state) fun
      | some userId, state =>
        (.ok (.json 200 (tokenDocument (manager.issue moment.now moment.tokenId userId))), state)
      | none, state => (.error AuthFailure.credentials.toApiError, state)

/-- Changes the account of the caller. -/
def change (moment : Moment) (userId : Int) (request : Http.Request) (state : σ) : Reply σ :=
  accepting (profileForm.ofRequest ownLimit request) state fun given =>
    after (Users.update r moment.now moment.salt userId given.name given.email given.password state)
      fun
      | 0, state => (.error missing, state)
      | _ + 1, state => shown r 200 userId state

/-- Removes the account of the caller. -/
def remove (userId : Int) (state : σ) : Reply σ :=
  after (Users.delete r userId state) fun
    | 0, state => (.error missing, state)
    | _ + 1, state => (.ok (.bare 204), state)

end TodoServer.Api.Accounts
