import TodoServer.Auth.Token
import TodoServer.Data.Span

/-!
# Issuing and checking access tokens
-/

namespace TodoServer.Auth

/-- Issues and checks tokens with one key and one lifetime. -/
structure Manager where
  key : List UInt8
  /-- The lifetime of new tokens in minutes. -/
  lifetime : Nat
  deriving DecidableEq, Repr

/-- A new token and its lifetime in seconds. -/
structure IssuedToken where
  token : String
  expiresIn : Int
  deriving DecidableEq, Repr

namespace Manager

/-- The longest lifetime in minutes: thirty days. -/
def longestLifetime : Nat := 30 * 24 * 60

/-- The bytes of a random key. -/
def randomKeySize : Nat := 32

/-- What is logged when there is no configured secret. -/
def randomKeyWarning : String :=
  "No JWT secret configured, using a random key. Tokens will not survive a restart"

/-- The key of a configured secret, or else a random one. -/
def signingKey (secret? : Option String) (randomKey : List UInt8) : List UInt8 :=
  match secret? with
  | some secret => Text.utf8 secret
  | none => randomKey

/-- A manager with a configured secret, or else with a random key. -/
def of (secret? : Option String) (randomKey : List UInt8) (minutes : Nat) : Manager where
  key := signingKey secret? randomKey
  lifetime := min minutes longestLifetime

/-- The same manager, made with numbers of 64 bits: the minutes are cut before they become a signed
number, and there is no manager when they are no span. -/
def of? (secret? : Option String) (randomKey : List UInt8) (minutes : UInt64) : Option Manager := do
  let lifetime ← Span.ofMinutes? (min minutes (UInt64.ofNat longestLifetime)).toInt64.toInt
  some ⟨signingKey secret? randomKey, lifetime.minutes.toNat⟩

/-- The lifetime of new tokens in seconds. -/
def expiresIn (m : Manager) : Int :=
  60 * m.lifetime

/-- The claims of a new token of an account. -/
def claims (m : Manager) (now : Instant) (tokenId : String) (userId : Int) : Claims where
  subject := Text.decimal userId
  issuedAt := now.seconds
  expiresAt := now.seconds + m.expiresIn
  id := tokenId

/-- A new token of an account. -/
def issue (m : Manager) (now : Instant) (tokenId : String) (userId : Int) : IssuedToken :=
  ⟨Token.sign m.key (m.claims now tokenId userId), m.expiresIn⟩

/-- The same token, made with spans and instants of the calendar: there is none when the lifetime or
its end is out of their bounds. -/
def issue? (m : Manager) (now : Instant) (tokenId : String) (userId : Int64) :
    Option IssuedToken := do
  let lifetime ← Span.ofMinutes? m.lifetime
  let expiresAt ← now.secondAfter? lifetime
  some ⟨Token.sign m.key ⟨Text.decimal userId.toInt, now.seconds, expiresAt, tokenId⟩,
    lifetime.seconds⟩

/-- The claims of a token. -/
def validate (m : Manager) (now : Instant) (token : String) : Except TokenError Claims :=
  Token.validate now.seconds m.key token

/-- The manager for a log, without its key. -/
def shown (m : Manager) : String :=
  "AuthManager \x7b signing_key: \"[redacted]\", token_ttl: TimeDelta \x7b secs: " ++
    Text.decimal m.expiresIn ++ ", nanos: 0 \x7d \x7d"

end Manager

end TodoServer.Auth
