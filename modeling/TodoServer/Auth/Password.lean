import TodoServer.Crypto.Compare
import TodoServer.Crypto.Pbkdf2
import TodoServer.Text.Ascii

/-!
# Stored passwords

A password is stored as bytes derived from it with a salt, beside the salt and the number of
iterations. The written form has four parts between `$` signs: the scheme, the iterations in decimal
digits, and salt and derived bytes in hexadecimal digits.
-/

namespace TodoServer.Auth

/-- What is stored of a password. -/
structure PasswordHash where
  iterations : Nat
  salt : List UInt8
  derived : List UInt8
  deriving DecidableEq, Repr

namespace PasswordHash

/-- The name of the way in which passwords are derived. -/
def scheme : String := "pbkdf2_sha256"

/-- The iterations of new hashes. -/
def standardIterations : Nat := 100000

/-- The bytes of the salt of new hashes. -/
def saltSize : Nat := 16

/-- The bytes that are derived. -/
def derivedSize : Nat := 32

/-- The hash of a password under a salt. -/
def of (password : String) (salt : List UInt8) (iterations : Nat) : PasswordHash :=
  ⟨iterations, salt, (Crypto.pbkdf2 (Text.utf8 password) salt iterations).bytes⟩

/-- The hash of a new password. -/
def fresh (password : String) (salt : List UInt8) : PasswordHash :=
  of password salt standardIterations

/-- The written form. -/
def text (h : PasswordHash) : String :=
  Text.join "$" [scheme, Text.decimalNat h.iterations, Text.hex h.salt, Text.hex h.derived]

/-- Reads a written form. The iterations are a positive number of 32 bits, with an optional plus
sign. -/
def parse? (stored : String) : Option PasswordHash :=
  match Text.splitChars '$' stored.toList with
  | [name, iterations, salt, derived] => do
    if String.ofList name ≠ scheme then none
    let iterations ← Text.unsigned? UInt32.size iterations
    if iterations = 0 then none
    let salt ← Text.hexDecode? salt
    let derived ← Text.hexDecode? derived
    if derived.length ≠ derivedSize then none
    some ⟨iterations, salt, derived⟩
  | _ => none

/-- Whether a password is the one that was stored. -/
def accepts (h : PasswordHash) (password : String) : Bool :=
  Crypto.constantTimeEq
    (Crypto.pbkdf2 (Text.utf8 password) h.salt h.iterations).bytes h.derived

end PasswordHash

/-- The stored form of a new password. -/
def hashPassword (password : String) (salt : List UInt8) : String :=
  (PasswordHash.fresh password salt).text

/-- Whether a password is the one stored in a written form; `none` when the form is malformed. -/
def verifyPassword? (password stored : String) : Option Bool :=
  (PasswordHash.parse? stored).map (·.accepts password)

end TodoServer.Auth
