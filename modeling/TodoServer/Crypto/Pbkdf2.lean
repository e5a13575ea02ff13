import TodoServer.Crypto.Hmac

/-!
# Slow derivation from passwords

Tags are chained: each is the tag of the one before it, and the result is the exclusive or of all.
-/

namespace TodoServer.Crypto

namespace Pbkdf2

/-- The exclusive or of `sum` with the `n` tags that follow `last`. -/
def chain (k : Hmac) : Nat → Digest → Digest → Digest
  | 0, _, sum => sum
  | n + 1, last, sum =>
    let next := k.tagDigest last
    chain k n next (sum.xor next)

end Pbkdf2

/-- Thirty-two bytes from a password, a salt and the number of tags in the chain. -/
def pbkdf2 (password salt : List UInt8) (iterations : Nat) : Digest :=
  let k := Hmac.ofKey password
  let first := k.tag (salt ++ [0, 0, 0, 1])
  Pbkdf2.chain k (iterations - 1) first first

/-- Passwords that are the same key derive the same bytes. -/
theorem pbkdf2_congr {p q : List UInt8} (h : Hmac.keyBlock p = Hmac.keyBlock q)
    (salt : List UInt8) (iterations : Nat) :
    pbkdf2 p salt iterations = pbkdf2 q salt iterations := by
  simp only [pbkdf2, Hmac.ofKey, h]

end TodoServer.Crypto
