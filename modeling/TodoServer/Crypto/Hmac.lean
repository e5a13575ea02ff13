import TodoServer.Crypto.Sha256

/-!
# Keyed hashing

The key, as one block, is mixed into the front of an inner and of an outer hash. Both states are
computed once for each key.
-/

namespace TodoServer.Crypto

/-- The two chaining states that a key leads to. -/
structure Hmac where
  inner : Digest
  outer : Digest
  deriving DecidableEq, Repr

namespace Hmac

/-- A key as one block of bytes: hashed when it is longer, and filled with zeros. -/
def keyBlock (key : List UInt8) : List UInt8 :=
  let short := if 64 < key.length then (sha256 key).bytes else key
  short ++ List.replicate (64 - short.length) 0

/-- The state after a block whose bytes are mixed with `mask`. -/
def masked (mask : UInt8) (block : List UInt8) : Digest :=
  Sha256.absorb 1 Sha256.initial (block.map (· ^^^ mask))

/-- The states of a key block. -/
def ofBlock (block : List UInt8) : Hmac :=
  ⟨masked 0x36 block, masked 0x5c block⟩

/-- The states of a key. -/
def ofKey (key : List UInt8) : Hmac :=
  ofBlock (keyBlock key)

/-- The tag of a message. -/
def tag (k : Hmac) (message : List UInt8) : Digest :=
  Sha256.finish k.outer 64 (Sha256.finish k.inner 64 message).bytes

/-- A digest as the last block of a message that has one block in front of it. -/
def digestBlock (d : Digest) : Array UInt32 :=
  #[d.a, d.b, d.c, d.d, d.e, d.f, d.g, d.h, 0x80000000, 0, 0, 0, 0, 0, 0, 768]

/-- The tag of the bytes of a digest. -/
def tagDigest (k : Hmac) (d : Digest) : Digest :=
  Sha256.compress k.outer (digestBlock (Sha256.compress k.inner (digestBlock d)))

end Hmac

end TodoServer.Crypto
