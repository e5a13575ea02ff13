import TodoServer.Text.Hex
import TodoServer.Text.Utf8

/-!
# SHA-256

A message is padded to whole blocks of sixteen words, and each block is compressed into a chaining
state of eight words. Hashing can start from any state, so that the blocks in front of many messages
are compressed once.
-/

namespace TodoServer.Crypto

/-- Eight words: a chaining state, and the result of hashing. -/
structure Digest where
  a : UInt32
  b : UInt32
  c : UInt32
  d : UInt32
  e : UInt32
  f : UInt32
  g : UInt32
  h : UInt32
  deriving DecidableEq, Repr

namespace Digest

/-- The four bytes of a word, the highest first. -/
def wordBytes (w : UInt32) : List UInt8 :=
  [(w >>> 24).toUInt8, (w >>> 16).toUInt8, (w >>> 8).toUInt8, w.toUInt8]

/-- The words in order. -/
def words (s : Digest) : List UInt32 :=
  [s.a, s.b, s.c, s.d, s.e, s.f, s.g, s.h]

/-- The thirty-two bytes in order. -/
def bytes (s : Digest) : List UInt8 :=
  s.words.flatMap wordBytes

@[simp] theorem length_bytes (s : Digest) : s.bytes.length = 32 := rfl

/-- The sum of two states, word by word. -/
def add (s t : Digest) : Digest :=
  ⟨s.a + t.a, s.b + t.b, s.c + t.c, s.d + t.d, s.e + t.e, s.f + t.f, s.g + t.g, s.h + t.h⟩

/-- The exclusive or of two digests, word by word. -/
def xor (s t : Digest) : Digest :=
  ⟨s.a ^^^ t.a, s.b ^^^ t.b, s.c ^^^ t.c, s.d ^^^ t.d, s.e ^^^ t.e, s.f ^^^ t.f, s.g ^^^ t.g,
    s.h ^^^ t.h⟩

end Digest

namespace Sha256

/-- The state before the first block. -/
def initial : Digest :=
  ⟨0x6a09e667, 0xbb67ae85, 0x3c6ef372, 0xa54ff53a, 0x510e527f, 0x9b05688c, 0x1f83d9ab, 0x5be0cd19⟩

/-- One constant for each round. -/
def roundConstants : Array UInt32 := #[
  0x428a2f98, 0x71374491, 0xb5c0fbcf, 0xe9b5dba5, 0x3956c25b, 0x59f111f1, 0x923f82a4, 0xab1c5ed5,
  0xd807aa98, 0x12835b01, 0x243185be, 0x550c7dc3, 0x72be5d74, 0x80deb1fe, 0x9bdc06a7, 0xc19bf174,
  0xe49b69c1, 0xefbe4786, 0x0fc19dc6, 0x240ca1cc, 0x2de92c6f, 0x4a7484aa, 0x5cb0a9dc, 0x76f988da,
  0x983e5152, 0xa831c66d, 0xb00327c8, 0xbf597fc7, 0xc6e00bf3, 0xd5a79147, 0x06ca6351, 0x14292967,
  0x27b70a85, 0x2e1b2138, 0x4d2c6dfc, 0x53380d13, 0x650a7354, 0x766a0abb, 0x81c2c92e, 0x92722c85,
  0xa2bfe8a1, 0xa81a664b, 0xc24b8b70, 0xc76c51a3, 0xd192e819, 0xd6990624, 0xf40e3585, 0x106aa070,
  0x19a4c116, 0x1e376c08, 0x2748774c, 0x34b0bcb5, 0x391c0cb3, 0x4ed8aa4a, 0x5b9cca4f, 0x682e6ff3,
  0x748f82ee, 0x78a5636f, 0x84c87814, 0x8cc70208, 0x90befffa, 0xa4506ceb, 0xbef9a3f7, 0xc67178f2]

/-- A word turned right by `n` places. -/
@[inline] def rotate (w n : UInt32) : UInt32 :=
  (w >>> n) ||| (w <<< (32 - n))

/-- The schedule extended by `n` words, each from four words before it. -/
def extend : Nat → Array UInt32 → Array UInt32
  | 0, w => w
  | n + 1, w =>
    let i := w.size
    let x := w.getD (i - 15) 0
    let y := w.getD (i - 2) 0
    let low := rotate x 7 ^^^ rotate x 18 ^^^ (x >>> 3)
    let high := rotate y 17 ^^^ rotate y 19 ^^^ (y >>> 10)
    extend n (w.push (w.getD (i - 16) 0 + low + w.getD (i - 7) 0 + high))

/-- Runs `n` rounds from round `i` on. -/
def rounds (w : Array UInt32) : Nat → Nat → UInt32 → UInt32 → UInt32 → UInt32 → UInt32 → UInt32 →
    UInt32 → UInt32 → Digest
  | 0, _, a, b, c, d, e, f, g, h => ⟨a, b, c, d, e, f, g, h⟩
  | n + 1, i, a, b, c, d, e, f, g, h =>
    let choice := (e &&& f) ^^^ (~~~e &&& g)
    let majority := (a &&& b) ^^^ (a &&& c) ^^^ (b &&& c)
    let first := h + (rotate e 6 ^^^ rotate e 11 ^^^ rotate e 25) + choice +
      roundConstants.getD i 0 + w.getD i 0
    let second := (rotate a 2 ^^^ rotate a 13 ^^^ rotate a 22) + majority
    rounds w n (i + 1) (first + second) a b c (d + first) e f g

/-- The state after one more block of sixteen words. -/
def compress (s : Digest) (block : Array UInt32) : Digest :=
  s.add (rounds (extend 48 block) 64 0 s.a s.b s.c s.d s.e s.f s.g s.h)

/-- The words of bytes, the highest byte first. Fewer than four bytes at the end are left out. -/
def wordsOf : List UInt8 → List UInt32
  | a :: b :: c :: d :: rest =>
    ((a.toUInt32 <<< 24) ||| (b.toUInt32 <<< 16) ||| (c.toUInt32 <<< 8) ||| d.toUInt32) ::
      wordsOf rest
  | _ => []

/-- The state after `n` more blocks, each of sixty-four bytes in front of the rest. -/
def absorb : Nat → Digest → List UInt8 → Digest
  | 0, s, _ => s
  | n + 1, s, bytes => absorb n (compress s (wordsOf (bytes.take 64)).toArray) (bytes.drop 64)

/-- The eight bytes of a length in bits, the highest first. -/
def lengthBytes (bits : Nat) : List UInt8 :=
  [bits >>> 56, bits >>> 48, bits >>> 40, bits >>> 32, bits >>> 24, bits >>> 16, bits >>> 8,
    bits].map Nat.toUInt8

/-- The end of a message of `size` bytes: a mark, zeros up to a whole block, and its length. -/
def padding (size : Nat) : List UInt8 :=
  0x80 :: List.replicate ((119 - size % 64) % 64) 0 ++ lengthBytes (8 * size)

/-- The digest of a message of which `done` bytes, in whole blocks, led to the state `s`. -/
def finish (s : Digest) (done : Nat) (rest : List UInt8) : Digest :=
  let padded := rest ++ padding (done + rest.length)
  absorb (padded.length / 64) s padded

end Sha256

/-- The digest of a message. -/
def sha256 (message : List UInt8) : Digest :=
  Sha256.finish Sha256.initial 0 message

/-- The digest of a text as lower-case hexadecimal digits. -/
def sha256Hex (s : String) : String :=
  Text.hex (sha256 (Text.utf8 s)).bytes

end TodoServer.Crypto
