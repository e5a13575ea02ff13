import Mathlib.Tactic.Basic
import TodoServer.Crypto.Pbkdf2
import TodoServer.Proofs.Auth.Sealing

/-!
# Derivation by the formula

Bytes are derived from a password as the exclusive or of a chain of keyed hashes. The chain runs on
the two states of the key and on whole digests, and comes to what the formula asks for: each link is
the keyed hash of the bytes of the one before it.
-/

namespace TodoServer.Crypto

/-! ## Words and their bytes -/

namespace Sha256

/-- Four bytes side by side are the number that they spell. -/
theorem lor_shifted {a b c d : Nat} (hb : b < 2 ^ 8) (hc : c < 2 ^ 8) (hd : d < 2 ^ 8) :
    a <<< 24 ||| b <<< 16 ||| c <<< 8 ||| d = a * 2 ^ 24 + b * 2 ^ 16 + c * 2 ^ 8 + d := by
  have low : c <<< 8 ||| d = c * 2 ^ 8 + d := by
    rw [← Nat.shiftLeft_add_eq_or_of_lt hd, Nat.shiftLeft_eq]
  have middle : b <<< 16 ||| (c <<< 8 ||| d) = b * 2 ^ 16 + (c * 2 ^ 8 + d) := by
    rw [low, ← Nat.shiftLeft_add_eq_or_of_lt (by omega), Nat.shiftLeft_eq]
  rw [Nat.or_assoc, Nat.or_assoc, middle, ← Nat.shiftLeft_add_eq_or_of_lt (by omega),
    Nat.shiftLeft_eq]
  omega

/-- A word is put together again from its bytes. -/
theorem wordsOf_wordBytes (w : UInt32) (rest : List UInt8) :
    wordsOf (Digest.wordBytes w ++ rest) = w :: wordsOf rest := by
  have bound := w.toNat_lt
  rw [Digest.wordBytes, List.cons_append, List.cons_append, List.cons_append, List.cons_append,
    List.nil_append, wordsOf]
  refine congrArg (· :: wordsOf rest) (UInt32.toNat_inj.1 ?_)
  have keeps {b i : Nat} (hb : b < 2 ^ 8) (hi : i ≤ 24) : b <<< i % 2 ^ 32 = b <<< i := by
    refine Nat.mod_eq_of_lt ?_
    rw [Nat.shiftLeft_eq]
    calc b * 2 ^ i ≤ b * 2 ^ 24 := Nat.mul_le_mul_left b (Nat.pow_le_pow_right (by decide) hi)
      _ < 2 ^ 32 := by omega
  have byte (n : Nat) : n % 2 ^ 8 < 2 ^ 8 := Nat.mod_lt n (by decide)
  simp only [UInt32.toNat_or, UInt32.toNat_shiftLeft, UInt8.toNat_toUInt32, UInt32.toNat_toUInt8,
    UInt32.toNat_shiftRight, UInt32.toNat_ofNat]
  rw [keeps (byte _) (by decide), keeps (byte _) (by decide), keeps (byte _) (by decide),
    lor_shifted (byte _) (byte _) (byte _)]
  simp only [Nat.shiftRight_eq_div_pow, Nat.reducePow, Nat.reduceMod]
  omega

/-- Words are put together again from their bytes. -/
theorem wordsOf_flatMap (ws : List UInt32) (rest : List UInt8) :
    wordsOf (ws.flatMap Digest.wordBytes ++ rest) = ws ++ wordsOf rest := by
  induction ws with
  | nil => rfl
  | cons w others ih =>
    rw [List.flatMap_cons, List.append_assoc, wordsOf_wordBytes, ih, List.cons_append]

/-- A digest behind one block fills the last block. -/
theorem finish_bytes (s d : Digest) : finish s 64 d.bytes = compress s (Hmac.digestBlock d) := by
  have length : (d.bytes ++ padding (64 + d.bytes.length)).length = 64 := by
    rw [List.length_append, Digest.length_bytes]
    rfl
  have ending : wordsOf (padding 96) = [0x80000000, 0, 0, 0, 0, 0, 0, 768] := by decide
  have words :
      wordsOf (d.bytes ++ padding (64 + d.bytes.length)) = d.words ++ wordsOf (padding 96) :=
    wordsOf_flatMap d.words (padding 96)
  rw [finish]
  simp only [length]
  rw [absorb, List.take_of_length_le (Nat.le_of_eq length), words, ending]
  rfl

end Sha256

/-! ## Chains of tags -/

/-- The tag of a digest is the keyed hash of its bytes. -/
theorem Hmac.tagDigest_ofKey (key : List UInt8) (d : Digest) :
    (ofKey key).tagDigest d = hash key d.bytes := by
  rw [← tag_ofKey, tag, Sha256.finish_bytes, Sha256.finish_bytes]
  rfl

namespace Pbkdf2

variable (password salt : List UInt8)

/-- The links of the chain: the keyed hash of the salt and the number of the block, and from then on
the keyed hash of the link before. -/
def link : Nat → Digest
  | 0 => Hmac.hash password (salt ++ [0, 0, 0, 1])
  | i + 1 => Hmac.hash password (link i).bytes

/-- The exclusive or of the first link and as many others as make up the iterations. -/
def derived (iterations : Nat) : Digest :=
  ((List.range' 1 (iterations - 1)).map (link password salt)).foldl Digest.xor
    (link password salt 0)

theorem chain_link (n i : Nat) (sum : Digest) :
    chain (Hmac.ofKey password) n (link password salt i) sum =
      ((List.range' (i + 1) n).map (link password salt)).foldl Digest.xor sum := by
  induction n generalizing i sum with
  | zero => rfl
  | succ n ih =>
    rw [chain, Hmac.tagDigest_ofKey]
    exact ih (i + 1) (sum.xor (link password salt (i + 1)))

end Pbkdf2

/-- What is derived from a password is what the formula says. -/
theorem pbkdf2_eq_derived (password salt : List UInt8) (iterations : Nat) :
    pbkdf2 password salt iterations = Pbkdf2.derived password salt iterations := by
  have first : (Hmac.ofKey password).tag (salt ++ [0, 0, 0, 1]) = Pbkdf2.link password salt 0 :=
    Hmac.tag_ofKey password _
  rw [pbkdf2, first]
  exact Pbkdf2.chain_link password salt (iterations - 1) 0 _

end TodoServer.Crypto
