import TodoServer.Api.Form
import TodoServer.Proofs.Auth.WrittenForm
import TodoServer.Proofs.Text.Utf8

/-!
# Passwords that are one key

A password is the key of a keyed hash: its bytes, or their digest when they are more than a block,
and zeros up to a whole block. So passwords that differ in zeros at the end alone derive the same
bytes, whatever the salt and the number of iterations, and each is accepted for the other. Any other
two passwords lead to two different messages that are hashed last, and one of them is accepted for
the other after one iteration only if the hashes of the two collide.
-/

namespace TodoServer

namespace Text

/-- So many NUL characters. -/
def nuls (n : Nat) : String := String.ofList (List.replicate n '\x00')

theorem utf8_nuls (n : Nat) : utf8 (nuls n) = List.replicate n 0 := by
  have one : String.utf8EncodeChar '\x00' = [0] := by decide
  rw [utf8_eq_flatMap, nuls, String.toList_ofList]
  induction n with
  | zero => rfl
  | succ n ih => rw [List.replicate_succ, List.flatMap_cons, ih, one, List.replicate_succ,
      List.singleton_append]

end Text

namespace Crypto.Hmac

/-! ## Keys -/

/-- The bytes of a key in front of the zeros that fill its block. -/
def material (key : List UInt8) : List UInt8 :=
  if 64 < key.length then (sha256 key).bytes else key

theorem material_of_le {key : List UInt8} (short : key.length ≤ 64) : material key = key :=
  if_neg (Nat.not_lt.2 short)

theorem length_material_le (key : List UInt8) : (material key).length ≤ 64 := by
  rw [material]
  split
  · rw [Digest.length_bytes]
    omega
  · omega

theorem keyBlock_eq (key : List UInt8) :
    keyBlock key = material key ++ List.replicate (64 - (material key).length) 0 := rfl

/-- Whether one list of bytes is the other with zeros behind it. -/
def DifferInZeros (a b : List UInt8) : Prop :=
  ∃ n, a = b ++ List.replicate n 0 ∨ b = a ++ List.replicate n 0

/-- Zeros up to one length hide how many zeros there were before. -/
theorem append_zeros_eq_iff {a b : List UInt8} {size : Nat} (ha : a.length ≤ size)
    (hb : b.length ≤ size) :
    a ++ List.replicate (size - a.length) 0 = b ++ List.replicate (size - b.length) 0 ↔
      DifferInZeros a b := by
  -- The shorter one is in front of both, and what follows it in the longer one are zeros.
  have front {x y : List UInt8} (hx : x.length ≤ size) (hy : y.length ≤ size)
      (shorter : x.length ≤ y.length)
      (same : x ++ List.replicate (size - x.length) 0 = y ++ List.replicate (size - y.length) 0) :
      y = x ++ List.replicate (y.length - x.length) 0 := by
    have zeros : List.replicate (size - x.length) (0 : UInt8) =
        List.replicate (y.length - x.length) 0 ++ List.replicate (size - y.length) 0 := by
      rw [List.replicate_append_replicate]
      congr 1
      omega
    rw [zeros, ← List.append_assoc] at same
    exact (List.append_inj_left' same rfl).symm
  have filled {x y : List UInt8} {n : Nat} (hx : x.length ≤ size)
      (more : x = y ++ List.replicate n 0) :
      x ++ List.replicate (size - x.length) 0 = y ++ List.replicate (size - y.length) 0 := by
    subst more
    rw [List.length_append, List.length_replicate] at hx ⊢
    rw [List.append_assoc, List.replicate_append_replicate]
    congr 2
    omega
  constructor
  · intro same
    rcases Nat.le_total a.length b.length with shorter | shorter
    · exact ⟨_, .inr (front ha hb shorter same)⟩
    · exact ⟨_, .inl (front hb ha shorter same.symm)⟩
  · rintro ⟨n, more | more⟩
    · exact filled ha more
    · exact (filled hb more).symm

/-- Two keys fill the same block when they differ in zeros at the end alone. -/
theorem keyBlock_eq_iff {key other : List UInt8} :
    keyBlock key = keyBlock other ↔ DifferInZeros (material key) (material other) := by
  rw [keyBlock_eq, keyBlock_eq]
  exact append_zeros_eq_iff (length_material_le key) (length_material_le other)

/-! ## Messages -/

/-- The message that is hashed last for a tag: the masked key, and the digest of the masked key and
the message. -/
def lastMessage (key message : List UInt8) : List UInt8 :=
  (keyBlock key).map (· ^^^ 0x5c) ++ (sha256 ((keyBlock key).map (· ^^^ 0x36) ++ message)).bytes

theorem hash_eq (key message : List UInt8) : hash key message = sha256 (lastMessage key message) :=
  rfl

/-- Keys of different blocks are not hashed with the same last message. -/
theorem lastMessage_ne {key other : List UInt8} (apart : keyBlock key ≠ keyBlock other)
    (message others : List UInt8) : lastMessage key message ≠ lastMessage other others := by
  intro same
  have whole : ((keyBlock key).map (· ^^^ 0x5c)).length =
      ((keyBlock other).map (· ^^^ 0x5c)).length := by
    rw [List.length_map, List.length_map, length_keyBlock, length_keyBlock]
  have masked := List.append_inj_left same whole
  have unmask : Function.Injective (fun b : UInt8 => b ^^^ 0x5c) := by
    intro b c same
    exact (UInt8.xor_left_inj 0x5c).1 same
  exact apart (List.map_injective_iff.2 unmask masked)

end Crypto.Hmac

namespace Auth

open Crypto

/-- Whether two passwords are one key. -/
def SameKey (password other : String) : Prop :=
  Hmac.DifferInZeros (Hmac.material (Text.utf8 password)) (Hmac.material (Text.utf8 other))

/-- Passwords that fit into a block are one key when they differ in NUL characters at the end. -/
theorem sameKey_iff_of_le {password other : String} (short : (Text.utf8 password).length ≤ 64)
    (short' : (Text.utf8 other).length ≤ 64) :
    SameKey password other ↔
      ∃ n, password = other ++ Text.nuls n ∨ other = password ++ Text.nuls n := by
  have read (s t : String) (n : Nat) :
      Text.utf8 s = Text.utf8 t ++ List.replicate n 0 ↔ s = t ++ Text.nuls n := by
    rw [← Text.utf8_nuls, ← Text.utf8_append, Text.utf8_injective.eq_iff]
  rw [SameKey, Hmac.material_of_le short, Hmac.material_of_le short', Hmac.DifferInZeros]
  simp only [read]

/-- Passwords that are one key are accepted for each other. -/
theorem verifyPassword?_of_sameKey {stored password : String} (same : SameKey stored password)
    (salt : List UInt8) {iterations : Nat} (positive : 1 ≤ iterations)
    (bounded : iterations < 2 ^ 32) :
    verifyPassword? password (PasswordHash.of stored salt iterations).text = some true := by
  have block := Hmac.keyBlock_eq_iff.2 same
  rw [verifyPassword?_text stored password salt (Nat.ne_of_gt positive) bounded,
    pbkdf2_congr block, decide_eq_true rfl]

/-- After one iteration a password is accepted when the messages that are hashed last have one
digest. -/
theorem verifyPassword?_once (stored password : String) (salt : List UInt8) :
    verifyPassword? password (PasswordHash.of stored salt 1).text =
      some (decide (sha256 (Hmac.lastMessage (Text.utf8 password) (salt ++ [0, 0, 0, 1])) =
        sha256 (Hmac.lastMessage (Text.utf8 stored) (salt ++ [0, 0, 0, 1])))) := by
  have once (given : String) : Pbkdf2.derived (Text.utf8 given) salt 1 =
      sha256 (Hmac.lastMessage (Text.utf8 given) (salt ++ [0, 0, 0, 1])) :=
    Hmac.hash_eq (Text.utf8 given) (salt ++ [0, 0, 0, 1])
  rw [verifyPassword?_of stored password salt (by decide) (by decide), once, once]
  simp only [Digest.bytes_injective.eq_iff]

/-- Two passwords that are one key are accepted for each other under every salt and after any number
of iterations. Of two others neither is accepted for the other after one iteration, under any salt,
unless the two messages that are hashed last, which differ, have one digest. Passwords of up to 64
bytes are one key when they differ in NUL characters at the end alone. -/
theorem passwords_interchangeable_as_keys :
    (∀ stored password : String, SameKey stored password →
      ∀ (salt : List UInt8) (iterations : Nat), 1 ≤ iterations → iterations < 2 ^ 32 →
        verifyPassword? password (PasswordHash.of stored salt iterations).text = some true) ∧
    (∀ stored password : String, ¬SameKey stored password → ∀ salt : List UInt8,
      Hmac.lastMessage (Text.utf8 password) (salt ++ [0, 0, 0, 1]) ≠
          Hmac.lastMessage (Text.utf8 stored) (salt ++ [0, 0, 0, 1]) ∧
        verifyPassword? password (PasswordHash.of stored salt 1).text =
          some (decide (sha256 (Hmac.lastMessage (Text.utf8 password) (salt ++ [0, 0, 0, 1])) =
            sha256 (Hmac.lastMessage (Text.utf8 stored) (salt ++ [0, 0, 0, 1]))))) ∧
    ∀ stored password : String, (Text.utf8 stored).length ≤ 64 →
      (Text.utf8 password).length ≤ 64 →
      (SameKey stored password ↔
        ∃ n, stored = password ++ Text.nuls n ∨ password = stored ++ Text.nuls n) := by
  refine ⟨fun stored password same salt iterations => verifyPassword?_of_sameKey same salt, ?_,
    fun stored password => sameKey_iff_of_le⟩
  intro stored password apart salt
  have blocks : Hmac.keyBlock (Text.utf8 password) ≠ Hmac.keyBlock (Text.utf8 stored) := by
    intro same
    exact apart (Hmac.keyBlock_eq_iff.1 same.symm)
  exact ⟨Hmac.lastMessage_ne blocks _ _, verifyPassword?_once stored password salt⟩

/-- A password and the same with a NUL behind it are one key, and it is not one key with another
password of its length. -/
theorem interchangeable_as_keys_sample :
    SameKey "12345678" "12345678\x00" ∧ ¬SameKey "12345678" "87654321" ∧
      verifyPassword? "12345678\x00" (PasswordHash.of "12345678" [7] 1).text = some true ∧
      Hmac.lastMessage (Text.utf8 "87654321") ([7] ++ [0, 0, 0, 1]) ≠
        Hmac.lastMessage (Text.utf8 "12345678") ([7] ++ [0, 0, 0, 1]) := by
  obtain ⟨accepted, refused, short⟩ := passwords_interchangeable_as_keys
  have same : SameKey "12345678" "12345678\x00" :=
    (short _ _ (by decide +kernel) (by decide +kernel)).2 ⟨1, .inr (by decide +kernel)⟩
  have apart : ¬SameKey "12345678" "87654321" := by
    intro same
    obtain ⟨n, more | more⟩ := (short _ _ (by decide +kernel) (by decide +kernel)).1 same
    · simpa [Text.nuls] using congrArg (fun s => s.toList.head?) more
    · simpa [Text.nuls] using congrArg (fun s => s.toList.head?) more
  exact ⟨same, apart, accepted _ _ same [7] 1 (by decide) (by decide), (refused _ _ apart [7]).1⟩

/-- Whether some salt and number of iterations tell two passwords apart. -/
def ToldApart (stored password : String) : Prop :=
  ∃ (salt : List UInt8) (iterations : Nat), 1 ≤ iterations ∧ iterations < 2 ^ 32 ∧
    verifyPassword? password (PasswordHash.of stored salt iterations).text = some false

theorem not_toldApart {stored password : String} (same : SameKey stored password) :
    ¬ToldApart stored password := by
  rintro ⟨salt, iterations, positive, bounded, refused⟩
  rw [verifyPassword?_of_sameKey same salt positive bounded] at refused
  cases refused

/-- A password is not told apart from the same one with a NUL behind it, and one of more than 64
bytes is not from the characters that its digest spells. -/
theorem padded_password_accepted :
    (Api.passwordRule "12345678" = [] ∧ Api.passwordRule "12345678\x00" = [] ∧
      "12345678" ≠ "12345678\x00" ∧ ¬ToldApart "12345678" "12345678\x00") ∧
    let long := "a password of more than sixty-four characters, counted onwards: 382865055"
    let spelled := "3\u01c0\x11.2BUrc&\x08\u0155\x17B\x7b4Zy\x1e\nKH\x19zuodB\x13>"
    Api.passwordRule long = [] ∧ Api.passwordRule spelled = [] ∧ long ≠ spelled ∧
      ¬ToldApart long spelled := by
  refine ⟨⟨by decide, by decide, by decide, not_toldApart ⟨1, .inr ?_⟩⟩, by decide, by decide,
    by decide, not_toldApart ⟨0, .inl ?_⟩⟩
  · decide +kernel
  · decide +kernel

end Auth

end TodoServer
