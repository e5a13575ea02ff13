import TodoServer.Auth.Password
import TodoServer.Proofs.Text.Numeral
import TodoServer.Proofs.Text.Parts
import TodoServer.Text.Hex

/-!
# Stored passwords read back

The written form of a stored password is read as what was written, so that a password is accepted
exactly when it derives the bytes that are stored.
-/

namespace TodoServer

namespace Text

/-- No hexadecimal digit is a separator of stored passwords. -/
theorem dollar_not_mem_hexEncode (bytes : List UInt8) : '$' ∉ hexEncode bytes := by
  have digit : ∀ n < 16, '$' ≠ hexDigit n := by decide
  induction bytes with
  | nil => exact List.not_mem_nil
  | cons b rest ih =>
    have hb : b.toNat < 256 := b.toNat_lt
    rw [hexEncode, List.mem_cons, List.mem_cons, not_or, not_or]
    exact ⟨digit _ (by omega), digit _ (by omega), ih⟩

theorem dollar_not_mem_toDigits (n : Nat) : '$' ∉ Nat.toDigits 10 n :=
  fun mem => ne_of_isDigit (isDigit_of_mem_toDigits '$' mem) rfl rfl

end Text

namespace Auth

namespace PasswordHash

/-- The characters between the separators of a written form. -/
def parts (h : PasswordHash) : List (List Char) :=
  [scheme.toList, Nat.toDigits 10 h.iterations, Text.hexEncode h.salt, Text.hexEncode h.derived]

theorem toList_text (h : PasswordHash) : h.text.toList = ['$'].intercalate h.parts := by
  have separator : "$".toList = ['$'] := rfl
  simp only [text, Text.join, String.toList_intercalate, separator, List.map_cons, List.map_nil,
    Text.decimalNat, Text.hex, String.toList_ofList, parts]

theorem splitChars_text (h : PasswordHash) : Text.splitChars '$' h.text.toList = h.parts := by
  rw [toList_text]
  refine Text.splitChars_intercalate (List.cons_ne_nil _ _) ?_
  simp only [parts, List.forall_mem_cons]
  exact ⟨by decide, Text.dollar_not_mem_toDigits _, Text.dollar_not_mem_hexEncode _,
    Text.dollar_not_mem_hexEncode _, List.forall_mem_nil _⟩

/-- The written form is read as what was written. -/
theorem parse?_text {h : PasswordHash} (positive : h.iterations ≠ 0)
    (bounded : h.iterations < UInt32.size) (size : h.derived.length = derivedSize) :
    parse? h.text = some h := by
  have name : String.ofList scheme.toList = scheme := String.ofList_toList
  simp only [parse?, splitChars_text, parts, name, Text.unsigned?_toDigits, if_pos bounded,
    Text.hexDecode?_hexEncode, size, ne_eq, not_true_eq_false, if_false, if_neg positive,
    Option.bind_eq_bind, Option.bind_some]

theorem accepts_of_iff (stored password : String) (salt : List UInt8) (iterations : Nat) :
    (of stored salt iterations).accepts password = true ↔
      (Crypto.pbkdf2 (Text.utf8 password) salt iterations).bytes =
        (Crypto.pbkdf2 (Text.utf8 stored) salt iterations).bytes := by
  rw [accepts, of, Crypto.constantTimeEq_iff]

end PasswordHash

/-- A password is accepted exactly when it derives the bytes of the password that was stored. -/
theorem verifyPassword?_text (stored password : String) (salt : List UInt8) {iterations : Nat}
    (positive : iterations ≠ 0) (bounded : iterations < UInt32.size) :
    verifyPassword? password (PasswordHash.of stored salt iterations).text =
      some (decide ((Crypto.pbkdf2 (Text.utf8 password) salt iterations).bytes =
        (Crypto.pbkdf2 (Text.utf8 stored) salt iterations).bytes)) := by
  have read : PasswordHash.parse? (PasswordHash.of stored salt iterations).text = _ :=
    PasswordHash.parse?_text positive bounded (Crypto.Digest.length_bytes _)
  rw [verifyPassword?, read, Option.map_some, Option.some_inj, Bool.eq_iff_iff, decide_eq_true_iff]
  exact PasswordHash.accepts_of_iff stored password salt iterations

/-- The password that was stored is accepted. -/
theorem verifyPassword?_hashPassword (password : String) (salt : List UInt8) :
    verifyPassword? password (hashPassword password salt) = some true := by
  have positive : PasswordHash.standardIterations ≠ 0 := by decide
  have bounded : PasswordHash.standardIterations < UInt32.size := by decide
  rw [hashPassword, PasswordHash.fresh, verifyPassword?_text password password salt
    positive bounded, decide_eq_true rfl]

end Auth

end TodoServer
