import Mathlib.Algebra.Group.Even
import TodoServer.Proofs.Auth.Password
import TodoServer.Proofs.Crypto.Derivation

/-!
# The written form of stored passwords

A text is read as a stored password exactly when it has the four parts of one: the name of the
scheme, a positive number of 32 bits, and salt and derived bytes in hexadecimal digits. What is
written of a password is such a text, and accepts the passwords that derive the same bytes.
-/

namespace TodoServer

namespace Text

/-! ## Digits -/

/-- Whether a character is a hexadecimal digit of either case. -/
def isHexDigit (c : Char) : Bool :=
  c.isDigit || ('a' ≤ c && c ≤ 'f') || ('A' ≤ c && c ≤ 'F')

theorem isSome_hexValue?_iff {c : Char} : (hexValue? c).isSome = true ↔ isHexDigit c = true := by
  have digit : c.isDigit = ('0' ≤ c && c ≤ '9') := by
    rw [Char.isDigit]
    rfl
  rw [hexValue?, isHexDigit, digit]
  split
  · next found => simp [found]
  · next other =>
    split
    · next found => simp [found]
    · next other' =>
      split
      · next found => simp [found]
      · next other'' => simp [other, other', other'']

/-- Bytes are read from an even number of hexadecimal digits. -/
theorem isSome_hexDecode?_iff {cs : List Char} :
    (hexDecode? cs).isSome = true ↔ Even cs.length ∧ ∀ c ∈ cs, isHexDigit c = true := by
  fun_induction hexDecode? cs with
  | case1 => simp
  | case2 c => simp
  | case3 high low rest ih =>
    have here : Even (rest.length + 1 + 1) ↔ Even rest.length := by
      rw [Nat.even_add_one, Nat.even_add_one, not_not]
    rw [List.length_cons, List.length_cons, here, List.forall_mem_cons, List.forall_mem_cons,
      ← isSome_hexValue?_iff, ← isSome_hexValue?_iff, and_left_comm, and_left_comm (b := _ = true),
      ← ih]
    cases hexValue? high <;> cases hexValue? low <;> cases hexDecode? rest <;> simp

theorem length_of_hexDecode? {cs : List Char} {bytes : List UInt8}
    (read : hexDecode? cs = some bytes) : cs.length = 2 * bytes.length := by
  fun_induction hexDecode? cs generalizing bytes with
  | case1 =>
    cases read
    rfl
  | case2 c => cases read
  | case3 high low rest ih =>
    simp only [Option.bind_eq_bind, Option.bind_eq_some_iff, Option.some.injEq] at read
    obtain ⟨h, -, l, -, others, behind, rfl⟩ := read
    rw [List.length_cons, List.length_cons, List.length_cons, ih behind]
    omega

theorem numeral?_eq_some_iff {cs : List Char} {n : Nat} :
    numeral? cs = some n ↔
      cs ≠ [] ∧ (∀ c ∈ cs, c.isDigit = true) ∧ Nat.ofDigitChars 10 cs 0 = n := by
  have value : digitsValue cs = Nat.ofDigitChars 10 cs 0 := by
    simp only [digitsValue, Nat.ofDigitChars_eq_foldl, Nat.mul_comm]
  rw [numeral?, ← List.all_eq_true, ← value]
  cases cs with
  | nil => simp
  | cons c rest => cases digits : (c :: rest).all Char.isDigit <;> simp

/-- An unsigned number is a numeral below the bound, with or without a plus sign. -/
theorem unsigned?_eq_some_iff {bound n : Nat} {cs : List Char} :
    unsigned? bound cs = some n ↔
      ∃ sign digits, cs = sign ++ digits ∧ (sign = [] ∨ sign = ['+']) ∧
        numeral? digits = some n ∧ n < bound := by
  have bounded {x : Option Nat} :
      (x.bind fun m => if m < bound then some m else none) = some n ↔ x = some n ∧ n < bound := by
    cases x with
    | none => simp
    | some m => by_cases below : m < bound <;> simp [below] <;> rintro rfl <;> omega
  -- Without a plus sign the first character is a digit.
  have unsigned {digits : List Char} (read : numeral? digits = some n) :
      ∀ others, digits ≠ '+' :: others := by
    rintro others rfl
    have plus := (numeral?_eq_some_iff.1 read).2.1 '+' List.mem_cons_self
    revert plus
    decide
  constructor
  · intro read
    by_cases signed : ∃ digits, cs = '+' :: digits
    · obtain ⟨digits, rfl⟩ := signed
      obtain ⟨value, below⟩ := bounded.1 read
      exact ⟨['+'], digits, rfl, .inr rfl, value, below⟩
    · rw [unsigned?] at read
      · obtain ⟨value, below⟩ := bounded.1 read
        exact ⟨[], cs, rfl, .inl rfl, value, below⟩
      · exact fun digits plus => signed ⟨digits, plus⟩
  · rintro ⟨sign, digits, rfl, rfl | rfl, value, below⟩
    · rw [List.nil_append, unsigned?]
      · exact bounded.2 ⟨value, below⟩
      · exact unsigned value
    · exact bounded.2 ⟨value, below⟩

theorem dollar_not_mem_of_isHexDigit {cs : List Char} (hex : ∀ c ∈ cs, isHexDigit c = true) :
    '$' ∉ cs :=
  fun mem => absurd (hex '$' mem) (by decide)

theorem dollar_not_mem_unsigned {sign digits : List Char} (signed : sign = [] ∨ sign = ['+'])
    (decimal : ∀ c ∈ digits, c.isDigit = true) : '$' ∉ sign ++ digits := by
  rw [List.mem_append, not_or]
  refine ⟨?_, fun mem => ne_of_isDigit (decimal '$' mem) rfl rfl⟩
  obtain rfl | rfl := signed <;> decide

end Text

namespace Auth

namespace PasswordHash

/-- The texts that are stored passwords: the name of the scheme, an optional plus sign before the
digits of a positive number of 32 bits, pairs of hexadecimal digits, and 64 more of them, with a
dollar sign between each two. -/
def IsWritten (stored : String) : Prop :=
  ∃ sign digits salt derived : List Char,
    stored.toList = ['$'].intercalate ["pbkdf2_sha256".toList, sign ++ digits, salt, derived] ∧
    (sign = [] ∨ sign = ['+']) ∧
    (digits ≠ [] ∧ (∀ c ∈ digits, c.isDigit = true) ∧
      0 < Nat.ofDigitChars 10 digits 0 ∧ Nat.ofDigitChars 10 digits 0 < 2 ^ 32) ∧
    (Even salt.length ∧ ∀ c ∈ salt, Text.isHexDigit c = true) ∧
    (derived.length = 64 ∧ ∀ c ∈ derived, Text.isHexDigit c = true)

theorem parse?_eq_some_iff {stored : String} {h : PasswordHash} :
    parse? stored = some h ↔
      ∃ iterations salt derived,
        Text.splitChars '$' stored.toList = [scheme.toList, iterations, salt, derived] ∧
        Text.unsigned? UInt32.size iterations = some h.iterations ∧ h.iterations ≠ 0 ∧
        Text.hexDecode? salt = some h.salt ∧ Text.hexDecode? derived = some h.derived ∧
        h.derived.length = derivedSize := by
  constructor
  · intro read
    rw [parse?] at read
    split at read
    · next name iterations salt derived parts =>
      by_cases named : String.ofList name = scheme
      · simp only [named, ne_eq, not_true_eq_false, if_false, Option.bind_eq_bind,
          Option.bind_none, Option.bind_eq_some_iff, Option.ite_none_left_eq_some, not_not,
          Option.some.injEq] at read
        obtain ⟨n, counted, positive, s, salted, d, ended, size, rfl⟩ := read
        refine ⟨iterations, salt, derived, ?_, counted, positive, salted, ended, size⟩
        rw [parts, ← named, String.toList_ofList]
      · rw [if_pos named] at read
        cases read
    · cases read
  · rintro ⟨iterations, salt, derived, parts, counted, positive, salted, ended, size⟩
    have named : String.ofList scheme.toList = scheme := String.ofList_toList
    simp only [parse?, parts, named, counted, salted, ended, size, ne_eq, not_true_eq_false,
      if_false, if_neg positive, Option.bind_eq_bind, Option.bind_some]

/-- Stored passwords are read, and no other texts. -/
theorem isSome_parse?_iff {stored : String} : (parse? stored).isSome = true ↔ IsWritten stored := by
  rw [Option.isSome_iff_exists]
  constructor
  · rintro ⟨h, read⟩
    obtain ⟨iterations, salt, derived, parts, counted, positive, salted, ended, size⟩ :=
      parse?_eq_some_iff.1 read
    obtain ⟨sign, digits, rfl, signed, value, below⟩ := Text.unsigned?_eq_some_iff.1 counted
    obtain ⟨some, decimal, value⟩ := Text.numeral?_eq_some_iff.1 value
    refine ⟨sign, digits, salt, derived, ?_, signed, ⟨some, decimal, ?_, ?_⟩,
      Text.isSome_hexDecode?_iff.1 (Option.isSome_of_eq_some salted), ?_,
      (Text.isSome_hexDecode?_iff.1 (Option.isSome_of_eq_some ended)).2⟩
    · rw [Text.splitChars_eq_splitOn] at parts
      exact (List.intercalate_splitOn '$').symm.trans (congrArg _ parts)
    · exact value ▸ Nat.pos_of_ne_zero positive
    · exact value ▸ below
    · rw [Text.length_of_hexDecode? ended, size]
      rfl
  · rintro ⟨sign, digits, salt, derived, parts, signed, ⟨some, decimal, positive, below⟩, salted,
      size, hex⟩
    obtain ⟨s, salted'⟩ := Option.isSome_iff_exists.1 (Text.isSome_hexDecode?_iff.2 salted)
    have even : Even derived.length := size ▸ by decide
    obtain ⟨d, ended⟩ := Option.isSome_iff_exists.1 (Text.isSome_hexDecode?_iff.2 ⟨even, hex⟩)
    have length := Text.length_of_hexDecode? ended
    refine ⟨⟨Nat.ofDigitChars 10 digits 0, s, d⟩, parse?_eq_some_iff.2
      ⟨sign ++ digits, salt, derived, ?_, ?_, positive.ne', salted', ended, ?_⟩⟩
    · rw [parts]
      refine Text.splitChars_intercalate (List.cons_ne_nil _ _) ?_
      simp only [List.forall_mem_cons]
      exact ⟨by decide, Text.dollar_not_mem_unsigned signed decimal,
        Text.dollar_not_mem_of_isHexDigit salted.2, Text.dollar_not_mem_of_isHexDigit hex,
        List.forall_mem_nil _⟩
    · exact Text.unsigned?_eq_some_iff.2
        ⟨sign, digits, rfl, signed, Text.numeral?_eq_some_iff.2 ⟨some, decimal, rfl⟩, below⟩
    · change d.length = 32
      omega

end PasswordHash

/-- A password is accepted exactly when the formula derives the same bytes from it. -/
theorem verifyPassword?_of (stored password : String) (salt : List UInt8) {iterations : Nat}
    (positive : iterations ≠ 0) (bounded : iterations < UInt32.size) :
    verifyPassword? password (PasswordHash.of stored salt iterations).text =
      some (decide ((Crypto.Pbkdf2.derived (Text.utf8 password) salt iterations).bytes =
        (Crypto.Pbkdf2.derived (Text.utf8 stored) salt iterations).bytes)) := by
  have read := verifyPassword?_text stored password salt positive bounded
  rw [Crypto.pbkdf2_eq_derived, Crypto.pbkdf2_eq_derived] at read
  exact read

/-- What is written of a password accepts the passwords from which the formula derives the same
bytes, that password among them, and rejects the others. A text is malformed for every password or
for none: it is when it is not the written form of a stored password. -/
theorem stored_passwords_verify :
    (∀ (stored password : String) (salt : List UInt8) (iterations : Nat),
      1 ≤ iterations → iterations < 2 ^ 32 →
        verifyPassword? password (PasswordHash.of stored salt iterations).text =
          some (decide
            ((Crypto.Pbkdf2.derived (Text.utf8 password) salt iterations).bytes =
              (Crypto.Pbkdf2.derived (Text.utf8 stored) salt iterations).bytes)) ∧
        verifyPassword? stored (PasswordHash.of stored salt iterations).text = some true) ∧
    ∀ stored password : String,
      verifyPassword? password stored = none ↔ ¬ PasswordHash.IsWritten stored := by
  constructor
  · intro stored password salt iterations positive bounded
    have read (given : String) :=
      verifyPassword?_of stored given salt (Nat.ne_of_gt positive) bounded
    exact ⟨read password, (read stored).trans (congrArg some (decide_eq_true rfl))⟩
  · intro stored password
    rw [verifyPassword?, Option.map_eq_none_iff, ← PasswordHash.isSome_parse?_iff,
      Option.not_isSome_iff_eq_none]

/-- A password is accepted after one iteration, and a text without derived bytes is malformed. -/
theorem stored_passwords_verify_pear :
    (1 ≤ 1 ∧ 1 < 2 ^ 32) ∧
      verifyPassword? "pear" (PasswordHash.of "pear" [7] 1).text = some true ∧
      verifyPassword? "pear" "pbkdf2_sha256$+01$0aF0$" = none := by
  have bounds : 1 ≤ 1 ∧ 1 < 2 ^ 32 := by decide
  obtain ⟨accepted, malformed⟩ := stored_passwords_verify
  refine ⟨bounds, (accepted "pear" "pear" [7] 1 bounds.1 bounds.2).2,
    (malformed "pbkdf2_sha256$+01$0aF0$" "pear").2 ?_⟩
  rw [← PasswordHash.isSome_parse?_iff]
  decide +kernel

end Auth

end TodoServer
