/-!
# Hexadecimal digits

Bytes written as two lower case digits each, and read in either case.
-/

namespace TodoServer.Text

/-- The digit of a number below sixteen. -/
def hexDigit (n : Nat) : Char :=
  if n < 10 then Char.ofNat ('0'.toNat + n) else Char.ofNat ('a'.toNat + (n - 10))

/-- The value of a hexadecimal digit of either case. -/
def hexValue? (c : Char) : Option Nat :=
  if '0' ≤ c && c ≤ '9' then some (c.toNat - '0'.toNat)
  else if 'a' ≤ c && c ≤ 'f' then some (c.toNat - 'a'.toNat + 10)
  else if 'A' ≤ c && c ≤ 'F' then some (c.toNat - 'A'.toNat + 10)
  else none

/-- The two digits of each byte in order. -/
def hexEncode : List UInt8 → List Char
  | [] => []
  | b :: rest => hexDigit (b.toNat / 16) :: hexDigit (b.toNat % 16) :: hexEncode rest

/-- The bytes of an even number of digits. -/
def hexDecode? : List Char → Option (List UInt8)
  | [] => some []
  | [_] => none
  | high :: low :: rest => do
    let h ← hexValue? high
    let l ← hexValue? low
    let bytes ← hexDecode? rest
    some (UInt8.ofNat (h * 16 + l) :: bytes)

/-- The digits of bytes as a text. -/
def hex (bytes : List UInt8) : String :=
  String.ofList (hexEncode bytes)

theorem hexValue?_hexDigit : ∀ n < 16, hexValue? (hexDigit n) = some n := by decide

/-- Reading gives back the bytes that were written. -/
@[simp] theorem hexDecode?_hexEncode (bytes : List UInt8) :
    hexDecode? (hexEncode bytes) = some bytes := by
  induction bytes with
  | nil => rfl
  | cons b rest ih =>
    have hb : b.toNat < 256 := b.toNat_lt
    have value : UInt8.ofNat (b.toNat / 16 * 16 + b.toNat % 16) = b := by
      rw [Nat.div_add_mod', UInt8.ofNat_toNat]
    simp only [hexEncode, hexDecode?, hexValue?_hexDigit (b.toNat / 16) (by omega),
      hexValue?_hexDigit (b.toNat % 16) (by omega), ih]
    exact congrArg (fun byte => some (byte :: rest)) value

end TodoServer.Text
