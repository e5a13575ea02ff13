/-!
# Base 64 for addresses

Three bytes are four characters out of letters, digits, `-` and `_`. One or two bytes at the end are
two or three characters, without filling. Each text has one reading, and each list of bytes one
text.
-/

namespace TodoServer.Text.Base64Url

/-- The character of six bits. -/
def character (n : Nat) : Char :=
  if n < 26 then Char.ofNat ('A'.toNat + n)
  else if n < 52 then Char.ofNat ('a'.toNat + (n - 26))
  else if n < 62 then Char.ofNat ('0'.toNat + (n - 52))
  else if n = 62 then '-' else '_'

/-- The six bits of a character. -/
def bits? (c : Char) : Option Nat :=
  if 'A' ≤ c && c ≤ 'Z' then some (c.toNat - 'A'.toNat)
  else if 'a' ≤ c && c ≤ 'z' then some (c.toNat - 'a'.toNat + 26)
  else if '0' ≤ c && c ≤ '9' then some (c.toNat - '0'.toNat + 52)
  else if c = '-' then some 62
  else if c = '_' then some 63
  else none

/-- The characters of bytes. -/
def encode : List UInt8 → List Char
  | [] => []
  | [a] => [character (a.toNat / 4), character (a.toNat % 4 * 16)]
  | [a, b] =>
    [character (a.toNat / 4), character (a.toNat % 4 * 16 + b.toNat / 16),
      character (b.toNat % 16 * 4)]
  | a :: b :: c :: rest =>
    character (a.toNat / 4) :: character (a.toNat % 4 * 16 + b.toNat / 16) ::
      character (b.toNat % 16 * 4 + c.toNat / 64) :: character (c.toNat % 64) :: encode rest

/-- The bytes of characters. Bits that no byte takes have to be zero. -/
def decode? : List Char → Option (List UInt8)
  | [] => some []
  | [_] => none
  | [w, x] => do
    let w ← bits? w
    let x ← bits? x
    if x % 16 = 0 then some [UInt8.ofNat (w * 4 + x / 16)] else none
  | [w, x, y] => do
    let w ← bits? w
    let x ← bits? x
    let y ← bits? y
    if y % 4 = 0 then some [UInt8.ofNat (w * 4 + x / 16), UInt8.ofNat (x % 16 * 16 + y / 4)]
    else none
  | w :: x :: y :: z :: rest => do
    let w ← bits? w
    let x ← bits? x
    let y ← bits? y
    let z ← bits? z
    let bytes ← decode? rest
    some (UInt8.ofNat (w * 4 + x / 16) :: UInt8.ofNat (x % 16 * 16 + y / 4) ::
      UInt8.ofNat (y % 4 * 64 + z) :: bytes)

theorem bits?_character : ∀ n < 64, bits? (character n) = some n := by decide

/-- Reading gives back the bytes that were written. -/
@[simp] theorem decode?_encode (bytes : List UInt8) : decode? (encode bytes) = some bytes := by
  have byte : ∀ (b : UInt8) (n : Nat), n = b.toNat → UInt8.ofNat n = b := by
    rintro b n rfl
    exact UInt8.ofNat_toNat
  fun_induction encode bytes with
  | case1 => rfl
  | case2 a =>
    have ha := a.toNat_lt
    have hx : a.toNat % 4 * 16 % 16 = 0 := by omega
    simp only [decode?, bits?_character (a.toNat / 4) (by omega),
      bits?_character (a.toNat % 4 * 16) (by omega), Option.bind_eq_bind, Option.bind_some,
      if_pos hx]
    rw [byte a _ (by omega)]
  | case3 a b =>
    have ha := a.toNat_lt
    have hb := b.toNat_lt
    have hy : b.toNat % 16 * 4 % 4 = 0 := by omega
    simp only [decode?, bits?_character (a.toNat / 4) (by omega),
      bits?_character (a.toNat % 4 * 16 + b.toNat / 16) (by omega),
      bits?_character (b.toNat % 16 * 4) (by omega), Option.bind_eq_bind, Option.bind_some,
      if_pos hy]
    rw [byte a _ (by omega), byte b _ (by omega)]
  | case4 a b c rest ih =>
    have ha := a.toNat_lt
    have hb := b.toNat_lt
    have hc := c.toNat_lt
    simp only [decode?, bits?_character (a.toNat / 4) (by omega),
      bits?_character (a.toNat % 4 * 16 + b.toNat / 16) (by omega),
      bits?_character (b.toNat % 16 * 4 + c.toNat / 64) (by omega),
      bits?_character (c.toNat % 64) (by omega), ih, Option.bind_eq_bind, Option.bind_some]
    rw [byte a _ (by omega), byte b _ (by omega), byte c _ (by omega)]

/-- The text of bytes. -/
def text (bytes : List UInt8) : String :=
  String.ofList (encode bytes)

/-- The bytes of a text. -/
def bytes? (s : String) : Option (List UInt8) :=
  decode? s.toList

end TodoServer.Text.Base64Url
