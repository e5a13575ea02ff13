import Mathlib.Data.List.Basic
import TodoServer.Text.Utf8

/-!
# Reading texts back from their bytes

The bytes of a text are read as the glyphs of that text, one character after the other.
-/

namespace TodoServer.Text

/-! ## Bytes of a text -/

/-- The bytes of an array from a place on, behind those found before. -/
theorem toList_loop (bytes : ByteArray) (i : Nat) (found : List UInt8) :
    ByteArray.toList.loop bytes i found = found.reverse ++ bytes.data.toList.drop i := by
  fun_induction ByteArray.toList.loop bytes i found with
  | case1 i found inside ih =>
    have there : i < bytes.data.toList.length := inside
    rw [ih, List.drop_eq_getElem_cons there]
    simp [ByteArray.get!, inside]
  | case2 i found outside =>
    have beyond : bytes.data.toList.length ≤ i := Nat.le_of_not_lt outside
    rw [List.drop_eq_nil_of_le beyond, List.append_nil]

theorem utf8_eq_flatMap (s : String) : utf8 s = s.toList.flatMap String.utf8EncodeChar := by
  rw [utf8, ByteArray.toList, toList_loop]
  simp only [List.reverse_nil, List.nil_append, List.drop_zero, String.toUTF8_eq_toByteArray]
  rw [← String.utf8Encode_toList, List.utf8Encode, List.toList_data_toByteArray]

/-! ## Bytes of a character -/

section

variable {n : Nat} (small : n < 256) (b : UInt8)

include small

theorem toNat_byte : (UInt8.ofNat n).toNat = n := by
  rw [UInt8.toNat_ofNat']
  exact Nat.mod_eq_of_lt small

theorem byte_lt_iff : UInt8.ofNat n < b ↔ n < b.toNat := by
  rw [UInt8.lt_iff_toNat_lt, toNat_byte small]

theorem byte_le_iff : UInt8.ofNat n ≤ b ↔ n ≤ b.toNat := by
  rw [UInt8.le_iff_toNat_le, toNat_byte small]

theorem le_byte_iff : b ≤ UInt8.ofNat n ↔ b.toNat ≤ n := by
  rw [UInt8.le_iff_toNat_le, toNat_byte small]

theorem byte_eq_iff : UInt8.ofNat n = b ↔ n = b.toNat := by
  rw [← UInt8.toNat_inj, toNat_byte small]

end

theorem isContinuation_byte (n : Nat) : isContinuation (UInt8.ofNat (n % 64 + 0x80)) = true := by
  have small : n % 64 + 0x80 < 256 := by omega
  simp only [isContinuation, Bool.and_eq_true, decide_eq_true_eq, le_byte_iff small,
    byte_le_iff small, UInt8.reduceToNat]
  omega

theorem payload_byte (n : Nat) : payload (UInt8.ofNat (n % 64 + 0x80)) = n % 64 := by
  rw [payload, toNat_byte (by omega)]
  omega

variable {n : Nat} (rest : List UInt8)

theorem glyphAt_one (high : n ≤ 0x7f) :
    glyphAt (UInt8.ofNat n) rest = (some (Char.ofNat n), 0) := by
  have small : n < 256 := by omega
  have first : UInt8.ofNat n < 0x80 := (byte_lt_iff small _).2 (Nat.lt_succ_of_le high)
  simp only [glyphAt, if_pos first, toNat_byte small]

theorem glyphAt_two (low : 0x80 ≤ n) (high : n ≤ 0x7ff) :
    glyphAt (UInt8.ofNat (n / 64 % 0x20 + 0xc0)) (UInt8.ofNat (n % 64 + 0x80) :: rest) =
      (some (Char.ofNat n), 1) := by
  have small : n / 64 % 0x20 + 0xc0 < 256 := by omega
  have same : (n / 64 % 0x20 + 0xc0 - 0xc0) * 64 + n % 64 = n := by omega
  simp only [glyphAt, Bool.and_eq_true, decide_eq_true_eq, byte_lt_iff small, le_byte_iff small,
    byte_le_iff small, UInt8.reduceToNat, isContinuation_byte, payload_byte, toNat_byte small, same]
  rw [if_neg (by omega), if_pos (by omega)]
  rfl

theorem glyphAt_three (low : 0x800 ≤ n) (high : n ≤ 0xffff) (plain : n < 0xd800 ∨ 0xdfff < n) :
    glyphAt (UInt8.ofNat (n / 4096 % 0x10 + 0xe0))
        (UInt8.ofNat (n / 64 % 64 + 0x80) :: UInt8.ofNat (n % 64 + 0x80) :: rest) =
      (some (Char.ofNat n), 2) := by
  have small : n / 4096 % 0x10 + 0xe0 < 256 := by omega
  have small' : n / 64 % 64 + 0x80 < 256 := by omega
  have same : ((n / 4096 % 0x10 + 0xe0 - 0xe0) * 64 + n / 64 % 64) * 64 + n % 64 = n := by omega
  have second : (secondByteBounds (UInt8.ofNat (n / 4096 % 0x10 + 0xe0))).1 ≤
        UInt8.ofNat (n / 64 % 64 + 0x80) ∧ UInt8.ofNat (n / 64 % 64 + 0x80) ≤
        (secondByteBounds (UInt8.ofNat (n / 4096 % 0x10 + 0xe0))).2 := by
    simp only [secondByteBounds, beq_iff_eq, byte_eq_iff small, UInt8.reduceToNat]
    rw [le_byte_iff small', byte_le_iff small']
    split <;> rename_i first
    · simp only [UInt8.reduceToNat]
      omega
    · split <;> rename_i first'
      · simp only [UInt8.reduceToNat]
        omega
      · rw [if_neg (by omega), if_neg (by omega)]
        simp only [UInt8.reduceToNat]
        omega
  simp only [glyphAt, Bool.and_eq_true, decide_eq_true_eq, byte_lt_iff small, le_byte_iff small,
    byte_le_iff small, UInt8.reduceToNat, isContinuation_byte, payload_byte, toNat_byte small, same]
  rw [if_neg (by omega), if_neg (by omega), if_pos (by omega), if_pos second]
  rfl

theorem glyphAt_four (low : 0x10000 ≤ n) (high : n < 0x110000) :
    glyphAt (UInt8.ofNat (n / 262144 % 8 + 0xf0))
        (UInt8.ofNat (n / 4096 % 64 + 0x80) :: UInt8.ofNat (n / 64 % 64 + 0x80) ::
          UInt8.ofNat (n % 64 + 0x80) :: rest) =
      (some (Char.ofNat n), 3) := by
  have small : n / 262144 % 8 + 0xf0 < 256 := by omega
  have small' : n / 4096 % 64 + 0x80 < 256 := by omega
  have same : (((n / 262144 % 8 + 0xf0 - 0xf0) * 64 + n / 4096 % 64) * 64 + n / 64 % 64) * 64 +
      n % 64 = n := by omega
  have second : (secondByteBounds (UInt8.ofNat (n / 262144 % 8 + 0xf0))).1 ≤
        UInt8.ofNat (n / 4096 % 64 + 0x80) ∧ UInt8.ofNat (n / 4096 % 64 + 0x80) ≤
        (secondByteBounds (UInt8.ofNat (n / 262144 % 8 + 0xf0))).2 := by
    simp only [secondByteBounds, beq_iff_eq, byte_eq_iff small, UInt8.reduceToNat]
    rw [if_neg (by omega), if_neg (by omega), le_byte_iff small', byte_le_iff small']
    split <;> rename_i first
    · simp only [UInt8.reduceToNat]
      omega
    · split <;> rename_i first' <;> simp only [UInt8.reduceToNat] <;> omega
  simp only [glyphAt, Bool.and_eq_true, decide_eq_true_eq, byte_lt_iff small, le_byte_iff small,
    byte_le_iff small, UInt8.reduceToNat, isContinuation_byte, payload_byte, toNat_byte small, same]
  rw [if_neg (by omega), if_neg (by omega), if_neg (by omega), if_pos (by omega), if_pos second]
  rfl

/-- The bytes of a character are read as that character, whatever follows. -/
theorem glyphAt_utf8EncodeChar (c : Char) :
    ∃ lead tail, String.utf8EncodeChar c = lead :: tail ∧
      glyphAt lead (tail ++ rest) = (some c, tail.length) := by
  have valid : c.val.toNat < 0xd800 ∨ 0xdfff < c.val.toNat ∧ c.val.toNat < 0x110000 := c.valid
  have back : Char.ofNat c.val.toNat = c := Char.ofNat_toNat c
  rw [String.utf8EncodeChar]
  generalize c.val.toNat = n at valid back
  subst back
  split
  · next one => exact ⟨_, [], rfl, glyphAt_one rest one⟩
  · split
    · next two => exact ⟨_, [_], rfl, glyphAt_two rest (by omega) two⟩
    · split
      · next three => exact ⟨_, [_, _], rfl, glyphAt_three rest (by omega) three (by omega)⟩
      · exact ⟨_, [_, _, _], rfl, glyphAt_four rest (by omega) (by omega)⟩

/-! ## Glyphs of a text -/

theorem glyphsAfter_utf8 (found : List Glyph) (cs : List Char) :
    glyphsAfter found (cs.flatMap String.utf8EncodeChar) = found.reverse ++ cs.map some := by
  induction cs generalizing found with
  | nil =>
    rw [List.flatMap_nil, glyphsAfter]
    simp
  | cons c cs ih =>
    obtain ⟨lead, tail, bytes, read⟩ :=
      glyphAt_utf8EncodeChar (cs.flatMap String.utf8EncodeChar) c
    rw [List.flatMap_cons, bytes, List.cons_append, glyphsAfter]
    simp only [read, List.drop_left, ih]
    simp

/-- Reading the bytes of a text gives back its characters. -/
@[simp] theorem glyphs_utf8 (s : String) : glyphs (utf8 s) = glyphsOf s := by
  rw [glyphs, utf8_eq_flatMap, glyphsAfter_utf8]
  rfl

theorem utf8_injective : Function.Injective utf8 := by
  intro s t same
  have glyphs : glyphsOf s = glyphsOf t := by rw [← glyphs_utf8, ← glyphs_utf8, same]
  have spelled : s.toList = t.toList := List.map_injective_iff.2 (fun _ _ => Option.some.inj) glyphs
  exact String.toList_inj.1 spelled

theorem utf8_append (s t : String) : utf8 (s ++ t) = utf8 s ++ utf8 t := by
  rw [utf8_eq_flatMap, utf8_eq_flatMap, utf8_eq_flatMap, String.toList_append, List.flatMap_append]

end TodoServer.Text
