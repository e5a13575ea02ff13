import Mathlib.Tactic.Ring
import TodoServer.Text.Ascii

/-!
# Reading numerals back

Whole numbers are written with digits alone, without zeros in front, and read back as what they
are.
-/

namespace TodoServer.Text

theorem digitsValue_toDigits (n : Nat) : digitsValue (Nat.toDigits 10 n) = n :=
  calc digitsValue (Nat.toDigits 10 n)
      = Nat.ofDigitChars 10 (Nat.toDigits 10 n) 0 := by
        simp only [digitsValue, Nat.ofDigitChars_eq_foldl, Nat.mul_comm]
    _ = n := Nat.ofDigitChars_ten_toDigits

theorem digitsValue_append (cs ds : List Char) :
    digitsValue (cs ++ ds) = digitsValue cs * 10 ^ ds.length + digitsValue ds := by
  have carried (ds : List Char) (n : Nat) :
      ds.foldl (fun n c => n * 10 + (c.toNat - '0'.toNat)) n =
        n * 10 ^ ds.length + digitsValue ds := by
    induction ds generalizing n with
    | nil => simp [digitsValue]
    | cons d ds ih =>
      have single : digitsValue (d :: ds) =
          (0 * 10 + (d.toNat - '0'.toNat)) * 10 ^ ds.length + digitsValue ds := ih _
      rw [List.foldl_cons, ih, single, List.length_cons]
      ring
  rw [digitsValue, List.foldl_append]
  exact carried ds (digitsValue cs)

theorem digitsValue_replicate_zero (k : Nat) : digitsValue (List.replicate k '0') = 0 := by
  induction k with
  | zero => rfl
  | succ k ih => exact ih

theorem numeral?_toDigits (n : Nat) : numeral? (Nat.toDigits 10 n) = some n := by
  have digits : (Nat.toDigits 10 n).all Char.isDigit = true := by
    rw [List.all_eq_true]
    exact isDigit_of_mem_toDigits
  have held : (Nat.toDigits 10 n).isEmpty = false := List.isEmpty_eq_false_iff.2 Nat.toDigits_ne_nil
  rw [numeral?, digits, held, digitsValue_toDigits]
  rfl

/-- A numeral begins with a digit. -/
theorem toDigits_eq_cons (n : Nat) :
    ∃ c cs, Nat.toDigits 10 n = c :: cs ∧ c.isDigit = true := by
  cases digits : Nat.toDigits 10 n with
  | nil => exact absurd digits Nat.toDigits_ne_nil
  | cons c cs =>
    exact ⟨c, cs, rfl, isDigit_of_mem_toDigits c (digits ▸ List.mem_cons_self)⟩

/-- A numeral of more than one digit does not begin with a zero. -/
theorem head?_toDigits {n : Nat} (long : 10 ≤ n) : (Nat.toDigits 10 n).head? ≠ some '0' := by
  induction n using Nat.strongRecOn with
  | ind n ih =>
    obtain ⟨c, cs, digits, -⟩ := toDigits_eq_cons (n / 10)
    rw [Nat.toDigits_of_base_le (by decide) long, digits, List.cons_append, List.head?_cons,
      ← List.head?_cons (l := cs), ← digits]
    by_cases more : 10 ≤ n / 10
    · exact ih (n / 10) (by omega) more
    · rw [Nat.toDigits_of_lt_base (by omega)]
      have digit : ∀ d < 10, d ≠ 0 → d.digitChar ≠ '0' := by decide
      exact fun zero => digit (n / 10) (by omega) (by omega) (Option.some.inj zero)

theorem length_toDigits_of_lt {n : Nat} (short : n < 10) : (Nat.toDigits 10 n).length = 1 := by
  rw [Nat.toDigits_of_lt_base short]
  rfl

/-- The numeral of a positive number does not begin with a zero. -/
theorem head?_toDigits_of_ne_zero {n : Nat} (positive : n ≠ 0) :
    (Nat.toDigits 10 n).head? ≠ some '0' := by
  by_cases long : 10 ≤ n
  · exact head?_toDigits long
  · have digit : ∀ d < 10, d ≠ 0 → d.digitChar ≠ '0' := by decide
    rw [Nat.toDigits_of_lt_base (Nat.lt_of_not_le long)]
    exact fun zero => digit n (Nat.lt_of_not_le long) positive (Option.some.inj zero)

theorem ne_of_isDigit {c d : Char} (digit : c.isDigit = true) (other : d.isDigit = false) :
    c ≠ d := by
  rintro rfl
  exact Bool.false_ne_true (other.symm.trans digit)

/-- A whole number is written as its sign and its digits. -/
theorem toList_decimal (n : Int) :
    (decimal n).toList = (if n < 0 then ['-'] else []) ++ Nat.toDigits 10 n.natAbs := by
  cases n with
  | ofNat k =>
    have positive : ¬Int.ofNat k < 0 := Int.not_lt.2 (Int.natCast_nonneg k)
    rw [decimal, String.toList_ofList, if_neg positive]
    rfl
  | negSucc k =>
    rw [decimal, String.toList_ofList, if_pos (Int.negSucc_lt_zero k)]
    rfl

/-- Unsigned numbers below the bound are read back, others are not read at all. -/
theorem unsigned?_toDigits (bound n : Nat) :
    unsigned? bound (Nat.toDigits 10 n) = if n < bound then some n else none := by
  obtain ⟨c, cs, digits, digit⟩ := toDigits_eq_cons n
  have plus : c ≠ '+' := ne_of_isDigit digit rfl
  have read : numeral? (c :: cs) = some n := digits ▸ numeral?_toDigits n
  rw [digits, unsigned?]
  · rw [read, Option.bind_eq_bind, Option.bind_some]
  · exact fun _ same => plus (List.cons.inj same).1

/-- Whole numbers of 64 bits are read back, others are not read at all. -/
theorem signed64?_decimal (n : Int) : signed64? (decimal n).toList =
    if -9223372036854775808 ≤ n ∧ n ≤ 9223372036854775807 then some n else none := by
  cases n with
  | ofNat k =>
    obtain ⟨c, cs, digits, digit⟩ := toDigits_eq_cons k
    have minus : c ≠ '-' := ne_of_isDigit digit rfl
    have plus : c ≠ '+' := ne_of_isDigit digit rfl
    have read : numeral? (c :: cs) = some k := digits ▸ numeral?_toDigits k
    rw [decimal, String.toList_ofList, digits, signed64?]
    · rw [read, Option.map_some, Option.bind_eq_bind, Option.bind_some]
    · exact fun _ same => minus (List.cons.inj same).1
    · exact fun _ same => plus (List.cons.inj same).1
  | negSucc k =>
    have value : -Int.ofNat (k + 1) = Int.negSucc k := rfl
    rw [decimal, String.toList_ofList, signed64?, numeral?_toDigits, Option.map_some,
      Option.bind_eq_bind, Option.bind_some, value]

end TodoServer.Text
