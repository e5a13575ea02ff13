import TodoServer.Proofs.Json.Reading
import TodoServer.Proofs.Number.Shortest

/-!
# Reading floats back

The text of a finite float has a fraction or an exponent, and it is read as a float again: whole
floats do not turn into integers, and no float grows beyond all of them.
-/

namespace TodoServer.Json.Draft

open Text (Glyph)

/-! ## Numerals with a fraction or an exponent -/

/-- Digits that can stand in front of the point of a numeral. -/
structure Leads (whole : List Char) : Prop where
  digits : ∀ c ∈ whole, c.isDigit = true
  held : whole ≠ []
  lead : whole.head? = some '0' → whole.length = 1

/-- Digits that can stand behind the point of a numeral. -/
structure Follows (fraction : List Char) : Prop where
  digits : ∀ c ∈ fraction, c.isDigit = true
  held : fraction ≠ []

theorem follows_zero : Follows ['0'] :=
  ⟨fun c mem => by rw [List.mem_singleton.1 mem]; rfl, List.cons_ne_nil _ _⟩

theorem leads_zero : Leads ['0'] := ⟨follows_zero.digits, follows_zero.held, fun _ => rfl⟩

section

variable {whole fraction : List Char} {rest : List Glyph}

theorem Leads.accepted (leads : Leads whole) :
    (whole.isEmpty || (whole.head? == some '0' && decide (1 < whole.length))) = false := by
  have held : whole.isEmpty = false := List.isEmpty_eq_false_iff.2 leads.held
  rw [held, Bool.false_or, Bool.and_eq_false_imp]
  intro zero
  rw [leads.lead (beq_iff_eq.1 zero)]
  rfl

/-- A numeral with a fraction. -/
theorem takeNumber?_fraction (negative : Bool) (leads : Leads whole) (follows : Follows fraction)
    (ends : EndsNumber rest) :
    takeNumber? negative (whole.map some ++ some '.' :: (fraction.map some ++ rest)) =
      some (number negative whole (some fraction) none, rest) := by
  have wholes := takeDigits_append leads.digits (some '.' :: (fraction.map some ++ rest))
    (by rintro c ⟨⟩; rfl)
  have fractions := takeDigits_append follows.digits rest fun c head => (ends c head).1
  have held : fraction.isEmpty = false := List.isEmpty_eq_false_iff.2 follows.held
  rw [takeNumber?]
  simp only [wholes, leads.accepted, fractions, held]
  cases rest with
  | nil => rfl
  | cons g rest =>
    cases g with
    | none => rfl
    | some c =>
      obtain ⟨-, -, small, large⟩ := ends c rfl
      simp [small, large]

/-- The sign of an exponent. -/
def signChar (e : Int) : Char := if e < 0 then '-' else '+'

theorem takeExponent?_toDigits (e : Int) (ends : EndsNumber rest) :
    takeExponent? (some (signChar e) :: ((Nat.toDigits 10 e.natAbs).map some ++ rest)) =
      some (e, rest) := by
  have digits := takeDigits_toDigits e.natAbs ends
  have held : (Nat.toDigits 10 e.natAbs).isEmpty = false :=
    List.isEmpty_eq_false_iff.2 Nat.toDigits_ne_nil
  rw [signChar]
  split
  · next negative =>
    have value : -1 * (e.natAbs : ℤ) = e := by omega
    simp only [takeExponent?, digits, held, Text.digitsValue_toDigits, value]
    rfl
  · next positive =>
    have value : 1 * (e.natAbs : ℤ) = e := by omega
    simp only [takeExponent?, digits, held, Text.digitsValue_toDigits, value]
    rfl

/-- A numeral with an exponent and perhaps a fraction. -/
theorem takeNumber?_exponent (negative : Bool) (leads : Leads whole)
    (fraction? : Option (List Char)) (follows : ∀ f ∈ fraction?, Follows f) (e : Int)
    (ends : EndsNumber rest) :
    takeNumber? negative (whole.map some ++ (((fraction?.elim [] ('.' :: ·)).map some ++
        some 'e' :: some (signChar e) :: ((Nat.toDigits 10 e.natAbs).map some ++ rest)))) =
      some (number negative whole fraction? (some e), rest) := by
  have exponents := takeExponent?_toDigits e ends
  cases fraction? with
  | none =>
    have wholes := takeDigits_append leads.digits (some 'e' :: some (signChar e) ::
      ((Nat.toDigits 10 e.natAbs).map some ++ rest)) (by rintro c ⟨⟩; rfl)
    rw [takeNumber?]
    simp only [Option.elim_none, List.map_nil, List.nil_append, wholes, leads.accepted]
    simp [exponents]
  | some fraction =>
    have follows := follows fraction rfl
    have wholes := takeDigits_append leads.digits (some '.' :: (fraction.map some ++
      some 'e' :: some (signChar e) :: ((Nat.toDigits 10 e.natAbs).map some ++ rest)))
      (by rintro c ⟨⟩; rfl)
    have fractions := takeDigits_append follows.digits (some 'e' :: some (signChar e) ::
      ((Nat.toDigits 10 e.natAbs).map some ++ rest)) (by rintro c ⟨⟩; rfl)
    have held : fraction.isEmpty = false := List.isEmpty_eq_false_iff.2 follows.held
    rw [takeNumber?]
    simp only [Option.elim_some, List.map_cons, List.cons_append, wholes, leads.accepted, fractions,
      held]
    simp [exponents]

/-- A numeral with a fraction or an exponent is a float, if it stays below the overflow. -/
theorem number_eq_float (negative : Bool) (whole : List Char) (fraction? : Option (List Char))
    (exponent? : Option Int) (marked : fraction?.isSome = true ∨ exponent?.isSome = true)
    (small : (Text.digitsValue (whole ++ fraction?.getD []) : ℚ) *
      10 ^ (exponent?.getD 0 - (fraction?.getD []).length) < Double.overflow) :
    ∃ d, number negative whole fraction? exponent? = .float d := by
  have finite := Double.isFinite_ofDecimal negative small
  have notInt : (fraction?.isNone && exponent?.isNone) = false := by
    cases fraction? <;> cases exponent? <;> simp_all
  refine ⟨Double.ofDecimal negative (Text.digitsValue (whole ++ fraction?.getD []))
    (exponent?.getD 0 - (fraction?.getD []).length), ?_⟩
  rw [number, notInt]
  simp only [Bool.false_and, Bool.false_eq_true, if_false]
  exact if_pos finite

theorem takeNumber?_of_fraction (negative : Bool) (leads : Leads whole) (follows : Follows fraction)
    (small : (Text.digitsValue (whole ++ fraction) : ℚ) * 10 ^ (-(fraction.length : ℤ)) <
      Double.overflow) :
    ∃ d, ∀ rest, EndsNumber rest →
      takeNumber? negative (whole.map some ++ some '.' :: (fraction.map some ++ rest)) =
        some (.float d, rest) := by
  obtain ⟨d, eq⟩ := number_eq_float negative whole (some fraction) none (.inl rfl)
    (by rwa [Option.getD_none, Option.getD_some, zero_sub])
  exact ⟨d, fun rest ends => by rw [takeNumber?_fraction negative leads follows ends, eq]⟩

theorem takeNumber?_of_exponent (negative : Bool) (leads : Leads whole)
    {fraction? : Option (List Char)} (follows : ∀ f ∈ fraction?, Follows f) {e : Int}
    (small : (Text.digitsValue (whole ++ fraction?.getD []) : ℚ) *
      10 ^ (e - (fraction?.getD []).length) < Double.overflow) :
    ∃ d, ∀ rest, EndsNumber rest →
      takeNumber? negative (whole.map some ++ (((fraction?.elim [] ('.' :: ·)).map some ++
          some 'e' :: some (signChar e) :: ((Nat.toDigits 10 e.natAbs).map some ++ rest)))) =
        some (.float d, rest) := by
  obtain ⟨d, eq⟩ := number_eq_float negative whole fraction? (some e) (.inr rfl) small
  exact ⟨d, fun rest ends => by
    rw [takeNumber?_exponent negative leads fraction? follows e ends, eq]⟩

end

/-! ## The texts of decimals -/

section

variable {d : Decimal}

theorem text_ne_nil (d : Decimal) : d.text ≠ [] := Nat.toDigits_ne_nil

theorem length_text_pos (d : Decimal) : 0 < d.text.length :=
  List.length_pos_of_ne_nil (text_ne_nil d)

theorem isDigit_of_mem_text : ∀ c ∈ d.text, c.isDigit = true := Text.isDigit_of_mem_toDigits

theorem digitsValue_text (d : Decimal) : Text.digitsValue d.text = d.digits :=
  Text.digitsValue_toDigits d.digits

theorem isDigit_of_mem_replicate {k : Nat} : ∀ c ∈ List.replicate k '0', c.isDigit = true := by
  intro c mem
  rw [List.eq_of_mem_replicate mem]
  rfl

/-- The digits of a decimal that is not zero can stand in front of a point, or some of them, or with
more digits behind them. -/
theorem leads_of_head? (positive : d.digits ≠ 0) {whole : List Char}
    (digits : ∀ c ∈ whole, c.isDigit = true) (same : whole.head? = d.text.head?) :
    Leads whole where
  digits := digits
  held := by
    rintro rfl
    exact text_ne_nil d (List.head?_eq_none_iff.1 same.symm)
  lead zero := absurd (same.symm.trans zero) (Text.head?_toDigits_of_ne_zero positive)

/-- Digits in front of a point and behind it that have the value of a decimal. -/
structure Spells (d : Decimal) (whole fraction : List Char) : Prop where
  leads : Leads whole
  follows : Follows fraction
  value : (Text.digitsValue (whole ++ fraction) : ℚ) * 10 ^ (-(fraction.length : ℤ)) = d.value

/-- A whole number has zeros behind its digits and a fraction of one zero. -/
theorem spells_whole (positive : d.digits ≠ 0) (whole : 0 ≤ d.exponent) :
    Spells d (d.text ++ List.replicate d.exponent.toNat '0') ['0'] where
  leads := by
    refine leads_of_head? positive ?_ (List.head?_append_of_ne_nil _ (text_ne_nil d))
    intro c mem
    rcases List.mem_append.1 mem with own | zero
    · exact isDigit_of_mem_text c own
    · exact isDigit_of_mem_replicate c zero
  follows := follows_zero
  value := by
    obtain ⟨k, eq⟩ := Int.eq_ofNat_of_zero_le whole
    rw [Text.digitsValue_append, Text.digitsValue_append, digitsValue_text,
      Text.digitsValue_replicate_zero, List.length_replicate, Decimal.value, eq, Int.toNat_natCast,
      zpow_natCast, List.length_singleton, show Text.digitsValue ['0'] = 0 from rfl]
    push_cast
    rw [zpow_neg_one]
    ring

/-- The point stands among the digits. -/
theorem spells_inside (positive : d.digits ≠ 0) (broken : d.exponent < 0)
    (inside : 0 ≤ d.leadingExponent) : Spells d (d.text.take (d.leadingExponent.toNat + 1))
      (d.text.drop (d.leadingExponent.toNat + 1)) := by
  have lead : d.leadingExponent = d.exponent + d.text.length - 1 := rfl
  have short : d.leadingExponent.toNat + 1 < d.text.length := by omega
  refine ⟨?_, ⟨fun c mem => isDigit_of_mem_text c (List.mem_of_mem_drop mem), by simp [short]⟩, ?_⟩
  · exact leads_of_head? positive (fun c mem => isDigit_of_mem_text c (List.mem_of_mem_take mem))
      (by rw [List.head?_take, if_neg (Nat.succ_ne_zero _)])
  · rw [List.take_append_drop, digitsValue_text, Decimal.value, List.length_drop]
    congr 2
    omega

/-- The point stands before the digits, with zeros between. -/
theorem spells_before (before : d.leadingExponent < 0) :
    Spells d ['0'] (List.replicate (-d.leadingExponent - 1).toNat '0' ++ d.text) where
  leads := leads_zero
  follows := by
    refine ⟨?_, by simp [text_ne_nil]⟩
    intro c mem
    rcases List.mem_append.1 mem with zero | own
    · exact isDigit_of_mem_replicate c zero
    · exact isDigit_of_mem_text c own
  value := by
    have lead : d.leadingExponent = d.exponent + d.text.length - 1 := rfl
    have long := length_text_pos d
    rw [Text.digitsValue_append, Text.digitsValue_append, digitsValue_text,
      Text.digitsValue_replicate_zero, List.length_append, List.length_replicate, Decimal.value]
    congr 2
    · simp [Text.digitsValue]
    · omega

theorem positional_eq (positive : d.digits ≠ 0) : ∃ whole fraction, Spells d whole fraction ∧
    DecimalLayout.interchange.positional d = whole ++ '.' :: fraction := by
  rw [DecimalLayout.positional]
  split
  · next whole => exact ⟨_, _, spells_whole positive whole, rfl⟩
  · next broken =>
    split
    · next inside => exact ⟨_, _, spells_inside positive (Int.not_le.1 broken) inside, rfl⟩
    · next before => exact ⟨_, _, spells_before (Int.not_le.1 before), rfl⟩

/-- A positional text is read as a float. -/
theorem takeNumber?_positional (negative : Bool) (positive : d.digits ≠ 0)
    (small : d.value < Double.overflow) : ∃ x, ∀ rest, EndsNumber rest →
      takeNumber? negative ((DecimalLayout.interchange.positional d).map some ++ rest) =
        some (.float x, rest) := by
  obtain ⟨whole, fraction, spells, written⟩ := positional_eq positive
  obtain ⟨x, read⟩ :=
    takeNumber?_of_fraction negative spells.leads spells.follows (spells.value.trans_lt small)
  refine ⟨x, fun rest ends => ?_⟩
  rw [← read rest ends, written, List.map_append, List.map_cons, List.append_assoc,
    List.cons_append]

/-- The digits behind the first one are the fraction, unless there are none. -/
theorem scientific_eq (d : Decimal) : ∃ fraction? : Option (List Char),
    fraction?.getD [] = d.text.drop 1 ∧ (∀ f ∈ fraction?, f = d.text.drop 1 ∧ f ≠ []) ∧
      DecimalLayout.interchange.scientific d = d.text.take 1 ++ (fraction?.elim [] ('.' :: ·) ++
        'e' :: signChar d.leadingExponent :: Nat.toDigits 10 d.leadingExponent.natAbs) := by
  have unpadded : 1 - (Nat.toDigits 10 d.leadingExponent.natAbs).length = 0 := by
    have := List.length_pos_of_ne_nil
      (Nat.toDigits_ne_nil (b := 10) (n := d.leadingExponent.natAbs))
    omega
  rw [DecimalLayout.scientific]
  cases digits : d.text.drop 1 with
  | nil =>
    refine ⟨none, rfl, nofun, ?_⟩
    simp [DecimalLayout.interchange, unpadded, signChar]
  | cons c cs =>
    refine ⟨some (c :: cs), rfl, ?_, ?_⟩
    · rintro f ⟨⟩
      exact ⟨rfl, List.cons_ne_nil c cs⟩
    · simp [DecimalLayout.interchange, unpadded, signChar]

/-- A text with an exponent is read as a float. -/
theorem takeNumber?_scientific (negative : Bool) (positive : d.digits ≠ 0)
    (small : d.value < Double.overflow) : ∃ x, ∀ rest, EndsNumber rest →
      takeNumber? negative ((DecimalLayout.interchange.scientific d).map some ++ rest) =
        some (.float x, rest) := by
  have lead : d.leadingExponent = d.exponent + d.text.length - 1 := rfl
  have long := length_text_pos d
  have leads : Leads (d.text.take 1) :=
    leads_of_head? positive (fun c mem => isDigit_of_mem_text c (List.mem_of_mem_take mem))
      (by rw [List.head?_take, if_neg one_ne_zero])
  obtain ⟨fraction?, part, own, spelled⟩ := scientific_eq d
  have follows : ∀ f ∈ fraction?, Follows f := by
    intro f mem
    obtain ⟨rfl, held⟩ := own f mem
    exact ⟨fun c mem => isDigit_of_mem_text c (List.mem_of_mem_drop mem), held⟩
  have same : (Text.digitsValue (d.text.take 1 ++ fraction?.getD []) : ℚ) *
      10 ^ (d.leadingExponent - (fraction?.getD []).length) = d.value := by
    rw [part, List.take_append_drop, digitsValue_text, Decimal.value, List.length_drop]
    congr 2
    omega
  obtain ⟨x, read⟩ := takeNumber?_of_exponent negative leads follows (same.trans_lt small)
  refine ⟨x, fun rest ends => ?_⟩
  rw [← read rest ends, spelled]
  simp only [List.map_append, List.map_cons, List.append_assoc, List.cons_append]

theorem takeNumber?_write (negative : Bool) (positive : d.digits ≠ 0)
    (small : d.value < Double.overflow) : ∃ x, ∀ rest, EndsNumber rest →
      takeNumber? negative ((DecimalLayout.interchange.write d).map some ++ rest) =
        some (.float x, rest) := by
  rw [DecimalLayout.write]
  split
  · exact takeNumber?_positional negative positive small
  · exact takeNumber?_scientific negative positive small

end

/-! ## The texts of floats -/

/-- The shortest decimal of a finite double is read as a float. -/
theorem takeNumber?_shortest (negative : Bool) {d : Double} (finite : d.isFinite = true) :
    ∃ x, ∀ rest, EndsNumber rest →
      takeNumber? negative ((DecimalLayout.interchange.write d.shortest).map some ++ rest) =
        some (.float x, rest) := by
  by_cases zero : d.magnitudeBits = 0
  · have written : DecimalLayout.interchange.write d.shortest = ['0', '.', '0'] := by
      rw [Double.shortest, if_pos zero]
      decide
    have small : (Text.digitsValue (['0'] ++ ['0']) : ℚ) * 10 ^ (-(['0'].length : ℤ)) <
        Double.overflow := by
      rw [show Text.digitsValue (['0'] ++ ['0']) = 0 from rfl, Nat.cast_zero, zero_mul]
      exact Double.overflow_pos
    rw [written]
    exact takeNumber?_of_fraction negative leads_zero follows_zero small
  · obtain ⟨positive, small⟩ := Double.shortest_bounds finite zero
    exact takeNumber?_write negative positive small

/-- A number begins with a digit. -/
theorem exists_digit_of_takeNumber? {negative : Bool} {cs : List Glyph} {x : Draft × List Glyph}
    (read : takeNumber? negative cs = some x) :
    ∃ c rest, cs = some c :: rest ∧ c.isDigit = true := by
  match cs with
  | [] => cases read
  | none :: rest => cases read
  | some c :: rest =>
    refine ⟨c, rest, rfl, ?_⟩
    by_contra other
    simp [takeNumber?, takeDigits, other] at read

/-- The text of a finite float in front of other text is read as a float. -/
theorem value_float {d : Double} (finite : d.isFinite = true) :
    ∃ x, ∀ (depth : Nat) (rest : List Glyph), EndsNumber rest →
      value depth ((Json.float d).chars.map some ++ rest) = (.float x, rest) := by
  obtain ⟨x, reads⟩ := takeNumber?_shortest d.isNegative finite
  refine ⟨x, fun depth rest ends => ?_⟩
  have read := reads rest ends
  rw [Json.chars, writeFloat, if_pos finite, Double.writeFinite, String.toList_ofList]
  cases negative : d.isNegative with
  | true =>
    rw [negative] at read
    exact value_of_minus depth read
  | false =>
    rw [negative] at read
    obtain ⟨c, cs, opening, digit⟩ := exists_digit_of_takeNumber? read
    simp only [Bool.false_eq_true, if_false, List.nil_append]
    rw [opening] at read ⊢
    exact value_of_digit depth digit read

end TodoServer.Json.Draft
