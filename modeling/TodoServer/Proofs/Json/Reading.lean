import TodoServer.Json.Shape
import TodoServer.Proofs.Text.Numeral
import TodoServer.Proofs.Text.Utf8

/-!
# Reading documents back

The compact text of a document without floats is read as that document, whatever its texts hold.
Whole numbers beyond 64 bits alone come back as something else.
-/

namespace TodoServer.Json

namespace Draft

open Text (Glyph)

/-! ## Quoted texts -/

theorem length_le_length_flatMap_escapeChar (cs : List Char) :
    cs.length ≤ (cs.flatMap escapeChar).length := by
  have one (c : Char) : 1 ≤ (escapeChar c).length := by
    simp only [escapeChar]
    repeat' split
    all_goals exact Nat.le_of_ble_eq_true rfl
  induction cs with
  | nil => exact Nat.le_refl 0
  | cons c cs ih =>
    have first := one c
    rw [List.flatMap_cons, List.length_append, List.length_cons]
    omega

/-- The four digits of a control character. -/
theorem takeUnit?_control {n : Nat} (control : n < 0x20) (rest : List Glyph) :
    takeUnit? (some '0' :: some '0' :: some (Char.ofNat ('0'.toNat + n / 16)) ::
      some (Nat.digitChar (n % 16)) :: rest) = some (n, rest) := by
  have high : ∀ n < 0x20, Text.hexValue? (Char.ofNat ('0'.toNat + n / 16)) = some (n / 16) := by
    decide
  have low : ∀ n < 0x20, Text.hexValue? (Nat.digitChar (n % 16)) = some (n % 16) := by decide
  have zero : Text.hexValue? '0' = some 0 := rfl
  have value : ((0 * 16 + 0) * 16 + n / 16) * 16 + n % 16 = n := by omega
  simp only [takeUnit?, zero, high n control, low n control, Option.bind_eq_bind, Option.bind_some,
    value]

/-- The escape of a character is read as that character. -/
theorem quoted?_escapeChar (fuel : Nat) (found : List Char) (c : Char) (rest : List Glyph) :
    quoted? (fuel + 1) (some found) ((escapeChar c).map some ++ rest) =
      quoted? fuel (some (c :: found)) rest := by
  rw [escapeChar]
  -- Seven characters have an escape of one letter.
  iterate 7
    split
    · next same =>
      subst same
      rfl
  rename_i noQuote noBackslash _ _ _ _ _
  split
  · next control =>
    have back : Char.ofNat c.toNat = c := Char.ofNat_toNat c
    have noHigh : ¬(decide (0xD800 ≤ c.toNat) && decide (c.toNat < 0xDC00)) = true := by
      simp only [Bool.and_eq_true, decide_eq_true_eq]
      omega
    have noLow : ¬(decide (0xDC00 ≤ c.toNat) && decide (c.toNat < 0xE000)) = true := by
      simp only [Bool.and_eq_true, decide_eq_true_eq]
      omega
    have unit := takeUnit?_control control rest
    have apart : '\\' ≠ '"' := by decide
    simp only [List.map_cons, List.map_nil, List.cons_append, List.nil_append, quoted?,
      if_neg apart, if_true, unit, if_neg noHigh, if_neg noLow,
      Option.map_some, back]
  · next plain =>
    simp only [List.map_cons, List.map_nil, List.cons_append, List.nil_append, quoted?,
      if_neg noQuote, if_neg noBackslash, if_neg plain, Option.map_some]

theorem quoted?_flatMap_escapeChar {fuel : Nat} (found cs : List Char) (rest : List Glyph)
    (enough : cs.length < fuel) :
    quoted? fuel (some found) ((cs.flatMap escapeChar).map some ++ some '"' :: rest) =
      some (some (found.reverse ++ cs), rest) := by
  induction cs generalizing fuel found with
  | nil =>
    obtain ⟨fuel, rfl⟩ := Nat.exists_eq_succ_of_ne_zero (Nat.ne_of_gt enough)
    rw [List.append_nil]
    rfl
  | cons c cs ih =>
    obtain ⟨fuel, rfl⟩ := Nat.exists_eq_succ_of_ne_zero (Nat.ne_of_gt (Nat.zero_lt_of_lt enough))
    rw [List.flatMap_cons, List.map_append, List.append_assoc, quoted?_escapeChar,
      ih _ (Nat.lt_of_succ_lt_succ enough), List.reverse_cons, List.append_assoc]
    rfl

/-- A text in quotes is read as that text. -/
theorem quoted?_quote (cs : List Char) (rest : List Glyph) :
    quoted? (((cs.flatMap escapeChar).map some ++ some '"' :: rest).length + 1) (some [])
      ((cs.flatMap escapeChar).map some ++ some '"' :: rest) = some (some cs, rest) := by
  refine quoted?_flatMap_escapeChar [] cs rest ?_
  have long := length_le_length_flatMap_escapeChar cs
  rw [List.length_append, List.length_map]
  omega

/-! ## Blanks -/

theorem skipBlank_cons {c : Char} (bare : isSeparating c = false) (rest : List Glyph) :
    skipBlank (some c :: rest) = some c :: rest := by
  simp [skipBlank, bare]

theorem isSeparating_of_isDigit {c : Char} (digit : c.isDigit = true) : isSeparating c = false := by
  simp only [isSeparating, Bool.or_eq_false_iff, beq_eq_false_iff_ne]
  exact ⟨⟨⟨Text.ne_of_isDigit digit rfl, Text.ne_of_isDigit digit rfl⟩,
    Text.ne_of_isDigit digit rfl⟩, Text.ne_of_isDigit digit rfl⟩

/-! ## Numbers -/

/-- What follows does not go on with a numeral. -/
def EndsNumber (rest : List Glyph) : Prop :=
  ∀ c, rest.head? = some (some c) → c.isDigit = false ∧ c ≠ '.' ∧ c ≠ 'e' ∧ c ≠ 'E'

theorem endsNumber_nil : EndsNumber [] := nofun

theorem endsNumber_cons {c : Char} (other : c.isDigit = false ∧ c ≠ '.' ∧ c ≠ 'e' ∧ c ≠ 'E')
    (rest : List Glyph) : EndsNumber (some c :: rest) := by
  rintro d ⟨⟩
  exact other

/-- What the numeral of a whole number is read as. -/
def ofInt (n : Int) : Draft :=
  number (n < 0) (Nat.toDigits 10 n.natAbs) none none

/-- Whether a whole number has 64 bits, with a sign or without. -/
def hasBits (n : Int) : Bool := -9223372036854775808 ≤ n && n < 18446744073709551616

/-- Such a number is read as what it is, and any other number as none. -/
theorem ofInt_eq_int_iff {n m : Int} : ofInt n = .int m ↔ m = n ∧ hasBits n = true := by
  have sizes : Nat.pow 2 63 = 9223372036854775808 ∧ Nat.pow 2 64 = 18446744073709551616 := by decide
  have value : (if n < 0 then -(n.natAbs : Int) else n.natAbs) = n := by
    split <;> omega
  have inside : (if n < 0 then 0 < n.natAbs && n.natAbs ≤ 9223372036854775808
      else decide (n.natAbs < 18446744073709551616)) = hasBits n := by
    rw [hasBits, Bool.eq_iff_iff]
    split <;> simp only [Bool.and_eq_true, decide_eq_true_eq] <;> omega
  simp only [ofInt, number, Text.digitsValue_toDigits, Option.isNone_none, Bool.true_and,
    decide_eq_true_eq, sizes.1, sizes.2, value, inside]
  cases hasBits n with
  | true => simp [eq_comm]
  | false =>
    simp only [Bool.false_eq_true, if_false, and_false, iff_false]
    split <;> exact nofun

theorem takeDigits_append {cs : List Char} (digits : ∀ c ∈ cs, c.isDigit = true) (rest : List Glyph)
    (stop : ∀ c, rest.head? = some (some c) → c.isDigit = false) :
    takeDigits (cs.map some ++ rest) = (cs, rest) := by
  have inside : ∀ g ∈ cs.map some, (g.any Char.isDigit) = true := by
    intro g mem
    obtain ⟨c, digit, rfl⟩ := List.mem_map.1 mem
    exact digits c digit
  have none : rest.takeWhile (·.any Char.isDigit) = [] ∧
      rest.dropWhile (·.any Char.isDigit) = rest := by
    cases rest with
    | nil => exact ⟨rfl, rfl⟩
    | cons g rest =>
      have other : (g.any Char.isDigit) = false := by
        cases g with
        | none => rfl
        | some c => exact stop c rfl
      exact ⟨List.takeWhile_cons_of_neg (by rw [other]; exact Bool.false_ne_true),
        List.dropWhile_cons_of_neg (by rw [other]; exact Bool.false_ne_true)⟩
  rw [takeDigits, List.takeWhile_append_of_pos inside, List.dropWhile_append_of_pos inside, none.1,
    none.2, List.append_nil, List.filterMap_map]
  simp

theorem takeDigits_toDigits (n : Nat) {rest : List Glyph} (ends : EndsNumber rest) :
    takeDigits ((Nat.toDigits 10 n).map some ++ rest) = (Nat.toDigits 10 n, rest) :=
  takeDigits_append Text.isDigit_of_mem_toDigits rest fun c head => (ends c head).1

theorem takeNumber?_toDigits (negative : Bool) (n : Nat) {rest : List Glyph}
    (ends : EndsNumber rest) :
    takeNumber? negative ((Nat.toDigits 10 n).map some ++ rest) =
      some (number negative (Nat.toDigits 10 n) none none, rest) := by
  have held : (Nat.toDigits 10 n).isEmpty = false := List.isEmpty_eq_false_iff.2 Nat.toDigits_ne_nil
  have lead : ((Nat.toDigits 10 n).head? == some '0' && decide (1 < (Nat.toDigits 10 n).length)) =
      false := by
    by_cases long : 10 ≤ n
    · rw [beq_eq_false_iff_ne.2 (Text.head?_toDigits long), Bool.false_and]
    · rw [Text.length_toDigits_of_lt (Nat.lt_of_not_le long), Bool.and_comm]
      rfl
  rw [takeNumber?]
  simp only [takeDigits_toDigits n ends, held, lead]
  cases rest with
  | nil => rfl
  | cons g rest =>
    cases g with
    | none => rfl
    | some c =>
      obtain ⟨-, point, small, large⟩ := ends c rfl
      simp [point, small, large]

end Draft

/-! ## Documents -/

mutual

/-- What the text of a value is read as: that value, but for whole numbers beyond 64 bits. -/
def reread : Json → Draft
  | null => .null
  | bool b => .bool b
  | int n => .ofInt n
  | float d => .float d
  | str s => .str s
  | arr items => .arr (rereadItems items) true
  | obj members => .obj (rereadMembers members) true

/-- What the texts of items are read as. -/
def rereadItems : List Json → List Draft
  | [] => []
  | item :: rest => reread item :: rereadItems rest

/-- What the texts of members are read as. -/
def rereadMembers : List (String × Json) → List (String × Draft)
  | [] => []
  | (name, item) :: rest => (name, reread item) :: rereadMembers rest

end

mutual

/-- Whether there is no float in a value. -/
def isFloatless : Json → Bool
  | float _ => false
  | arr items => areFloatless items
  | obj members => haveFloatless members
  | _ => true

/-- Whether there is no float in some items. -/
def areFloatless : List Json → Bool
  | [] => true
  | item :: rest => item.isFloatless && areFloatless rest

/-- Whether there is no float in the values of some members. -/
def haveFloatless : List (String × Json) → Bool
  | [] => true
  | (_, item) :: rest => item.isFloatless && haveFloatless rest

end

namespace Draft

open Text (Glyph)

/-- The text of a value begins with a character that neither separates nor closes. -/
theorem chars_eq_cons (j : Json) (floatless : j.isFloatless = true) :
    ∃ c cs, j.chars = c :: cs ∧ isSeparating c = false ∧ c ≠ ']' := by
  cases j with
  | null => exact ⟨_, _, rfl, by decide, by decide⟩
  | bool b => cases b <;> exact ⟨_, _, rfl, by decide, by decide⟩
  | int n =>
    rw [Json.chars, Text.toList_decimal]
    split
    · exact ⟨_, _, rfl, by decide, by decide⟩
    · obtain ⟨c, cs, digits, digit⟩ := Text.toDigits_eq_cons n.natAbs
      exact ⟨c, cs, digits, isSeparating_of_isDigit digit, Text.ne_of_isDigit digit rfl⟩
  | float d => cases floatless
  | str s => exact ⟨_, _, rfl, by decide, by decide⟩
  | arr items => exact ⟨_, _, rfl, by decide, by decide⟩
  | obj members => exact ⟨_, _, rfl, by decide, by decide⟩

section

variable {cs rest : List Glyph} {found : Draft}

/-- What begins with a digit is a number. -/
theorem value_of_digit (depth : Nat) {c : Char} (digit : c.isDigit = true)
    (read : takeNumber? false (some c :: cs) = some (found, rest)) :
    value depth (some c :: cs) = (found, rest) := by
  rw [value, skipBlank_cons (isSeparating_of_isDigit digit)]
  split
  case h_8 =>
    rw [read]
    rfl
  -- A digit begins none of the other values.
  all_goals
    rename_i same
    cases (List.cons.inj same).1
    cases digit

/-- What begins with a minus sign is a number. -/
theorem value_of_minus (depth : Nat) (read : takeNumber? true cs = some (found, rest)) :
    value depth (some '-' :: cs) = (found, rest) := by
  rw [value, skipBlank_cons (by decide)]
  simp only
  rw [read]
  rfl

end

/-- A numeral in front of other text is read as its number. -/
theorem value_int (depth : Nat) (n : Int) {rest : List Glyph} (ends : EndsNumber rest) :
    value depth ((Json.int n).chars.map some ++ rest) = (ofInt n, rest) := by
  rw [Json.chars, Text.toList_decimal, ofInt]
  by_cases negative : n < 0
  · rw [if_pos negative, decide_eq_true negative]
    exact value_of_minus depth (takeNumber?_toDigits true n.natAbs ends)
  · obtain ⟨c, cs, digits, digit⟩ := Text.toDigits_eq_cons n.natAbs
    have number := takeNumber?_toDigits false n.natAbs ends
    rw [if_neg negative, decide_eq_false negative, List.nil_append]
    rw [digits, List.map_cons, List.cons_append] at number ⊢
    exact value_of_digit depth digit number

/-- A text in quotes in front of other text is read as that text. -/
theorem value_str (depth : Nat) (s : String) (rest : List Glyph) :
    value depth ((Json.str s).chars.map some ++ rest) = (.str s, rest) := by
  have read := quoted?_quote s.toList rest
  have spelled : (Json.str s).chars.map some ++ rest = some '"' ::
      ((s.toList.flatMap escapeChar).map some ++ some '"' :: rest) := by
    rw [Json.chars, quote]
    simp
  rw [spelled, value, skipBlank_cons (by decide)]
  simp only
  rw [read]
  simp only [String.ofList_toList]

/-! ## Containers -/

section

variable {read : List Glyph → Draft × List Glyph} {cs rest : List Glyph} {item : Draft}

theorem items_last (fuel : Nat) (found : List Draft) (reads : read cs = (item, some ']' :: rest)) :
    items read (fuel + 1) found cs = ((item :: found).reverse, true, rest) := by
  rw [items, reads]
  simp only
  rw [skipBlank_cons (by decide)]
  rfl

theorem items_more (fuel : Nat) (found : List Draft) (reads : read cs = (item, some ',' :: rest)) :
    items read (fuel + 1) found cs = items read fuel (item :: found) rest := by
  rw [items, reads]
  simp only
  rw [skipBlank_cons (by decide)]
  rfl

/-- The name of a member is read as it is written. -/
theorem members_quote (fuel : Nat) (found : List (String × Draft)) (name : String)
    (cs : List Glyph) :
    members read (fuel + 1) found ((quote name).map some ++ some ':' :: cs) =
      match skipBlank (read cs).2 with
      | some ',' :: rest => members read fuel ((name, (read cs).1) :: found) rest
      | some '\x7d' :: rest => (((name, (read cs).1) :: found).reverse, true, rest)
      | _ => (((name, (read cs).1) :: found).reverse, false, []) := by
  have named := quoted?_quote name.toList (some ':' :: cs)
  have spelled : (quote name).map some ++ some ':' :: cs = some '"' ::
      ((name.toList.flatMap escapeChar).map some ++ some '"' :: some ':' :: cs) := by
    rw [quote]
    simp
  rw [spelled, members, skipBlank_cons (by decide)]
  simp only
  rw [named]
  simp only
  rewrite [skipBlank_cons (by decide), String.ofList_toList]
  rfl

theorem members_last (fuel : Nat) (found : List (String × Draft)) (name : String)
    (reads : read cs = (item, some '\x7d' :: rest)) :
    members read (fuel + 1) found ((quote name).map some ++ some ':' :: cs) =
      (((name, item) :: found).reverse, true, rest) := by
  rw [members_quote, reads]
  simp only
  rw [skipBlank_cons (by decide)]
  rfl

theorem members_more (fuel : Nat) (found : List (String × Draft)) (name : String)
    (reads : read cs = (item, some ',' :: rest)) :
    members read (fuel + 1) found ((quote name).map some ++ some ':' :: cs) =
      members read fuel ((name, item) :: found) rest := by
  rw [members_quote, reads]
  simp only
  rw [skipBlank_cons (by decide)]
  rfl

end

/-- An array of items behind its bracket. -/
theorem value_items {depth : Nat} {c : Char} {cs rest : List Glyph} {found : List Draft}
    (bare : isSeparating c = false) (held : c ≠ ']')
    (inner : items (value depth) ((some c :: cs).length + 1) [] (some c :: cs) =
      (found, true, rest)) :
    value (depth + 1) (some '[' :: some c :: cs) = (.arr found true, rest) := by
  rw [value, skipBlank_cons (by decide)]
  simp only
  rw [skipBlank_cons bare]
  split
  · next same =>
    cases (List.cons.inj same).1
    exact absurd rfl held
  · rw [inner]

/-- An object of members behind its brace. -/
theorem value_members {depth : Nat} {cs rest : List Glyph} {found : List (String × Draft)}
    (inner : members (value depth) ((some '"' :: cs).length + 1) [] (some '"' :: cs) =
      (found, true, rest)) :
    value (depth + 1) (some '\x7b' :: some '"' :: cs) = (.obj found true, rest) := by
  rw [value, skipBlank_cons (by decide)]
  simp only
  rw [skipBlank_cons (by decide)]
  split
  · next same => cases (List.cons.inj same).1
  · rw [inner]

/-- Items are written with commas between them. -/
theorem length_le_length_itemChars (item : Json) (others : List Json) :
    others.length ≤ (itemChars (item :: others)).length := by
  induction others generalizing item with
  | nil => exact Nat.zero_le _
  | cons next others ih =>
    have more := ih next
    rw [itemChars, List.length_append, List.length_cons, List.length_cons]
    · omega
    · exact List.cons_ne_nil _ _

/-- Members are written with commas between them. -/
theorem length_le_length_memberChars (member : String × Json) (others : List (String × Json)) :
    others.length ≤ (memberChars (member :: others)).length := by
  induction others generalizing member with
  | nil => exact Nat.zero_le _
  | cons next others ih =>
    have more := ih next
    rw [memberChars, List.length_append, List.length_cons, List.length_cons]
    · omega
    · exact List.cons_ne_nil _ _

/-- The text of items begins as that of the first one does. -/
theorem itemChars_eq_cons (item : Json) (others : List Json)
    (floatless : areFloatless (item :: others) = true) :
    ∃ c cs, itemChars (item :: others) = c :: cs ∧ isSeparating c = false ∧ c ≠ ']' := by
  obtain ⟨c, cs, spelled, bare, held⟩ := chars_eq_cons item (Bool.and_eq_true_iff.1 floatless).1
  cases others with
  | nil =>
    rw [itemChars, spelled]
    exact ⟨c, cs, rfl, bare, held⟩
  | cons next others =>
    rw [itemChars, spelled]
    · exact ⟨c, _, rfl, bare, held⟩
    · exact List.cons_ne_nil _ _

/-- The text of members begins with a quote. -/
theorem memberChars_eq_cons (member : String × Json) (others : List (String × Json)) :
    ∃ cs, memberChars (member :: others) = '"' :: cs := by
  cases others with
  | nil => exact ⟨_, rfl⟩
  | cons next others =>
    rw [memberChars]
    · exact ⟨_, rfl⟩
    · exact List.cons_ne_nil _ _

/-- Members are read one by one up to the closing brace. -/
theorem members_of_reads (read : List Glyph → Draft × List Glyph) (read? : Json → Draft) :
    ∀ (member : String × Json) (others : List (String × Json)) (fuel : Nat)
      (found : List (String × Draft)) (rest : List Glyph),
      (∀ m ∈ member :: others, ∀ rest, EndsNumber rest →
        read (m.2.chars.map some ++ rest) = (read? m.2, rest)) →
      others.length < fuel →
      members read fuel found
          ((memberChars (member :: others)).map some ++ some '\x7d' :: rest) =
        (found.reverse ++ (member :: others).map fun m => (m.1, read? m.2), true, rest)
  | (name, item), [], fuel + 1, found, rest, reads, _ => by
    have first := reads (name, item) List.mem_cons_self (some '\x7d' :: rest)
      (endsNumber_cons (by decide) rest)
    have spelled : (memberChars [(name, item)]).map some ++ some '\x7d' :: rest =
        (quote name).map some ++ some ':' :: (item.chars.map some ++ some '\x7d' :: rest) := by
      rw [memberChars]
      simp
    rw [spelled, members_last fuel found name first, List.reverse_cons]
    rfl
  | (name, item), next :: others, fuel + 1, found, rest, reads, enough => by
    have first := reads (name, item) List.mem_cons_self
      (some ',' :: ((memberChars (next :: others)).map some ++ some '\x7d' :: rest))
      (endsNumber_cons (by decide) _)
    have more := members_of_reads read read? next others fuel ((name, read? item) :: found) rest
      (fun m mem => reads m (List.mem_cons_of_mem _ mem)) (Nat.lt_of_succ_lt_succ enough)
    have spelled : (memberChars ((name, item) :: next :: others)).map some ++ some '\x7d' :: rest =
        (quote name).map some ++ some ':' :: (item.chars.map some ++
          some ',' :: ((memberChars (next :: others)).map some ++ some '\x7d' :: rest)) := by
      rw [memberChars]
      · simp
      · exact List.cons_ne_nil _ _
    rw [spelled, members_more fuel found name first, more, List.reverse_cons, List.append_assoc]
    rfl

/-- An object is read if the values of its members are. -/
theorem value_obj {depth : Nat} (read? : Json → Draft) (members : List (String × Json))
    (reads : ∀ m ∈ members, ∀ rest, EndsNumber rest →
      value depth (m.2.chars.map some ++ rest) = (read? m.2, rest)) (rest : List Glyph) :
    value (depth + 1) ((Json.obj members).chars.map some ++ rest) =
      (.obj (members.map fun m => (m.1, read? m.2)) true, rest) := by
  cases members with
  | nil =>
    rw [value]
    rfl
  | cons member others =>
    have long := length_le_length_memberChars member others
    have inner := members_of_reads (value depth) read? member others
      (((memberChars (member :: others)).map some ++ some '\x7d' :: rest).length + 1) [] rest reads
      (by
        rw [List.length_append, List.length_map]
        omega)
    obtain ⟨cs, opening⟩ := memberChars_eq_cons member others
    have spelled : (Json.obj (member :: others)).chars.map some ++ rest =
        some '\x7b' :: some '"' :: (cs.map some ++ some '\x7d' :: rest) := by
      rw [Json.chars, opening]
      simp
    rw [opening] at inner
    rw [spelled]
    exact value_members inner

theorem haveFloatless_of_mem : ∀ {members : List (String × Json)}, haveFloatless members = true →
    ∀ m ∈ members, m.2.isFloatless = true
  | (_, item) :: rest, floatless, m, mem => by
    obtain ⟨first, others⟩ := Bool.and_eq_true_iff.1 floatless
    rcases List.mem_cons.1 mem with rfl | mem
    · exact first
    · exact haveFloatless_of_mem others m mem

theorem nesting_le_of_mem : ∀ {members : List (String × Json)}, ∀ m ∈ members,
    m.2.nesting ≤ memberNesting members
  | (_, item) :: rest, m, mem => by
    rcases List.mem_cons.1 mem with rfl | mem
    · exact Nat.le_max_left _ _
    · exact Nat.le_trans (nesting_le_of_mem m mem) (Nat.le_max_right _ _)

theorem sizeOf_lt_of_mem {members : List (String × Json)} {m : String × Json} (mem : m ∈ members) :
    sizeOf m.2 < sizeOf (Json.obj members) := by
  have inside := List.sizeOf_lt_of_mem mem
  obtain ⟨name, item⟩ := m
  rw [Prod.mk.sizeOf_spec] at inside
  rw [Json.obj.sizeOf_spec]
  change sizeOf item < 1 + sizeOf members
  omega

theorem rereadMembers_eq (members : List (String × Json)) :
    rereadMembers members = members.map fun m => (m.1, m.2.reread) := by
  induction members with
  | nil => rfl
  | cons member rest ih => rw [rereadMembers, ih]; rfl

mutual

/-- The text of a value in front of other text is read as that value, and the other text is left. -/
theorem value_chars : ∀ (j : Json) (depth : Nat) (rest : List Glyph), j.isFloatless = true →
    j.nesting ≤ depth → EndsNumber rest → value depth (j.chars.map some ++ rest) = (j.reread, rest)
  | .null, depth, rest, _, _, _ => by
    rw [value]
    rfl
  | .bool b, depth, rest, _, _, _ => by
    cases b <;> (rw [value]; rfl)
  | .int n, depth, rest, _, _, ends => value_int depth n ends
  | .float d, depth, rest, floatless, _, _ => nomatch floatless
  | .str s, depth, rest, _, _, _ => value_str depth s rest
  | .arr [], depth + 1, rest, _, _, _ => by
    rw [value]
    rfl
  | .arr (item :: others), depth + 1, rest, floatless, shallow, _ => by
    have long := length_le_length_itemChars item others
    have inner := items_itemChars item others depth
      (((itemChars (item :: others)).map some ++ some ']' :: rest).length + 1) [] rest floatless
      (Nat.le_of_succ_le_succ shallow) (by
        rw [List.length_append, List.length_map]
        omega)
    obtain ⟨c, cs, opening, bare, held⟩ := itemChars_eq_cons item others floatless
    have spelled : (Json.arr (item :: others)).chars.map some ++ rest =
        some '[' :: some c :: (cs.map some ++ some ']' :: rest) := by
      rw [Json.chars, opening]
      simp
    rw [opening] at inner
    rw [spelled]
    exact value_items bare held inner
  | .obj members, depth + 1, rest, floatless, shallow, _ => by
    rw [reread, rereadMembers_eq]
    exact value_obj reread members (fun m mem rest ends =>
      value_chars m.2 depth rest (haveFloatless_of_mem floatless m mem)
        (Nat.le_trans (nesting_le_of_mem m mem) (Nat.le_of_succ_le_succ shallow)) ends) rest
termination_by j => sizeOf j
decreasing_by
  · decreasing_tactic
  · exact sizeOf_lt_of_mem mem

/-- The texts of items up to the closing bracket. -/
theorem items_itemChars : ∀ (item : Json) (others : List Json) (depth fuel : Nat)
    (found : List Draft) (rest : List Glyph), areFloatless (item :: others) = true →
    itemNesting (item :: others) ≤ depth → others.length < fuel →
    items (value depth) fuel found ((itemChars (item :: others)).map some ++ some ']' :: rest) =
      (found.reverse ++ rereadItems (item :: others), true, rest)
  | item, [], depth, fuel + 1, found, rest, floatless, shallow, _ => by
    have read := value_chars item depth (some ']' :: rest) (Bool.and_eq_true_iff.1 floatless).1
      (Nat.max_le.1 shallow).1 (endsNumber_cons (by decide) rest)
    rw [itemChars, items_last fuel found read, List.reverse_cons]
    rfl
  | item, next :: others, depth, fuel + 1, found, rest, floatless, shallow, enough => by
    obtain ⟨first, second⟩ := Bool.and_eq_true_iff.1 floatless
    obtain ⟨low, lower⟩ := Nat.max_le.1 shallow
    have read := value_chars item depth
      (some ',' :: ((itemChars (next :: others)).map some ++ some ']' :: rest)) first low
      (endsNumber_cons (by decide) _)
    have more := items_itemChars next others depth fuel (item.reread :: found) rest second lower
      (Nat.lt_of_succ_lt_succ enough)
    have spelled : (itemChars (item :: next :: others)).map some ++ some ']' :: rest =
        item.chars.map some ++ some ',' :: ((itemChars (next :: others)).map some ++
          some ']' :: rest) := by
      rw [itemChars]
      · simp
      · exact List.cons_ne_nil _ _
    rw [spelled, items_more fuel found read, more, List.reverse_cons, List.append_assoc]
    rfl
termination_by item others => sizeOf (item :: others)

end

/-- The text of a document is read as that document, and nothing follows. -/
theorem ofGlyphs_compact (depth : Nat) (j : Json) (floatless : j.isFloatless = true)
    (shallow : j.nesting ≤ depth) :
    ofGlyphs depth (Text.glyphs (Text.utf8 j.compact)) = (j.reread, true) := by
  have read := value_chars j depth [] floatless shallow endsNumber_nil
  rw [List.append_nil] at read
  rw [Text.glyphs_utf8, Text.glyphsOf, compact, String.toList_ofList, ofGlyphs, read]
  rfl

end Draft

/-! ## Members of a shape -/

namespace Shape

variable {fits : List (String × (Draft → Except Fault Datum))} {places : Places} {i : Nat}
  {name : String} {item : Draft} {fit : Draft → Except Fault Datum}

/-- A member is fitted to the field of its name, if no earlier member took the place. -/
theorem fitMembers_cons (found : fits.findIdx? (·.1 == name) = some i)
    (free : places[i]?.join = none) (fitting : fits[i]? = some (name, fit))
    (rest : List (String × Draft)) :
    fitMembers fits places ((name, item) :: rest) =
      fit item >>= fun datum => fitMembers fits (places.set i (some datum)) rest := by
  rw [fitMembers, found]
  simp only [free, fitting]
  rfl

end Shape

end TodoServer.Json
