import TodoServer.Filter.Basic
import TodoServer.Proofs.Text.Numeral

/-!
# Tokens of statements

The text of a condition, and that of a statement around it, is cut into names, words of the
language, symbols, quoted texts and marks, and a mark is replaced by the value it stands for. What
starts no token is kept as a stray character, so that nothing of a text gets lost.
-/

namespace TodoServer.Sql

/-- Whether words of the language are known only as they are usually written or in any case of
their letters. -/
inductive Casing where
  | exact
  | folded
  deriving DecidableEq, Repr

/-- Whether two words are the same. -/
def Casing.same : Casing → String → String → Bool
  | exact, a, b => a == b
  | folded, a, b => Text.sameLetters a b

/-- A token of a statement. The words that conditions are made of are told from names. -/
inductive Token where
  | opening
  | closing
  | comma
  | star
  | name (name : String)
  | comparison (comparison : Comparison)
  | connective (connective : Connective)
  | escape
  | quoted (text : String)
  /-- The place of a value: a question mark, or a dollar sign with a number. -/
  | mark (number? : Option Nat)
  | value (value : Scalar)
  /-- What starts no token. -/
  | stray
  deriving DecidableEq, Repr

/-- Whether a character may start a name. All characters beyond ASCII count as letters. -/
def isNameStart (c : Char) : Bool :=
  c.isAlpha || c == '_' || 128 ≤ c.toNat

/-- Whether a character may stand inside a name. -/
def isNamePart (c : Char) : Bool :=
  isNameStart c || c.isDigit

/-- Whether a character is part of a comparison. -/
def isSymbol (c : Char) : Bool :=
  c == '<' || c == '>' || c == '=' || c == '!'

/-- A word of the language, or a name. -/
def Token.ofWord (casing : Casing) (word : String) : Token :=
  if casing.same word "AND" then .connective .and
  else if casing.same word "OR" then .connective .or
  else if casing.same word "LIKE" then .comparison .like
  else if casing.same word "ESCAPE" then .escape
  else .name word

/-- The comparison that symbols make. -/
def Token.ofSymbols : List Char → Token
  | ['='] => .comparison .eq
  | ['<', '>'] => .comparison .ne
  | ['!', '='] => .comparison .ne
  | ['<'] => .comparison .lt
  | ['>'] => .comparison .gt
  | ['<', '='] => .comparison .le
  | ['>', '='] => .comparison .ge
  | _ => .stray

/-- The mark of a number. -/
def Token.ofNumber (digits : List Char) : Token :=
  match Text.numeral? digits with
  | some n => .mark (some n)
  | none => .stray

/-- A quoted text up to its closing quote, and what comes behind it. A quote written twice stands
for one. -/
def closeQuote? : List Char → Option (List Char × List Char)
  | [] => none
  | '\x27' :: '\x27' :: rest => (closeQuote? rest).map fun (text, rest) => ('\x27' :: text, rest)
  | '\x27' :: rest => some ([], rest)
  | c :: rest => (closeQuote? rest).map fun (text, rest) => (c :: text, rest)

theorem length_closeQuote? {cs text rest : List Char} (h : closeQuote? cs = some (text, rest)) :
    rest.length < cs.length := by
  fun_induction closeQuote? cs generalizing text rest with
  | case1 => simp at h
  | case2 tail ih | case4 c tail _ _ ih =>
    obtain ⟨⟨inner, behind⟩, found, same⟩ := Option.map_eq_some_iff.1 h
    obtain ⟨-, rfl⟩ := Prod.mk.inj same
    have := ih found
    simp only [List.length_cons]
    omega
  | case3 tail =>
    obtain ⟨-, rfl⟩ := Prod.mk.inj (Option.some.inj h)
    simp

/-- The tokens of a text. -/
def lex (casing : Casing) : List Char → List Token
  | [] => []
  | c :: rest =>
    if c.isWhitespace then lex casing rest
    else if c = '(' then .opening :: lex casing rest
    else if c = ')' then .closing :: lex casing rest
    else if c = ',' then .comma :: lex casing rest
    else if c = '*' then .star :: lex casing rest
    else if c = '?' then .mark none :: lex casing rest
    else if c = '$' then
      .ofNumber (rest.takeWhile Char.isDigit) :: lex casing (rest.dropWhile Char.isDigit)
    else if c = '\x27' then
      match _closed : closeQuote? rest with
      | some (text, behind) => .quoted (String.ofList text) :: lex casing behind
      | none => [.stray]
    else if isSymbol c then
      .ofSymbols (c :: rest.takeWhile isSymbol) :: lex casing (rest.dropWhile isSymbol)
    else if isNameStart c then
      .ofWord casing (String.ofList (c :: rest.takeWhile isNamePart)) ::
        lex casing (rest.dropWhile isNamePart)
    else .stray :: lex casing rest
termination_by cs => cs.length
decreasing_by
  all_goals
    have shorter (p : Char → Bool) := (List.dropWhile_suffix p (l := rest)).length_le
    grind [→ length_closeQuote?]

/-! ## Where tokens end

A token ends before a blank, before a closing parenthesis, before a comma and at the end of a
text. -/

/-- Nothing that goes on with a token. -/
def Ends (rest : List Char) : Prop :=
  ∀ c ∈ rest.head?, c = ' ' ∨ c = ')' ∨ c = ','

theorem ends_nil : Ends [] := by simp [Ends]

theorem ends_space (rest : List Char) : Ends (' ' :: rest) := by simp [Ends]

theorem ends_closing (rest : List Char) : Ends (')' :: rest) := by simp [Ends]

theorem ends_comma (rest : List Char) : Ends (',' :: rest) := by simp [Ends]

theorem takeWhile_append_of_ends {p : Char → Bool} {cs rest : List Char} (inside : ∀ c ∈ cs, p c)
    (ends : Ends rest) (space : p ' ' = false) (closing : p ')' = false)
    (comma : p ',' = false) : (cs ++ rest).takeWhile p = cs := by
  rw [List.takeWhile_append_of_pos inside]
  match rest, ends with
  | [], _ => simp
  | c :: rest, ends =>
    have stops : p c = false := by
      rcases ends c rfl with rfl | rfl | rfl
      · exact space
      · exact closing
      · exact comma
    simp [stops]

theorem dropWhile_append_of_ends {p : Char → Bool} {cs rest : List Char} (inside : ∀ c ∈ cs, p c)
    (ends : Ends rest) (space : p ' ' = false) (closing : p ')' = false)
    (comma : p ',' = false) : (cs ++ rest).dropWhile p = rest := by
  have whole := List.takeWhile_append_dropWhile (p := p) (l := cs ++ rest)
  rw [takeWhile_append_of_ends inside ends space closing comma] at whole
  exact List.append_cancel_left whole

variable (casing : Casing)

@[simp] theorem lex_nil : lex casing [] = [] := by rw [lex]

@[simp] theorem lex_space (rest : List Char) : lex casing (' ' :: rest) = lex casing rest := by
  rw [lex]; simp

@[simp] theorem lex_opening (rest : List Char) :
    lex casing ('(' :: rest) = .opening :: lex casing rest := by
  rw [lex]; simp

@[simp] theorem lex_closing (rest : List Char) :
    lex casing (')' :: rest) = .closing :: lex casing rest := by
  rw [lex]; simp

@[simp] theorem lex_comma (rest : List Char) :
    lex casing (',' :: rest) = .comma :: lex casing rest := by
  rw [lex]; simp

@[simp] theorem lex_star (rest : List Char) :
    lex casing ('*' :: rest) = .star :: lex casing rest := by
  rw [lex]; simp

@[simp] theorem lex_questionMark (rest : List Char) :
    lex casing ('?' :: rest) = .mark none :: lex casing rest := by
  rw [lex]; simp

/-- A number that was written is read back. -/
theorem ofNumber_toDigits (n : Nat) : Token.ofNumber (Nat.toDigits 10 n) = .mark (some n) := by
  rw [Token.ofNumber, Text.numeral?_toDigits]

theorem lex_numbered (n : Nat) {rest : List Char} (ends : Ends rest) :
    lex casing ('$' :: (Nat.toDigits 10 n ++ rest)) = .mark (some n) :: lex casing rest := by
  have inside := Text.isDigit_of_mem_toDigits (n := n)
  rw [lex]
  simp [takeWhile_append_of_ends inside ends, dropWhile_append_of_ends inside ends,
    ofNumber_toDigits]

theorem lex_symbols {c : Char} {cs rest : List Char} (start : isSymbol c = true)
    (inside : ∀ c ∈ cs, isSymbol c = true) (ends : Ends rest) :
    lex casing (c :: cs ++ rest) = .ofSymbols (c :: cs) :: lex casing rest := by
  have known : c = '<' ∨ c = '>' ∨ c = '=' ∨ c = '!' := by simpa [isSymbol, or_assoc] using start
  rw [List.cons_append, lex]
  rcases known with rfl | rfl | rfl | rfl <;>
    simp [isSymbol, takeWhile_append_of_ends inside ends, dropWhile_append_of_ends inside ends]

theorem lex_word {c : Char} {cs rest : List Char} (start : isNameStart c = true)
    (inside : ∀ c ∈ cs, isNamePart c = true) (ends : Ends rest) :
    lex casing (c :: cs ++ rest) =
      .ofWord casing (String.ofList (c :: cs)) :: lex casing rest := by
  have apart (d : Char) (h : isNameStart d = false) : c ≠ d := by
    rintro rfl
    rw [h] at start
    cases start
  have solid : c.isWhitespace = false := by
    simp [Char.isWhitespace, apart ' ' rfl, apart '\t' rfl, apart '\r' rfl, apart '\n' rfl]
  rw [List.cons_append, lex]
  simp [solid, start, isSymbol, apart '(' rfl, apart ')' rfl, apart ',' rfl, apart '*' rfl,
    apart '?' rfl, apart '$' rfl, apart '\x27' rfl, apart '<' rfl, apart '>' rfl, apart '=' rfl,
    apart '!' rfl, takeWhile_append_of_ends inside ends rfl rfl rfl,
    dropWhile_append_of_ends inside ends rfl rfl rfl]

/-- A backslash in quotes, as patterns name it for their escape. -/
theorem lex_backslash {rest : List Char} (ends : Ends rest) :
    lex casing ('\x27' :: '\\' :: '\x27' :: rest) = .quoted "\\" :: lex casing rest := by
  have closed : closeQuote? ('\\' :: '\x27' :: rest) = some (['\\'], rest) := by
    match rest, ends with
    | [], _ => simp [closeQuote?]
    | c :: rest, ends =>
      rcases ends c rfl with rfl | rfl | rfl <;> simp [closeQuote?]
  have solid : Char.isWhitespace '\x27' = false := rfl
  rw [lex]
  simp only [solid, Bool.false_eq_true, if_false, Char.reduceEq, if_true]
  split
  · next text behind found =>
    obtain ⟨rfl, rfl⟩ := Prod.mk.inj (Option.some.inj (closed.symm.trans found))
    rfl
  · next missing => exact absurd (closed.symm.trans missing) (Option.some_ne_none _)

end TodoServer.Sql
