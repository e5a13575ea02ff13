import TodoServer.Proofs.Sql.Placeholders
import TodoServer.Proofs.Sql.Spelling

/-!
# What the text of an insertion stores

The text of an insertion is read as storage reads it: a table, the names of columns and tuples of
values, or a table alone for a row of defaults. It is accepted if it names a column and each tuple
has as many values as there are columns, and then stores the values of each tuple under the columns
in order.
-/

namespace TodoServer

namespace Sql

/-! ## Lexemes -/

/-- A lexeme of the text of an insertion. -/
inductive Lexeme where
  | opening
  | closing
  | comma
  | word (word : String)
  /-- The place of a value: a question mark, or a dollar sign with a number. -/
  | mark (number? : Option Nat)
  | value (value : Scalar)
  /-- What starts no lexeme. -/
  | stray
  deriving DecidableEq, Repr

namespace Lexeme

/-- The mark of a number. -/
def ofNumber (digits : List Char) : Lexeme :=
  match Text.numeral? digits with
  | some n => mark (some n)
  | none => stray

def word? : Lexeme → Option String
  | word w => some w
  | _ => none

def value? : Lexeme → Option Scalar
  | value v => some v
  | _ => none

end Lexeme

/-- The lexemes of a text. -/
def lexemes : List Char → List Lexeme
  | [] => []
  | c :: rest =>
    if c.isWhitespace then lexemes rest
    else if c = '(' then .opening :: lexemes rest
    else if c = ')' then .closing :: lexemes rest
    else if c = ',' then .comma :: lexemes rest
    else if c = '?' then .mark none :: lexemes rest
    else if c = '$' then
      .ofNumber (rest.takeWhile Char.isDigit) :: lexemes (rest.dropWhile Char.isDigit)
    else if isNameStart c then
      .word (String.ofList (c :: rest.takeWhile isNamePart)) :: lexemes (rest.dropWhile isNamePart)
    else .stray :: lexemes rest
termination_by cs => cs.length
decreasing_by
  all_goals
    have shorter (p : Char → Bool) := (List.dropWhile_suffix p (l := rest)).length_le
    grind

/-- Puts values in the places of marks. Question marks take the values in order, `taken` of them
being taken, and a numbered mark takes the value at its number, counted from one. -/
def placeValues (values : List Scalar) : Nat → List Lexeme → List Lexeme
  | _, [] => []
  | taken, .mark none :: rest =>
    ((values[taken]?).map Lexeme.value).getD .stray :: placeValues values (taken + 1) rest
  | taken, .mark (some n) :: rest =>
    (if 0 < n then ((values[n - 1]?).map Lexeme.value).getD .stray else .stray) ::
      placeValues values taken rest
  | taken, l :: rest => l :: placeValues values taken rest

/-! ## Reading -/

/-- Items between commas up to a closing parenthesis, and what comes behind it. -/
def items? {α : Type} (item? : Lexeme → Option α) : List Lexeme → Option (List α × List Lexeme)
  | l :: .closing :: rest => (item? l).map fun x => ([x], rest)
  | l :: .comma :: rest => do
    let x ← item? l
    let (xs, rest) ← items? item? rest
    some (x :: xs, rest)
  | _ => none

/-- Items in parentheses, or none, and what comes behind them. -/
def group? {α : Type} (item? : Lexeme → Option α) : List Lexeme → Option (List α × List Lexeme)
  | .opening :: .closing :: rest => some ([], rest)
  | .opening :: rest => items? item? rest
  | _ => none

theorem length_items? {α : Type} {item? : Lexeme → Option α} {ls rest : List Lexeme} {xs : List α}
    (read : items? item? ls = some (xs, rest)) : rest.length < ls.length := by
  fun_induction items? item? ls generalizing xs rest with
  | case1 l tail =>
    obtain ⟨x, -, same⟩ := Option.map_eq_some_iff.1 read
    obtain ⟨-, rfl⟩ := Prod.mk.inj same
    simp only [List.length_cons]
    omega
  | case2 l tail ih =>
    simp only [Option.bind_eq_bind, Option.bind_eq_some_iff] at read
    obtain ⟨x, -, ⟨ys, behind⟩, found, same⟩ := read
    obtain ⟨-, rfl⟩ := Prod.mk.inj (Option.some.inj same)
    have shorter := ih found
    simp only [List.length_cons]
    omega
  | case3 => cases read

theorem length_group? {α : Type} {item? : Lexeme → Option α} {ls rest : List Lexeme} {xs : List α}
    (read : group? item? ls = some (xs, rest)) : rest.length < ls.length := by
  rw [group?.eq_def] at read
  split at read
  · obtain ⟨-, rfl⟩ := Prod.mk.inj (Option.some.inj read)
    simp only [List.length_cons]
    omega
  · have shorter := length_items? read
    simp only [List.length_cons]
    omega
  · cases read

/-- Tuples of values between commas up to the end. -/
def tuples? (ls : List Lexeme) : Option (List (List Scalar)) :=
  match _read : group? Lexeme.value? ls with
  | some (tuple, []) => some [tuple]
  | some (tuple, .comma :: rest) => (tuples? rest).map (tuple :: ·)
  | _ => none
termination_by ls.length
decreasing_by
  have shorter := length_group? _read
  rw [List.length_cons] at shorter
  omega

/-- What an insertion says. -/
inductive Insertion where
  /-- One row of defaults. -/
  | defaults (table : String)
  | tuples (table : String) (columns : List String) (rows : List (List Scalar))
  deriving DecidableEq, Repr

/-- Reads the lexemes of an insertion. -/
def Insertion.read? : List Lexeme → Option Insertion
  | .word insert :: .word into :: .word table :: rest =>
    if insert ≠ "INSERT" ∨ into ≠ "INTO" then none
    else if rest = [.word "DEFAULT", .word "VALUES"] then some (.defaults table)
    else do
      let (columns, rest) ← group? Lexeme.word? rest
      if rest.head? ≠ some (.word "VALUES") then none
      let rows ← tuples? rest.tail
      some (.tuples table columns rows)
  | _ => none

/-- The rows that an insertion stores if it is accepted, each with the columns that it gives a value
to. -/
def Insertion.rows? : Insertion → Option (List Record)
  | defaults _ => some [.empty]
  | tuples _ columns rows =>
    if columns ≠ [] ∧ ∀ row ∈ rows, row.length = columns.length then
      some (rows.map fun row => ⟨columns.zip row⟩)
    else none

def Insertion.table : Insertion → String
  | defaults table => table
  | tuples table _ _ => table

/-! ## Spelling -/

/-- Nothing that goes on with a word or with a number. -/
def Stops (rest : List Char) : Prop :=
  ∀ c ∈ rest.head?, isNamePart c = false

theorem stops_nil : Stops [] := by simp [Stops]

theorem stops_cons {c : Char} (apart : isNamePart c = false) (rest : List Char) :
    Stops (c :: rest) := by
  simpa [Stops] using apart

theorem takeWhile_append_of_stops {p : Char → Bool} {cs rest : List Char}
    (inside : ∀ c ∈ cs, p c = true) (stops : Stops rest)
    (within : ∀ c, p c = true → isNamePart c = true) :
    (cs ++ rest).takeWhile p = cs ∧ (cs ++ rest).dropWhile p = rest := by
  rw [List.takeWhile_append_of_pos inside, List.dropWhile_append_of_pos inside]
  cases rest with
  | nil => simp
  | cons c rest =>
    have outside : ¬p c = true := fun more =>
      Bool.false_ne_true ((stops c rfl).symm.trans (within c more))
    simp [outside]

/-- Whether a text is a word: a letter or an underscore with letters, digits and underscores behind
it. -/
def isWord (s : String) : Bool :=
  match s.toList with
  | [] => false
  | c :: rest => isNameStart c && rest.all isNamePart

@[simp] theorem lexemes_nil : lexemes [] = [] := by rw [lexemes]

@[simp] theorem lexemes_space (rest : List Char) : lexemes (' ' :: rest) = lexemes rest := by
  rw [lexemes]; simp

@[simp] theorem lexemes_opening (rest : List Char) :
    lexemes ('(' :: rest) = .opening :: lexemes rest := by
  rw [lexemes]; simp

@[simp] theorem lexemes_closing (rest : List Char) :
    lexemes (')' :: rest) = .closing :: lexemes rest := by
  rw [lexemes]; simp

@[simp] theorem lexemes_comma (rest : List Char) :
    lexemes (',' :: rest) = .comma :: lexemes rest := by
  rw [lexemes]; simp

theorem lexemes_word {word : String} {rest : List Char} (plain : isWord word = true)
    (stops : Stops rest) :
    lexemes (word.toList ++ rest) = .word word :: lexemes rest := by
  rw [isWord] at plain
  split at plain
  · cases plain
  · next c cs spelled =>
    obtain ⟨start, inside⟩ := Bool.and_eq_true_iff.1 plain
    have apart (d : Char) (other : isNameStart d = false) : c ≠ d := by
      rintro rfl
      rw [other] at start
      cases start
    have solid : c.isWhitespace = false := by
      simp [Char.isWhitespace, apart ' ' rfl, apart '\t' rfl, apart '\r' rfl, apart '\n' rfl]
    obtain ⟨taken, left⟩ := takeWhile_append_of_stops (List.all_eq_true.1 inside) stops fun _ h => h
    have whole : String.ofList (c :: cs) = word := by rw [← spelled, String.ofList_toList]
    rw [spelled, List.cons_append, lexemes]
    simp [solid, start, apart '(' rfl, apart ')' rfl, apart ',' rfl, apart '?' rfl, apart '$' rfl,
      taken, left, whole]

/-- The mark of a position is read as such. -/
theorem lexemes_placeholder (d : Dialect) (position : Nat) {rest : List Char}
    (stops : Stops rest) : lexemes ((d.placeholder position).toList ++ rest) =
      (match d with | .sqlite => .mark none | .postgres => .mark (some position)) ::
        lexemes rest := by
  cases d with
  | sqlite =>
    simp only [Dialect.placeholder]
    change lexemes ('?' :: rest) = _
    rw [lexemes]
    simp
  | postgres =>
    have inside := Text.isDigit_of_mem_toDigits (n := position)
    obtain ⟨taken, left⟩ := takeWhile_append_of_stops inside stops fun c digit => by
      simp [isNamePart, digit]
    rw [toList_placeholder_postgres, List.cons_append, lexemes]
    simp [taken, left, Lexeme.ofNumber, Text.numeral?_toDigits]

/-- What the marks of a text stand for. -/
structure Scribe where
  dialect : Dialect
  values : List Scalar

/-- The lexemes of the rest of a text, `n` values being placed before it. -/
def Scribe.lexemes (s : Scribe) (n : Nat) (rest : List Char) : List Lexeme :=
  placeValues s.values (s.dialect.questionMarks n) (Sql.lexemes rest)

/-- Whatever stops it, a text is these lexemes and holds the values from the `n`th up to the
`m`th. -/
def Spells (s : Scribe) (n : Nat) (text : String) (m : Nat) (ls : List Lexeme) : Prop :=
  ∀ rest, Stops rest → s.lexemes n (text.toList ++ rest) = ls ++ s.lexemes m rest

namespace Spells

variable {s : Scribe} {n m l : Nat} {text other : String} {ls ls' : List Lexeme}

theorem word (plain : isWord text = true) : Spells s n text n [.word text] := by
  intro rest stops
  rw [Scribe.lexemes, lexemes_word plain stops]
  rfl

theorem placeholder {value : Scalar} (found : s.values[n]? = some value) :
    Spells s n (s.dialect.placeholder (n + 1)) (n + 1) [.value value] := by
  intro rest stops
  rw [Scribe.lexemes, lexemes_placeholder _ _ stops, Scribe.lexemes]
  cases s.dialect with
  | sqlite => simp [placeValues, Dialect.questionMarks, found]
  | postgres => simp [placeValues, Dialect.questionMarks, found]

/-- A word before a blank. -/
theorem behind (first : Spells s n text m ls) (second : Spells s m other l ls') :
    Spells s n (text ++ " " ++ other) l (ls ++ ls') := by
  intro rest stops
  have blank : Stops (' ' :: (other.toList ++ rest)) := stops_cons rfl _
  have here := first _ blank
  have there := second rest stops
  rw [Scribe.lexemes] at there
  simp only [Scribe.lexemes, lexemes_space, there] at here
  simpa [Scribe.lexemes] using here

theorem separated (first : Spells s n text m ls) (second : Spells s m other l ls') :
    Spells s n (text ++ ", " ++ other) l (ls ++ .comma :: ls') := by
  intro rest stops
  have comma : Stops (',' :: ' ' :: (other.toList ++ rest)) := stops_cons rfl _
  have here := first _ comma
  have there := second rest stops
  rw [Scribe.lexemes] at there
  simp only [Scribe.lexemes, lexemes_comma, lexemes_space, placeValues, there] at here
  simpa [Scribe.lexemes] using here

theorem enclosed (inner : Spells s n text m ls) :
    Spells s n ("(" ++ text ++ ")") m (.opening :: (ls ++ [.closing])) := by
  intro rest _
  have closing : Stops (')' :: rest) := stops_cons rfl _
  have here := inner _ closing
  simp only [Scribe.lexemes, lexemes_closing, placeValues] at here
  simp [Scribe.lexemes, placeValues, here]

end Spells

/-- Lists of lexemes with commas between them. -/
def commas : List (List Lexeme) → List Lexeme
  | [] => []
  | [ls] => ls
  | ls :: others => ls ++ .comma :: commas others

theorem commas_cons_cons (ls next : List Lexeme) (others : List (List Lexeme)) :
    commas (ls :: next :: others) = ls ++ .comma :: commas (next :: others) := rfl

theorem exists_commas_cons (l : Lexeme) (others : List (List Lexeme)) :
    ∃ ls, commas ([l] :: others) = l :: ls := by
  cases others with
  | nil => exact ⟨[], rfl⟩
  | cons next more => exact ⟨_, commas_cons_cons [l] next more⟩

/-- Texts that are lists of lexemes one after the other. -/
inductive SpellsAll (s : Scribe) : Nat → List String → Nat → List (List Lexeme) → Prop
  | nil (n : Nat) : SpellsAll s n [] n []
  | cons {n m l : Nat} {text : String} {texts : List String} {ls : List Lexeme}
    {others : List (List Lexeme)} : Spells s n text m ls → SpellsAll s m texts l others →
    SpellsAll s n (text :: texts) l (ls :: others)

namespace SpellsAll

variable {s : Scribe} {n m : Nat} {texts : List String} {lists : List (List Lexeme)}

theorem join (all : SpellsAll s n texts m lists) :
    Spells s n (Text.join ", " texts) m (commas lists) := by
  induction all with
  | nil n => exact fun rest _ => rfl
  | @cons _ _ _ first _ _ _ spells behind ih =>
    cases behind with
    | nil => simpa [Text.join, commas] using spells
    | cons second more =>
      rw [Text.join, String.intercalate_cons_cons]
      exact spells.separated ih

theorem words (s : Scribe) (n : Nat) {names : List String}
    (plain : ∀ name ∈ names, isWord name = true) :
    SpellsAll s n names n (names.map fun name => [.word name]) := by
  induction names with
  | nil => exact .nil n
  | cons name rest ih =>
    exact .cons (.word (plain name List.mem_cons_self))
      (ih fun other mem => plain other (List.mem_cons_of_mem name mem))

/-- The placeholders from a position on hold the values from there on. -/
theorem placeholders (s : Scribe) {n : Nat} {values after : List Scalar}
    (held : s.values.drop n = values ++ after) :
    SpellsAll s n (s.dialect.placeholders (n + 1) values.length) (n + values.length)
      (values.map fun value => [.value value]) := by
  induction values generalizing n with
  | nil => exact .nil n
  | cons value rest ih =>
    have here : s.values[n]? = some value := by
      rw [← List.head?_drop, held]
      rfl
    have later : s.values.drop (n + 1) = rest ++ after := by
      rw [← List.tail_drop, held]
      rfl
    have total : n + (rest.length + 1) = n + 1 + rest.length := by omega
    rw [List.length_cons, Dialect.placeholders, List.range'_succ, List.map_cons, total]
    exact .cons (.placeholder here) (ih later)

end SpellsAll

/-! ## Reading back -/

section

variable {α : Type} (item? : Lexeme → Option α) (write : α → Lexeme)

theorem items?_commas (back : ∀ x, item? (write x) = some x) {xs : List α} (some : xs ≠ [])
    (rest : List Lexeme) :
    items? item? (commas (xs.map fun x => [write x]) ++ .closing :: rest) = .some (xs, rest) := by
  match xs, some with
  | [x], _ => simp [commas, items?, back]
  | x :: y :: others, _ =>
    have behind := items?_commas back (List.cons_ne_nil y others) rest
    simp only [List.map_cons] at behind
    simp [commas, items?, back, behind]

/-- Items in parentheses are read back. -/
theorem group?_commas (back : ∀ x, item? (write x) = some x) (apart : item? .closing = none)
    (xs : List α) (rest : List Lexeme) :
    group? item? (.opening :: (commas (xs.map fun x => [write x]) ++ .closing :: rest)) =
      some (xs, rest) := by
  cases xs with
  | nil => rfl
  | cons x others =>
    have items := items?_commas item? write back (List.cons_ne_nil x others) rest
    obtain ⟨ls, begins⟩ := exists_commas_cons (write x) (others.map fun x => [write x])
    rw [List.map_cons, begins] at items ⊢
    -- The first item is no closing parenthesis, as it is read as an item.
    rw [group?.eq_def]
    split
    · next behind same =>
      have closes : write x = .closing := (List.cons.inj (List.cons.inj same).2).1
      have none := back x
      rw [closes, apart] at none
      cases none
    · next behind _ same =>
      cases same
      exact items
    · next other => exact absurd rfl (other _)

end

/-- The lexemes of a tuple. -/
def tupleLexemes (row : List Scalar) : List Lexeme :=
  .opening :: (commas (row.map fun value => [.value value]) ++ [.closing])

theorem group?_tuple (row : List Scalar) (rest : List Lexeme) :
    group? Lexeme.value? (tupleLexemes row ++ rest) = some (row, rest) := by
  have read := group?_commas Lexeme.value? .value (fun _ => rfl) rfl row rest
  simpa [tupleLexemes] using read

theorem tuples?_of_last {ls : List Lexeme} {row : List Scalar}
    (read : group? Lexeme.value? ls = some (row, [])) : tuples? ls = some [row] := by
  rw [tuples?]
  split <;> simp_all

theorem tuples?_of_more {ls rest : List Lexeme} {row : List Scalar}
    (read : group? Lexeme.value? ls = some (row, .comma :: rest)) :
    tuples? ls = (tuples? rest).map (row :: ·) := by
  rw [tuples?]
  split <;> simp_all

/-- Tuples with commas between them are read back. -/
theorem tuples?_commas {rows : List (List Scalar)} (some : rows ≠ []) :
    tuples? (commas (rows.map tupleLexemes)) = .some rows := by
  match rows, some with
  | [row], _ =>
    have last := group?_tuple row []
    rw [List.append_nil] at last
    exact tuples?_of_last last
  | row :: other :: others, _ =>
    have behind := tuples?_commas (List.cons_ne_nil other others)
    have first := group?_tuple row (.comma :: commas ((other :: others).map tupleLexemes))
    rw [List.map_cons, List.map_cons, commas_cons_cons, ← List.map_cons, tuples?_of_more first,
      behind]
    rfl

end Sql

/-- The table and the rows that the text of an insertion with its values stores, if it is
accepted. -/
def Fragment.stored? (f : Fragment) : Option (String × List Record) := do
  let insertion ← Sql.Insertion.read? (Sql.placeValues f.values 0 (Sql.lexemes f.text.toList))
  let rows ← insertion.rows?
  some (insertion.table, rows)

end TodoServer
