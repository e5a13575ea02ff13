import TodoServer.Filter.Basic
import TodoServer.Proofs.Sql.Placeholders
import TodoServer.Proofs.Text.Numeral
import TodoServer.Sql.Inlined

/-!
# Outlines of statements

An outline is a statement as its words and the places of its values, and knows no dialect. What is
written for a dialect and what is shown with literals in the places of the values are both read off
it: put in place, the values give what is shown, and so does replacing the placeholders from left to
right. Read with the quoting rule of SQL, what is shown holds the texts of the outline.
-/

namespace TodoServer

namespace Sql

/-! ## The two readings -/

/-- A text with other text in the places of its placeholders, which are filled in order. A dollar
sign takes the digits behind it along; `inNumber` says whether such digits are under way. -/
def replacedFrom (inNumber : Bool) : List (List Char) → List Char → List Char
  | _, [] => []
  | fillings, c :: rest =>
    if inNumber && c.isDigit then replacedFrom true fillings rest
    else if c = '?' then fillings.headD [] ++ replacedFrom false fillings.tail rest
    else if c = '$' then fillings.headD [] ++ replacedFrom true fillings.tail rest
    else c :: replacedFrom false fillings rest

/-- A text with its placeholders replaced, the first by the first filling and so on. -/
def replaced (fillings : List String) (text : String) : String :=
  String.ofList (replacedFrom false (fillings.map String.toList) text.toList)

/-- The quoted texts from a place on. `open?` holds, in reverse, what was read of a text whose
closing quote is still to come. -/
def quotationsFrom : Option (List Char) → List Char → Option (List String)
  | none, [] => some []
  | some _, [] => none
  | none, '\x27' :: rest => quotationsFrom (some []) rest
  | none, _ :: rest => quotationsFrom none rest
  | some inside, '\x27' :: '\x27' :: rest => quotationsFrom (some ('\x27' :: inside)) rest
  | some inside, '\x27' :: rest =>
    (quotationsFrom none rest).map (String.ofList inside.reverse :: ·)
  | some inside, c :: rest => quotationsFrom (some (c :: inside)) rest

/-- The quoted texts in a text, in order. A quote opens a text and closes it, and two of them inside
stand for one. There are none when a quote is left open. -/
def quotations? (text : String) : Option (List String) :=
  quotationsFrom none text.toList

/-- Whether a text holds neither a sign that starts a placeholder nor a quote. -/
def isPlain (s : String) : Bool :=
  s.toList.all fun c => c ≠ '?' && c ≠ '$' && c ≠ '\x27'


/-! ## Outlines -/

/-- A part of a statement. -/
inductive Part where
  | words (s : String)
  /-- The place of a value. -/
  | value (v : Scalar)
  /-- The clause behind the value of a pattern. -/
  | escape
  deriving DecidableEq, Repr

/-- The parts of a statement from left to right. -/
abbrev Outline := List Part

namespace Outline

/-- What is written in a dialect, the first value at a position. -/
def written (d : Dialect) : Nat → Outline → List Char
  | _, [] => []
  | position, .words s :: rest => s.toList ++ written d position rest
  | position, .value _ :: rest => (d.placeholder position).toList ++ written d (position + 1) rest
  | position, .escape :: rest => Comparison.like.trailing.toList ++ written d position rest

/-- What is shown, with literals in the places of values. -/
def shown : Outline → List Char
  | [] => []
  | .words s :: rest => s.toList ++ shown rest
  | .value v :: rest => (literal v).toList ++ shown rest
  | .escape :: rest => Comparison.like.trailing.toList ++ shown rest

/-- The values in order. -/
def values : Outline → List Scalar
  | [] => []
  | .words _ :: rest => values rest
  | .value v :: rest => v :: values rest
  | .escape :: rest => values rest

/-- The texts that are shown in quotes. -/
def quotations : Outline → List String
  | [] => []
  | .words _ :: rest => quotations rest
  | .value v :: rest => v.toText?.toList ++ quotations rest
  | .escape :: rest => "\\" :: quotations rest

/-- Whether an outline can stand behind a value: it is empty, or starts with a sign that is no
digit. -/
def follows : Outline → Bool
  | [] => true
  | .words s :: _ => s.toList.head?.any fun c => !c.isDigit
  | .value _ :: _ => false
  | .escape :: _ => true

/-- Outlines whose words are plain and whose values stand apart. -/
inductive Spaced : Outline → Prop
  | nil : Spaced []
  | words {s : String} {rest : Outline} :
    isPlain s = true → Spaced rest → Spaced (.words s :: rest)
  | value (v : Scalar) {rest : Outline} :
    rest.follows = true → Spaced rest → Spaced (.value v :: rest)
  | escape {rest : Outline} : rest.follows = true → Spaced rest → Spaced (.escape :: rest)

/-- Outlines with a separator between neighbours. -/
def join (separator : String) : List Outline → Outline
  | [] => []
  | [outline] => outline
  | outline :: other :: rest => outline ++ .words separator :: join separator (other :: rest)

variable {a b : Outline} {d : Dialect} {position : Nat}

@[simp] theorem values_append (a b : Outline) : values (a ++ b) = values a ++ values b := by
  induction a with
  | nil => rfl
  | cons part rest ih => cases part <;> simp [values, ih]

@[simp] theorem quotations_append (a b : Outline) :
    quotations (a ++ b) = quotations a ++ quotations b := by
  induction a with
  | nil => rfl
  | cons part rest ih => cases part <;> simp [quotations, ih]

theorem written_append (d : Dialect) (position : Nat) (a b : Outline) :
    written d position (a ++ b) =
      written d position a ++ written d (position + a.values.length) b := by
  induction a generalizing position with
  | nil => rfl
  | cons part rest ih =>
    cases part <;> simp [written, values, ih, Nat.add_assoc, Nat.add_comm 1]

theorem Spaced.append (spacedA : Spaced a) (spacedB : Spaced b) (behind : b.follows = true) :
    Spaced (a ++ b) := by
  have follows_append {rest : Outline} (h : rest.follows = true) : (rest ++ b).follows = true := by
    cases rest with
    | nil => exact behind
    | cons part rest => cases part <;> exact h
  induction spacedA with
  | nil => exact spacedB
  | words plain _ ih => exact .words plain ih
  | value v next _ ih => exact .value v (follows_append next) ih
  | escape next _ ih => exact .escape (follows_append next) ih

theorem Spaced.join {separator : String} (plain : isPlain separator = true)
    (start : separator.toList.head?.any (fun c => !c.isDigit) = true) {outlines : List Outline}
    (spaced : ∀ outline ∈ outlines, Spaced outline) : Spaced (join separator outlines) := by
  match outlines, spaced with
  | [], _ => exact .nil
  | [outline], spaced => exact spaced outline List.mem_cons_self
  | outline :: other :: rest, spaced =>
    have later : Spaced (Outline.join separator (other :: rest)) :=
      Spaced.join plain start fun o mem => spaced o (List.mem_cons_of_mem _ mem)
    exact (spaced outline List.mem_cons_self).append (.words plain later) start

/-- Each of some outlines written behind the one before it. -/
def writtenAll (d : Dialect) : Nat → List Outline → List String
  | _, [] => []
  | position, outline :: rest =>
    String.ofList (outline.written d position) ::
      writtenAll d (position + outline.values.length) rest

theorem writtenAll_append (d : Dialect) (position : Nat) (as bs : List Outline) :
    writtenAll d position (as ++ bs) =
      writtenAll d position as ++ writtenAll d (position + (as.flatMap values).length) bs := by
  induction as generalizing position with
  | nil => rfl
  | cons outline rest ih =>
    simp [writtenAll, ih, Nat.add_assoc]

theorem written_join (d : Dialect) (position : Nat) (separator : String) (outlines : List Outline) :
    written d position (join separator outlines) =
      (Text.join separator (writtenAll d position outlines)).toList := by
  match outlines with
  | [] => rfl
  | [outline] => simp [join, writtenAll, Text.join]
  | outline :: other :: rest =>
    rw [join, written_append, written, written_join d _ separator (other :: rest)]
    simp [writtenAll, Text.join, String.intercalate_cons_cons]

@[simp] theorem values_join (separator : String) (outlines : List Outline) :
    values (join separator outlines) = outlines.flatMap values := by
  match outlines with
  | [] => rfl
  | [outline] => simp [join]
  | outline :: other :: rest =>
    rw [join, values_append, values, values_join separator (other :: rest)]
    rfl

@[simp] theorem quotations_join (separator : String) (outlines : List Outline) :
    quotations (join separator outlines) = outlines.flatMap quotations := by
  match outlines with
  | [] => rfl
  | [outline] => simp [join]
  | outline :: other :: rest =>
    rw [join, quotations_append, quotations, quotations_join separator (other :: rest)]
    rfl

end Outline

/-! ## Reading an outline -/

variable {d : Dialect} {outline : Outline}

theorem isPlain_iff {s : String} :
    isPlain s = true ↔ ∀ c ∈ s.toList, c ≠ '?' ∧ c ≠ '$' ∧ c ≠ '\x27' := by
  simp [isPlain, and_assoc]

@[simp] theorem isPlain_append (a b : String) : isPlain (a ++ b) = (isPlain a && isPlain b) := by
  simp [isPlain]

namespace Outline

/-- What can stand behind a value starts with no digit when it is written. -/
theorem head_written (next : outline.follows = true) (d : Dialect) (position : Nat) :
    ∀ c ∈ (outline.written d position).head?, c.isDigit = false := by
  match outline, next with
  | [], _ => simp [written]
  | .words s :: rest, next =>
    cases spelled : s.toList with
    | nil => simp [follows, spelled] at next
    | cons first others => simpa [written, follows, spelled] using next
  | .escape :: rest, _ =>
    have blank : (written d position (.escape :: rest)).head? = some ' ' := rfl
    simp [blank]

/-- What can stand behind a value starts with no quote when it is shown. -/
theorem head_shown (next : outline.follows = true) (spaced : Spaced outline) :
    ∀ c ∈ outline.shown.head?, c ≠ '\x27' := by
  cases spaced with
  | nil => simp [shown]
  | @words s rest plain _ =>
    cases spelled : s.toList with
    | nil => simp [follows, spelled] at next
    | cons first others =>
      simpa [shown, spelled] using (isPlain_iff.1 plain first (by simp [spelled])).2.2
  | value v _ _ => cases next
  | @escape rest _ _ =>
    have blank : (shown (.escape :: rest)).head? = some ' ' := rfl
    simp [blank]

end Outline

/-! ### Placeholders that are replaced -/

theorem replacedFrom_plain {s : String} (plain : isPlain s = true) (fillings : List (List Char))
    (rest : List Char) :
    replacedFrom false fillings (s.toList ++ rest) =
      s.toList ++ replacedFrom false fillings rest := by
  have safe := isPlain_iff.1 plain
  clear plain
  generalize s.toList = cs at safe
  induction cs with
  | nil => rfl
  | cons c cs ih =>
    obtain ⟨question, dollar, -⟩ := safe c List.mem_cons_self
    rw [List.cons_append, replacedFrom, Bool.false_and, if_neg Bool.false_ne_true, if_neg question,
      if_neg dollar, ih fun c mem => safe c (List.mem_cons_of_mem _ mem)]
    rfl

/-- Digits behind a dollar sign belong to the placeholder. -/
theorem replacedFrom_digits {digits rest : List Char} (inside : ∀ c ∈ digits, c.isDigit = true)
    (ends : ∀ c ∈ rest.head?, c.isDigit = false) (fillings : List (List Char)) :
    replacedFrom true fillings (digits ++ rest) = replacedFrom false fillings rest := by
  induction digits with
  | nil =>
    cases rest with
    | nil => rfl
    | cons c rest => simp [replacedFrom, ends c rfl]
  | cons c digits ih =>
    rw [List.cons_append, replacedFrom, inside c List.mem_cons_self]
    exact ih fun c mem => inside c (List.mem_cons_of_mem _ mem)

theorem replacedFrom_placeholder (d : Dialect) (position : Nat) (filling : List Char)
    (fillings : List (List Char)) {rest : List Char} (ends : ∀ c ∈ rest.head?, c.isDigit = false) :
    replacedFrom false (filling :: fillings) ((d.placeholder position).toList ++ rest) =
      filling ++ replacedFrom false fillings rest := by
  cases d with
  | sqlite => simp [Dialect.placeholder, replacedFrom]
  | postgres =>
    rw [toList_placeholder_postgres, List.cons_append, replacedFrom, Bool.false_and,
      if_neg Bool.false_ne_true, if_neg (by decide), if_pos rfl,
      replacedFrom_digits Text.isDigit_of_mem_toDigits ends]
    rfl

/-- What is shown is what is written with its placeholders replaced by literals. -/
theorem replacedFrom_written (spaced : outline.Spaced) (d : Dialect) (position : Nat) :
    replacedFrom false (outline.values.map fun v => (literal v).toList)
      (outline.written d position) = outline.shown := by
  induction spaced generalizing position with
  | nil => rfl
  | words plain _ ih => rw [Outline.written, replacedFrom_plain plain, Outline.values, ih]; rfl
  | value v next spaced ih =>
    rw [Outline.written, Outline.values, List.map_cons,
      replacedFrom_placeholder d position _ _ (Outline.head_written next d _), ih]
    rfl
  | escape next _ ih =>
    have clause (fillings : List (List Char)) (rest : List Char) :
        replacedFrom false fillings (Comparison.like.trailing.toList ++ rest) =
          Comparison.like.trailing.toList ++ replacedFrom false fillings rest := rfl
    rw [Outline.written, clause, Outline.values, ih]
    rfl

/-! ### Values that are put in place -/

theorem inlineFrom_plain {s : String} (plain : isPlain s = true) (values : List Scalar)
    (position : Nat) (rest : List Char) :
    (inlineFrom values position none (s.toList ++ rest)).flatten =
      s.toList ++ (inlineFrom values position none rest).flatten := by
  have safe := isPlain_iff.1 plain
  clear plain
  generalize s.toList = cs at safe
  induction cs with
  | nil => rfl
  | cons c cs ih =>
    obtain ⟨question, dollar, -⟩ := safe c List.mem_cons_self
    rw [List.cons_append, inlineFrom]
    simp only [question, dollar, if_false]
    rw [List.flatten_cons, ih fun c mem => safe c (List.mem_cons_of_mem _ mem)]
    rfl

/-- A numbered placeholder ends where its digits end. -/
theorem inlineFrom_digits {digits rest : List Char} (inside : ∀ c ∈ digits, c.isDigit = true)
    (ends : ∀ c ∈ rest.head?, c.isDigit = false) (values : List Scalar) (position : Nat)
    {before : List Char} (some : digits.reverse ++ before ≠ []) :
    inlineFrom values position (.some before) (digits ++ rest) =
      numbered values (before.reverse ++ digits) :: inlineFrom values position none rest := by
  induction digits generalizing before with
  | nil =>
    -- No digit comes next, so the number ends here. A dollar sign without digits is no placeholder,
    -- which is what `some` rules out.
    obtain ⟨last, others, rfl⟩ := List.exists_cons_of_ne_nil some
    cases rest with
    | nil => simp [inlineFrom]
    | cons c rest =>
      have other : c.isDigit = false := ends c rfl
      simp only [List.nil_append, inlineFrom, other, Bool.false_eq_true, if_false,
        List.isEmpty_cons, List.append_nil]
      split
      · rfl
      · split <;> rfl
  | cons c digits ih =>
    rw [List.cons_append, inlineFrom, inside c List.mem_cons_self,
      ih (fun c mem => inside c (List.mem_cons_of_mem _ mem)) (by simp)]
    simp

theorem literalAt?_append (before : List Scalar) (v : Scalar) (behind : List Scalar) :
    literalAt? (before ++ v :: behind) (before.length + 1) = some (literal v).toList := by
  simp [literalAt?]

/-- The first placeholder behind some values takes the value behind them. A question mark has to be
counted for that, a number has not. -/
theorem inlineFrom_placeholder (d : Dialect) (before : List Scalar) (v : Scalar)
    (behind : List Scalar) {position : Nat} (counted : d = .sqlite → position = before.length + 1)
    {rest : List Char} (ends : ∀ c ∈ rest.head?, c.isDigit = false) :
    ∃ next, (d = .sqlite → next = before.length + 2) ∧
      (inlineFrom (before ++ v :: behind) position none
        ((d.placeholder (before.length + 1)).toList ++ rest)).flatten =
      (literal v).toList ++
        (inlineFrom (before ++ v :: behind) next none rest).flatten := by
  have found := literalAt?_append before v behind
  cases d with
  | sqlite =>
    refine ⟨position + 1, fun _ => by rw [counted rfl], ?_⟩
    have mark : (Dialect.sqlite.placeholder (before.length + 1)).toList = ['?'] := by
      rw [Dialect.placeholder]
      rfl
    rw [mark, List.singleton_append, inlineFrom]
    simp only [if_true, List.flatten_cons, counted rfl, found, Option.getD_some]
  | postgres =>
    refine ⟨position, ?_, ?_⟩
    · rintro ⟨⟩
    · have dollar : ('$' : Char) ≠ '?' := by decide
      rw [toList_placeholder_postgres, List.cons_append, inlineFrom]
      simp only [dollar, if_false, if_true]
      rw [inlineFrom_digits Text.isDigit_of_mem_toDigits ends _ _ (by simp [Nat.toDigits_ne_nil]),
        List.flatten_cons, List.reverse_nil, List.nil_append, numbered, Text.digitsValue_toDigits,
        found, Option.getD_some]

/-- Values are put in the places of their placeholders, whatever values stand before them. -/
theorem flatten_inlineFrom_written (spaced : outline.Spaced) (d : Dialect) (before : List Scalar)
    {position : Nat} (counted : d = .sqlite → position = before.length + 1) :
    (inlineFrom (before ++ outline.values) position none
      (outline.written d (before.length + 1))).flatten = outline.shown := by
  -- The values that are already in place stay in `before`: a number counts from the first of all.
  induction spaced generalizing before position with
  | nil => rfl
  | words plain _ ih =>
    rw [Outline.written, inlineFrom_plain plain, Outline.values, ih before counted]
    rfl
  | @value v rest next spaced ih =>
    have ends := Outline.head_written next d (before.length + 2)
    obtain ⟨after, counts, put⟩ :=
      inlineFrom_placeholder d before v rest.values counted ends
    have counted' : d = .sqlite → after = (before ++ [v]).length + 1 := fun same => by
      simp [counts same]
    have later := ih (before ++ [v]) counted'
    rw [List.append_assoc, List.singleton_append, List.length_append,
      List.length_singleton] at later
    rw [Outline.written, Outline.values, put, later]
    rfl
  | escape next _ ih =>
    have clause (values : List Scalar) (rest : List Char) :
        (inlineFrom values position none (Comparison.like.trailing.toList ++ rest)).flatten =
          Comparison.like.trailing.toList ++ (inlineFrom values position none rest).flatten := rfl
    rw [Outline.written, clause, Outline.values, ih before counted]
    rfl

/-! ### Quotes -/

theorem quote_notMem_decimal (n : Int) : '\x27' ∉ (Text.decimal n).toList := by
  have digits (k : Nat) : '\x27' ∉ Nat.toDigits 10 k := fun mem => by
    cases Text.isDigit_of_mem_toDigits _ mem
  cases n <;> simp [Text.decimal, digits]

theorem quote_notMem_display (x : Double) : '\x27' ∉ x.display.toList := by
  have digits (k : Nat) : '\x27' ∉ Nat.toDigits 10 k := fun mem => by
    cases Text.isDigit_of_mem_toDigits _ mem
  have positional (n : Decimal) : '\x27' ∉ DecimalLayout.plain.write n := by
    have text : '\x27' ∉ n.text := digits n.digits
    have whole : DecimalLayout.plain.write n = DecimalLayout.plain.positional n := rfl
    rw [whole, DecimalLayout.positional]
    split
    · simp [text, DecimalLayout.plain]
    · split
      · intro mem
        rcases List.mem_append.1 mem with front | back
        · exact text (List.mem_of_mem_take front)
        · rcases List.mem_cons.1 back with point | back
          · exact absurd point (by decide)
          · exact text (List.mem_of_mem_drop back)
      · simp [text]
  rw [Double.display]
  split
  · decide
  · split
    · split <;> decide
    · rw [Double.writeFinite, String.toList_ofList]
      split <;> simp [positional]

/-- Of all values only texts are shown with quotes. -/
theorem quote_notMem_literal {v : Scalar} (other : v.toText? = none) :
    '\x27' ∉ (literal v).toList := by
  cases v with
  | null => decide
  | bool b => cases b <;> decide
  | integer n => exact quote_notMem_decimal n
  | float x => exact quote_notMem_display x
  | text s => cases other

/-- Outside of quotes nothing but a quote is looked at. -/
theorem quotationsFrom_append {cs : List Char} (unquoted : '\x27' ∉ cs) (rest : List Char) :
    quotationsFrom none (cs ++ rest) = quotationsFrom none rest := by
  induction cs with
  | nil => rfl
  | cons c cs ih =>
    rw [List.mem_cons, not_or] at unquoted
    rw [List.cons_append, quotationsFrom, ih unquoted.2]
    exact fun same => unquoted.1 same.symm

/-- A text with its quotes written twice is read as that text. -/
theorem quotationsFrom_some {cs rest : List Char} (ends : ∀ c ∈ rest.head?, c ≠ '\x27')
    (before : List Char) :
    quotationsFrom (some before)
        (cs.flatMap (fun c => if c = '\x27' then ['\x27', '\x27'] else [c]) ++ '\x27' :: rest) =
      (quotationsFrom none rest).map (String.ofList (before.reverse ++ cs) :: ·) := by
  induction cs generalizing before with
  | nil =>
    rw [List.flatMap_nil, List.nil_append, quotationsFrom, List.append_nil]
    rintro _ rfl
    exact ends _ rfl rfl
  | cons c cs ih =>
    rw [List.flatMap_cons, List.append_assoc]
    by_cases quote : c = '\x27'
    · subst quote
      rw [if_pos rfl, List.cons_append, List.cons_append, List.nil_append, quotationsFrom, ih]
      simp
    · rw [if_neg quote, List.singleton_append, quotationsFrom, ih]
      · simp
      · exact fun _ same => absurd same quote
      · exact fun same => absurd same quote

theorem quotationsFrom_quoteText (s : String) {rest : List Char}
    (ends : ∀ c ∈ rest.head?, c ≠ '\x27') :
    quotationsFrom none (quoteText s ++ rest) = (quotationsFrom none rest).map (s :: ·) := by
  rw [quoteText, List.cons_append, quotationsFrom, List.append_assoc, List.singleton_append,
    quotationsFrom_some ends]
  simp

/-- What is shown holds the texts of its outline in quotes, and no others. -/
theorem quotationsFrom_shown (spaced : outline.Spaced) :
    quotationsFrom none outline.shown = some outline.quotations := by
  induction spaced with
  | nil => rfl
  | words plain _ ih =>
    have unquoted := fun mem => (isPlain_iff.1 plain _ mem).2.2 rfl
    rw [Outline.shown, quotationsFrom_append unquoted, ih]
    rfl
  | value v next spaced ih =>
    have ends := Outline.head_shown next spaced
    cases kind : v.toText? with
    | none =>
      rw [Outline.shown, quotationsFrom_append (quote_notMem_literal kind), ih, Outline.quotations,
        kind]
      rfl
    | some s =>
      have text : v = .text s := by cases v <;> simp_all [Scalar.toText?]
      subst text
      rw [Outline.shown, literal, String.toList_ofList, quotationsFrom_quoteText s ends, ih]
      rfl
  | escape next spaced ih =>
    have ends := Outline.head_shown next spaced
    have clause : Comparison.like.trailing.toList = " ESCAPE ".toList ++ quoteText "\\" := by decide
    rw [Outline.shown, clause, List.append_assoc, quotationsFrom_append (by decide),
      quotationsFrom_quoteText _ ends, ih]
    rfl

end Sql

end TodoServer
