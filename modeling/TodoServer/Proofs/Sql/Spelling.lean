import TodoServer.Proofs.Sql.Grammar
import TodoServer.Sql.Dialect

/-!
# The spelling of conditions

Each word that condition text is made of is read back as the token it was written for, whatever ends
it, and the mark of a position takes the value of that position in both dialects.
-/

namespace TodoServer

/-- The mark of the value at a position. -/
def Dialect.mark : Dialect → Nat → Sql.Token
  | .sqlite, _ => .mark none
  | .postgres, position => .mark (some position)

/-- How many question marks mark the first values of a text. -/
def Dialect.questionMarks : Dialect → Nat → Nat
  | .sqlite, count => count
  | .postgres, _ => 0

/-- The tokens behind the value of a comparison. -/
def Comparison.clause : Comparison → List Sql.Token
  | .like => [.escape, .quoted "\\"]
  | _ => []

namespace Sql

/-- Puts values in the places of marks. Question marks take the values in order, `taken` of them
being taken, and a numbered mark takes the value at its number behind `bound`. A mark without a
value goes astray. -/
def bindMarks (bound : Nat) (values : List Scalar) : Nat → List Token → List Token
  | _, [] => []
  | taken, .mark none :: rest =>
    ((values[taken]?).map Token.value).getD .stray :: bindMarks bound values (taken + 1) rest
  | taken, .mark (some n) :: rest =>
    (if bound < n then ((values[n - bound - 1]?).map Token.value).getD .stray else .stray) ::
      bindMarks bound values taken rest
  | taken, t :: rest => t :: bindMarks bound values taken rest

/-- The words that a plain name is none of. -/
def reserved : List String := ["AND", "OR", "LIKE", "ESCAPE"]

/-- Whether a text is a letter or an underscore with letters, digits and underscores behind it, and
no reserved word. -/
def isPlainName (casing : Casing) (name : String) : Bool :=
  (match name.toList with
    | [] => false
    | c :: rest => isNameStart c && rest.all isNamePart) &&
  reserved.all fun word => !casing.same name word

variable {casing : Casing} {rest : List Char}

theorem lex_name {name : String} (plain : isPlainName casing name = true) (ends : Ends rest) :
    lex casing (name.toList ++ rest) = .name name :: lex casing rest := by
  simp only [isPlainName, reserved, List.all_cons, List.all_nil, Bool.and_true,
    Bool.and_eq_true, Bool.not_eq_true'] at plain
  obtain ⟨spelled, notAnd, notOr, notLike, notEscape⟩ := plain
  split at spelled
  · cases spelled
  · next c cs spelling =>
    rw [Bool.and_eq_true, List.all_eq_true] at spelled
    have word : String.ofList (c :: cs) = name := by rw [← spelling, String.ofList_toList]
    rw [spelling, lex_word casing spelled.1 spelled.2 ends, word]
    simp [Token.ofWord, notAnd, notOr, notLike, notEscape]

/-- A word of the language is read as such whichever way words are compared. -/
theorem lex_reserved {word : String} {c : Char} {cs : List Char} {t : Token}
    (spelling : word.toList = c :: cs) (start : isNameStart c = true)
    (inside : cs.all isNamePart = true) (meant : Token.ofWord casing word = t)
    (ends : Ends rest) : lex casing (word.toList ++ rest) = t :: lex casing rest := by
  have parts := List.all_eq_true.1 inside
  rw [spelling, lex_word casing start parts ends, ← spelling, String.ofList_toList, meant]

theorem lex_connective (connective : Connective) (ends : Ends rest) :
    lex casing (connective.sql.toList ++ rest) = .connective connective :: lex casing rest := by
  cases connective with
  | and => exact lex_reserved rfl rfl rfl (by cases casing <;> rfl) ends
  | or => exact lex_reserved rfl rfl rfl (by cases casing <;> rfl) ends

theorem lex_comparison (comparison : Comparison) (ends : Ends rest) :
    lex casing (comparison.sql.toList ++ rest) = .comparison comparison :: lex casing rest := by
  cases comparison with
  | like => exact lex_reserved rfl rfl rfl (by cases casing <;> rfl) ends
  | eq | ne | lt | gt | le | ge => exact lex_symbols casing rfl (List.all_eq_true.1 rfl) ends

theorem lex_placeholder (d : Dialect) (position : Nat) (ends : Ends rest) :
    lex casing ((d.placeholder position).toList ++ rest) =
      d.mark position :: lex casing rest := by
  cases d with
  | sqlite => simp [Dialect.placeholder, Dialect.mark]
  | postgres =>
    simpa [Dialect.placeholder, Dialect.mark, Text.decimalNat] using
      lex_numbered casing position ends

theorem lex_escape (ends : Ends rest) :
    lex casing ("ESCAPE".toList ++ rest) = .escape :: lex casing rest :=
  lex_reserved rfl rfl rfl (by cases casing <;> rfl) ends

theorem lex_trailing (comparison : Comparison) (ends : Ends rest) :
    lex casing (comparison.trailing.toList ++ rest) = comparison.clause ++ lex casing rest := by
  cases comparison with
  | like =>
    change lex casing (' ' :: ("ESCAPE".toList ++ ' ' :: '\x27' :: '\\' :: '\x27' :: rest)) = _
    rw [lex_space, lex_escape (ends_space _), lex_space, lex_backslash casing ends]
    rfl
  | eq | ne | lt | gt | le | ge => rfl

theorem ends_trailing (comparison : Comparison) (ends : Ends rest) :
    Ends (comparison.trailing.toList ++ rest) := by
  cases comparison with
  | like => exact ends_space _
  | eq | ne | lt | gt | le | ge => exact ends

/-- The next value is put in the place of its mark. -/
theorem bindMarks_mark (d : Dialect) {bound n : Nat} {values : List Scalar} {value : Scalar}
    (found : values[n]? = some value) (tokens : List Token) :
    bindMarks bound values (d.questionMarks n) (d.mark (bound + n + 1) :: tokens) =
      .value value :: bindMarks bound values (d.questionMarks (n + 1)) tokens := by
  cases d with
  | sqlite => simp [bindMarks, Dialect.mark, Dialect.questionMarks, found]
  | postgres =>
    have behind : bound < bound + n + 1 := by omega
    have index : bound + n + 1 - bound - 1 = n := by omega
    simp only [bindMarks, Dialect.mark, Dialect.questionMarks, if_pos behind, index, found,
      Option.map_some, Option.getD_some]

theorem bindMarks_clause (bound : Nat) (values : List Scalar) (n : Nat) (comparison : Comparison)
    (tokens : List Token) :
    bindMarks bound values n (comparison.clause ++ tokens) =
      comparison.clause ++ bindMarks bound values n tokens := by
  cases comparison <;> rfl

end Sql

end TodoServer
