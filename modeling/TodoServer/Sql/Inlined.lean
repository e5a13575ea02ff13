import TodoServer.Data.Scalar

/-!
# Values inside SQL text

Literals of scalars, statements with their values put in place for the log, and patterns that
match a text literally.
-/

namespace TodoServer.Sql

/-- A text in quotes, each quote inside written twice. -/
def quoteText (s : String) : List Char :=
  '\x27' :: (s.toList.flatMap (fun c => if c = '\x27' then ['\x27', '\x27'] else [c]) ++ ['\x27'])

/-- The literal of a scalar. -/
def literal : Scalar → String
  | .null => "NULL"
  | .bool b => if b then "1" else "0"
  | .integer n => Text.decimal n
  | .float d => d.display
  | .text s => String.ofList (quoteText s)

/-- The literal of the value at a position counted from one. -/
def literalAt? (values : List Scalar) (position : Nat) : Option (List Char) :=
  if position = 0 then none else (values[position - 1]?).map fun v => (literal v).toList

/-- The literal of a numbered placeholder, or the placeholder when there is no such value. -/
def numbered (values : List Scalar) (digits : List Char) : List Char :=
  (literalAt? values (Text.digitsValue digits)).getD ('$' :: digits)

/-- Puts values in the places of placeholders. `digits?` holds the digits, in reverse, of a numbered
placeholder under way; `position` is that of the next question mark. -/
def inlineFrom (values : List Scalar) (position : Nat) (digits? : Option (List Char)) :
    List Char → List (List Char)
  | [] =>
    match digits? with
    | none => []
    | some [] => [['$']]
    | some digits => [numbered values digits.reverse]
  | c :: rest =>
    match digits? with
    | some digits =>
      if c.isDigit then inlineFrom values position (some (c :: digits)) rest
      else
        let done := if digits.isEmpty then ['$'] else numbered values digits.reverse
        if c = '?' then
          done :: (literalAt? values position).getD ['?'] ::
            inlineFrom values (position + 1) none rest
        else if c = '$' then done :: inlineFrom values position (some []) rest
        else done :: [c] :: inlineFrom values position none rest
    | none =>
      if c = '?' then
        (literalAt? values position).getD ['?'] :: inlineFrom values (position + 1) none rest
      else if c = '$' then inlineFrom values position (some []) rest
      else [c] :: inlineFrom values position none rest

/-- A statement with its values in the places of the placeholders. Question marks take the values in
order, a dollar sign with a number takes the value at that position, and a placeholder without a
value stays as it is. -/
def inlined (text : String) (values : List Scalar) : String :=
  String.ofList (inlineFrom values 1 none text.toList).flatten

/-- The characters of a pattern that match a character literally. -/
def escapeLikeChar (c : Char) : List Char :=
  if c = '\\' ∨ c = '%' ∨ c = '_' then ['\\', c] else [c]

/-- The pattern that matches a text literally. -/
def escapeLike (s : String) : String :=
  String.ofList (s.toList.flatMap escapeLikeChar)

/-- Escaping goes character by character. -/
theorem escapeLike_append (a b : String) : escapeLike (a ++ b) = escapeLike a ++ escapeLike b := by
  simp [escapeLike, String.ofList_append]

end TodoServer.Sql
