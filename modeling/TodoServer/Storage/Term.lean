import TodoServer.Storage.Schema
import TodoServer.Text.Blank

/-!
# Terms

What a statement names of a row: a column or a constant. A projection is a list of terms with names,
read from its text; the star stands for all columns.
-/

namespace TodoServer.Storage

/-- A token of a term. -/
inductive Token where
  /-- A bare word. -/
  | word (text : String)
  /-- A name in double quotes, backticks or brackets. Only the first may also be a text. -/
  | name (text : String) (mayBeText : Bool)
  | text (value : String)
  | blob (bytes : List UInt8)
  | number (value : Cell)
  | symbol (c : Char)
  deriving DecidableEq, Repr

namespace Token

/-- The inside of a quoted token up to its closing quote, which stands for itself when doubled. -/
def quoted? (close : Char) : List Char → Option (List Char × List Char)
  | [] => none
  | c :: rest =>
    if c = close then
      match rest with
      | d :: rest' =>
        if d = close then (quoted? close rest').map fun (inside, rest) => (c :: inside, rest)
        else some ([], rest)
      | [] => some ([], [])
    else (quoted? close rest).map fun (inside, rest) => (c :: inside, rest)

/-- Whether a character may stand in a bare word. -/
def isWordChar (c : Char) : Bool :=
  c.isAlphanum || c == '_' || c == '$' || 0x80 ≤ c.toNat

/-- A number in front and the rest. -/
def number? (cs : List Char) : Option (Token × List Char) := do
  let (whole, rest) := Double.takeDigits cs
  let (fraction, rest, isReal) : List Char × List Char × Bool := match rest with
    | '.' :: rest => let (fraction, rest) := Double.takeDigits rest; (fraction, rest, true)
    | rest => ([], rest, false)
  if whole.isEmpty && fraction.isEmpty then none
  let (exponent, after) := (Double.takeExponent? rest).getD (0, rest)
  let isReal := isReal || after.length < rest.length
  if (after.head?.any isWordChar) then none
  let n := Text.digitsValue whole
  let cell := if !isReal && Scalar.fits64 n then Cell.integer n
    else .real (Double.Numeral.toDouble ⟨whole, fraction, exponent⟩ false)
  some (.number cell, after)

/-- The tokens of a text, at most `fuel` of them. -/
def scan : Nat → List Char → Option (List Token)
  | 0, _ => none
  | _, [] => some []
  | fuel + 1, c :: rest =>
    if Cell.isNumberBlank c then scan fuel rest
    else if c = '\x27' then do
      let (inside, rest) ← quoted? '\x27' rest
      return .text (String.ofList inside) :: (← scan fuel rest)
    else if c = '"' then do
      let (inside, rest) ← quoted? '"' rest
      return .name (String.ofList inside) true :: (← scan fuel rest)
    else if c = '\x60' then do
      let (inside, rest) ← quoted? '\x60' rest
      return .name (String.ofList inside) false :: (← scan fuel rest)
    else if c = '[' then do
      let inside := rest.takeWhile (· ≠ ']')
      match rest.drop inside.length with
      | ']' :: rest => return .name (String.ofList inside) false :: (← scan fuel rest)
      | _ => none
    else if (c = 'x' ∨ c = 'X') ∧ rest.head? = some '\x27' then do
      let (inside, rest) ← quoted? '\x27' (rest.drop 1)
      let bytes ← Text.hexDecode? inside
      return .blob bytes :: (← scan fuel rest)
    else if c.isDigit ∨ (c = '.' ∧ rest.head?.any Char.isDigit) then do
      let (token, rest) ← number? (c :: rest)
      return token :: (← scan fuel rest)
    else if isWordChar c then do
      let word := (c :: rest).takeWhile isWordChar
      let rest := (c :: rest).dropWhile isWordChar
      return .word (String.ofList word) :: (← scan fuel rest)
    else do return .symbol c :: (← scan fuel rest)

/-- The tokens of a text. -/
def ofText? (s : String) : Option (List Token) :=
  scan (s.length + 1) s.toList

/-- Words that cannot name a column or a result. -/
def reserved : List String :=
  ["select", "from", "where", "and", "or", "not", "null", "insert", "into", "values", "update",
    "set", "delete", "as", "in", "is", "case", "when", "then", "else", "table", "create", "drop",
    "index", "order", "group", "having", "limit", "join", "on", "using", "union", "distinct",
    "between", "exists", "primary", "references", "unique", "check", "constraint", "default",
    "foreign", "transaction", "commit", "add", "all", "alter", "collate", "escape", "isnull",
    "notnull", "to"]

/-- Whether a word is reserved. -/
def isReserved (word : String) : Bool :=
  reserved.any (Text.sameLetters word)

end Token

/-- What a statement names of a row. -/
inductive Term where
  /-- The column at a position, the key being zero. -/
  | column (position : Nat)
  | constant (value : Cell)
  deriving DecidableEq, Repr

namespace Term

/-- The affinity that a term lends to what it is compared with. -/
def affinity (schema : TableSchema) : Term → Affinity
  | column position => schema.affinityAt position
  | constant _ => .none

/-- The other names of the key. -/
def keyNames : List String := ["rowid", "oid", "_rowid_"]

/-- The column of a name. -/
def named? (schema : TableSchema) (name : String) : Option Term :=
  match schema.position? name with
  | some position => some (column position)
  | none => if keyNames.any (Text.sameLetters name) then some (column 0) else none

/-- The term of a name that may also be a text. -/
def ofName? (schema : TableSchema) (name : String) (mayBeText : Bool) : Option Term :=
  named? schema name <|> if mayBeText then some (constant (.text name)) else none

/-- The constant with the other sign. -/
def negate : Cell → Cell
  | .integer n => if n = -9223372036854775808 then .real (Double.ofInt (-n)) else .integer (-n)
  | .real d => .real (Double.ofFields (!d.isNegative) d.magnitudeBits)
  | .null => .null
  | cell => match cell.chars?.bind (fun cs => Cell.numberOf? (String.ofList cs)) with
    | some (.integer n) => .integer (-n)
    | some (.real d) => .real (Double.ofFields (!d.isNegative) d.magnitudeBits)
    | _ => .integer 0

/-- The term of some tokens. -/
def ofTokens? (schema : TableSchema) : List Token → Option Term
  | [.number cell] => some (constant cell)
  | [.text s] => some (constant (.text s))
  | [.blob bytes] => some (constant (.blob bytes))
  | [.name name mayBeText] => ofName? schema name mayBeText
  | [.word word] =>
    if Text.sameLetters word "null" then some (constant .null)
    else if Token.isReserved word then none
    else match named? schema word with
      | some term => some term
      | none =>
        if Text.sameLetters word "true" then some (constant (.integer 1))
        else if Text.sameLetters word "false" then some (constant (.integer 0))
        else none
  | [.word table, .symbol '.', .word word] =>
    if Text.sameLetters table schema.name && !Token.isReserved word then named? schema word
    else none
  | .symbol '-' :: rest =>
    match ofTokens? schema rest with
    | some (constant cell) => some (constant (negate cell))
    | _ => none
  | .symbol '+' :: rest => ofTokens? schema rest
  | _ => none

/-- The term of a text. -/
def ofText? (schema : TableSchema) (s : String) : Option Term :=
  (Token.ofText? s).bind (ofTokens? schema)

end Term

/-- What a projection asks for under a name. -/
inductive Output where
  | term (name : String) (term : Term)
  /-- The number of rows. -/
  | count (name : String)
  deriving DecidableEq, Repr

namespace Output

/-- Whether an output asks for the number of rows. -/
def isTotal : Output → Bool
  | count _ => true
  | term _ _ => false

/-- The parts of a projection between its commas. `quote?` is the quote under way. -/
def splitItems : Option Char → List Char → List (List Char)
  | _, [] => [[]]
  | quote?, c :: rest =>
    let next? : Option Char := match quote? with
      | some close => if c = close then none else quote?
      | none => if c = '\x27' ∨ c = '"' ∨ c = '\x60' then some c else none
    if quote?.isNone ∧ c = ',' then [] :: splitItems none rest
    else match splitItems next? rest with
      | [] => [[c]]
      | part :: parts => (c :: part) :: parts

/-- The name that a token gives to a result. -/
def givenName? : Token → Option String
  | .word word => if Token.isReserved word then none else some word
  | .name name _ => some name
  | .text s => some s
  | _ => none

/-- The tokens of an item without the name given to it, and that name. -/
def splitName (tokens : List Token) : List Token × Option String :=
  match tokens.reverse with
  | last :: .word w :: first :: more =>
    if Text.sameLetters w "as" then
      match givenName? last with
      | some name => ((first :: more).reverse, some name)
      | none => (tokens, none)
    else (tokens, none)
  | _ => (tokens, none)

/-- Whether tokens ask for the number of rows. -/
def isCount : List Token → Bool
  | [.word w, .symbol '(', .symbol '*', .symbol ')'] => Text.sameLetters w "count"
  | _ => false

/-- The outputs of one item of a projection. -/
def ofItem? (schema : TableSchema) (item : String) : Option (List Output) := do
  let tokens ← Token.ofText? item
  let every := (List.range schema.columnNames.length).zip schema.columnNames
  match tokens with
  | [.symbol '*'] => some (every.map fun (i, name) => term name (.column i))
  | tokens =>
    let (tokens, given?) := splitName tokens
    let bare := Text.trim item
    if isCount tokens then some [count (given?.getD bare)]
    else do
      let found ← Term.ofTokens? schema tokens
      let standard := match found with
        | .column position => (schema.columnNames[position]?).getD bare
        | .constant _ => bare
      some [term (given?.getD standard) found]

/-- The outputs of a projection. -/
def ofText? (schema : TableSchema) (s : String) : Option (List Output) :=
  ((splitItems none s.toList).mapM fun item => ofItem? schema (String.ofList item)).map
    List.flatten

end Output

end TodoServer.Storage
