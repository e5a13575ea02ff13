import TodoServer.Json.Value
import TodoServer.Text.Utf8
import TodoServer.Text.Hex

/-!
# Reading JSON

A draft is a document as far as its text could be read: it is torn where the text breaks the
grammar, and garbled where a token is well delimited but denotes nothing. A reader that knows what
it wants walks the draft in the order of the text and so finds the first fault.
-/

namespace TodoServer.Json

/-- A value as far as it could be read. -/
inductive Draft where
  | null
  | bool (value : Bool)
  | int (value : Int)
  | float (value : Double)
  | str (value : String)
  /-- A delimited token without a value: a text of stray bytes, or a number beyond all floats. -/
  | garbled
  /-- The text breaks off or goes astray here. -/
  | torn
  /-- Items in order. Not `whole`: the text breaks after them. -/
  | arr (items : List Draft) (whole : Bool)
  /-- Members in order. Not `whole`: the text breaks after them. -/
  | obj (members : List (String × Draft)) (whole : Bool)
  deriving Repr, Inhabited

namespace Draft

open Text (Glyph)

/-- Whether a character may stand between tokens. -/
def isSeparating (c : Char) : Bool :=
  c == ' ' || c == '\n' || c == '\t' || c == '\r'

/-- A text without the separating characters in front. -/
def skipBlank (cs : List Glyph) : List Glyph :=
  cs.dropWhile (·.any isSeparating)

/-- A run of digits in front and the rest. -/
def takeDigits (cs : List Glyph) : List Char × List Glyph :=
  ((cs.takeWhile (·.any Char.isDigit)).filterMap id, cs.dropWhile (·.any Char.isDigit))

/-- The value of four hexadecimal digits in front and the rest. -/
def takeUnit? : List Glyph → Option (Nat × List Glyph)
  | some a :: some b :: some c :: some d :: rest => do
    let a ← Text.hexValue? a
    let b ← Text.hexValue? b
    let c ← Text.hexValue? c
    let d ← Text.hexValue? d
    some (((a * 16 + b) * 16 + c) * 16 + d, rest)
  | _ => none

/-- The second half of a surrogate pair, escaped in front, and the rest. -/
def pairedUnit? : List Glyph → Option (Nat × List Glyph)
  | some '\\' :: some 'u' :: rest =>
    match takeUnit? rest with
    | some (low, rest) => if 0xDC00 ≤ low && low < 0xE000 then some (low, rest) else none
    | none => none
  | _ => none

/-- The character of an escape with one letter. -/
def simpleEscape? (c : Char) : Option Char :=
  if c = '"' then some '"'
  else if c = '\\' then some '\\'
  else if c = '/' then some '/'
  else if c = 'b' then some '\x08'
  else if c = 'f' then some '\x0c'
  else if c = 'n' then some '\n'
  else if c = 'r' then some '\r'
  else if c = 't' then some '\t'
  else none

/-- The inside of a quoted text behind the characters `found`, which stand in reverse, and the rest
behind the closing quote. The inside is `none` when it denotes no text; the whole result is `none`
when the text breaks off before the closing quote or goes astray. -/
def quoted? : Nat → Option (List Char) → List Glyph → Option (Option (List Char) × List Glyph)
  | 0, _, _ => none
  | _, _, [] => none
  | fuel + 1, _, none :: rest => quoted? fuel none rest
  | fuel + 1, found, some c :: rest =>
    if c = '"' then some (found.map List.reverse, rest)
    else if c = '\\' then
      match rest with
      | some 'u' :: rest =>
        match takeUnit? rest with
        | none => none
        | some (unit, rest) =>
          if 0xD800 ≤ unit && unit < 0xDC00 then
            match pairedUnit? rest with
            | some (low, rest) =>
              let c := Char.ofNat (0x10000 + (unit - 0xD800) * 0x400 + (low - 0xDC00))
              quoted? fuel (found.map (c :: ·)) rest
            | none => quoted? fuel none rest
          else if 0xDC00 ≤ unit && unit < 0xE000 then quoted? fuel none rest
          else quoted? fuel (found.map (Char.ofNat unit :: ·)) rest
      | some letter :: rest =>
        match simpleEscape? letter with
        | some c => quoted? fuel (found.map (c :: ·)) rest
        | none => none
      | _ => none
    else if c.toNat < 0x20 then none
    else quoted? fuel (found.map (c :: ·)) rest

/-- The value of a number token. A whole number outside 64 bits is a float. -/
def number (negative : Bool) (whole : List Char) (fraction? : Option (List Char))
    (exponent? : Option Int) : Draft :=
  let n := Text.digitsValue whole
  let isInt := fraction?.isNone && exponent?.isNone &&
    (if negative then 0 < n && n ≤ Nat.pow 2 63 else n < Nat.pow 2 64)
  if isInt then .int (if negative then -(n : Int) else n)
  else
    let d := Double.Numeral.toDouble ⟨whole, fraction?.getD [], exponent?.getD 0⟩ negative
    if d.isFinite then .float d else .garbled

/-- The digits of an exponent behind its mark, with their sign. -/
def takeExponent? (cs : List Glyph) : Option (Int × List Glyph) :=
  let (sign, cs) : Int × List Glyph := match cs with
    | some '-' :: rest => (-1, rest)
    | some '+' :: rest => (1, rest)
    | rest => (1, rest)
  let (digits, rest) := takeDigits cs
  if digits.isEmpty then none else some (sign * (Text.digitsValue digits : Nat), rest)

/-- A number without its sign, and the rest. -/
def takeNumber? (negative : Bool) (cs : List Glyph) : Option (Draft × List Glyph) := do
  let (whole, rest) := takeDigits cs
  if whole.isEmpty || (whole.head? == some '0' && 1 < whole.length) then none
  let (fraction?, rest) ← match rest with
    | some '.' :: rest =>
      let (digits, rest) := takeDigits rest
      if digits.isEmpty then none else some (some digits, rest)
    | rest => some (none, rest)
  let (exponent?, rest) ← match rest with
    | some 'e' :: rest => (takeExponent? rest).map fun (e, rest) => (some e, rest)
    | some 'E' :: rest => (takeExponent? rest).map fun (e, rest) => (some e, rest)
    | rest => some (none, rest)
  some (number negative whole fraction? exponent?, rest)

/-- A word in front, and the rest. -/
def takeWord? : List Char → List Glyph → Option (List Glyph)
  | [], rest => some rest
  | c :: word, some d :: rest => if c = d then takeWord? word rest else none
  | _ :: _, _ => none

/-- The items up to the closing bracket behind those already `found`, which stand in reverse,
whether the bracket was found, and the rest. -/
def items (read : List Glyph → Draft × List Glyph) :
    Nat → List Draft → List Glyph → List Draft × Bool × List Glyph
  | 0, found, _ => (found.reverse, false, [])
  | fuel + 1, found, cs =>
    let (item, rest) := read cs
    match skipBlank rest with
    | some ',' :: rest => items read fuel (item :: found) rest
    | some ']' :: rest => ((item :: found).reverse, true, rest)
    | _ => ((item :: found).reverse, false, [])

/-- The members up to the closing brace behind those already `found`, which stand in reverse,
whether the brace was found, and the rest. -/
def members (read : List Glyph → Draft × List Glyph) :
    Nat → List (String × Draft) → List Glyph → List (String × Draft) × Bool × List Glyph
  | 0, found, _ => (found.reverse, false, [])
  | fuel + 1, found, cs =>
    match skipBlank cs with
    | some '"' :: rest =>
      match quoted? (rest.length + 1) (some []) rest with
      | some (some name, rest) =>
        let name := String.ofList name
        match skipBlank rest with
        | some ':' :: rest =>
          let (item, rest) := read rest
          let found := (name, item) :: found
          match skipBlank rest with
          | some ',' :: rest => members read fuel found rest
          | some '\x7d' :: rest => (found.reverse, true, rest)
          | _ => (found.reverse, false, [])
        | _ => (((name, .torn) :: found).reverse, false, [])
      | _ => (found.reverse, false, [])
    | _ => (found.reverse, false, [])

/-- The value in front and the rest of the text, with containers nested less than `depth` deep.
Nothing is left behind a tear. -/
def value : Nat → List Glyph → Draft × List Glyph
  | depth, cs =>
    match skipBlank cs with
    | some 'n' :: rest => ((takeWord? ['u', 'l', 'l'] rest).map (Draft.null, ·)).getD (.torn, [])
    | some 't' :: rest =>
      ((takeWord? ['r', 'u', 'e'] rest).map (Draft.bool true, ·)).getD (.torn, [])
    | some 'f' :: rest =>
      ((takeWord? ['a', 'l', 's', 'e'] rest).map (Draft.bool false, ·)).getD (.torn, [])
    | some '"' :: rest =>
      match quoted? (rest.length + 1) (some []) rest with
      | some (some inside, rest) => (.str (String.ofList inside), rest)
      | some (none, rest) => (.garbled, rest)
      | none => (.torn, [])
    | some '[' :: rest =>
      match depth with
      | 0 => (.torn, [])
      | depth + 1 =>
        match skipBlank rest with
        | some ']' :: rest => (.arr [] true, rest)
        | rest =>
          let (found, whole, rest) := items (value depth) (rest.length + 1) [] rest
          (.arr found whole, rest)
    | some '\x7b' :: rest =>
      match depth with
      | 0 => (.torn, [])
      | depth + 1 =>
        match skipBlank rest with
        | some '\x7d' :: rest => (.obj [] true, rest)
        | rest =>
          let (found, whole, rest) := members (value depth) (rest.length + 1) [] rest
          (.obj found whole, rest)
    | some '-' :: rest => (takeNumber? true rest).getD (.torn, [])
    | rest => (takeNumber? false rest).getD (.torn, [])

/-- The draft of a document and whether only blanks follow it. -/
def ofGlyphs (depth : Nat) (cs : List Glyph) : Draft × Bool :=
  let (found, rest) := value depth cs
  (found, (skipBlank rest).isEmpty)

mutual

/-- The value of a draft that is neither torn nor garbled anywhere. -/
def whole? : Draft → Option Json
  | .null => some .null
  | .bool b => some (.bool b)
  | .int n => some (.int n)
  | .float d => some (.float d)
  | .str s => some (.str s)
  | .garbled => none
  | .torn => none
  | .arr found true => (wholeItems? found).map .arr
  | .arr _ false => none
  | .obj found true => (wholeMembers? found).map .obj
  | .obj _ false => none

/-- The values of whole items. -/
def wholeItems? : List Draft → Option (List Json)
  | [] => some []
  | item :: rest => do
    let item ← whole? item
    let rest ← wholeItems? rest
    some (item :: rest)

/-- The values of whole members. -/
def wholeMembers? : List (String × Draft) → Option (List (String × Json))
  | [] => some []
  | (name, item) :: rest => do
    let item ← whole? item
    let rest ← wholeMembers? rest
    some ((name, item) :: rest)

end

end Draft

/-- The depth to which containers of a document may be nested. -/
def nestingLimit : Nat := 127

/-- The value of glyphs that are one JSON document and nothing else. -/
def ofGlyphs? (cs : List Text.Glyph) : Option Json :=
  match Draft.ofGlyphs nestingLimit cs with
  | (draft, true) => draft.whole?
  | (_, false) => none

/-- The value of a text that is one JSON document and nothing else. -/
def parse? (s : String) : Option Json :=
  ofGlyphs? (Text.glyphsOf s)

/-- The value of bytes that are one JSON document and nothing else. -/
def parseBytes? (bytes : List UInt8) : Option Json :=
  ofGlyphs? (Text.glyphs bytes)

end TodoServer.Json
