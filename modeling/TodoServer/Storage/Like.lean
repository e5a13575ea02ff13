/-!
# Patterns

A percent sign matches any run of characters, an underscore any one, and the character after a
backslash only itself. The case of ASCII letters does not matter.
-/

namespace TodoServer.Storage.Like

/-- Whether two characters are the same up to the case of ASCII letters. -/
def sameChar (a b : Char) : Bool :=
  a.toLower == b.toLower

/-- Tries a matcher on a text and on all its ends. -/
def anyEnd (rest : List Char → Bool) : List Char → Bool
  | [] => rest []
  | c :: cs => rest (c :: cs) || anyEnd rest cs

/-- Whether a pattern matches a whole text. A backslash at the very end matches nothing. -/
def isMatch : List Char → List Char → Bool
  | [], text => text.isEmpty
  | ['\\'], _ => false
  | '\\' :: c :: pattern, text =>
    match text with
    | [] => false
    | d :: text => sameChar c d && isMatch pattern text
  | c :: pattern, text =>
    if c = '%' then anyEnd (isMatch pattern) text
    else match text with
      | [] => false
      | d :: text => (c = '_' || sameChar c d) && isMatch pattern text

/-- The longest pattern in bytes. -/
def patternLimit : Nat := 50000

end TodoServer.Storage.Like
