import TodoServer.Address.Punycode
import TodoServer.Address.Repertoire
import TodoServer.Text.Ascii

/-!
# Domain names

Names of hosts: labels of letters, digits and hyphens joined with dots. A name in letters of any
script is written in such labels, or it is refused.
-/

namespace TodoServer.Address

/-- Letters of ASCII and the two others that have an ASCII letter as their other case. -/
def isFoldedLetter (c : Char) : Bool :=
  c.isAlpha || c == '\u017F' || c == '\u212A'

/-- Whether a character may be anywhere in a label. -/
def isLabelEnd (c : Char) : Bool :=
  isFoldedLetter c || c.isDigit

/-- Whether a text is a label: one to sixty-three letters, digits and hyphens without a hyphen at
either end. -/
def isLabel (cs : List Char) : Bool :=
  1 ≤ cs.length && cs.length ≤ 63 && cs.all (fun c => isLabelEnd c || c == '-') &&
    cs.head?.any isLabelEnd && cs.getLast?.any isLabelEnd

/-- Whether a text is labels joined with dots. -/
def isHostName (cs : List Char) : Bool :=
  (Text.splitChars '.' cs).all isLabel

namespace DomainName

/-- What a character of a name stands for: nothing, a dot, the ASCII form of a wide character, or
itself. Letters of ASCII are in lower case. -/
def folded (c : Char) : List Char :=
  if Repertoire.isIgnored c then []
  else if c.toNat ∈ [0x3002, 0xFF0E, 0xFF61] then ['.']
  else if 0xFF01 ≤ c.toNat && c.toNat ≤ 0xFF5E then [(Char.ofNat (c.toNat - 0xFEE0)).toLower]
  else [c.toLower]

/-- Whether the characters that keep letters together or apart follow only where they matter. -/
def joinersFollowVirama : Char → List Char → Bool
  | _, [] => true
  | before, c :: rest =>
    (if c == '\u200C' || c == '\u200D' then Repertoire.virama.contains before.toNat else true) &&
      joinersFollowVirama c rest

/-- Whether a label keeps its direction: it begins with a letter of its direction, ends with such a
letter or a digit, and holds no letters of the other one, nor both sorts of digits. -/
def keepsDirection (label : List Char) : Bool :=
  let ending := (label.reverse.dropWhile Repertoire.isMark).head?
  match label with
  | [] => true
  | first :: _ =>
    if Repertoire.isRightToLeft first then
      !label.any Repertoire.isLeftToRight &&
        ending.any (fun c =>
          Repertoire.isRightToLeft c || Repertoire.isDigit c || Repertoire.isArabicDigit c) &&
        !(label.any Repertoire.isDigit && label.any Repertoire.isArabicDigit)
    else
      Repertoire.isLeftToRight first &&
        !label.any (fun c => Repertoire.isRightToLeft c || Repertoire.isArabicDigit c) &&
        ending.any (fun c => Repertoire.isLeftToRight c || Repertoire.isDigit c)

/-- Whether a label beyond ASCII may stand in a name. -/
def isUsable (label : List Char) : Bool :=
  !label.any Repertoire.isUnusable && !label.head?.any Repertoire.isMark &&
    joinersFollowVirama ' ' label

/-- The mark in front of labels that are written in other letters. -/
def mark : List Char := ['x', 'n', '-', '-']

/-- A label in ASCII. -/
def labelToAscii? (label : List Char) : Option (List Char) :=
  if label.all (·.toNat < 128) then some label
  else if isUsable label && !mark.isPrefixOf label then some (mark ++ Punycode.encode label)
  else none

/-- A name in ASCII, if it may be a name. -/
def toAscii? (name : List Char) : Option (List Char) :=
  let labels := Text.splitChars '.' (name.flatMap folded)
  let mixed := labels.any fun label =>
    label.any fun c => Repertoire.isRightToLeft c || Repertoire.isArabicDigit c
  if mixed && !labels.all keepsDirection then none
  else (labels.mapM labelToAscii?).map (List.intercalate ['.'])

end DomainName

end TodoServer.Address
