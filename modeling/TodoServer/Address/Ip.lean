import TodoServer.Text.Ascii
import TodoServer.Text.Hex

/-!
# Internet addresses

The texts of addresses of both versions.
-/

namespace TodoServer.Address

/-- Whether a text is one byte in decimal, without zeros in front. -/
def isOctet (cs : List Char) : Bool :=
  match Text.numeral? cs with
  | some n => n < 256 && cs.length ≤ 3 && (cs.length == 1 || cs.head? != some '0')
  | none => false

/-- Whether a text is four bytes joined with dots. -/
def isIpv4 (cs : List Char) : Bool :=
  let parts := Text.splitChars '.' cs
  parts.length == 4 && parts.all isOctet

/-- Whether a text is a group of up to four hexadecimal digits. -/
def isGroup (cs : List Char) : Bool :=
  !cs.isEmpty && cs.length ≤ 4 && cs.all fun c => (Text.hexValue? c).isSome

/-- How many groups a text holds, joined with colons. The last two may be given as four bytes. -/
def groupCount? (bytesAllowed : Bool) (cs : List Char) : Option Nat :=
  if cs.isEmpty then some 0
  else
    let parts := Text.splitChars ':' cs
    let last := parts.getLast?.getD []
    if parts.all isGroup then some parts.length
    else if bytesAllowed && isIpv4 last && parts.dropLast.all isGroup then some (parts.length + 1)
    else none

/-- What stands before and after the first pair of colons. -/
def atGap? : List Char → Option (List Char × List Char)
  | ':' :: ':' :: rest => some ([], rest)
  | c :: rest => (atGap? rest).map fun (before, after) => (c :: before, after)
  | [] => none

/-- Whether a text is eight groups, or fewer with one gap of at least one group. -/
def isIpv6 (cs : List Char) : Bool :=
  match atGap? cs with
  | none => groupCount? true cs == some 8
  | some (before, after) =>
    match groupCount? false before, groupCount? true after with
    | some a, some b => a + b ≤ 7
    | _, _ => false

/-- Whether a text is an address of either version. -/
def isIp (cs : List Char) : Bool :=
  isIpv4 cs || isIpv6 cs

example : isIp "127.0.0.1".toList := by decide
example : isIp "::ffff:10.0.0.1".toList := by decide
example : ¬ isIp "010.0.0.1".toList := by decide
example : ¬ isIp "1::2::3".toList := by decide

end TodoServer.Address
