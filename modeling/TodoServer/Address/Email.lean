import TodoServer.Address.DomainName
import TodoServer.Address.Ip

/-!
# Email addresses

An address is a user and a domain around the last at sign. The domain is a host name, possibly in
letters of any script, or an internet address in brackets.
-/

namespace TodoServer.Address

/-- The signs that the user part may hold beside letters and digits. -/
def userSigns : List Char :=
  ['.', '!', '#', '$', '%', '&', '\x27', '*', '+', '/', '=', '?', '^', '_', '\x60', '\x7b', '|',
    '\x7d', '~', '-']

/-- Whether a text may stand before the at sign. -/
def isUser (cs : List Char) : Bool :=
  !cs.isEmpty && cs.all fun c => isFoldedLetter c || c.isDigit || userSigns.contains c

/-- Whether a text ends in an internet address in brackets. -/
def endsInIp (cs : List Char) : Bool :=
  match cs.reverse with
  | ']' :: rest =>
    let inside := rest.takeWhile fun c => (Text.hexValue? c).isSome || c == ':' || c == '.'
    (rest.drop inside.length).head? == some '[' && isIp inside.reverse
  | _ => false

/-- Whether a text in ASCII may stand after the at sign. -/
def isDomain (cs : List Char) : Bool :=
  isHostName cs || endsInIp cs

/-- What stands before and after the last at sign. -/
def atLastSign? (cs : List Char) : Option (List Char × List Char) :=
  let domain := (cs.reverse.takeWhile (· ≠ '@')).reverse
  if domain.length < cs.length then
    some (cs.take (cs.length - domain.length - 1), domain)
  else none

/-- Whether a text is an email address. -/
def isEmail (s : String) : Bool :=
  match atLastSign? s.toList with
  | none => false
  | some (user, domain) =>
    user.length ≤ 64 && domain.length ≤ 255 && isUser user &&
      (isDomain domain || (DomainName.toAscii? domain).any isDomain)

end TodoServer.Address
