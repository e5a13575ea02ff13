import TodoServer.Text.Ascii

/-!
# Request targets

What a request asks for: a path with an optional query, possibly after the name of a host. What
follows a number sign is cut off.
-/

namespace TodoServer.Http

/-- What a request asks for. -/
structure Target where
  /-- The scheme and the host, as far as they are given. -/
  host : String
  path : String
  query : Option String
  deriving DecidableEq, Repr, Inhabited

namespace Target

/-- The text of a target. -/
def text (t : Target) : String :=
  t.host ++ t.path ++ (match t.query with
    | some query => "?" ++ query
    | none => "")

/-- The longest target in bytes. -/
def maxSize : Nat := 65534

/-- Whether a character may stand in a path. -/
def isPathChar (c : Char) : Bool :=
  let n := c.toNat
  n == 0x21 || n == 0x22 || (0x24 ≤ n && n ≤ 0x3B) || n == 0x3D || (0x40 ≤ n && n ≤ 0x5F) ||
    (0x61 ≤ n && n ≤ 0x7E) || 0x7F ≤ n

/-- Whether a character may stand in a query. -/
def isQueryChar (c : Char) : Bool :=
  let n := c.toNat
  n == 0x21 || (0x24 ≤ n && n ≤ 0x3B) || n == 0x3D || 0x3F ≤ n

/-- Reads a path and a query. -/
def ofPath? (host : String) (cs : List Char) : Option Target :=
  let path := cs.takeWhile fun c => c ≠ '?' ∧ c ≠ '#'
  if !path.all isPathChar then none
  else
    let shown := if path.isEmpty then "/" else String.ofList path
    match cs.drop path.length with
    | '?' :: rest =>
      let query := rest.takeWhile (· ≠ '#')
      if query.all isQueryChar then some ⟨host, shown, some (String.ofList query)⟩ else none
    | _ => some ⟨host, shown, none⟩

/-- Whether a character may stand in a scheme. -/
def isSchemeChar (c : Char) : Bool :=
  c.isAlphanum || ['+', '-', '.', '~'].contains c

/-- Whether a character may stand in the name of a host, apart from those with a meaning of their
own there. -/
def isHostChar (c : Char) : Bool :=
  c.isAlphanum || ['!', '$', '&', '\x27', '(', ')', '*', '+', ',', '-', '.', ';', '=', '_',
    '~'].contains c

/-- What has been seen of the name of a host. -/
structure HostScan where
  colons : Nat
  opened : Bool
  closed : Bool
  percent : Bool
  endsWithAt : Bool

/-- Looks at one more character of the name of a host. -/
def HostScan.step (s : HostScan) (c : Char) : Option HostScan :=
  let s := { s with endsWithAt := false }
  if c = ':' then if 8 ≤ s.colons then none else some { s with colons := s.colons + 1 }
  else if c = '[' then if s.percent || s.opened then none else some { s with opened := true }
  else if c = ']' then
    if !s.opened || s.closed then none
    else some { s with closed := true, colons := 0, percent := false }
  else if c = '@' then some { s with endsWithAt := true, colons := 0, percent := false }
  else if c = '%' then some { s with percent := true }
  else if isHostChar c then some s
  else none

/-- Whether a text may be the name of a host, with a user before it and a port after it. -/
def isHost (cs : List Char) : Bool :=
  match cs.foldlM HostScan.step ⟨0, false, false, false, false⟩ with
  | none => false
  | some s => s.opened == s.closed && s.colons ≤ 1 && !s.endsWithAt && !s.percent

/-- The scheme of a text and what follows the two slashes after it. -/
def scheme? (cs : List Char) : Option (String × List Char) :=
  let name := cs.takeWhile isSchemeChar
  match cs.drop name.length with
  | ':' :: '/' :: '/' :: rest =>
    let shown := String.ofList name
    let known := Text.lower shown
    some (if known == "http" || known == "https" then known else shown, rest)
  | _ => none

/-- Reads a target. -/
def parse? (s : String) : Option Target :=
  if maxSize < s.utf8ByteSize then none
  else match s.toList with
    | [] => none
    | ['*'] => some ⟨"", "*", none⟩
    | '/' :: rest => ofPath? "" ('/' :: rest)
    | cs =>
      match scheme? cs with
      | none => if isHost cs then some ⟨s, "", none⟩ else none
      | some (scheme, rest) =>
        let host := rest.takeWhile fun c => c ≠ '/' ∧ c ≠ '?' ∧ c ≠ '#'
        if host.isEmpty || !isHost host || 64 < scheme.length then none
        else ofPath? (scheme ++ "://" ++ String.ofList host) (rest.drop host.length)

example : parse? "/todos?q=a#top" = some ⟨"", "/todos", some "q=a"⟩ := by decide
example : parse? "http://x" = some ⟨"http://x", "/", none⟩ := by decide
example : parse? "/a b" = none := by decide

end Target

end TodoServer.Http
