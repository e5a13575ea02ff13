import TodoServer.Http.Message
import TodoServer.Text.Blank
import TodoServer.Text.Utf8

/-!
# Messages as bytes

A request is a head, an empty line and as many bytes of a body as the head announces. It is read
from the bytes that have arrived so far. A response tells its length, and its connection ends with
it.
-/

namespace TodoServer.Http

/-- What the bytes of a connection amount to. -/
inductive Arrival where
  /-- More bytes have to arrive. -/
  | incomplete
  | malformed
  | complete (request : Request)
  deriving Repr

namespace Arrival

/-- The bytes before the first empty line, of which `seen` stand in front in reverse, and those
behind it. -/
def splitHead? (seen : List UInt8) : List UInt8 → Option (List UInt8 × List UInt8)
  | 13 :: 10 :: 13 :: 10 :: rest => some (seen.reverse, rest)
  | b :: rest => splitHead? (b :: seen) rest
  | [] => none

/-- The lines of a head. -/
def lines (head : List UInt8) : List String :=
  (Text.split '\n' (Text.decodeLossy head)).map fun line =>
    match line.toList.reverse with
    | '\r' :: rest => String.ofList rest.reverse
    | _ => line

/-- Reads a line of a name and a value. -/
def header? (line : String) : Option Header :=
  let name := line.toList.takeWhile (· ≠ ':')
  match line.toList.drop name.length with
  | ':' :: value => Header.of? (String.ofList name) (Text.trim (String.ofList value))
  | _ => none

/-- Reads the first line: a method, a target and a version. -/
def start? (line : String) : Option (String × Target) :=
  match Text.split ' ' line with
  | [method, target, version] =>
    if isToken method ∧ ["HTTP/1.0", "HTTP/1.1"].contains version then
      (Target.parse? target).map fun target => (method, target)
    else none
  | _ => none

/-- Reads a head: everything but the body, which stays empty. -/
def head? (head : List UInt8) : Option Request :=
  match lines head with
  | [] => none
  | first :: rest => do
    let (method, target) ← start? first
    let headers ← rest.mapM header?
    return { method, target, headers, body := [] }

/-- The size of the body that a head announces. A body of unknown size is not taken. -/
def announced? (request : Request) : Option Nat :=
  if (request.header? "transfer-encoding").isSome then none
  else match request.header? "content-length" with
    | none => some 0
    | some text => Text.numeral? text.toList

/-- The greatest size of a head. -/
def headLimit : Nat := 64 * 1024

/-- What some bytes amount to when no more than `most` bytes of a body are of interest. -/
def ofBytes (most : Nat) (bytes : List UInt8) : Arrival :=
  match splitHead? [] bytes with
  | none => if headLimit < bytes.length then malformed else incomplete
  | some (head, rest) =>
    match head? head with
    | none => malformed
    | some request =>
      match announced? request with
      | none => malformed
      | some size =>
        let size := min size most
        if rest.length < size then incomplete
        else complete { request with body := rest.take size }

end Arrival

namespace Response

/-- The phrase beside a status. -/
def phrase (status : Nat) : String :=
  match status with
  | 200 => "OK"
  | 201 => "Created"
  | 204 => "No Content"
  | 400 => "Bad Request"
  | 401 => "Unauthorized"
  | 404 => "Not Found"
  | 405 => "Method Not Allowed"
  | 409 => "Conflict"
  | 413 => "Payload Too Large"
  | 415 => "Unsupported Media Type"
  | 503 => "Service Unavailable"
  | _ => "Internal Server Error"

/-- The text of a body. -/
def bodyText (r : Response) : String :=
  match r.body with
  | .empty => ""
  | .json document => document.compact
  | .text text => text

/-- The text of a response. -/
def text (r : Response) : String :=
  let body := r.bodyText
  let own : List Header :=
    [⟨"content-length", Text.decimalNat body.utf8ByteSize⟩, ⟨"connection", "close"⟩]
  let lines := (r.headers ++ own).map fun h => h.name ++ ": " ++ h.value ++ "\r\n"
  "HTTP/1.1 " ++ Text.decimalNat r.status ++ " " ++ phrase r.status ++ "\r\n" ++
    String.join lines ++ "\r\n" ++ body

end Response

end TodoServer.Http
