import TodoServer.Crypto.Hmac
import TodoServer.Json.Shape
import TodoServer.Text.Ascii
import TodoServer.Text.Base64Url

/-!
# Access tokens

A token is a header, claims and a tag, each in base 64, joined with points. The tag is the keyed
hash of the text before the last point, so that only a holder of the key can make or change a token.
-/

namespace TodoServer.Auth

/-- What a token says. -/
structure Claims where
  /-- The id of the account as a decimal text. -/
  subject : String
  /-- Seconds since the start of 1970. -/
  issuedAt : Int
  /-- Seconds since the start of 1970. -/
  expiresAt : Int
  id : String
  deriving DecidableEq, Repr

namespace Claims

/-- The account, if the subject is an id. -/
def userId? (c : Claims) : Option Int :=
  Text.signed64? c.subject.toList

/-- The claims as a document. -/
def toJson (c : Claims) : Json :=
  .obj [("sub", .str c.subject), ("iat", .int c.issuedAt), ("exp", .int c.expiresAt),
    ("jti", .str c.id)]

end Claims

/-- Why a token is refused. -/
inductive TokenError where
  | expired
  | invalidSignature
  | invalid
  deriving DecidableEq, Repr

/-- The text of a refusal. -/
def TokenError.message : TokenError → String
  | expired => "Access token has expired"
  | invalidSignature => "Invalid access token signature"
  | invalid => "Invalid access token"

namespace Token

/-- The way in which tokens are signed. -/
def algorithm : String := "HS256"

/-- The header of new tokens. -/
def header : Json :=
  .obj [("typ", .str "JWT"), ("alg", .str algorithm)]

/-- A document in base 64. -/
def segment (j : Json) : String :=
  Text.Base64Url.text (Text.utf8 j.compact)

/-- The tag of a signed text, in base 64. -/
def signature (key : List UInt8) (signed : String) : String :=
  Text.Base64Url.text ((Crypto.Hmac.ofKey key).tag (Text.utf8 signed)).bytes

/-- The token of claims. -/
def sign (key : List UInt8) (c : Claims) : String :=
  let signed := segment header ++ "." ++ segment c.toJson
  signed ++ "." ++ signature key signed

/-- The names of the ways of signing that a header may give. -/
def algorithms : List String :=
  ["HS256", "HS384", "HS512", "ES256", "ES384", "RS256", "RS384", "RS512", "PS256", "PS384",
    "PS512", "EdDSA"]

/-- What a header holds. -/
def headerShape : Json.Shape :=
  .object [("typ", .optional .text), ("alg", .word algorithms), ("cty", .optional .text),
    ("jku", .optional .text), ("jwk", .optional (.object [("kty", .text)])),
    ("kid", .optional .text), ("x5u", .optional .text), ("x5c", .optional (.list .text)),
    ("x5t", .optional .text), ("x5t#S256", .optional .text)]

/-- The way of signing that a header gives. -/
def algorithm? (segment : String) : Option String := do
  let bytes ← Text.Base64Url.bytes? segment
  match headerShape.read bytes with
  | .ok (.object (_ :: .text name :: _)) => some name
  | _ => none

/-- A 64-bit number. -/
def number : Json.Shape :=
  .integer (-9223372036854775808) 9223372036854775807

/-- What claims hold. -/
def claimsShape : Json.Shape :=
  .object [("sub", .text), ("iat", number), ("exp", number), ("jti", .text)]

/-- Whether a member `nbf` can be passed over, whatever time it gives. -/
def isPassable : Json.Draft → Bool
  | .arr items whole => whole && items.isEmpty
  | .obj members whole => whole && members.isEmpty
  | .torn => false
  | _ => true

/-- Whether an audience names anybody: it is a text or a list of texts. -/
def isAudience : Json → Bool
  | .str _ => true
  | .arr items => items.all fun item => match item with | .str _ => true | _ => false
  | _ => false

/-- The member of a name, if it is given once and is sound, or none if it is not given at all. -/
def soleMember? (name : String) (members : List (String × Json.Draft)) :
    Option (Option Json.Draft) :=
  match members.filter (·.1 == name) with
  | [] => some none
  | [(_, found)] => some (some found)
  | _ => none

/-- Whether the registered claims beside the own ones allow the use of a token. -/
def allowsUse (members : List (String × Json.Draft)) : Bool :=
  (match soleMember? "nbf" members with
    | some found => found.all isPassable
    | none => false) &&
  (match soleMember? "iss" members with
    | some found => found.all (·.whole?.isSome)
    | none => false) &&
  (match soleMember? "aud" members with
    | some found => found.all fun draft => draft.whole?.any (!isAudience ·)
    | none => false)

/-- The claims in a segment, if they allow the use of the token. -/
def claims? (segment : String) : Option Claims := do
  let bytes ← Text.Base64Url.bytes? segment
  match Json.Draft.ofGlyphs Json.Shape.skippedNesting (Text.glyphs bytes) with
  | (.obj members whole, true) =>
    match claimsShape.fit (.obj members whole) with
    | .ok (.object [.text subject, .integer issuedAt, .integer expiresAt, .text id]) =>
      if 0 ≤ expiresAt ∧ allowsUse members then some ⟨subject, issuedAt, expiresAt, id⟩ else none
    | _ => none
  | _ => none

/-- The seconds for which a token stays good after its time. -/
def leeway : Int := 60

/-- The parts of a text before and behind its last point. -/
def cutLast? (s : String) : Option (String × String) :=
  let reversed := s.toList.reverse
  let last := reversed.takeWhile (· != '.')
  match reversed.dropWhile (· != '.') with
  | _ :: before => some (String.ofList before.reverse, String.ofList last.reverse)
  | [] => none

/-- The claims of a token at a time in seconds. The header is looked at first, then the tag, then
the claims. -/
def validate (now : Int) (key : List UInt8) (token : String) : Except TokenError Claims :=
  match cutLast? token with
  | none => .error .invalid
  | some (signed, tag) =>
    match cutLast? signed with
    | none => .error .invalid
    | some (head, body) =>
      if algorithm? head ≠ some algorithm then .error .invalid
      else if tag ≠ signature key signed then .error .invalidSignature
      else match claims? body with
        | none => .error .invalid
        | some claims =>
          if claims.expiresAt + leeway < now then .error .expired else .ok claims

/-- The text of a random id of sixteen bytes. -/
def idText (bytes : List UInt8) : String :=
  let marked := bytes.mapIdx fun i b =>
    if i = 6 then b &&& 0x0f ||| 0x40 else if i = 8 then b &&& 0x3f ||| 0x80 else b
  Text.join "-" [Text.hex (marked.take 4), Text.hex ((marked.drop 4).take 2),
    Text.hex ((marked.drop 6).take 2), Text.hex ((marked.drop 8).take 2), Text.hex (marked.drop 10)]

end Token

end TodoServer.Auth
