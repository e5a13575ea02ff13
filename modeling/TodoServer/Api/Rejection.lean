import TodoServer.Api.Error
import TodoServer.Api.Form
import TodoServer.Http.MediaType
import TodoServer.Http.Percent

/-!
# Rejections

A request is rejected before anything is done for it when its path, its query or its document cannot
be read, or when what was read breaks a rule.
-/

namespace TodoServer.Api

/-- Why the id in a path cannot be read. -/
inductive PathFault where
  | notText
  | notNumber (part : String)
  deriving DecidableEq, Repr

/-- Why the document of a request cannot be read. -/
inductive DocumentFault where
  | notAnnounced
  | tooLong
  | unreadable (fault : Json.Fault)
  deriving DecidableEq, Repr

/-- Why a request is rejected. -/
inductive Rejection where
  | path (fault : PathFault)
  | id
  | query
  | document (fault : DocumentFault)
  | violated (violations : List Violation)
  deriving DecidableEq, Repr

namespace Rejection

/-- The code by which programs tell rejections apart. -/
def code : Rejection → String
  | path _ => "PATH_PARSE_ERROR"
  | id => "INVALID_ID"
  | query => "QUERY_PARSE_ERROR"
  | document _ => "JSON_PARSE_ERROR"
  | violated _ => "VALIDATION_ERROR"

/-- The wording of a rejection. -/
def message : Rejection → String
  | path .notText => "Invalid URL: Invalid UTF-8 in \x60id\x60"
  | path (.notNumber part) => "Invalid URL: Cannot parse \x60" ++ part ++ "\x60 to a \x60i64\x60"
  | id => "Invalid id: must be a positive integer"
  | query => "Failed to deserialize query string"
  | document .notAnnounced => "Expected request with \x60Content-Type: application/json\x60"
  | document .tooLong => "Failed to buffer the request body: length limit exceeded"
  | document (.unreadable .malformed) => "Failed to parse the request body as JSON"
  | document (.unreadable .mismatched) =>
    "Failed to deserialize the JSON body into the target type"
  | violated violations => Violation.text violations

/-- What the caller is told. -/
def toApiError (r : Rejection) : ApiError :=
  .badRequest r.code r.message

end Rejection

namespace Form

variable {α : Type} (form : Form α)

/-- A value that breaks no rule. -/
def checked (value : α) : Except Rejection α :=
  if (form.violations value).isEmpty then .ok value else .error (.violated (form.violations value))

/-- The value of the document of a request of at most `limit` bytes. -/
def ofRequest (limit : Nat) (request : Http.Request) : Except Rejection α :=
  match (request.plainHeader? "content-type").bind Http.MediaType.parse? with
  | some type =>
    if !type.isJson then .error (.document .notAnnounced)
    else if limit < request.body.length then .error (.document .tooLong)
    else match form.read request.body with
      | .ok value => form.checked value
      | .error fault => .error (.document (.unreadable fault))
  | none => .error (.document .notAnnounced)

end Form

/-- The todo id that a part of a path gives. Ids are counted from one. -/
def pathId (part : String) : Except Rejection Int :=
  match Http.pathText? part with
  | none => .error (.path .notText)
  | some text =>
    match Text.signed64? text.toList with
    | none => .error (.path (.notNumber text))
    | some id => if id < 1 then .error .id else .ok id

/-- The flag of a field of a query. -/
def queryFlag? (value : String) : Option Bool :=
  if value == "true" then some true else if value == "false" then some false else none

/-- Reads the fields of a query into a listing. A field that has a meaning may be given once. -/
def listingOfFields? (found : Listing) : List (String × String) → Option Listing
  | [] => some found
  | (name, value) :: rest =>
    if name == "completed" then
      match found.completed, queryFlag? value with
      | none, some flag => listingOfFields? { found with completed := some flag } rest
      | _, _ => none
    else if name == "q" then
      match found.search with
      | none => listingOfFields? { found with search := some value } rest
      | some _ => none
    else listingOfFields? found rest

/-- The listing that the query of a request asks for. -/
def listingOfQuery (query : Option String) : Except Rejection Listing :=
  match listingOfFields? ⟨none, none⟩ (Http.formFields (query.getD "")) with
  | some listing => listingForm.checked listing
  | none => .error .query

end TodoServer.Api
