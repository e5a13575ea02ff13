import TodoServer.Json.Draft

/-!
# Fitting documents to shapes

A shape says what a document has to hold. Fitting walks the draft of a document in the order of its
text and stops at the first fault: either the text is malformed there, or it holds something of
another shape.
-/

namespace TodoServer.Json

/-- What a document has to hold. -/
inductive Shape where
  | text
  | flag
  /-- A whole number between two bounds, both allowed. -/
  | integer (low high : Int)
  /-- One of some words. It may also be given as an object with the word as name and null in it. -/
  | word (choices : List String)
  /-- A value, or null. A member of such a shape may also be left out. -/
  | optional (shape : Shape)
  | list (shape : Shape)
  /-- Named fields in order. A document gives them as members, or as the items of an array. -/
  | object (fields : List (String × Shape))
  deriving Repr

/-- What a document of some shape holds. -/
inductive Datum where
  | text (value : String)
  | flag (value : Bool)
  | integer (value : Int)
  | absent
  | list (items : List Datum)
  | object (fields : List Datum)
  deriving Repr, Inhabited

namespace Datum

/-- The text held, if any. -/
def text? : Datum → Option String
  | text value => some value
  | _ => none

/-- The flag held, if any. -/
def flag? : Datum → Option Bool
  | flag value => some value
  | _ => none

/-- The number held, if any. -/
def integer? : Datum → Option Int
  | integer value => some value
  | _ => none

end Datum

/-- Why a document does not fit. -/
inductive Fault where
  /-- The text is no JSON at this place. -/
  | malformed
  /-- The text holds something of another shape. -/
  | mismatched
  deriving DecidableEq, Repr

mutual

/-- Whether a value that nobody wants can be skipped: it is torn nowhere. -/
def Draft.skippable : Draft → Bool
  | .torn => false
  | .arr items whole => whole && Draft.allSkippable items
  | .obj members whole => whole && Draft.membersSkippable members
  | _ => true

def Draft.allSkippable : List Draft → Bool
  | [] => true
  | item :: rest => item.skippable && Draft.allSkippable rest

def Draft.membersSkippable : List (String × Draft) → Bool
  | [] => true
  | (_, item) :: rest => item.skippable && Draft.membersSkippable rest

end

namespace Shape

/-- The fault of a draft that is not of the wanted shape. -/
def faultOf : Draft → Fault
  | .torn => .malformed
  | .garbled => .malformed
  | _ => .mismatched

/-- What stands for a field that no member gives. -/
def absence : Shape → Except Fault Datum
  | optional _ => .ok .absent
  | _ => .error .mismatched

/-- Fits each item in order. -/
def fitItems (fit : Draft → Except Fault Datum) : List Draft → Except Fault (List Datum)
  | [] => .ok []
  | item :: rest => do
    let item ← fit item
    let rest ← fitItems fit rest
    .ok (item :: rest)

/-- The members read so far: one place for each field, in the order of the fields. -/
abbrev Places := List (Option Datum)

/-- Fits the members in order into the places of the fields. -/
def fitMembers (fits : List (String × (Draft → Except Fault Datum))) :
    Places → List (String × Draft) → Except Fault Places
  | places, [] => .ok places
  | places, (name, item) :: rest =>
    match fits.findIdx? (·.1 == name) with
    | none => if item.skippable then fitMembers fits places rest else .error .malformed
    | some i =>
      if (places[i]?.join).isSome then .error .mismatched
      else do
        let datum ← match fits[i]? with
          | some (_, fit) => fit item
          | none => .error .mismatched
        fitMembers fits (places.set i (some datum)) rest

/-- Fills the places that no member took. -/
def fillPlaces : List Shape → Places → Except Fault (List Datum)
  | shape :: shapes, place :: places => do
    let datum ← match place with
      | some datum => .ok datum
      | none => absence shape
    let rest ← fillPlaces shapes places
    .ok (datum :: rest)
  | _, _ => .ok []

/-- Fits the items of an array to the fields in order. -/
def fitInOrder (whole : Bool) :
    List (String × (Draft → Except Fault Datum)) → List Draft → Except Fault (List Datum)
  | [], [] => if whole then .ok [] else .error .malformed
  | [], _ :: _ => .error .malformed
  | _ :: _, [] => .error (if whole then .mismatched else .malformed)
  | (_, fit) :: fits, item :: rest => do
    let datum ← fit item
    let rest ← fitInOrder whole fits rest
    .ok (datum :: rest)

mutual

/-- What a draft of the wanted shape holds, or its first fault. -/
def fit : Shape → Draft → Except Fault Datum
  | text, draft =>
    match draft with
    | .str s => .ok (.text s)
    | draft => .error (faultOf draft)
  | flag, draft =>
    match draft with
    | .bool b => .ok (.flag b)
    | draft => .error (faultOf draft)
  | integer low high, draft =>
    match draft with
    | .int n => if low ≤ n ∧ n ≤ high then .ok (.integer n) else .error .mismatched
    | draft => .error (faultOf draft)
  | word choices, draft =>
    match draft with
    | .str s => if choices.contains s then .ok (.text s) else .error .mismatched
    | .obj [(s, .null)] true => if choices.contains s then .ok (.text s) else .error .mismatched
    | draft => .error (faultOf draft)
  | optional shape, draft =>
    match draft with
    | .null => .ok .absent
    | draft => fit shape draft
  | list shape, draft =>
    match draft with
    | .arr items whole => do
      let found ← fitItems (fit shape) items
      if whole then .ok (.list found) else .error .malformed
    | draft => .error (faultOf draft)
  | object fields, draft =>
    match draft with
    | .obj members whole => do
      let fits := fieldFits fields
      let places ← fitMembers fits (List.replicate fits.length none) members
      if whole then (fillPlaces (fields.map (·.2)) places).map .object else .error .malformed
    | .arr items whole => (fitInOrder whole (fieldFits fields) items).map .object
    | draft => .error (faultOf draft)

/-- The fitting of each field. -/
def fieldFits : List (String × Shape) → List (String × (Draft → Except Fault Datum))
  | [] => []
  | (name, shape) :: rest => (name, fit shape) :: fieldFits rest

end

/-- The depth to which the skipped parts of a body may be nested. -/
def skippedNesting : Nat := 4000

/-- What a document of bytes holds. The document has to be followed by blanks alone. -/
def read (shape : Shape) (bytes : List UInt8) : Except Fault Datum := do
  let (draft, ended) := Draft.ofGlyphs skippedNesting (Text.glyphs bytes)
  let datum ← shape.fit draft
  if ended then .ok datum else .error .malformed

end Shape

mutual

/-- A value as a draft. -/
def draft : Json → Draft
  | .null => .null
  | .bool b => .bool b
  | .int n => .int n
  | .float d => .float d
  | .str s => .str s
  | .arr items => .arr (draftItems items) true
  | .obj members => .obj (draftMembers members) true

/-- The items as drafts. -/
def draftItems : List Json → List Draft
  | [] => []
  | item :: rest => draft item :: draftItems rest

/-- The members as drafts. -/
def draftMembers : List (String × Json) → List (String × Draft)
  | [] => []
  | (name, item) :: rest => (name, draft item) :: draftMembers rest

end

end TodoServer.Json
