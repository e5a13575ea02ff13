import TodoServer.Data.Scalar

/-!
# Records

A record maps field names to scalars and keeps the fields in the order in which they were first
set. Rows that come back from storage and data on its way there are records.
-/

namespace TodoServer

/-- What a column is read as. -/
inductive DecodeError where
  | missingColumn (column : String)
  | typeMismatch (column : String) (expected found : ScalarKind)
  deriving DecidableEq, Repr

/-- The wording of a decoding error. -/
def DecodeError.message : DecodeError → String
  | missingColumn column => s!"Missing column: {column}"
  | typeMismatch column expected found =>
    "Column " ++ column ++ ": expected " ++ expected.name ++ ", found " ++ found.name

/-- Fields with their values, in the order in which the fields were first set. -/
structure Record where
  fields : List (String × Scalar)
  deriving DecidableEq, Repr, Inhabited

namespace Record

def empty : Record := ⟨[]⟩

/-- Replaces the value of the first entry of a field, or appends the field. -/
def place (field : String) (value : Scalar) : List (String × Scalar) → List (String × Scalar)
  | [] => [(field, value)]
  | (name, old) :: rest =>
    if name = field then (name, value) :: rest else (name, old) :: place field value rest

/-- Sets a field. A field that is present keeps its position. -/
def set (r : Record) (field : String) (value : Scalar) : Record :=
  ⟨place field value r.fields⟩

/-- Sets a field when a value is given. -/
def setGiven (r : Record) (field : String) (value : Option Scalar) : Record :=
  match value with
  | some value => r.set field value
  | none => r

/-- The record of fields set one after the other. -/
def ofList (entries : List (String × Scalar)) : Record :=
  entries.foldl (fun r entry => r.set entry.1 entry.2) empty

/-- The value of a field. -/
def get? (r : Record) (field : String) : Option Scalar :=
  (r.fields.find? (·.1 = field)).map (·.2)

def isEmpty (r : Record) : Bool :=
  r.fields.isEmpty

def size (r : Record) : Nat :=
  r.fields.length

def names (r : Record) : List String :=
  r.fields.map (·.1)

def values (r : Record) : List Scalar :=
  r.fields.map (·.2)

/-- The value of a column that has to be present. -/
def column (r : Record) (field : String) : Except DecodeError Scalar :=
  match r.get? field with
  | some value => .ok value
  | none => .error (.missingColumn field)

/-- Reads a column with a partial view of scalars. -/
def read {α : Type} (r : Record) (view : Scalar → Option α) (expected : ScalarKind)
    (field : String) : Except DecodeError α := do
  let value ← r.column field
  match view value with
  | some found => .ok found
  | none => .error (.typeMismatch field expected value.kind)

def int (r : Record) (field : String) : Except DecodeError Int :=
  r.read Scalar.toInt? .integer field

def bool (r : Record) (field : String) : Except DecodeError Bool :=
  r.read Scalar.toBool? .boolean field

def text (r : Record) (field : String) : Except DecodeError String :=
  r.read Scalar.toText? .text field

/-- The text of a column, or nothing when the column is null. -/
def text? (r : Record) (field : String) : Except DecodeError (Option String) :=
  r.read (fun value => if value.isNull then some none else value.toText?.map some) .text field

/-- The object with the fields as members in order. -/
def toJson (r : Record) : Json :=
  .obj (r.fields.map fun (name, value) => (name, value.toJson))

theorem get?_set_self (r : Record) (field : String) (value : Scalar) :
    (r.set field value).get? field = some value := by
  obtain ⟨fields⟩ := r
  simp only [set, get?]
  induction fields with
  | nil => simp [place]
  | cons entry rest ih =>
    obtain ⟨name, old⟩ := entry
    by_cases h : name = field <;> simp_all [place]

theorem get?_set_of_ne (r : Record) {field other : String} (value : Scalar) (h : other ≠ field) :
    (r.set field value).get? other = r.get? other := by
  obtain ⟨fields⟩ := r
  simp only [set, get?]
  induction fields with
  | nil => simp [place, Ne.symm h]
  | cons entry rest ih =>
    obtain ⟨name, old⟩ := entry
    by_cases hf : name = field
    · subst hf; simp [place, Ne.symm h]
    · by_cases ho : name = other <;> simp_all [place]

end Record

end TodoServer
