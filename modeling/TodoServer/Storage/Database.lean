import TodoServer.Storage.Term
import TodoServer.Storage.Like
import TodoServer.Storage.Error
import TodoServer.Filter.Truth
import TodoServer.Sql.Statement

/-!
# The database

Tables of rows and what statements do to them. A statement either takes effect as a whole or leaves
the database as it was: it returns the changed database or an error.
-/

namespace TodoServer.Storage

/-- A row: its key and the cells of the other columns. -/
structure Row where
  key : Int
  cells : List Cell
  deriving DecidableEq, Repr, Inhabited

/-- The cell at a position, the key being at zero. -/
def Row.cell (r : Row) (position : Nat) : Cell :=
  match position with
  | 0 => .integer r.key
  | i + 1 => r.cells[i]?.getD .null

/-- The row with another cell at a position behind the key. -/
def Row.setCell (r : Row) (i : Nat) (cell : Cell) : Row :=
  { r with cells := r.cells.set i cell }

/-- The rows of a table in the order of their keys. -/
structure Table where
  rows : List Row
  /-- No key above this one was ever issued, nor one below zero counted. -/
  lastKey : Int
  deriving DecidableEq, Repr, Inhabited

namespace Table

def empty : Table := ⟨[], 0⟩

/-- The greatest key in use. -/
def maxKey? (t : Table) : Option Int :=
  t.rows.foldl (fun found r => some (match found with | some n => max n r.key | none => r.key)) none

/-- The row with a key. -/
def row? (t : Table) (key : Int) : Option Row :=
  t.rows.find? (·.key == key)

/-- Puts a row at its place in the order of keys. -/
def place (row : Row) : List Row → List Row
  | [] => [row]
  | r :: rest => if row.key < r.key then row :: r :: rest else r :: place row rest

end Table

/-- The tables that exist and the indexes on them. -/
structure Database where
  versions : Option Table
  history : Option Table
  users : Option Table
  todos : Option Table
  indexes : List IndexId
  deriving DecidableEq, Repr, Inhabited

namespace Database

/-- A database without tables. -/
def blank : Database := ⟨none, none, none, none, []⟩

def table? (db : Database) : TableId → Option Table
  | .versions => db.versions
  | .history => db.history
  | .users => db.users
  | .todos => db.todos

def setTable (db : Database) (id : TableId) (t : Table) : Database :=
  match id with
  | .versions => { db with versions := some t }
  | .history => { db with history := some t }
  | .users => { db with users := some t }
  | .todos => { db with todos := some t }

/-- The table of a name, if there is one. -/
def resolve (db : Database) (name : String) : Except StorageError (TableId × Table) :=
  match TableId.named? name with
  | some id =>
    match db.table? id with
    | some t => .ok (id, t)
    | none => .error (.database ("no such table: " ++ name))
  | none => .error (.database ("no such table: " ++ name))

/-! ## Conditions -/

/-- The value of a term in a row. -/
def termValue (row : Row) : Term → Cell
  | .column position => row.cell position
  | .constant cell => cell

/-- Whether an order of two values satisfies a comparison other than a pattern. -/
def satisfies : Comparison → Ordering → Bool
  | .eq, o => o == .eq
  | .ne, o => o != .eq
  | .lt, o => o == .lt
  | .gt, o => o == .gt
  | .le, o => o != .gt
  | .ge, o => o != .lt
  | .like, _ => false

/-- The truth of a comparison of a term with a bound value. A comparison with null is unknown. -/
def compareTruth (schema : TableSchema) (row : Row) (term : Term) (comparison : Comparison)
    (value : Cell) : Except StorageError Truth :=
  let left := termValue row term
  match comparison with
  | .like =>
    if Like.patternLimit < value.byteSize then
      .error (.database "LIKE or GLOB pattern too complex")
    else match left.chars?, value.chars? with
      | some text, some pattern => .ok (Truth.ofBool (Like.isMatch pattern text))
      | _, _ => .ok .unknown
  | comparison =>
    if left.isNull || value.isNull then .ok .unknown
    else
      let right := value.comparable (term.affinity schema)
      .ok (Truth.ofBool (satisfies comparison (left.order right)))

/-- The truth of a condition in a row. -/
def conditionTruth (schema : TableSchema) (row : Row) (c : Condition) :
    Except StorageError Truth :=
  match Term.ofText? schema c.field with
  | some term => compareTruth schema row term c.comparison (.ofScalar c.value)
  | none => .error (.database ("no such column: " ++ c.field))

/-- Whether all fields of a filter name something. -/
def checkFields (schema : TableSchema) (filter : Filter) : Except StorageError Unit :=
  match (Node.allConditions filter.nodes).find? (fun c => (Term.ofText? schema c.field).isNone) with
  | some c => .error (.database ("no such column: " ++ c.field))
  | none => .ok ()

/-- The rows that a filter accepts, in the order of `rows`. -/
def accepted (schema : TableSchema) (filter : Filter) : List Row → Except StorageError (List Row)
  | [] => .ok []
  | row :: rest => do
    let keep ← filter.accepts (conditionTruth schema row)
    let others ← accepted schema filter rest
    .ok (if keep then row :: others else others)

/-- The alternatives of a filter that is one choice between equalities of indexed columns. -/
def alternatives? (id : TableId) (filter : Filter) : Option (List Condition) :=
  match id, filter.nodes with
  | .users, [.group .or (first :: others)] =>
    (first :: others).mapM fun
      | .condition c =>
        if c.comparison = .eq ∧ ["name", "email", "id"].contains c.field then some c else none
      | .group _ _ => none
  | _, _ => none

/-- The rows in the order in which a filter visits them: through the indexes of its alternatives
one after the other, otherwise in the order of keys. -/
def visitOrder (id : TableId) (filter : Filter) (rows : List Row) : List Row :=
  match alternatives? id filter with
  | none => rows
  | some alternatives =>
    let holds (c : Condition) (row : Row) : Bool :=
      match conditionTruth id.schema row c with
      | .ok .yes => true
      | _ => false
    alternatives.foldl (fun seen c =>
      seen ++ rows.filter fun row => holds c row && !seen.any (·.key == row.key)) []

/-- The rows of a table that a filter accepts, in the order in which it visits them. -/
def find (id : TableId) (t : Table) (filter : Filter) : Except StorageError (List Row) := do
  checkFields id.schema filter
  accepted id.schema filter (visitOrder id filter t.rows)

/-! ## Reading -/

/-- The record of a row under a projection. -/
def record (outputs : List Output) (row : Row) (count : Nat) : Record :=
  Record.ofList (outputs.map fun
    | .term name term => (name, (termValue row term).toScalar)
    | .count name => (name, .integer count))

/-- The records that a selection returns. -/
def select (db : Database) (table : String) (columns : List String) (filter : Filter) :
    Except StorageError (List Record) := do
  let (id, t) ← db.resolve table
  let projection := if columns.isEmpty then "*" else Text.join ", " columns
  match Output.ofText? id.schema projection with
  | none => .error (.database ("no such column: " ++ projection))
  | some outputs =>
    let rows ← find id t filter
    if outputs.any Output.isTotal then
      let row := rows.getLast?.getD ⟨0, []⟩
      .ok [record outputs row rows.length]
    else .ok (rows.map fun row => record outputs row rows.length)

/-! ## Constraints -/

/-- The first column of a row that must not be null and is. -/
def missingColumn? (schema : TableSchema) (row : Row) : Option String :=
  (schema.columns.zip row.cells).findSome? fun (column, cell) =>
    if column.notNull && cell.isNull then some column.name else none

/-- The first check that a row fails. -/
def failedCheck? (schema : TableSchema) (row : Row) : Option String :=
  let ofKey := schema.keyCheck?.bind fun check =>
    if check.rule.accepts (.integer row.key) then none else some check.text
  ofKey <|> (schema.columns.zip row.cells).findSome? fun (column, cell) =>
    column.check?.bind fun check => if check.rule.accepts cell then none else some check.text

/-- The first column whose value in a row is taken by another row. -/
def takenColumn? (schema : TableSchema) (others : List Row) (row : Row) : Option String :=
  if others.any (·.key == row.key) then some schema.key
  else schema.unique.find? fun name =>
    match schema.position? name with
    | some position =>
      let cell := row.cell position
      !cell.isNull && others.any fun other => (other.cell position).order cell == .eq
    | none => false

/-- The constraints of a table on one row beside other rows, in the order in which they are
checked. -/
def checkRow (schema : TableSchema) (others : List Row) (row : Row) : Except StorageError Unit :=
  match missingColumn? schema row with
  | some column =>
    .error (.conflict ("NOT NULL constraint failed: " ++ schema.name ++ "." ++ column))
  | none =>
    match failedCheck? schema row with
    | some text => .error (.conflict ("CHECK constraint failed: " ++ text))
    | none =>
      match takenColumn? schema others row with
      | some column =>
        .error (.conflict ("UNIQUE constraint failed: " ++ schema.name ++ "." ++ column))
      | none => .ok ()

/-- The position of the owner among the cells of a todo behind the key. -/
def ownerCell : Nat := 3

/-- Whether the owner of a todo is a user. -/
def hasOwner (users : Table) (todo : Row) : Bool :=
  match todo.cells[ownerCell]? with
  | some (.integer n) => users.rows.any (·.key == n)
  | some .null => true
  | _ => false

/-- Whether the owner of each todo is a user. -/
def ownersExist (db : Database) : Bool :=
  match db.users, db.todos with
  | some users, some todos => todos.rows.all (hasOwner users)
  | _, some todos => todos.rows.isEmpty
  | _, none => true

/-- A changed database, unless a todo lost its owner. -/
def checkOwners (db : Database) : Except StorageError Database :=
  if db.ownersExist then .ok db else .error (.conflict "FOREIGN KEY constraint failed")

/-- The database with another content of a table, unless a todo lost its owner by that. Tables other
than those of users and todos have no part in ownership. -/
def putTable (db : Database) (id : TableId) (t : Table) : Except StorageError Database :=
  match id with
  | .users | .todos => (db.setTable id t).checkOwners
  | .versions | .history => .ok (db.setTable id t)

/-! ## Writing -/

/-- The greatest key of 64 bits. -/
def keyLimit : Int := 9223372036854775807

/-- The key that a cell gives to a row. -/
def keyOf (cell : Cell) : Except StorageError Int :=
  match cell.stored .integer with
  | .integer n => .ok n
  | _ => .error (.database "datatype mismatch")

/-- The next key of a table. A table that counts on never issues a key again. -/
def freshKey (schema : TableSchema) (t : Table) : Except StorageError Int :=
  let top := t.maxKey?.getD 0
  let next := if schema.autoincrement then max top t.lastKey + 1
    else match t.maxKey? with
      | some n => n + 1
      | none => 1
  if keyLimit < next then .error (.database "database or disk is full") else .ok next

/-- The name of a column as data give it, without quotes. -/
def bareName? (field : String) : Option String :=
  match Token.ofText? field with
  | some [.word word] => if Token.isReserved word then none else some word
  | some [.name name _] => some name
  | some [.text name] => some name
  | _ => none

/-- The position of a column that data are given for. -/
def dataPosition (schema : TableSchema) (field : String) : Except StorageError Nat :=
  match (bareName? field).bind schema.position? with
  | some position => .ok position
  | none => .error (.database ("table " ++ schema.name ++ " has no column named " ++ field))

/-- The row of the values at some positions, with standard cells elsewhere. -/
def assemble (schema : TableSchema) (t : Table) (positions : List Nat) (values : List Scalar) :
    Except StorageError Row := do
  let given (position : Nat) : Option Cell :=
    ((positions.zip values).find? (·.1 == position)).map fun (_, value) =>
      (Cell.ofScalar value).stored (schema.affinityAt position)
  let key ← match given 0 with
    | none => freshKey schema t
    | some .null => freshKey schema t
    | some cell => keyOf cell
  let cells := (List.range schema.columns.length).zip schema.columns |>.map fun (i, column) =>
    (given (i + 1)).getD column.standard
  .ok ⟨key, cells⟩

/-- A table with one more row. -/
def addRow (schema : TableSchema) (t : Table) (row : Row) : Except StorageError Table := do
  checkRow schema t.rows row
  .ok ⟨Table.place row t.rows, max t.lastKey row.key⟩

/-- A table with a row for each list of values, and the last key. -/
def addRows (schema : TableSchema) (positions : List Nat) :
    Table → Int → List (List Scalar) → Except StorageError (Table × Int)
  | t, last, [] => .ok (t, last)
  | t, _, values :: rest => do
    let row ← assemble schema t positions values
    let t ← addRow schema t row
    addRows schema positions t row.key rest

/-- Stores a row for each list of values in the named columns. -/
def insertRows (db : Database) (table : String) (fields : List String)
    (rows : List (List Scalar)) : Except StorageError (Database × WriteOutcome) := do
  let (id, t) ← db.resolve table
  let positions ← fields.mapM (dataPosition id.schema)
  let (t, last) ← addRows id.schema positions t 0 rows
  let db ← db.putTable id t
  .ok (db, ⟨some last, rows.length⟩)

/-- Stores one row. -/
def insert (db : Database) (table : String) (data : Record) :
    Except StorageError (Database × WriteOutcome) :=
  db.insertRows table data.names [data.values]

/-- Stores several rows in the columns of the first. -/
def insertAll (db : Database) (table : String) (first : Record) (others : List Record) :
    Except StorageError (Database × WriteOutcome) :=
  if first.isEmpty then .error (.database "near \")\": syntax error")
  else if others.any (·.size ≠ first.size) then
    .error (.database "all VALUES must have the same number of terms")
  else db.insertRows table first.names ((first :: others).map Record.values)

/-- A row with one assignment made. -/
def assign (schema : TableSchema) (row : Row) (position : Nat) (value : Scalar) :
    Except StorageError Row :=
  let cell := (Cell.ofScalar value).stored (schema.affinityAt position)
  match position with
  | 0 => do
    let key ← keyOf cell
    .ok { row with key }
  | i + 1 => .ok (row.setCell i cell)

/-- A row with all assignments made. -/
def assignAll (schema : TableSchema) :
    List (Nat × Scalar) → Row → Except StorageError Row
  | [], row => .ok row
  | (position, value) :: rest, row => do
    let row ← assign schema row position value
    assignAll schema rest row

/-- The rows of a table with the assignments made in each of the chosen ones in turn. -/
def changeRows (schema : TableSchema) (assignments : List (Nat × Scalar)) :
    List Row → List Row → Except StorageError (List Row)
  | rows, [] => .ok rows
  | rows, chosen :: rest => do
    let changed ← assignAll schema assignments chosen
    let others := rows.filter (·.key != chosen.key)
    checkRow schema others changed
    let rows := if changed.key = chosen.key then
        rows.map fun row => if row.key = chosen.key then changed else row
      else Table.place changed others
    changeRows schema assignments rows rest

/-- Changes the rows that a filter accepts. -/
def update (db : Database) (table : String) (data : Record) (filter : Filter) :
    Except StorageError (Database × WriteOutcome) := do
  let (id, t) ← db.resolve table
  let positions ← data.names.mapM (dataPosition id.schema)
  let chosen ← find id t filter
  let rows ← changeRows id.schema (positions.zip data.values) t.rows chosen
  let db ← db.putTable id { t with rows }
  .ok (db, ⟨none, chosen.length⟩)

/-- The database without the todos of users that are no more. -/
def dropOrphans (db : Database) : Database :=
  match db.users, db.todos with
  | some users, some todos =>
    { db with todos := some { todos with rows := todos.rows.filter (hasOwner users) } }
  | _, _ => db

/-- Removes the rows that a filter accepts, and with a user all that the user owns. -/
def delete (db : Database) (table : String) (filter : Filter) :
    Except StorageError (Database × WriteOutcome) := do
  let (id, t) ← db.resolve table
  let chosen ← find id t filter
  let rows := t.rows.filter fun row => !chosen.any (·.key == row.key)
  let db := (db.setTable id { t with rows }).dropOrphans
  .ok (db, ⟨none, chosen.length⟩)

/-- What a command other than a selection does. -/
def write (db : Database) : Command → Except StorageError (Database × WriteOutcome)
  | .select .. => .ok (db, ⟨none, 0⟩)
  | .insert table data => db.insert table data
  | .insertAll table first others => db.insertAll table first others
  | .update table data filter => db.update table data filter
  | .delete table filter => db.delete table filter

/-- What a command reads. -/
def read (db : Database) : Command → Except StorageError (List Record)
  | .select table columns filter => db.select table columns filter
  | _ => .ok []

end Database

end TodoServer.Storage
