import TodoServer.Proofs.Storage.Statements
import TodoServer.Proofs.Store.Reachable

/-!
# Convergence of migrations

When the migrations succeed on a database that records its version, or that has no version table
yet, the current version is recorded afterwards and migrating again changes nothing. A version table
without its row is the one exception: the steps are taken, but the row that should record them is
updated and never inserted.
-/

namespace TodoServer.Storage

namespace Database

/-- The row of the version records the current one or a later one. -/
def IsCurrent (db : Database) : Prop :=
  ∃ t row n, db.versions = some t ∧ row ∈ t.rows ∧ row.key = 1 ∧ row.cell 1 = .integer n ∧
    schemaVersion ≤ n

variable {db db' : Database} {outcome : WriteOutcome}

/-- An entry of the history leaves the version alone. -/
theorem versions_insert_history {data : Record}
    (inserted : db.insert "schema_migrations" data = .ok (db', outcome)) :
    db'.versions = db.versions := by
  obtain ⟨id, t, t', resolved, rfl⟩ := insert_eq_ok inserted
  have history : TableId.named? "schema_migrations" = some .history := rfl
  rw [(resolve_eq_ok_iff.1 resolved).1, Option.some_inj] at history
  rw [history]
  rfl

theorem versions_createTable {id : TableId} (other : id ≠ .versions) :
    (db.createTable id).versions = db.versions := by
  rw [createTable]
  split
  · rfl
  · cases id <;> first | rfl | exact absurd rfl other

theorem versions_createIndex {index : IndexId} (created : db.createIndex index = .ok db') :
    db'.versions = db.versions := by
  rw [createIndex] at created
  split at created
  · cases created
  · split at created <;> cases created <;> rfl

theorem versions_createIndexes {indexes : List IndexId}
    (created : indexes.foldlM createIndex db = .ok db') : db'.versions = db.versions := by
  induction indexes generalizing db with
  | nil =>
    cases created
    rfl
  | cons index rest ih =>
    rw [List.foldlM_cons] at created
    obtain ⟨mid, first, others⟩ := bind_eq_ok_iff.1 created
    exact (ih others).trans (versions_createIndex first)

end Database

namespace Migration

open Database

variable {checksum checksum' : Checksum} {now now' : Int} {db db' : Database} {t : Table}

/-! ## The row of the version -/

/-- The row of the version after a step. -/
def stamped (m : Migration) (now : Int) (row : Row) : Row :=
  ((row.setCell 0 (.integer m.version)).setCell 1 (.integer now)).setCell 2 (.text m.name)

/-- The version table after a step. -/
def stampedTable (m : Migration) (now : Int) (t : Table) : Table :=
  { t with rows := t.rows.map fun row => if row.key = 1 then m.stamped now row else row }

/-- Without the row of the version a step changes no row. -/
theorem rows_stampedTable_of_missing (m : Migration) (now : Int) (missing : t.row? 1 = none) :
    (m.stampedTable now t).rows = t.rows := by
  have other : ∀ row ∈ t.rows, (if row.key = 1 then m.stamped now row else row) = row := by
    intro row mem
    exact if_neg (by simpa using List.find?_eq_none.1 missing row mem)
  exact (List.map_congr_left other).trans (List.map_id' _)

/-- Where keys are unique a step changes the row of the version alone. -/
theorem rows_stampedTable_of_found (m : Migration) (now : Int) {row : Row}
    (keyed : (t.rows.map Row.key).Nodup) (found : t.row? 1 = some row) :
    (m.stampedTable now t).rows =
      t.rows.map fun other => if other.key = row.key then m.stamped now row else other := by
  have key : row.key = 1 := by simpa using List.find?_some found
  rw [key]
  refine List.map_congr_left fun other mem => ?_
  by_cases chosen : other.key = 1
  · have self := List.inj_on_of_nodup_map keyed mem (List.mem_of_find?_eq_some found)
      (chosen.trans key.symm)
    rw [if_pos chosen, if_pos chosen, self]
  · rw [if_neg chosen, if_neg chosen]

/-- The search for the row of the version. -/
theorem find_versionRow (keyed : (t.rows.map Row.key).Nodup) :
    Database.find .versions t versionRow = .ok (t.row? 1).toList := by
  have truth (row : Row) : conditionTruth .versions row ⟨"id", .eq, .integer 1⟩ =
      .ok (.ofBool (row.key = 1)) := by
    rw [conditionTruth_eq 0 rfl rfl rfl, ← Cell.integer_beq]
    rfl
  have accepts (row : Row) (_ : row ∈ t.rows) :
      versionRow.accepts (conditionTruth .versions row) = .ok (decide (row.key = 1)) := by
    rw [versionRow, accepts_cons (truth row), accepts_nil]
    cases decide (row.key = 1) <;> rfl
  have found : accepted .versions versionRow (t.rows.map id) =
      .ok ((t.rows.filter (·.key = 1)).map id) := accepted_map accepts
  rw [List.map_id, List.map_id] at found
  have named : checkFields .versions versionRow = .ok () :=
    checkFields_of_columns .versions (rfl : _ = ["id"]) (by decide)
  have visited : visitOrder .versions versionRow t.rows = t.rows := rfl
  have one : t.rows.filter (·.key = 1) = (t.row? 1).toList :=
    filter_eq_of_nodup keyed fun _ chosen => of_decide_eq_true chosen
  simp only [find, TableId.schema, named, visited]
  rw [← one]
  exact found

/-- The rows after a change of one row that keeps its key. -/
theorem changeRows_one_eq_ok {schema : TableSchema} {assignments : List (Nat × Scalar)}
    {old new : Row} {rows rows' : List Row}
    (assigned : assignAll schema assignments old = .ok new) (same : new.key = old.key)
    (changed : changeRows schema assignments rows [old] = .ok rows') :
    rows' = rows.map fun row => if row.key = old.key then new else row := by
  obtain ⟨found, assigned', changed⟩ := bind_eq_ok_iff.1 changed
  cases assigned.symm.trans assigned'
  obtain ⟨_, _, changed⟩ := bind_eq_ok_iff.1 changed
  rw [if_pos same] at changed
  cases changed
  rfl

/-- The version table after the row of the version was updated, if there is one. -/
theorem versions_update {m : Migration} {outcome : WriteOutcome} (present : db.versions = some t)
    (keyed : (t.rows.map Row.key).Nodup)
    (updated : db.update "schema_version" (.ofList [("version", .integer m.version),
      ("applied_at", .integer now), ("description", .text m.name)]) versionRow =
      .ok (db', outcome)) :
    db'.versions = some (m.stampedTable now t) := by
  have resolved : db.resolve "schema_version" = .ok (.versions, t) := by
    have named : TableId.named? "schema_version" = some .versions := rfl
    simp only [resolve, named, table?, present]
  have names : (Record.ofList [("version", .integer m.version), ("applied_at", .integer now),
      ("description", .text m.name)]).names = ["version", "applied_at", "description"] := rfl
  have positions : ["version", "applied_at", "description"].mapM (dataPosition .versions) =
      .ok [1, 2, 3] := rfl
  rw [update_eq resolved (names ▸ positions) (find_versionRow keyed)] at updated
  obtain ⟨rows, changed, written⟩ := bind_eq_ok_iff.1 updated
  have stored : rows = (m.stampedTable now t).rows := by
    cases found : t.row? 1 with
    | none =>
      rw [found] at changed
      cases changed
      exact (rows_stampedTable_of_missing m now found).symm
    | some row =>
      have assigned : assignAll .versions
          [(1, .integer m.version), (2, .integer now), (3, .text m.name)] row =
          .ok (m.stamped now row) := rfl
      rw [found] at changed
      rw [changeRows_one_eq_ok assigned rfl changed, rows_stampedTable_of_found m now keyed found]
  cases written
  rw [stored]
  rfl

/-! ## Steps -/

/-- A step that succeeds leaves its version in the row of the version, if there is one. -/
theorem versions_apply {m : Migration} (present : db.versions = some t)
    (keyed : (t.rows.map Row.key).Nodup) (applied : m.apply checksum now db = .ok db') :
    db'.versions = some (m.stampedTable now t) := by
  rw [apply] at applied
  cases created : db.createIndex m.index with
  | error e =>
    rw [created] at applied
    cases e <;> cases applied
  | ok indexed =>
    simp only [created] at applied
    obtain ⟨_, same, applied⟩ := bind_eq_ok_iff.1 applied
    cases same
    obtain ⟨⟨updated, _⟩, stamps, applied⟩ := bind_eq_ok_iff.1 applied
    obtain ⟨⟨entered, _⟩, inserts, applied⟩ := bind_eq_ok_iff.1 applied
    cases applied
    rw [versions_insert_history inserts]
    exact versions_update ((versions_createIndex created).trans present) keyed stamps

/-- From an older version than the current one, the steps that succeed end with the index of todos
by status. -/
theorem apply_of_applyFrom {current : Int} (older : current < schemaVersion)
    (applied : applyFrom checksum now (schemaVersion - current).toNat (current + 1) db = .ok db') :
    indexTodosByStatus.apply checksum now db = .ok db' := by
  have steps : (schemaVersion - current).toNat = (schemaVersion - current).toNat - 1 + 1 := by omega
  rw [steps, applyFrom] at applied
  obtain ⟨next, first, rest⟩ := bind_eq_ok_iff.1 applied
  rw [applyVersion] at first
  split at first
  · next one =>
    obtain rfl : current = 0 := by omega
    cases first
    obtain ⟨last, second, done⟩ := bind_eq_ok_iff.1 rest
    cases done
    exact second
  · split at first
    · next two =>
      obtain rfl : current = 1 := by omega
      cases rest
      exact first
    · cases first

/-- A database that is current stays as it is. -/
theorem run_of_recorded {n : Int} (present : db.versions = some t)
    (recorded : recordedVersion t = .ok n) (current : schemaVersion ≤ n) :
    run checksum now db = .ok db := by
  have none : (schemaVersion - n).toNat = 0 := by omega
  simp only [run, present, recorded, bind, Except.bind, none]
  rfl

/-- A new database records the current version. -/
theorem versions_initialSchema (absent : db.versions = none)
    (applied : initialSchema checksum now db = .ok db') :
    db'.versions = some ⟨[versionEntry now], 1⟩ := by
  rw [initialSchema] at applied
  obtain ⟨indexed, created, applied⟩ := bind_eq_ok_iff.1 applied
  obtain ⟨⟨stored, outcome⟩, inserted, applied⟩ := bind_eq_ok_iff.1 applied
  obtain ⟨⟨entered, _⟩, recorded, applied⟩ := bind_eq_ok_iff.1 applied
  cases applied
  have new : indexed.versions = some .empty := by
    have first : (db.createTable .versions).versions = some .empty := by
      simp only [createTable, table?, absent]
      rfl
    rw [versions_createIndexes created]
    simp only [TableId.all, List.foldl_cons, List.foldl_nil, versions_createTable, first, ne_eq,
      reduceCtorEq, not_false_eq_true]
  rw [insert_version now new] at inserted
  cases inserted
  exact versions_insert_history recorded

/-- The row of a version table records a version. -/
theorem cell_of_recordedVersion {n : Int} {row : Row} (found : t.row? 1 = some row)
    (recorded : recordedVersion t = .ok n) : row.cell 1 = .integer n := by
  rw [recordedVersion, found] at recorded
  simp only at recorded
  split at recorded
  · next cell =>
    split at recorded <;> cases recorded
    exact cell
  · cases recorded

/-- A version table whose row records the current version, or a later one, is left alone. -/
theorem stays_current {n : Int} {row : Row} (present : db'.versions = some t)
    (found : t.row? 1 = some row) (recorded : recordedVersion t = .ok n)
    (current : schemaVersion ≤ n) :
    db'.IsCurrent ∧ ∀ checksum' now', run checksum' now' db' = .ok db' := by
  have key : row.key = 1 := by simpa using List.find?_some found
  exact ⟨⟨t, row, n, present, List.mem_of_find?_eq_some found, key,
    cell_of_recordedVersion found recorded, current⟩,
    fun _ _ => run_of_recorded present recorded current⟩

/-- A step changes the row of the version where it stands. -/
theorem row?_stampedTable (m : Migration) (now key : Int) (t : Table) :
    (m.stampedTable now t).row? key =
      (t.row? key).map fun row => if row.key = 1 then m.stamped now row else row := by
  have keeps (row : Row) : (if row.key = 1 then m.stamped now row else row).key = row.key := by
    split <;> rfl
  simp only [Table.row?, stampedTable, List.find?_map, Function.comp_def, keeps]

/-- A step leaves its version in the row of the version. -/
theorem recordedVersion_stampedTable {n : Int} {row : Row} (found : t.row? 1 = some row)
    (recorded : recordedVersion t = .ok n) :
    (indexTodosByStatus.stampedTable now t).row? 1 = some (indexTodosByStatus.stamped now row) ∧
      recordedVersion (indexTodosByStatus.stampedTable now t) = .ok schemaVersion := by
  have cell := cell_of_recordedVersion found recorded
  have key : row.key = 1 := by simpa using List.find?_some found
  have stamped : (indexTodosByStatus.stampedTable now t).row? 1 =
      some (indexTodosByStatus.stamped now row) := by
    rw [row?_stampedTable, found, Option.map_some, if_pos key]
  refine ⟨stamped, ?_⟩
  rw [recordedVersion, stamped]
  obtain ⟨key, cells⟩ := row
  cases cells with
  | nil => cases cell
  | cons first rest => rfl

/-- A version table without its row does not get one. -/
theorem not_isCurrent_of_missing (present : db.versions = some t)
    (keyed : (t.rows.map Row.key).Nodup) (missing : t.row? 1 = none)
    (ran : run checksum now db = .ok db') : ¬db'.IsCurrent := by
  -- A missing row counts as version zero, so all steps are taken, and each changes rows alone that
  -- are there.
  have zero : recordedVersion t = .ok 0 := by rw [recordedVersion, missing]
  simp only [run, present, zero] at ran
  have applied := apply_of_applyFrom (by decide) ran
  have still : (indexTodosByStatus.stampedTable now t).row? 1 = none := by
    rw [row?_stampedTable, missing, Option.map_none]
  rintro ⟨after, row, _, stored, mem, key, _⟩
  rw [versions_apply present keyed applied, Option.some_inj] at stored
  subst stored
  exact absurd key (by simpa using List.find?_eq_none.1 still row mem)

/-- Migrations that succeed on a recorded version leave the current one and are done for good. -/
theorem converges_of_found {row : Row} (present : db.versions = some t)
    (keyed : (t.rows.map Row.key).Nodup) (found : t.row? 1 = some row)
    (ran : run checksum now db = .ok db') :
    db'.IsCurrent ∧ ∀ checksum' now', run checksum' now' db' = .ok db' := by
  simp only [run, present] at ran
  obtain ⟨n, recorded, steps⟩ := bind_eq_ok_iff.1 ran
  by_cases current : schemaVersion ≤ n
  · have none : (schemaVersion - n).toNat = 0 := by omega
    rw [none] at steps
    cases steps
    exact stays_current present found recorded current
  · have applied := apply_of_applyFrom (by omega) steps
    obtain ⟨stamped, records⟩ := recordedVersion_stampedTable found recorded
    exact stays_current (versions_apply present keyed applied) stamped records le_rfl

/-- Migrations that succeed leave the current version recorded and change nothing when they are run
again, exactly when the version table that was there, if any, had its row. -/
theorem run_converges_iff (keyed : db.Keyed) (ran : run checksum now db = .ok db') :
    (db'.IsCurrent ∧ ∀ checksum' now', run checksum' now' db' = .ok db') ↔
      ∀ t, db.versions = some t → (t.row? 1).isSome = true := by
  cases present : db.versions with
  | none =>
    have new := versions_initialSchema present (by simpa only [run, present] using ran)
    refine iff_of_true (stays_current new rfl rfl (by decide)) fun t same => ?_
    cases same
  | some t =>
    have unique := keyed .versions t present
    cases found : t.row? 1 with
    | some row =>
      refine iff_of_true (converges_of_found present unique found ran) fun other same => ?_
      cases same
      rw [found]
      rfl
    | none =>
      refine iff_of_false (fun held =>
        not_isCurrent_of_missing present unique found ran held.1) fun all => ?_
      simpa [found] using all t rfl

/-- A database without indexes and history, with these rows of the version. -/
def unindexed (versions : List Row) : Database :=
  ⟨some ⟨versions, 1⟩, some .empty, some .empty, some .empty, []⟩

theorem keyed_unindexed {versions : List Row} (unique : (versions.map Row.key).Nodup) :
    (unindexed versions).Keyed := by
  intro id t present
  cases id <;> cases present
  · exact unique
  all_goals exact List.nodup_nil

/-- The row of the first version. -/
def firstVersion : Row :=
  ⟨1, [.integer 1, .integer 0, .text "Initial schema"]⟩

/-- The first version is taken forward for good. -/
theorem run_unindexed_first :
    ∃ db', run Crypto.sha256Hex 0 (unindexed [firstVersion]) = .ok db' ∧
      db'.IsCurrent ∧ ∀ checksum' now', run checksum' now' db' = .ok db' := by
  have keyed : (unindexed [firstVersion]).Keyed := keyed_unindexed (List.nodup_singleton 1)
  obtain ⟨db', ran⟩ : ∃ db', run Crypto.sha256Hex 0 (unindexed [firstVersion]) = .ok db' := ⟨_, rfl⟩
  refine ⟨db', ran, (run_converges_iff keyed ran).2 fun t present => ?_⟩
  cases present
  rfl

/-- Without the row of the version the steps succeed, nothing records them, and taking them again
fails on the history. -/
theorem run_unindexed_missing :
    ∃ db', run Crypto.sha256Hex 0 (unindexed []) = .ok db' ∧ ¬db'.IsCurrent ∧
      ∃ e, run Crypto.sha256Hex 0 db' = .error e := by
  refine ⟨_, rfl, ?_, _, rfl⟩
  rintro ⟨t, row, _, stored, mem, _⟩
  cases stored
  cases mem

end Migration

end TodoServer.Storage
