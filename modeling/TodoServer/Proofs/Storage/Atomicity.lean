import TodoServer.Proofs.Storage.Statements
import TodoServer.Storage.Opening

/-!
# Migrations leave all or nothing

The steps of a run are transactions of their own, and still they amount to a single one: no step but
the last writes anything, so there is nothing that could stay behind when a later one fails. Whether
a run succeeds or fails, the tables of users and todos that were there keep all they hold.
-/

namespace TodoServer.Storage

/-! ## What statements retain -/

namespace Database

/-- A table that was there is still there, with the same rows and the same counter. -/
def Retains (db : Database) (id : TableId) (db' : Database) : Prop :=
  ∀ t, db.table? id = some t → db'.table? id = some t

variable {db mid db' : Database} {id : TableId} {outcome : WriteOutcome}

theorem Retains.refl (db : Database) (id : TableId) : db.Retains id db :=
  fun _ present => present

theorem Retains.trans (first : db.Retains id mid) (second : mid.Retains id db') :
    db.Retains id db' :=
  fun t present => second t (first t present)

theorem retains_setTable {other : TableId} (different : id ≠ other) (t : Table) :
    db.Retains id (db.setTable other t) := by
  intro t' present
  rw [table?_setTable_of_ne different, present]

theorem retains_createTable (created : TableId) : db.Retains id (db.createTable created) := by
  rw [createTable]
  split
  · exact .refl db id
  · next absent =>
    intro t present
    have different : id ≠ created := by
      rintro rfl
      rw [absent] at present
      cases present
    exact retains_setTable different .empty t present

theorem retains_createTables (created : List TableId) :
    db.Retains id (created.foldl createTable db) := by
  induction created generalizing db with
  | nil => exact .refl db id
  | cons first others ih => exact (retains_createTable first).trans ih

theorem retains_createIndex {index : IndexId} (created : db.createIndex index = .ok db') :
    db.Retains id db' := by
  rw [createIndex] at created
  split at created
  · cases created
  · split at created <;> cases created
    · exact .refl db id
    · intro t present
      cases id <;> exact present

theorem retains_createIndexes {indexes : List IndexId}
    (created : indexes.foldlM createIndex db = .ok db') : db.Retains id db' := by
  induction indexes generalizing db with
  | nil =>
    cases created
    exact .refl _ id
  | cons index others ih =>
    rw [List.foldlM_cons] at created
    obtain ⟨mid, first, rest⟩ := bind_eq_ok_iff.1 created
    exact (retains_createIndex first).trans (ih rest)

/-- A new row leaves all tables alone but the one that it is for. -/
theorem retains_insert {table : String} {data : Record} {written : TableId}
    (inserted : db.insert table data = .ok (db', outcome))
    (named : TableId.named? table = some written) (different : id ≠ written) :
    db.Retains id db' := by
  obtain ⟨found, t, t', resolved, rfl⟩ := insert_eq_ok inserted
  rw [(resolve_eq_ok_iff.1 resolved).1, Option.some_inj] at named
  exact retains_setTable (named ▸ different) t'

/-- An update leaves all tables alone but the one that it is for. -/
theorem retains_update {table : String} {data : Record} {filter : Filter} {written : TableId}
    (updated : db.update table data filter = .ok (db', outcome))
    (named : TableId.named? table = some written) (different : id ≠ written) :
    db.Retains id db' := by
  obtain ⟨⟨found, t⟩, resolved, updated⟩ := bind_eq_ok_iff.1 updated
  obtain ⟨positions, _, updated⟩ := bind_eq_ok_iff.1 updated
  obtain ⟨chosen, _, updated⟩ := bind_eq_ok_iff.1 updated
  obtain ⟨rows, _, updated⟩ := bind_eq_ok_iff.1 updated
  obtain ⟨final, put, done⟩ := bind_eq_ok_iff.1 updated
  cases done
  rw [(resolve_eq_ok_iff.1 resolved).1, Option.some_inj] at named
  rw [(putTable_eq_ok put).1]
  exact retains_setTable (named ▸ different) { t with rows }

end Database

/-! ## What migrations retain -/

namespace Migration

open Database

variable {checksum : Checksum} {now : Int} {db db' : Database} {id : TableId}

/-- The tables that migrations write to keep the books of the schema. -/
def IsBook (id : TableId) : Prop := id = .versions ∨ id = .history

theorem retains_initialSchema (content : ¬IsBook id)
    (applied : initialSchema checksum now db = .ok db') : db.Retains id db' := by
  obtain ⟨noVersions, noHistory⟩ := not_or.1 content
  rw [initialSchema] at applied
  obtain ⟨indexed, indexes, applied⟩ := bind_eq_ok_iff.1 applied
  obtain ⟨⟨recorded, _⟩, version, applied⟩ := bind_eq_ok_iff.1 applied
  obtain ⟨⟨entered, _⟩, entry, applied⟩ := bind_eq_ok_iff.1 applied
  cases applied
  have tables : db.Retains id (TableId.all.foldl createTable db) :=
    retains_createTables TableId.all
  exact ((tables.trans (retains_createIndexes indexes)).trans
    (retains_insert version rfl noVersions)).trans (retains_insert entry rfl noHistory)

theorem retains_apply {m : Migration} (content : ¬IsBook id)
    (applied : m.apply checksum now db = .ok db') : db.Retains id db' := by
  obtain ⟨noVersions, noHistory⟩ := not_or.1 content
  rw [apply] at applied
  cases created : db.createIndex m.index with
  | error e =>
    rw [created] at applied
    cases e <;> cases applied
  | ok indexed =>
    simp only [created] at applied
    obtain ⟨_, same, applied⟩ := bind_eq_ok_iff.1 applied
    cases same
    obtain ⟨⟨stamped, _⟩, stamp, applied⟩ := bind_eq_ok_iff.1 applied
    obtain ⟨⟨entered, _⟩, entry, applied⟩ := bind_eq_ok_iff.1 applied
    cases applied
    exact ((retains_createIndex created).trans (retains_update stamp rfl noVersions)).trans
      (retains_insert entry rfl noHistory)

theorem retains_applyVersion {version : Int} (content : ¬IsBook id)
    (applied : applyVersion checksum now version db = .ok db') : db.Retains id db' := by
  rw [applyVersion] at applied
  split at applied
  · cases applied
    exact .refl db id
  · split at applied
    · exact retains_apply content applied
    · cases applied

theorem retains_applyFrom {count : Nat} {version : Int} (content : ¬IsBook id)
    (applied : applyFrom checksum now count version db = .ok db') : db.Retains id db' := by
  induction count generalizing version db with
  | zero =>
    cases applied
    exact .refl _ id
  | succ count ih =>
    rw [applyFrom] at applied
    obtain ⟨next, first, rest⟩ := bind_eq_ok_iff.1 applied
    exact (retains_applyVersion content first).trans (ih rest)

/-- A run retains the tables of users and todos. -/
theorem retains_run (content : ¬IsBook id) (ran : run checksum now db = .ok db') :
    db.Retains id db' := by
  rw [run] at ran
  split at ran
  · exact retains_initialSchema content ran
  · obtain ⟨current, _, steps⟩ := bind_eq_ok_iff.1 ran
    exact retains_applyFrom content steps

/-- Only the step to the current version changes anything. -/
theorem eq_of_applyVersion {version : Int} (earlier : version ≠ schemaVersion)
    (applied : applyVersion checksum now version db = .ok db') : db' = db := by
  rw [applyVersion] at applied
  split at applied
  · cases applied
    rfl
  · split at applied
    · next two => exact absurd two earlier
    · cases applied

end Migration

/-! ## Steps and the whole run -/

namespace Pool

open Migration

variable {checksum : Checksum} {now : Int} {p : Pool}
  {work : Database → Except StorageError Database}

theorem transact_of_ok {db : Database} (isOpen : p.isOpen = true)
    (worked : work p.database = .ok db) :
    p.transact work = (.ok (), { p with database := db }) := by
  simp only [transact, isOpen, if_true, worked]

theorem transact_of_error {e : StorageError} (isOpen : p.isOpen = true)
    (failed : work p.database = .error e) : p.transact work = (.error e, p) := by
  simp only [transact, isOpen, if_true, failed]

/-- A transaction is known by what it does to the database of its pool. -/
theorem transact_congr {work' : Database → Except StorageError Database}
    (same : work p.database = work' p.database) : p.transact work = p.transact work' := by
  rw [transact, transact, same]

/-- Steps up to the current version, each in a transaction, amount to one transaction. -/
theorem migrateFrom_eq_transact (isOpen : p.isOpen = true) {count : Nat} {version : Int}
    (last : version + count = schemaVersion + 1) :
    migrateFrom checksum now count version p =
      p.transact (applyFrom checksum now count version) := by
  -- Induction on the number of steps. The pool stays the same in it, because a step that is not the
  -- last one leaves the database as it was.
  induction count generalizing version with
  | zero => exact (transact_of_ok isOpen rfl).symm
  | succ count ih =>
    rw [migrateFrom]
    cases stepped : applyVersion checksum now version p.database with
    | error e =>
      rw [transact_of_error isOpen stepped]
      refine (transact_of_error isOpen ?_).symm
      rw [applyFrom, stepped]
      rfl
    | ok db =>
      have whole : applyFrom checksum now (count + 1) version p.database =
          applyFrom checksum now count (version + 1) db := by
        rw [applyFrom, stepped]
        rfl
      rw [transact_of_ok isOpen stepped]
      by_cases final : version = schemaVersion
      · obtain rfl : count = 0 := by omega
        exact (transact_of_ok isOpen (whole.trans rfl)).symm
      · obtain rfl : db = p.database := eq_of_applyVersion final stepped
        exact (ih (by omega)).trans (transact_congr whole.symm)

/-- A run of migrations amounts to one transaction. -/
theorem migrate_eq_transact (checksum : Checksum) (now : Int) (p : Pool) :
    p.migrate checksum now = p.transact (run checksum now) := by
  rw [migrate]
  split
  · next isOpen =>
    split
    · next absent =>
      refine transact_congr ?_
      simp only [run, absent]
    · next versions present =>
      split
      · next current recorded =>
        have whole : run checksum now p.database =
            applyFrom checksum now (schemaVersion - current).toNat (current + 1) p.database := by
          simp only [run, present, recorded, bind, Except.bind]
        by_cases older : current < schemaVersion
        · rw [migrateFrom_eq_transact isOpen (by omega)]
          exact transact_congr whole.symm
        · have none : (schemaVersion - current).toNat = 0 := by omega
          rw [none] at whole ⊢
          exact (transact_of_ok isOpen whole).symm
      · next e recorded =>
        refine (transact_of_error isOpen ?_).symm
        simp only [run, present, recorded, bind, Except.bind]
  · next closed => rw [transact, if_neg closed]

/-- A pool is opened on a database that has been migrated. -/
theorem opened_eq (now : Int) (database : Database) :
    opened now database = (run Crypto.sha256Hex now database).map of := by
  rw [opened, migrate_eq_transact]
  cases ran : run Crypto.sha256Hex now database with
  | error e => rw [transact_of_error rfl ran]; rfl
  | ok db => rw [transact_of_ok rfl ran]; rfl

/-- **All or nothing.** Whatever a database holds, migrations that fail leave it as it was, although
each of their steps is a transaction of its own; and whether they fail or succeed, the tables of
users and todos that were there keep all their rows. -/
theorem migrations_all_or_nothing (checksum : Checksum) (now : Int) (p : Pool) :
    (∀ e, (p.migrate checksum now).1 = .error e → (p.migrate checksum now).2 = p) ∧
      ∀ id ∈ [TableId.users, .todos], ∀ t, p.database.table? id = some t →
        (p.migrate checksum now).2.database.table? id = some t := by
  rw [migrate_eq_transact]
  cases isOpen : p.isOpen with
  | false =>
    have closed : p.transact (run checksum now) = (.error .poolClosed, p) := by
      simp [transact, isOpen]
    rw [closed]
    exact ⟨fun _ _ => rfl, fun _ _ _ present => present⟩
  | true =>
    cases ran : run checksum now p.database with
    | error e =>
      rw [transact_of_error isOpen ran]
      exact ⟨fun _ _ => rfl, fun _ _ _ present => present⟩
    | ok db =>
      rw [transact_of_ok isOpen ran]
      constructor
      · intro e failed
        cases failed
      intro id mem t present
      have content : ¬IsBook id := by
        rcases List.mem_cons.1 mem with rfl | mem
        · simp [IsBook]
        · simp [IsBook, List.mem_singleton.1 mem]
      exact retains_run content ran t present

/-- A database of the first version with one todo, whose history already holds an entry of the
second version. -/
def steppedBefore : Database where
  versions := some ⟨[⟨1, [.integer 1, .integer 0, .text "Initial schema"]⟩], 1⟩
  history := some ⟨[⟨2, [.text "?", .integer 0, .text "", .null, .integer 1]⟩], 2⟩
  users := some ⟨[⟨1, [.text "Ann", .text "a@b", .text "", .text "", .text ""]⟩], 1⟩
  todos := some ⟨[⟨1, [.text "Milk", .null, .integer 0, .integer 1, .text "", .text ""]⟩], 1⟩
  indexes := []

/-- The step to the second version creates its index and writes its version before it fails on the
history, and nothing of that stays. -/
theorem migrate_steppedBefore :
    ((of steppedBefore).migrate Crypto.sha256Hex 5).1 =
        .error (.conflict "UNIQUE constraint failed: schema_migrations.version") ∧
      ((of steppedBefore).migrate Crypto.sha256Hex 5).2 = of steppedBefore ∧
      ((of steppedBefore).migrate Crypto.sha256Hex 5).2.database.todos = steppedBefore.todos := by
  have fails : ((of steppedBefore).migrate Crypto.sha256Hex 5).1 =
      .error (.conflict "UNIQUE constraint failed: schema_migrations.version") := rfl
  obtain ⟨nothing, kept⟩ := migrations_all_or_nothing Crypto.sha256Hex 5 (of steppedBefore)
  exact ⟨fails, nothing _ fails, kept .todos (by decide) _ rfl⟩

end Pool

end TodoServer.Storage
