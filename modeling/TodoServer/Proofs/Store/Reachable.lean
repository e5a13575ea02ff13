import TodoServer.Proofs.Storage.Atomicity
import TodoServer.Proofs.Store.Run

/-!
# Reachable databases

A new database is filled by the empty store, and whatever callers do to it in whatever order leaves
a database that is filled by a valid store.
-/

namespace TodoServer

open Storage

namespace Storage.Migration

variable (now : Int) (checksum : Checksum)

/-- The row of the version that a new database gets. -/
def versionEntry : Row :=
  ⟨1, [.integer schemaVersion, .integer now, .text "Initial schema"]⟩

/-- The row of the history that a new database gets. -/
def historyRow : Row :=
  ⟨schemaVersion, [.text "initial_schema", .integer now, .text (checksum schemaText), .integer 0,
    .integer 1]⟩

/-- What a new database holds beside users and todos. -/
def surroundings : Database where
  versions := some ⟨[versionEntry now], 1⟩
  history := some ⟨[historyRow now checksum], schemaVersion⟩
  users := none
  todos := none
  indexes := IndexId.all

/-- A database with empty tables and all indexes. -/
def empty : Database :=
  ⟨some .empty, some .empty, some .empty, some .empty, IndexId.all⟩

/-- The same with the version recorded. -/
def versioned : Database :=
  { empty with versions := some ⟨[versionEntry now], 1⟩ }

/-- The version goes into a version table that is new. -/
theorem insert_version {db : Database} (new : db.versions = some .empty) :
    db.insert "schema_version" (.ofList [("id", .integer 1),
      ("version", .integer schemaVersion), ("applied_at", .integer now),
      ("description", .text "Initial schema")]) =
    .ok ({ db with versions := some ⟨[versionEntry now], 1⟩ }, ⟨some 1, 1⟩) := by
  have resolved : db.resolve "schema_version" = .ok (.versions, .empty) := by
    have named : TableId.named? "schema_version" = some .versions := rfl
    simp only [Database.resolve, named, Database.table?, new]
  have named : ["id", "version", "applied_at", "description"].mapM
      (Database.dataPosition .versions) = .ok [0, 1, 2, 3] := rfl
  have assembled : Database.assemble .versions .empty [0, 1, 2, 3] [.integer 1,
      .integer schemaVersion, .integer now, .text "Initial schema"] = .ok (versionEntry now) := rfl
  have added : Database.addRow .versions .empty (versionEntry now) =
      .ok ⟨[versionEntry now], 1⟩ := rfl
  change db.insertRows "schema_version" ["id", "version", "applied_at", "description"]
    [[.integer 1, .integer schemaVersion, .integer now, .text "Initial schema"]] = _
  rw [Database.insertRows_eq resolved named]
  simp only [TableId.schema, Database.addRows, bind, Except.bind, assembled, added]
  rfl

theorem insert_history :
    (versioned now).insert "schema_migrations"
      (historyEntry schemaVersion "initial_schema" (checksum schemaText) now) =
    .ok (Store.empty.fill (surroundings now checksum), ⟨some schemaVersion, 1⟩) := by
  have resolved : (versioned now).resolve "schema_migrations" = .ok (.history, .empty) := rfl
  have named : ["version", "name", "applied_at", "checksum", "execution_time_ms", "success"].mapM
      (Database.dataPosition .history) = .ok [0, 1, 2, 3, 4, 5] := rfl
  have assembled : Database.assemble .history .empty [0, 1, 2, 3, 4, 5] [.integer schemaVersion,
      .text "initial_schema", .integer now, .text (checksum schemaText), .integer 0,
      .integer 1] = .ok (historyRow now checksum) := rfl
  have added : Database.addRow .history .empty (historyRow now checksum) =
      .ok ⟨[historyRow now checksum], schemaVersion⟩ := rfl
  change (versioned now).insertRows "schema_migrations"
    ["version", "name", "applied_at", "checksum", "execution_time_ms", "success"]
    [[.integer schemaVersion, .text "initial_schema", .integer now, .text (checksum schemaText),
      .integer 0, .integer 1]] = _
  rw [Database.insertRows_eq resolved named]
  simp only [TableId.schema, Database.addRows, bind, Except.bind, assembled, added]
  rfl

/-- The schema of a new database leaves the tables of users and todos empty. -/
theorem run_blank :
    run checksum now .blank = .ok (Store.empty.fill (surroundings now checksum)) := by
  have tables : TableId.all.foldl Database.createTable .blank = { empty with indexes := [] } := rfl
  have indexes : IndexId.all.foldlM Database.createIndex { empty with indexes := [] } =
      .ok empty := rfl
  have recorded := insert_version now (rfl : empty.versions = some .empty)
  have stored : { empty with versions := some ⟨[versionEntry now], 1⟩ } = versioned now := rfl
  rw [stored] at recorded
  change initialSchema checksum now .blank = _
  simp only [initialSchema, tables, indexes, bind, Except.bind, recorded, insert_history]

end Storage.Migration

/-- A new database is filled by the empty store. -/
theorem Storage.Pool.fresh_eq (now : Int) :
    fresh now = Store.empty.pool (Migration.surroundings now Crypto.sha256Hex) := by
  have pool : opened now .blank =
      .ok (Store.empty.pool (Migration.surroundings now Crypto.sha256Hex)) := by
    rw [opened_eq, Migration.run_blank]
    rfl
  delta fresh
  rw [pool]

/-- What callers lead to from a new database, in whatever order they take turns. -/
def Reachable (db : Database) : Prop :=
  ∃ (now : Int) (operations : List Operation) (schedule : List (Nat × Moment)),
    ((Run.start (operations.map Task.ofOperation) (Pool.fresh now)).follow
      (Task.step Pool.runner) schedule).state = .of db

namespace Run

/-- A schedule on a new database is one on the empty store. -/
theorem follow_fresh (now : Int) (tasks : List Task) (schedule : List (Nat × Moment)) :
    (Run.start tasks (Pool.fresh now)).follow (Task.step Pool.runner) schedule =
      ((Run.start tasks Store.empty).follow Task.effect schedule).map
        (·.pool (Migration.surroundings now Crypto.sha256Hex)) := by
  rw [Pool.fresh_eq]
  exact follow_pool _ (Run.start tasks Store.empty) Store.valid_empty schedule

theorem follow_valid {run : Run Task Store} (valid : run.state.Valid)
    (schedule : List (Nat × Moment)) : (run.follow Task.effect schedule).state.Valid :=
  follow_induction schedule valid fun _ _ task moment _ valid =>
    Task.effect_valid valid moment task

end Run

/-- A reachable database is filled by a valid store. -/
theorem Reachable.filled {db : Database} (reachable : Reachable db) :
    ∃ (s : Store) (rest : Database), s.Valid ∧ db = s.fill rest := by
  obtain ⟨now, operations, schedule, reached⟩ := reachable
  rw [Run.follow_fresh] at reached
  exact ⟨_, _, Run.follow_valid Store.valid_empty schedule,
    (congrArg Pool.database reached).symm⟩

/-! ## One after the other -/

/-- What operations leave behind that are carried out one after the other. -/
def Operation.effects (moment : Moment) (operations : List Operation) (s : Store) : Store :=
  operations.foldl (fun s operation => (operation.effect moment s).2) s

theorem Run.follow_inOrder (moment : Moment) (operations : List Operation)
    (plain : ∀ operation ∈ operations, operation.toggled? = none) (s : Store) (gone : List Task)
    (turns : List (Turn Task Store)) :
    (Run.follow Task.effect ((List.range' gone.length operations.length).map (·, moment))
      ⟨gone ++ operations.map Task.ofOperation, s, turns⟩).state =
      Operation.effects moment operations s := by
  induction operations generalizing s gone turns with
  | nil => rfl
  | cons first others ih =>
    have single : Task.ofOperation first = .single first (plain first List.mem_cons_self) none := by
      have none := plain first List.mem_cons_self
      cases first <;> first | rfl | cases none
    have here : (gone ++ (first :: others).map Task.ofOperation)[gone.length]? =
        some (.single first (plain first List.mem_cons_self) none) := by
      rw [List.getElem?_append_right (Nat.le_refl _), Nat.sub_self, List.map_cons, single]
      rfl
    have next := ih (fun operation mem => plain operation (List.mem_cons_of_mem _ mem))
      (first.effect moment s).2
      (gone ++ [.single first (plain first List.mem_cons_self) (some (first.effect moment s).1)])
    rw [List.length_cons, List.range'_succ, List.map_cons, Run.follow, List.foldl_cons,
      Run.advance_of_some here]
    rw [List.map_cons, List.set_append_right _ _ (Nat.le_refl _), Nat.sub_self, List.set_cons_zero]
    rw [List.length_append, List.length_singleton] at next
    simp only [List.append_assoc, List.singleton_append] at next
    exact next _

/-- Operations that are carried out one after the other leave a valid store. -/
theorem Operation.valid_effects (moment : Moment) (operations : List Operation)
    (plain : ∀ operation ∈ operations, operation.toggled? = none) {s : Store} (valid : s.Valid) :
    (effects moment operations s).Valid := by
  rw [← Run.follow_inOrder moment operations plain s [] []]
  exact Run.follow_valid valid _

/-- Operations that are carried out one after the other on a new database lead to a reachable
one. -/
theorem Reachable.inOrder (now : Int) (moment : Moment) (operations : List Operation)
    (plain : ∀ operation ∈ operations, operation.toggled? = none) :
    Reachable ((Operation.effects moment operations .empty).fill
      (Migration.surroundings now Crypto.sha256Hex)) := by
  refine ⟨now, operations, (List.range' 0 operations.length).map (·, moment), ?_⟩
  have state := Run.follow_inOrder moment operations plain .empty [] []
  rw [Run.follow_fresh, ← state]
  rfl

/-! ## A reachable database -/

namespace Operation

variable {moment : Moment} {others : List Operation} {s : Store}

/-- A user that keeps all constraints is stored before the operations that follow. -/
theorem effects_insertUser {name email password : String} (room : s.lastUser < Database.keyLimit)
    (named : 1 ≤ (Text.untilNul name).length ∧ (Text.untilNul name).length ≤ 100)
    (addressed : 3 ≤ (Text.untilNul email).length) (free : ∀ u ∈ s.users, u.email ≠ email) :
    effects moment (insertUser name email password :: others) s =
      effects moment others { s with
        users := s.users ++ [⟨s.lastUser + 1, name, email,
          Auth.hashPassword password moment.salt, moment.now.text, moment.now.text⟩]
        lastUser := s.lastUser + 1 } := by
  have sound : User.fault? ⟨s.lastUser + 1, name, email, Auth.hashPassword password moment.salt,
      moment.now.text, moment.now.text⟩ = none := by
    simp only [User.fault?, named, addressed, and_self, not_true, if_false]
  have added := Store.addUser_of_checked room (Store.checkUser_eq_ok_iff.2 ⟨sound, free⟩)
  simp only [effects, List.foldl_cons, effect, shaped, Store.settle, Store.after, added]

/-- A todo that keeps all constraints is stored before the operations that follow. -/
theorem effects_insertTodo {userId : Int} {new : NewTodo} (room : s.lastTodo < Database.keyLimit)
    (owner : s.hasUser userId = true) (titled : 1 ≤ (Text.untilNul new.title).length) :
    effects moment (insertTodo userId new :: others) s =
      effects moment others { s with
        todos := s.todos ++ [⟨s.lastTodo + 1, new.title, new.description, false, userId,
          moment.now.text, moment.now.text⟩]
        lastTodo := s.lastTodo + 1 } := by
  have sound : Todo.fault? ⟨s.lastTodo + 1, new.title, new.description, false, userId,
      moment.now.text, moment.now.text⟩ = none := by
    simp only [Todo.fault?, titled, not_true, if_false]
  have added := Store.addTodos_of_checked room owner (Store.checkTodo_eq_ok_iff.2 sound)
  simp only [effects, List.foldl_cons, effect, shaped, Store.settle, Store.after, added]

end Operation

/-- A moment at the start of 1970. -/
def Moment.sample : Moment := ⟨⟨0⟩, [], ""⟩

/-- Two users and their todos. The title of the second todo is left open. -/
def sampleOperations (title : String) : List Operation :=
  [.insertUser "Ann" "ann@example.org" "secret", .insertUser "Bob" "bob@example.org" "secret",
    .insertTodo 1 ⟨"50% off", none⟩, .insertTodo 2 ⟨title, none⟩,
    .insertTodo 1 ⟨"Milk", some "two_litres"⟩]

/-- What these operations store. -/
def Store.sample (title : String) : Store :=
  let hash := Auth.hashPassword "secret" []
  let time := Moment.sample.now.text
  { users := [⟨1, "Ann", "ann@example.org", hash, time, time⟩,
      ⟨2, "Bob", "bob@example.org", hash, time, time⟩]
    todos := [⟨1, "50% off", none, false, 1, time, time⟩, ⟨2, title, none, false, 2, time, time⟩,
      ⟨3, "Milk", some "two_litres", false, 1, time, time⟩]
    lastUser := 2
    lastTodo := 3 }

theorem effects_sampleOperations {title : String} (titled : 1 ≤ (Text.untilNul title).length) :
    Operation.effects .sample (sampleOperations title) .empty = .sample title := by
  have seen : (Text.untilNul "Ann").length = 3 ∧ (Text.untilNul "Bob").length = 3 ∧
      (Text.untilNul "ann@example.org").length = 15 ∧
      (Text.untilNul "bob@example.org").length = 15 ∧
      (Text.untilNul "50% off").length = 7 ∧ (Text.untilNul "Milk").length = 4 := by decide +kernel
  rw [sampleOperations, Operation.effects_insertUser, Operation.effects_insertUser,
    Operation.effects_insertTodo, Operation.effects_insertTodo, Operation.effects_insertTodo]
  · rfl
  -- The constraints that each of the five has to meet.
  all_goals simp [Store.empty, Store.hasUser, Database.keyLimit, seen, titled]

/-- A new database in which these operations were carried out. -/
def sampleDatabase (title : String) : Database :=
  (Store.sample title).fill (Migration.surroundings 0 Crypto.sha256Hex)

theorem plain_sampleOperations (title : String) :
    ∀ operation ∈ sampleOperations title, operation.toggled? = none := by
  simp [sampleOperations, Operation.toggled?]

theorem Store.valid_sample {title : String} (titled : 1 ≤ (Text.untilNul title).length) :
    (sample title).Valid := by
  rw [← effects_sampleOperations titled]
  exact Operation.valid_effects .sample _ (plain_sampleOperations title) valid_empty

theorem reachable_sampleDatabase {title : String} (titled : 1 ≤ (Text.untilNul title).length) :
    Reachable (sampleDatabase title) := by
  have reachable :=
    Reachable.inOrder 0 .sample (sampleOperations title) (plain_sampleOperations title)
  rw [effects_sampleOperations titled] at reachable
  exact reachable

end TodoServer
