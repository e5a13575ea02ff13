import TodoServer.Proofs.Storage.Statements
import TodoServer.Proofs.Store.Reachable
import TodoServer.Proofs.Store.View

/-!
# Batches of new todos

A batch of new todos stores what the todos would store one after the other, as long as ids are left,
and otherwise nothing at all. The one difference to todos in turn shows where the ids run out: in
turn the first of them are stored, in a batch none is.
-/

namespace TodoServer

open Storage

/-- Whether the title of a new todo passes the check of its table. -/
def NewTodo.IsTitled (new : NewTodo) : Prop :=
  1 ≤ (Text.untilNul new.title).length

namespace Storage.Database

/-- The last key that a table issued. -/
def lastKeyOf (db : Database) (id : TableId) : Int :=
  (db.table? id).elim 0 Table.lastKey

/-- The database with new todos of a user behind the others. -/
def withTodos (db : Database) (userId : Int) (time : String) (new : List NewTodo) : Database :=
  db.setTable .todos
    ⟨db.rowsOf .todos ++
        (Store.newTodos userId time (db.lastKeyOf .todos) new).map Todo.row,
      db.lastKeyOf .todos + new.length⟩

/-- Whether the table of todos has an id left for each of some new ones. -/
def HasIdsFor (db : Database) (new : List NewTodo) : Prop :=
  db.lastKeyOf .todos + new.length ≤ keyLimit

end Storage.Database

/-- Creates todos one after the other until one fails, and reports the last id. -/
def Todos.insertInTurn {σ : Type} (r : Runner σ) (now : Instant) (userId : Int) :
    Int → List NewTodo → σ → Except ServiceError Int × σ
  | last, [], state => (.ok last, state)
  | _, first :: rest, state =>
    match insert r now userId first state with
    | (.ok id, state) => insertInTurn r now userId id rest state
    | (.error e, state) => (.error e, state)

namespace Store

variable {s s' : Store} {userId : Int} {time : String}

/-! ## New todos on a store -/

/-- The store with new todos of a user behind the others. -/
def withTodos (s : Store) (userId : Int) (time : String) (new : List NewTodo) : Store :=
  { s with
    todos := s.todos ++ newTodos userId time s.lastTodo new
    lastTodo := s.lastTodo + new.length }

theorem withTodos_cons (s : Store) (first : NewTodo) (others : List NewTodo) :
    s.withTodos userId time (first :: others) =
      (s.withTodos userId time [first]).withTodos userId time others := by
  simp only [withTodos, newTodos, List.append_assoc, List.singleton_append, List.length_cons,
    List.length_nil]
  congr 1
  omega

theorem fill_withTodos (rest : Database) (new : List NewTodo) :
    (s.withTodos userId time new).fill rest = (s.fill rest).withTodos userId time new := by
  simp only [fill, withTodos, List.map_append]
  rfl

theorem fault?_new (userId : Int) (time : String) (new : NewTodo) (id : Int) :
    Todo.fault? ⟨id, new.title, new.description, false, userId, time, time⟩ = none ↔
      new.IsTitled :=
  Todo.fault?_eq_none_iff _

theorem addTodo_eq_ok_iff {new : NewTodo} :
    s.addTodo userId time new = .ok s' ↔
      s.lastTodo + 1 ≤ Database.keyLimit ∧ new.IsTitled ∧ s' = s.withTodos userId time [new] := by
  have sound := checkTodo_eq_ok_iff.trans (fault?_new userId time new (s.lastTodo + 1))
  rw [addTodo]
  by_cases full : Database.keyLimit < s.lastTodo + 1
  · simp only [full, if_true, bind, Except.bind, reduceCtorEq, false_iff, not_and]
    omega
  · simp only [full, if_false, bind, Except.bind, Int.not_lt.1 full, true_and]
    rw [← sound]
    cases checkTodo ⟨s.lastTodo + 1, new.title, new.description, false, userId, time, time⟩ with
    | error e => simp
    | ok _ => simp [withTodos, newTodos, eq_comm]

/-- A todo is refused because there is no id for it, or because of its title. -/
theorem addTodo_eq_error {new : NewTodo} {e : StorageError}
    (refused : s.addTodo userId time new = .error e) :
    (Database.keyLimit < s.lastTodo + 1 ∧ e = idsExhausted) ∨
      (¬new.IsTitled ∧ ∃ check, e = checkFailed check) := by
  rw [addTodo] at refused
  split at refused
  · next full =>
    cases refused
    exact .inl ⟨full, rfl⟩
  · refine .inr ?_
    rw [← fault?_new userId time new (s.lastTodo + 1)]
    simp only [checkTodo] at refused
    cases fault : Todo.fault? ⟨s.lastTodo + 1, new.title, new.description, false, userId, time,
        time⟩ with
    | none =>
      rw [fault] at refused
      cases refused
    | some check =>
      rw [fault] at refused
      cases refused
      exact ⟨Option.some_ne_none check, check, rfl⟩

theorem foldlM_addTodo_eq_ok_iff {new : List NewTodo} :
    new.foldlM (fun s new => s.addTodo userId time new) s = .ok s' ↔
      (new ≠ [] → s.lastTodo + new.length ≤ Database.keyLimit) ∧ (∀ t ∈ new, t.IsTitled) ∧
        s' = s.withTodos userId time new := by
  induction new generalizing s with
  | nil => simp [withTodos, newTodos, pure, Except.pure, eq_comm]
  | cons first others ih =>
    -- Ids for all of them are an id for the first one and ids for the others behind it.
    have room : s.lastTodo + 1 ≤ Database.keyLimit ∧
          (others ≠ [] → s.lastTodo + 1 + others.length ≤ Database.keyLimit) ↔
        (first :: others ≠ [] → s.lastTodo + (first :: others).length ≤ Database.keyLimit) := by
      cases others <;> simp
      omega
    rw [List.foldlM_cons, bind_eq_ok_iff, ← room, List.forall_mem_cons, withTodos_cons]
    constructor
    · rintro ⟨mid, one, later⟩
      obtain ⟨here, titled, rfl⟩ := addTodo_eq_ok_iff.1 one
      obtain ⟨there, others, rfl⟩ := ih.1 later
      exact ⟨⟨here, there⟩, ⟨titled, others⟩, rfl⟩
    · rintro ⟨⟨here, there⟩, ⟨titled, others⟩, rfl⟩
      exact ⟨_, addTodo_eq_ok_iff.2 ⟨here, titled, rfl⟩, ih.2 ⟨there, others, rfl⟩⟩

theorem foldlM_addTodo_eq_error {new : List NewTodo} {e : StorageError}
    (refused : new.foldlM (fun s new => s.addTodo userId time new) s = .error e) :
    (Database.keyLimit < s.lastTodo + new.length ∧ e = idsExhausted) ∨
      (¬(∀ t ∈ new, t.IsTitled) ∧ ∃ check, e = checkFailed check) := by
  induction new generalizing s with
  | nil => cases refused
  | cons first others ih =>
    rw [List.foldlM_cons] at refused
    rw [List.length_cons, List.forall_mem_cons]
    cases one : s.addTodo userId time first with
    | error e' =>
      rw [one] at refused
      cases refused
      rcases addTodo_eq_error one with ⟨full, exhausted⟩ | ⟨untitled, failed⟩
      · exact .inl ⟨by omega, exhausted⟩
      · exact .inr ⟨fun all => untitled all.1, failed⟩
    | ok mid =>
      rw [one] at refused
      obtain ⟨-, -, rfl⟩ := addTodo_eq_ok_iff.1 one
      rcases ih refused with ⟨full, exhausted⟩ | ⟨untitled, failed⟩
      · refine .inl ⟨?_, exhausted⟩
        simp only [withTodos, List.length_singleton] at full
        omega
      · exact .inr ⟨fun all => untitled all.2, failed⟩

/-- Todos are stored when there are ids for them and nothing is wrong with the titles or the
owner. -/
theorem addTodos_eq_ok_iff {new : List NewTodo} {x : Int × Store} :
    s.addTodos userId time new = .ok x ↔
      (new ≠ [] → s.lastTodo + new.length ≤ Database.keyLimit) ∧ (∀ t ∈ new, t.IsTitled) ∧
        s.hasUser userId = true ∧
        x = (s.lastTodo + new.length, s.withTodos userId time new) := by
  rw [addTodos, bind_eq_ok_iff]
  constructor
  · rintro ⟨final, all, done⟩
    obtain ⟨room, titled, rfl⟩ := foldlM_addTodo_eq_ok_iff.1 all
    split at done
    · next owner =>
      cases done
      exact ⟨room, titled, owner, rfl⟩
    · cases done
  · rintro ⟨room, titled, owner, rfl⟩
    refine ⟨_, foldlM_addTodo_eq_ok_iff.2 ⟨room, titled, rfl⟩, ?_⟩
    have kept : (s.withTodos userId time new).hasUser userId = true := owner
    rw [if_pos kept]
    rfl

theorem addTodos_singleton (time : String) {new : NewTodo}
    (room : s.lastTodo + 1 ≤ Database.keyLimit) (titled : new.IsTitled)
    (owner : s.hasUser userId = true) :
    s.addTodos userId time [new] = .ok (s.lastTodo + 1, s.withTodos userId time [new]) :=
  addTodos_eq_ok_iff.2 ⟨fun _ => room, List.forall_mem_singleton.2 titled, owner, rfl⟩

/-- Todos are refused because there are not enough ids, or for a title or the owner. -/
theorem addTodos_eq_error {new : List NewTodo} {e : StorageError}
    (refused : s.addTodos userId time new = .error e) :
    (Database.keyLimit < s.lastTodo + new.length ∧ e = idsExhausted) ∨
      (¬((∀ t ∈ new, t.IsTitled) ∧ s.hasUser userId = true) ∧ ∃ detail, e = .conflict detail) := by
  rw [addTodos] at refused
  cases all : new.foldlM (fun s new => s.addTodo userId time new) s with
  | error e' =>
    rw [all] at refused
    cases refused
    rcases foldlM_addTodo_eq_error all with exhausted | ⟨untitled, check, failed⟩
    · exact .inl exhausted
    · exact .inr ⟨fun sound => untitled sound.1, _, failed⟩
  | ok final =>
    obtain ⟨-, -, rfl⟩ := foldlM_addTodo_eq_ok_iff.1 all
    simp only [all, bind, Except.bind] at refused
    split at refused
    · cases refused
    · next missing =>
      cases refused
      exact .inr ⟨fun sound => missing sound.2, _, rfl⟩

end Store

/-! ## Batches and todos in turn -/

namespace Todos

variable {s : Store} {rest : Database}

/-- A write that is allowed is answered with its result. -/
theorem settle_of_addTodos {userId : Int} {time : String} {new : List NewTodo} {x : Int × Store}
    (added : s.addTodos userId time new = .ok x) :
    s.settle (s.addTodos userId time new) = (.ok x.1, x.2) := by
  rw [added]
  rfl

/-- In turn, titled todos of a user are stored while there are ids for them. -/
theorem insertInTurn_pool (valid : s.Valid) (now : Instant) {userId : Int} (last : Int)
    {new : List NewTodo} (some : new ≠ [])
    (room : s.lastTodo + new.length ≤ Database.keyLimit) (titled : ∀ t ∈ new, t.IsTitled)
    (owner : s.hasUser userId = true) :
    insertInTurn Pool.runner now userId last new (s.pool rest) =
      (.ok (s.lastTodo + new.length), (s.withTodos userId now.text new).pool rest) := by
  induction new generalizing s last with
  | nil => exact absurd rfl some
  | cons first others ih =>
    rw [List.length_cons] at room
    have one := Store.addTodos_singleton now.text (by omega) (titled first List.mem_cons_self) owner
    have here : insert Pool.runner now userId first (s.pool rest) = _ :=
      insert_pool valid now userId first
    rw [settle_of_addTodos one] at here
    rw [insertInTurn, here]
    have stored := valid.change (.of_addTodos valid one)
    cases others with
    | nil => rfl
    | cons second others =>
      have later := ih (s := s.withTodos userId now.text [first]) stored (s.lastTodo + 1)
        (List.cons_ne_nil _ _)
        (by simp only [Store.withTodos, List.length_singleton]; omega)
        (fun t mem => titled t (List.mem_cons_of_mem _ mem)) owner
      have counted : (s.withTodos userId now.text [first]).lastTodo + (second :: others).length =
          s.lastTodo + (first :: second :: others).length := by
        simp only [Store.withTodos, List.length_cons, List.length_nil]
        omega
      rw [counted, ← Store.withTodos_cons] at later
      exact later

end Todos

/-- What a batch of new todos of a user comes to on a database. -/
structure Todos.InsertsTogether (db : Database) (now : Instant) (userId : Int)
    (new : List NewTodo) : Prop where
  /-- Titled todos of a user with ids left for them are stored as they would be in turn, behind the
  other todos and with the ids after the last one. The id of the last one is reported. -/
  stores : new ≠ [] → userId ∈ db.keysOf .users → (∀ t ∈ new, t.IsTitled) → db.HasIdsFor new →
    insertMany Pool.runner now userId new (.of db) =
        (.ok (db.lastKeyOf .todos + new.length), .of (db.withTodos userId now.text new)) ∧
      insertInTurn Pool.runner now userId 0 new (.of db) =
        insertMany Pool.runner now userId new (.of db)
  /-- Without todos no statement is issued, whether or not the user exists. -/
  skips : new = [] → ∀ {σ : Type} (r : Runner σ) (state : σ),
    insertMany r now userId new state = (.ok 0, state)
  /-- Otherwise nothing changes. What is reported is a conflict if there are ids for all todos, and
  that there are none if nothing else is wrong. -/
  refuses : new ≠ [] →
    ¬(userId ∈ db.keysOf .users ∧ (∀ t ∈ new, t.IsTitled) ∧ db.HasIdsFor new) →
    ∃ e, insertMany Pool.runner now userId new (.of db) = (.error (.query (.storage e)), .of db) ∧
      (db.HasIdsFor new → ∃ detail, e = .conflict detail) ∧
      (userId ∈ db.keysOf .users → (∀ t ∈ new, t.IsTitled) → e = Store.idsExhausted)

theorem Todos.insertsTogether {s : Store} (valid : s.Valid) (rest : Database) (now : Instant)
    (userId : Int) {new : List NewTodo} (few : 6 * new.length ≤ Pool.valueLimit) :
    InsertsTogether (s.fill rest) now userId new := by
  have user : userId ∈ (s.fill rest).keysOf .users ↔ s.hasUser userId = true := by
    rw [Store.keysOf_users, Store.hasUser_iff]
  have batch (some : new ≠ []) : Todos.insertMany Pool.runner now userId new (s.pool rest) = _ :=
    Todos.insertMany_pool valid now userId some few
  refine ⟨?_, ?_, ?_⟩
  · intro some owner titled room
    rw [user] at owner
    have added : s.addTodos userId now.text new = .ok _ :=
      Store.addTodos_eq_ok_iff.2 ⟨fun _ => room, titled, owner, rfl⟩
    have together := batch some
    rw [Todos.settle_of_addTodos added, Store.pooled, Store.pool, Store.pool,
      Store.fill_withTodos] at together
    have turns : Todos.insertInTurn Pool.runner now userId 0 new (s.pool rest) = _ :=
      Todos.insertInTurn_pool valid now 0 some room titled owner
    rw [Store.pool, Store.pool, Store.fill_withTodos] at turns
    exact ⟨together, turns.trans together.symm⟩
  · rintro rfl σ r state
    rfl
  · intro some wrong
    have together := batch some
    cases written : s.addTodos userId now.text new with
    | ok x =>
      obtain ⟨room, titled, owner, -⟩ := Store.addTodos_eq_ok_iff.1 written
      exact absurd ⟨user.2 owner, titled, room some⟩ wrong
    | error e =>
      rw [written] at together
      refine ⟨e, together, ?_, ?_⟩
      all_goals rcases Store.addTodos_eq_error written with ⟨full, exhausted⟩ | ⟨faulty, conflict⟩
      · exact fun room => absurd room (Int.not_le.2 full)
      · exact fun _ => conflict
      · exact fun _ _ => exhausted
      · exact fun owner titled => absurd ⟨titled, user.1 owner⟩ faulty

/-- **A batch of new todos is stored as a whole.** On a reachable database a batch stores what its
todos would store one after the other, or it fails and changes nothing. -/
theorem batch_stored_as_a_whole {db : Database} (reachable : Reachable db) (now : Instant)
    (userId : Int) {new : List NewTodo} (few : 6 * new.length ≤ Pool.valueLimit) :
    Todos.InsertsTogether db now userId new := by
  obtain ⟨s, rest, valid, rfl⟩ := reachable.filled
  exact Todos.insertsTogether valid rest now userId few

/-- Two todos of Ann's go in together, and two of nobody's do not. -/
theorem batches_in_sampleDatabase :
    Reachable (sampleDatabase "Bread") ∧ 6 * 2 ≤ Pool.valueLimit ∧
      Todos.insertMany Pool.runner ⟨0⟩ 1 [⟨"Tea", none⟩, ⟨"Jam", some "plum"⟩]
          (.of (sampleDatabase "Bread")) =
        (.ok 5, .of ((sampleDatabase "Bread").withTodos 1 (Instant.text ⟨0⟩)
          [⟨"Tea", none⟩, ⟨"Jam", some "plum"⟩])) ∧
      ∃ detail, Todos.insertMany Pool.runner ⟨0⟩ 9 [⟨"Tea", none⟩, ⟨"Jam", some "plum"⟩]
          (.of (sampleDatabase "Bread")) =
        (.error (.query (.storage (.conflict detail))), .of (sampleDatabase "Bread")) := by
  have reachable : Reachable (sampleDatabase "Bread") :=
    reachable_sampleDatabase (by decide +kernel)
  have few : 6 * [(⟨"Tea", none⟩ : NewTodo), ⟨"Jam", some "plum"⟩].length ≤ Pool.valueLimit := by
    decide
  have room : (sampleDatabase "Bread").HasIdsFor [⟨"Tea", none⟩, ⟨"Jam", some "plum"⟩] := by
    exact (by decide : (3 : Int) + (2 : Nat) ≤ Database.keyLimit)
  have titled : ∀ t ∈ [(⟨"Tea", none⟩ : NewTodo), ⟨"Jam", some "plum"⟩], t.IsTitled := by
    simp only [NewTodo.IsTitled]
    decide +kernel
  have ann := batch_stored_as_a_whole reachable ⟨0⟩ 1 few
  have nobody := batch_stored_as_a_whole reachable ⟨0⟩ 9 few
  have users : (sampleDatabase "Bread").keysOf .users = [1, 2] := rfl
  obtain ⟨e, refused, conflict, -⟩ := nobody.refuses (List.cons_ne_nil _ _) fun sound => by
    have owner := sound.1
    rw [users] at owner
    exact absurd owner (by decide)
  obtain ⟨detail, rfl⟩ := conflict room
  refine ⟨reachable, few, ?_, detail, refused⟩
  exact (ann.stores (List.cons_ne_nil _ _) (by rw [users]; decide) titled room).1

/-! ## The last ids -/

/-- A todo that is inserted many times leaves the users as they are and takes an id each time. -/
theorem Operation.effects_replicate (moment : Moment) {userId : Int} {new : NewTodo}
    (titled : new.IsTitled) (count : Nat) {s : Store} (owner : s.hasUser userId = true)
    (room : s.lastTodo + count ≤ Database.keyLimit) :
    (effects moment (List.replicate count (insertTodo userId new)) s).users = s.users ∧
      (effects moment (List.replicate count (insertTodo userId new)) s).lastTodo =
        s.lastTodo + count := by
  induction count generalizing s with
  | zero => exact ⟨rfl, (Int.add_zero _).symm⟩
  | succ count ih =>
    rw [List.replicate_succ, effects_insertTodo (by omega) owner titled]
    obtain ⟨users, last⟩ := ih (s := { s with
        todos := s.todos ++ [⟨s.lastTodo + 1, new.title, new.description, false, userId,
          moment.now.text, moment.now.text⟩]
        lastTodo := s.lastTodo + 1 }) owner (by simp only; omega)
    refine ⟨users, last.trans ?_⟩
    simp only
    omega

/-- Every id of a todo up to the greatest key is the last one in some reachable database that has a
user. -/
theorem exists_reachable_lastTodo {last : Nat} (bound : (last : Int) ≤ Database.keyLimit) :
    ∃ (s : Store) (rest : Database), s.Valid ∧ Reachable (s.fill rest) ∧ s.hasUser 1 = true ∧
      s.lastTodo = last := by
  have titled : NewTodo.IsTitled ⟨"a", none⟩ := by
    simp only [NewTodo.IsTitled]
    decide +kernel
  have plain : ∀ operation ∈ Operation.insertUser "Ann" "ann@example.org" "secret" ::
      List.replicate last (.insertTodo 1 ⟨"a", none⟩), operation.toggled? = none := by
    intro operation mem
    rcases List.mem_cons.1 mem with rfl | later
    · rfl
    · rw [List.eq_of_mem_replicate later]
      rfl
  have user : Operation.effects .sample (.insertUser "Ann" "ann@example.org" "secret" ::
      List.replicate last (.insertTodo 1 ⟨"a", none⟩)) .empty = _ :=
    Operation.effects_insertUser (by decide) (by decide +kernel) (by decide +kernel)
      (by simp [Store.empty])
  obtain ⟨users, lastTodo⟩ := @Operation.effects_replicate .sample 1 _ titled last
    { Store.empty with
      users := [⟨1, "Ann", "ann@example.org", Auth.hashPassword "secret" Moment.sample.salt,
        Moment.sample.now.text, Moment.sample.now.text⟩]
      lastUser := 1 } rfl (by simpa [Store.empty] using bound)
  refine ⟨_, _, Operation.valid_effects .sample _ plain Store.valid_empty,
    Reachable.inOrder 0 .sample _ plain, ?_, ?_⟩
  · rw [user]
    exact (congrArg (fun users : List User => users.any (·.id = 1)) users).trans rfl
  · rw [user]
    exact lastTodo.trans (Int.zero_add _)

/-- With one id left, the first of two todos is stored in turn and neither of them in a batch. -/
theorem batch_differs_at_last_id :
    ¬∀ (db : Database), Reachable db → ∀ (now : Instant) (userId : Int) (new : List NewTodo),
      6 * new.length ≤ Pool.valueLimit → userId ∈ db.keysOf .users → (∀ t ∈ new, t.IsTitled) →
      (Todos.insertMany Pool.runner now userId new (.of db)).2 =
        (Todos.insertInTurn Pool.runner now userId 0 new (.of db)).2 := by
  intro same
  obtain ⟨s, rest, valid, reachable, owner, last⟩ :=
    exists_reachable_lastTodo (by decide : ((9223372036854775806 : Nat) : Int) ≤ Database.keyLimit)
  have user : 1 ∈ (s.fill rest).keysOf .users := by
    rw [Store.keysOf_users]
    exact Store.hasUser_iff.1 owner
  have titled : ∀ t ∈ [(⟨"a", none⟩ : NewTodo), ⟨"b", none⟩], t.IsTitled := by
    simp only [NewTodo.IsTitled]
    decide +kernel
  have full : ¬(s.fill rest).HasIdsFor [⟨"a", none⟩, ⟨"b", none⟩] := by
    have counted : (s.fill rest).lastKeyOf .todos = s.lastTodo := rfl
    rw [Database.HasIdsFor, counted, last]
    decide
  have few : 6 * [(⟨"a", none⟩ : NewTodo), ⟨"b", none⟩].length ≤ Pool.valueLimit := by decide
  have together := Todos.insertsTogether valid rest ⟨0⟩ 1 few
  obtain ⟨e, refused, -⟩ := together.refuses (List.cons_ne_nil _ _) fun sound => full sound.2.2
  -- In turn the first todo takes the last id, so that the second one alone is refused.
  have one := Store.addTodos_singleton (Instant.text ⟨0⟩) (by rw [last]; decide)
    (titled _ List.mem_cons_self) owner
  have first : Todos.insert Pool.runner ⟨0⟩ 1 ⟨"a", none⟩ (s.pool rest) = _ :=
    Todos.insert_pool valid ⟨0⟩ 1 ⟨"a", none⟩
  have second : Todos.insert Pool.runner ⟨0⟩ 1 ⟨"b", none⟩
      ((s.withTodos 1 (Instant.text ⟨0⟩) [⟨"a", none⟩]).pool rest) = _ :=
    Todos.insert_pool (valid.change (.of_addTodos valid one)) ⟨0⟩ 1 ⟨"b", none⟩
  rw [Todos.settle_of_addTodos one] at first
  cases written : (s.withTodos 1 (Instant.text ⟨0⟩) [⟨"a", none⟩]).addTodos 1 (Instant.text ⟨0⟩)
      [⟨"b", none⟩] with
  | ok x =>
    have room := (Store.addTodos_eq_ok_iff.1 written).1 (List.cons_ne_nil _ _)
    simp only [Store.withTodos, last] at room
    exact absurd room (by decide)
  | error e' =>
    rw [written] at second
    have turns : Todos.insertInTurn Pool.runner ⟨0⟩ 1 0 [⟨"a", none⟩, ⟨"b", none⟩] (s.pool rest) =
        (.error (.query (.storage e')),
          (s.withTodos 1 (Instant.text ⟨0⟩) [⟨"a", none⟩]).pool rest) := by
      rw [Todos.insertInTurn, first]
      simp only [Store.pooled, Todos.insertInTurn, second]
      rfl
    have pools := same _ reachable ⟨0⟩ 1 _ few user titled
    rw [refused] at pools
    have stores := Store.pool_inj rest (pools.trans (congrArg Prod.snd turns))
    have counted := congrArg Store.lastTodo stores
    simp only [Store.withTodos, List.length_singleton] at counted
    omega

end TodoServer
