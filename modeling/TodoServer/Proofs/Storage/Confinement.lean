import TodoServer.Proofs.Service.Confinement
import TodoServer.Proofs.Storage.Statements
import TodoServer.Proofs.Store.Reachable
import TodoServer.Proofs.Store.View

/-!
# Statements confined to one user

On any database with unique keys and with an owner for each todo, a statement that is confined to a
user reads nothing but rows of that user, and whatever it writes leaves all other rows as they are.
-/

namespace TodoServer

open Storage

namespace Storage.Database

/-- Keys are unique and todos have owners. -/
structure Sound (db : Database) : Prop where
  keyed : db.Keyed
  owned : db.ownersExist = true

/-- The position of the column that says whose a row is. -/
def ownerColumn? : TableId → Option Nat
  | .users => some 0
  | .todos => some 4
  | _ => none

/-- Whether a row of a table is the account or a todo of a user. -/
def owns (userId : Int) (id : TableId) (row : Row) : Bool :=
  (ownerColumn? id).any fun position => row.cell position = .integer userId

/-- The rows of a table that do not belong to a user. -/
def others (db : Database) (userId : Int) (id : TableId) : List Row :=
  (db.rowsOf id).filter (!owns userId id ·)

/-- A table without the rows that do not belong to a user. -/
def ownPart (userId : Int) (id : TableId) (t : Table) : Table :=
  { t with rows := t.rows.filter (owns userId id) }

/-- A database in which all accounts and todos belong to one user. -/
def only (db : Database) (userId : Int) : Database :=
  { db with
    users := db.users.map (ownPart userId .users)
    todos := db.todos.map (ownPart userId .todos) }

/-- What does not belong to a user is as it was. -/
structure SparesOthers (userId : Int) (before after : Database) : Prop where
  rows : ∀ id, after.others userId id = before.others userId id
  /-- Ids of todos may have been issued. -/
  counters : ∀ id, id ≠ .todos →
    (after.table? id).map Table.lastKey = (before.table? id).map Table.lastKey
  indexes : after.indexes = before.indexes

namespace SparesOthers

variable {userId : Int} {db mid after : Database}

theorem refl (userId : Int) (db : Database) : db.SparesOthers userId db :=
  ⟨fun _ => rfl, fun _ _ => rfl, rfl⟩

theorem trans (first : db.SparesOthers userId mid) (second : mid.SparesOthers userId after) :
    db.SparesOthers userId after :=
  ⟨fun id => (second.rows id).trans (first.rows id),
    fun id other => (second.counters id other).trans (first.counters id other),
    second.indexes.trans first.indexes⟩

end SparesOthers

variable {db db' : Database} {userId : Int} {id : TableId} {t : Table} {filter : Filter}

/-! ## Rows of a user -/

theorem rowsOf_eq (present : db.table? id = some t) : db.rowsOf id = t.rows := by
  rw [rowsOf, present]
  rfl

/-- The owner of a todo is a user or left open. -/
theorem cell_of_hasOwner {users : Table} {row : Row} (owned : hasOwner users row = true) :
    row.cell 4 = .null ∨ ∃ n, row.cell 4 = .integer n ∧ n ∈ users.rows.map Row.key := by
  have cell : row.cell 4 = row.cells[ownerCell]?.getD .null := rfl
  rw [hasOwner] at owned
  split at owned
  · next n found =>
    obtain ⟨user, mem, same⟩ := List.any_eq_true.1 owned
    refine .inr ⟨n, ?_, List.mem_map.2 ⟨user, mem, eq_of_beq same⟩⟩
    rw [cell, found]
    rfl
  · next found =>
    left
    rw [cell, found]
    rfl
  · cases owned

theorem ownersExist_iff : db.ownersExist = true ↔ ∀ t, db.todos = some t → ∀ row ∈ t.rows,
    ∃ users, db.users = some users ∧ hasOwner users row = true := by
  rw [ownersExist]
  cases db.todos with
  | none => cases db.users <;> simp
  | some t =>
    cases db.users with
    | none =>
      simp only [List.isEmpty_iff, Option.some_inj, forall_eq', reduceCtorEq,
        false_and, exists_false]
      exact List.eq_nil_iff_forall_not_mem
    | some users => simp

/-- A number that equals another one in a condition is that number. -/
theorem eq_of_truth {schema : TableSchema} {row : Row} {field : String} {position : Nat} {n : Int}
    (named : Term.ofText? schema field = some (.column position))
    (integral : schema.affinityAt position = .integer) (cell : row.cell position = .integer n)
    (holds : conditionTruth schema row ⟨field, .eq, .integer userId⟩ = .ok .yes) : n = userId := by
  have present : (row.cell position).isNull = false := by rw [cell]; rfl
  have value : (Cell.ofScalar (.integer userId)).comparable .integer = .integer userId := rfl
  rw [conditionTruth_eq position named present rfl, cell, integral, value,
    Cell.integer_beq] at holds
  by_contra differ
  rw [decide_eq_false differ] at holds
  cases holds

theorem owns_of_id {row : Row}
    (holds : conditionTruth .users row ⟨"id", .eq, .integer userId⟩ = .ok .yes) :
    owns userId .users row = true := by
  have cell : row.cell 0 = .integer row.key := rfl
  have same := eq_of_truth rfl rfl cell holds
  exact decide_eq_true (same ▸ cell)

theorem owns_of_userId {users : Table} {row : Row} (owned : hasOwner users row = true)
    (holds : conditionTruth .todos row ⟨"user_id", .eq, .integer userId⟩ = .ok .yes) :
    owns userId .todos row = true := by
  rcases cell_of_hasOwner owned with vacant | ⟨n, cell, _⟩
  · have unknown : conditionTruth .todos row ⟨"user_id", .eq, .integer userId⟩ = .ok .unknown := by
      have named : Term.ofText? .todos "user_id" = some (.column 4) := rfl
      simp only [conditionTruth, named, compareTruth, termValue, vacant]
      rfl
    rw [unknown] at holds
    cases holds
  · have same := eq_of_truth rfl rfl cell holds
    exact decide_eq_true (same ▸ cell)

/-- The accounts that a filter finds which demands an id are those of that user. -/
theorem owns_of_find_users {found : List Row} (demands : filter.Demands "id" (.integer userId))
    (searched : find .users t filter = .ok found) :
    ∀ row ∈ found, row ∈ t.rows ∧ owns userId .users row = true := by
  intro row mem
  obtain ⟨there, holds⟩ := of_mem_find demands searched row mem
  exact ⟨there, owns_of_id holds⟩

/-- The todos that a filter finds which demands an owner are those of that user. -/
theorem owns_of_find_todos (sound : db.Sound) (present : db.todos = some t) {found : List Row}
    (demands : filter.Demands "user_id" (.integer userId))
    (searched : find .todos t filter = .ok found) :
    ∀ row ∈ found, row ∈ t.rows ∧ owns userId .todos row = true := by
  intro row mem
  obtain ⟨there, holds⟩ := of_mem_find demands searched row mem
  obtain ⟨_, _, owned⟩ := ownersExist_iff.1 sound.owned t present row there
  exact ⟨there, owns_of_userId owned holds⟩

/-! ## Reading -/

/-- Another table in the place of one that differs in rows of one user alone. -/
theorem spares_setTable {t' : Table} (present : db.table? id = some t)
    (rows : t'.rows.filter (!owns userId id ·) = t.rows.filter (!owns userId id ·))
    (counter : id ≠ .todos → t'.lastKey = t.lastKey) :
    db.SparesOthers userId (db.setTable id t') := by
  refine ⟨fun other => ?_, fun other kept => ?_, by cases id <;> rfl⟩
  · by_cases same : other = id
    · subst same
      rw [others, others, rowsOf_eq (table?_setTable_self other t'), rowsOf_eq present, rows]
    · rw [others, others, rowsOf, rowsOf, table?_setTable_of_ne same]
  · by_cases same : other = id
    · subst same
      rw [table?_setTable_self, present, Option.map_some, Option.map_some, counter kept]
    · rw [table?_setTable_of_ne same]

/-- What a write leaves behind that puts such a table in place and checks owners at its end. -/
theorem spares_of_checked (sound : db.Sound) (present : db.table? id = some t) (t' : Table)
    (unique : (t'.rows.map Row.key).Nodup)
    (rows : t'.rows.filter (!owns userId id ·) = t.rows.filter (!owns userId id ·))
    (counter : id ≠ .todos → t'.lastKey = t.lastKey)
    (checked : db.putTable id t' = .ok db') :
    db'.Sound ∧ db.SparesOthers userId db' := by
  obtain ⟨rfl, owned⟩ := putTable_eq_ok checked
  exact ⟨⟨sound.keyed.setTable unique, owned sound.owned⟩, spares_setTable present rows counter⟩

/-! ### Insertions -/

/-- The rows of new todos of a user. -/
theorem addRows_spares {new : List NewTodo} {time : String} {last last' : Int} {t t' : Table}
    (unique : (t.rows.map Row.key).Nodup)
    (added : addRows .todos [1, 2, 3, 4, 5, 6] t last
      (new.map fun todo => (todo.toRecord userId time).values) = .ok (t', last')) :
    (t'.rows.map Row.key).Nodup ∧
      t'.rows.filter (!owns userId .todos ·) = t.rows.filter (!owns userId .todos ·) := by
  induction new generalizing t last with
  | nil =>
    cases added
    exact ⟨unique, rfl⟩
  | cons first others ih =>
    rw [List.map_cons, addRows] at added
    obtain ⟨row, assembled, added⟩ := bind_eq_ok_iff.1 added
    obtain ⟨mid, one, added⟩ := bind_eq_ok_iff.1 added
    obtain ⟨_, checked, done⟩ := bind_eq_ok_iff.1 one
    cases done
    have own : owns userId .todos row = true := by
      have values : (first.toRecord userId time).values = [.text first.title,
        .ofText? first.description, .bool false, .integer userId, .text time, .text time] := rfl
      rw [values, assemble_todo] at assembled
      cases key : freshKey .todos t <;> rw [key] at assembled <;> cases assembled
      exact decide_eq_true rfl
    have fresh := key_notMem_of_checkRow checked
    have unique' : ((Table.place row t.rows).map Row.key).Nodup :=
      ((place_perm row t.rows).map Row.key).nodup_iff.2 (List.nodup_cons.2 ⟨fresh, unique⟩)
    obtain ⟨keys, rows⟩ := ih unique' added
    refine ⟨keys, rows.trans (filter_place ?_ t.rows)⟩
    rw [own]
    rfl

/-- New todos of a user. -/
theorem insertRows_spares {new : List NewTodo} {time : String} {outcome : WriteOutcome}
    (sound : db.Sound)
    (inserted : db.insertRows "todos"
      ["title", "description", "completed", "user_id", "created_at", "updated_at"]
      (new.map fun todo => (todo.toRecord userId time).values) = .ok (db', outcome)) :
    db'.Sound ∧ db.SparesOthers userId db' := by
  obtain ⟨⟨id, t⟩, resolved, inserted⟩ := bind_eq_ok_iff.1 inserted
  obtain ⟨named, present⟩ := resolve_eq_ok_iff.1 resolved
  cases named
  obtain ⟨positions, placed, inserted⟩ := bind_eq_ok_iff.1 inserted
  cases placed
  obtain ⟨⟨t', last⟩, added, inserted⟩ := bind_eq_ok_iff.1 inserted
  obtain ⟨final, checked, done⟩ := bind_eq_ok_iff.1 inserted
  cases done
  obtain ⟨unique, rows⟩ := addRows_spares (sound.keyed .todos t present) added
  exact spares_of_checked sound present t' unique rows (absurd rfl) checked

/-! ### Changes -/

theorem exists_of_mem_mapM {α β ε : Type} {f : α → Except ε β} {xs : List α} {ys : List β}
    (all : xs.mapM f = .ok ys) : ∀ y ∈ ys, ∃ x ∈ xs, f x = .ok y := by
  induction xs generalizing ys with
  | nil =>
    cases all
    simp
  | cons x rest ih =>
    rw [List.mapM_cons] at all
    obtain ⟨first, here, all⟩ := bind_eq_ok_iff.1 all
    obtain ⟨others, later, done⟩ := bind_eq_ok_iff.1 all
    cases done
    intro y mem
    rcases List.mem_cons.1 mem with rfl | mem
    · exact ⟨x, List.mem_cons_self, here⟩
    · obtain ⟨x', inside, found⟩ := ih later y mem
      exact ⟨x', List.mem_cons_of_mem x inside, found⟩

/-- Assignments to other columns keep the key and a cell. -/
theorem assignAll_keeps {schema : TableSchema} {assignments : List (Nat × Scalar)} {row row' : Row}
    (position : Nat) (apart : ∀ x ∈ assignments, x.1 ≠ 0 ∧ x.1 ≠ position)
    (assigned : assignAll schema assignments row = .ok row') :
    row'.key = row.key ∧ row'.cell position = row.cell position := by
  induction assignments generalizing row with
  | nil =>
    cases assigned
    exact ⟨rfl, rfl⟩
  | cons first rest ih =>
    obtain ⟨mid, one, assigned⟩ := bind_eq_ok_iff.1 assigned
    obtain ⟨key, cell⟩ := ih (fun x mem => apart x (List.mem_cons_of_mem first mem)) assigned
    obtain ⟨behind, other⟩ := apart first List.mem_cons_self
    obtain ⟨i, value⟩ := first
    cases i with
    | zero => exact absurd rfl behind
    | succ i =>
      cases one
      refine ⟨key, cell.trans ?_⟩
      cases position with
      | zero => rfl
      | succ j =>
        have different : i ≠ j := fun same => other (congrArg Nat.succ same)
        simp only [Row.cell, Row.setCell, List.getElem?_set_ne different]

/-- Assignments to other columns keep the key and the owner. -/
theorem assignAll_keeps_owner {assignments : List (Nat × Scalar)} {row row' : Row}
    (apart : ∀ x ∈ assignments, x.1 ≠ 0 ∧ ∀ owner ∈ ownerColumn? id, x.1 ≠ owner)
    (assigned : assignAll id.schema assignments row = .ok row') :
    row'.key = row.key ∧ owns userId id row' = owns userId id row := by
  have key := assignAll_keeps 0 (fun x mem => ⟨(apart x mem).1, (apart x mem).1⟩) assigned
  refine ⟨key.1, ?_⟩
  cases column : ownerColumn? id with
  | none => simp only [owns, column, Option.any_none]
  | some owner =>
    have cell := assignAll_keeps owner
      (fun x mem => ⟨(apart x mem).1, (apart x mem).2 owner column⟩) assigned
    simp only [owns, column, Option.any_some, cell.2]

/-- Rows that are chosen by their keys are those of the user whose rows were found. -/
theorem owns_of_key_mem {rows chosen : List Row} (unique : (rows.map Row.key).Nodup)
    (found : ∀ row ∈ chosen, row ∈ rows ∧ owns userId id row = true) {row : Row} (mem : row ∈ rows)
    (used : row.key ∈ chosen.map Row.key) : owns userId id row = true := by
  obtain ⟨other, picked, same⟩ := List.mem_map.1 used
  have one := List.inj_on_of_nodup_map unique (found other picked).1 mem same
  exact one ▸ (found other picked).2

/-- Changes of rows of a user that keep key and owner. -/
theorem changeRows_spares {schema : TableSchema} {assignments : List (Nat × Scalar)}
    {rows rows' chosen : List Row}
    (stays : ∀ row row', assignAll schema assignments row = .ok row' →
      row'.key = row.key ∧ owns userId id row' = owns userId id row)
    (all : ∀ row ∈ chosen, owns userId id row = true)
    (own : ∀ row ∈ rows, row.key ∈ chosen.map Row.key → owns userId id row = true)
    (changed : changeRows schema assignments rows chosen = .ok rows') :
    rows'.map Row.key = rows.map Row.key ∧
      rows'.filter (!owns userId id ·) = rows.filter (!owns userId id ·) := by
  induction chosen generalizing rows with
  | nil =>
    cases changed
    exact ⟨rfl, rfl⟩
  | cons first rest ih =>
    obtain ⟨new, assigned, changed⟩ := bind_eq_ok_iff.1 changed
    obtain ⟨_, _, changed⟩ := bind_eq_ok_iff.1 changed
    obtain ⟨key, owner⟩ := stays first new assigned
    rw [all first List.mem_cons_self] at owner
    rw [if_pos key] at changed
    let replaced (row : Row) : Row := if row.key = first.key then new else row
    have keyOf (row : Row) : (replaced row).key = row.key := by
      by_cases same : row.key = first.key
      · simp only [replaced, if_pos same, key, same]
      · simp only [replaced, if_neg same]
    have ownerOf : ∀ row ∈ rows, owns userId id (replaced row) = owns userId id row := by
      intro row mem
      by_cases same : row.key = first.key
      · have mine := own row mem (same ▸ List.mem_cons_self)
        simp only [replaced, if_pos same, owner, mine]
      · simp only [replaced, if_neg same]
    have own' : ∀ row ∈ rows.map replaced, row.key ∈ rest.map Row.key →
        owns userId id row = true := by
      intro row mem used
      obtain ⟨old, there, rfl⟩ := List.mem_map.1 mem
      rw [ownerOf old there]
      exact own old there (List.mem_cons_of_mem _ (keyOf old ▸ used))
    have foreign : ∀ row ∈ rows.filter (!owns userId id ·), replaced row = row := by
      intro row mem
      obtain ⟨there, other⟩ := List.mem_filter.1 mem
      refine if_neg fun same => ?_
      rw [own row there (same ▸ List.mem_cons_self)] at other
      cases other
    obtain ⟨keys, spared⟩ :=
      ih (fun row mem => all row (List.mem_cons_of_mem first mem)) own' changed
    refine ⟨?_, spared.trans ?_⟩
    · rw [keys, List.map_map]
      exact List.map_congr_left fun row _ => keyOf row
    · have same : rows.filter ((!owns userId id ·) ∘ replaced) = rows.filter (!owns userId id ·) :=
        List.filter_congr fun row mem => congrArg (!·) (ownerOf row mem)
      rw [List.filter_map, same, List.map_congr_left foreign, List.map_id']

/-- A change of rows that a filter finds, all of them of one user, in columns that stay away from
key and owner. -/
theorem update_spares {table : String} {data : Record} {outcome : WriteOutcome}
    {columns : List String}
    (sound : db.Sound) (named : TableId.named? table = some id)
    (apart : ∀ name ∈ columns, ∀ position, dataPosition id.schema name = .ok position →
      position ≠ 0 ∧ ∀ owner ∈ ownerColumn? id, position ≠ owner)
    (inside : data.names ⊆ columns)
    (own : ∀ t found, db.table? id = some t → find id t filter = .ok found →
      ∀ row ∈ found, row ∈ t.rows ∧ owns userId id row = true)
    (updated : db.update table data filter = .ok (db', outcome)) :
    db'.Sound ∧ db.SparesOthers userId db' := by
  obtain ⟨⟨id', t⟩, resolved, updated⟩ := bind_eq_ok_iff.1 updated
  obtain ⟨named', present⟩ := resolve_eq_ok_iff.1 resolved
  cases named.symm.trans named'
  obtain ⟨positions, placed, updated⟩ := bind_eq_ok_iff.1 updated
  obtain ⟨chosen, searched, updated⟩ := bind_eq_ok_iff.1 updated
  obtain ⟨rows, changed, updated⟩ := bind_eq_ok_iff.1 updated
  obtain ⟨final, checked, done⟩ := bind_eq_ok_iff.1 updated
  cases done
  have assigned : ∀ x ∈ positions.zip data.values,
      x.1 ≠ 0 ∧ ∀ owner ∈ ownerColumn? id, x.1 ≠ owner := by
    intro x mem
    obtain ⟨name, given, found⟩ := exists_of_mem_mapM placed x.1 (List.of_mem_zip mem).1
    exact apart name (inside given) x.1 found
  have found := own t chosen present searched
  have unique := sound.keyed id t present
  obtain ⟨keys, spared⟩ := changeRows_spares (fun _ _ => assignAll_keeps_owner assigned)
    (fun row mem => (found row mem).2) (fun _ mem => owns_of_key_mem unique found mem) changed
  rw [← keys] at unique
  exact spares_of_checked sound present { t with rows } unique spared (fun _ => rfl) checked

/-! ### Removals -/

/-- Rows that are removed by their keys, all of them of one user. -/
theorem filter_keys_spares {rows chosen : List Row} (unique : (rows.map Row.key).Nodup)
    (found : ∀ row ∈ chosen, row ∈ rows ∧ owns userId id row = true) :
    (rows.filter fun row => !chosen.any (·.key == row.key)).filter (!owns userId id ·) =
      rows.filter (!owns userId id ·) := by
  rw [List.filter_filter]
  refine List.filter_congr fun row mem => ?_
  cases mine : owns userId id row with
  | true => rfl
  | false =>
    have kept : chosen.any (·.key == row.key) = false := by
      rw [List.any_eq_false]
      intro other picked same
      have used := owns_of_key_mem unique found mem (List.mem_map.2 ⟨other, picked, eq_of_beq same⟩)
      exact Bool.false_ne_true (mine.symm.trans used)
    rw [kept]
    rfl

/-- Where all todos have owners, none is dropped. -/
theorem dropOrphans_of_ownersExist (owned : db.ownersExist = true) : db.dropOrphans = db := by
  rw [dropOrphans]
  split
  · next users todos present stored =>
    rw [ownersExist, present, stored] at owned
    rw [List.filter_eq_self.2 fun row mem => List.all_eq_true.1 owned row mem]
    exact congrArg (fun todos => { db with todos }) stored.symm
  · rfl

/-- A removal of todos that a filter finds, all of them of one user. -/
theorem delete_todos_spares {outcome : WriteOutcome} (sound : db.Sound)
    (demands : filter.Demands "user_id" (.integer userId))
    (deleted : db.delete "todos" filter = .ok (db', outcome)) :
    db'.Sound ∧ db.SparesOthers userId db' := by
  obtain ⟨⟨id, t⟩, resolved, deleted⟩ := bind_eq_ok_iff.1 deleted
  obtain ⟨named, present⟩ := resolve_eq_ok_iff.1 resolved
  cases named
  obtain ⟨chosen, searched, done⟩ := bind_eq_ok_iff.1 deleted
  have found := owns_of_find_todos sound present demands searched
  have unique := sound.keyed .todos t present
  let left : Table := { t with rows := t.rows.filter fun row => !chosen.any (·.key == row.key) }
  have owned : (db.setTable .todos left).ownersExist = true := by
    refine ownersExist_iff.2 fun t' stored row mem => ?_
    cases stored
    exact ownersExist_iff.1 sound.owned t present row (List.mem_filter.1 mem).1
  have final : db' = db.setTable .todos left := by
    cases done
    exact dropOrphans_of_ownersExist owned
  subst final
  exact ⟨⟨sound.keyed.setTable (unique.sublist (List.filter_sublist.map _)), owned⟩,
    spares_setTable present (filter_keys_spares unique found) (absurd rfl)⟩

/-- A todo keeps its owner when no account goes but that of another user. -/
theorem hasOwner_of_keys_filter {users : Table} {chosen : List Row} {row : Row}
    (owner : hasOwner users row = true) (foreign : owns userId .todos row = false)
    (gone : ∀ account ∈ chosen, owns userId .users account = true) :
    hasOwner { users with rows := users.rows.filter fun user => !chosen.any (·.key == user.key) }
      row = true := by
  rw [hasOwner] at owner ⊢
  split at owner
  · next n found =>
    obtain ⟨user, mem, same⟩ := List.any_eq_true.1 owner
    refine List.any_eq_true.2 ⟨user, List.mem_filter.2 ⟨mem, ?_⟩, same⟩
    rw [Bool.not_eq_true', List.any_eq_false]
    intro account picked keys
    have own : Cell.integer account.key = .integer userId := of_decide_eq_true (gone account picked)
    have cell : row.cell 4 = .integer n := by
      change row.cells[ownerCell]?.getD .null = .integer n
      rw [found]
      rfl
    have mine : row.cell 4 = .integer userId := by
      rw [cell, ← eq_of_beq same, ← eq_of_beq keys, own]
    exact of_decide_eq_false foreign mine
  · rfl
  · cases owner

/-- A removal of accounts that a filter finds, all of them of one user, with the todos of these. -/
theorem delete_users_spares {outcome : WriteOutcome} (sound : db.Sound)
    (demands : filter.Demands "id" (.integer userId))
    (deleted : db.delete "users" filter = .ok (db', outcome)) :
    db'.Sound ∧ db.SparesOthers userId db' := by
  obtain ⟨⟨id, t⟩, resolved, deleted⟩ := bind_eq_ok_iff.1 deleted
  obtain ⟨named, present⟩ := resolve_eq_ok_iff.1 resolved
  cases named
  obtain ⟨chosen, searched, done⟩ := bind_eq_ok_iff.1 deleted
  have found := owns_of_find_users demands searched
  have unique := sound.keyed .users t present
  let left : Table := { t with rows := t.rows.filter fun row => !chosen.any (·.key == row.key) }
  have keyed : (db.setTable .users left).Keyed :=
    sound.keyed.setTable (unique.sublist (List.filter_sublist.map _))
  have spared : db.SparesOthers userId (db.setTable .users left) :=
    spares_setTable present (filter_keys_spares unique found) fun _ => rfl
  have final : db' = (db.setTable .users left).dropOrphans := by
    cases done
    rfl
  cases stored : db.todos with
  | none =>
    have owned : (db.setTable .users left).ownersExist = true := by
      refine ownersExist_iff.2 fun t' present' => ?_
      cases stored.symm.trans present'
    rw [dropOrphans_of_ownersExist owned] at final
    subst final
    exact ⟨⟨keyed, owned⟩, spared⟩
  | some todos =>
    let kept : Table := { todos with rows := todos.rows.filter (hasOwner left) }
    have cascade : (db.setTable .users left).dropOrphans =
        (db.setTable .users left).setTable .todos kept := by
      have stored' : (db.setTable .users left).todos = some todos := stored
      rw [dropOrphans, stored']
      rfl
    rw [cascade] at final
    subst final
    refine ⟨⟨keyed.setTable ?_, ?_⟩, spared.trans (spares_setTable stored ?_ (absurd rfl))⟩
    · exact (sound.keyed .todos todos stored).sublist (List.filter_sublist.map _)
    · refine ownersExist_iff.2 fun t' present' row mem => ?_
      cases present'
      exact ⟨left, rfl, (List.mem_filter.1 mem).2⟩
    -- A todo of somebody else keeps its owner.
    · rw [List.filter_filter]
      refine List.filter_congr fun row mem => ?_
      obtain ⟨users, present', owner⟩ := ownersExist_iff.1 sound.owned todos stored row mem
      cases present.symm.trans present'
      cases foreign : owns userId .todos row with
      | true => rfl
      | false =>
        exact hasOwner_of_keys_filter owner foreign fun account mem => (found account mem).2

/-! ### All confined statements -/

/-- The columns of an account that change hold no key. -/
theorem position_users {name : String} (inside : name ∈ User.openColumns) {position : Nat}
    (found : dataPosition .users name = .ok position) :
    position ≠ 0 ∧ ∀ owner ∈ ownerColumn? .users, position ≠ owner := by
  have columns : dataPosition .users "name" = .ok 1 ∧ dataPosition .users "email" = .ok 2 ∧
      dataPosition .users "password_hash" = .ok 3 ∧ dataPosition .users "updated_at" = .ok 5 :=
    ⟨rfl, rfl, rfl, rfl⟩
  simp only [User.openColumns, List.mem_cons, List.not_mem_nil, or_false] at inside
  rcases inside with rfl | rfl | rfl | rfl <;> simp only [columns, Except.ok.injEq] at found <;>
    subst found <;> decide

/-- The columns of a todo that change hold neither the key nor the owner. -/
theorem position_todos {name : String} (inside : name ∈ Todo.openColumns) {position : Nat}
    (found : dataPosition .todos name = .ok position) :
    position ≠ 0 ∧ ∀ owner ∈ ownerColumn? .todos, position ≠ owner := by
  have columns : dataPosition .todos "title" = .ok 1 ∧ dataPosition .todos "description" = .ok 2 ∧
      dataPosition .todos "completed" = .ok 3 ∧ dataPosition .todos "updated_at" = .ok 6 :=
    ⟨rfl, rfl, rfl, rfl⟩
  simp only [Todo.openColumns, List.mem_cons, List.not_mem_nil, or_false] at inside
  rcases inside with rfl | rfl | rfl | rfl <;> simp only [columns, Except.ok.injEq] at found <;>
    subst found <;> decide

/-- A confined statement leaves alone what belongs to others. -/
theorem write_spares {command : Command} (confined : command.ConfinedTo userId) (sound : db.Sound)
    {outcome : WriteOutcome} (done : db.write command = .ok (db', outcome)) :
    db'.Sound ∧ db.SparesOthers userId db' := by
  cases confined with
  | readAccount | readTodos =>
    cases done
    exact ⟨sound, .refl userId db⟩
  | addTodo todo time =>
    have one : db.insertRows "todos"
        ["title", "description", "completed", "user_id", "created_at", "updated_at"]
        ([todo].map fun todo => (todo.toRecord userId time).values) = .ok (db', outcome) := done
    exact insertRows_spares sound one
  | addTodos first others time =>
    change db.insertAll "todos" _ _ = _ at done
    rw [insertAll_toRecord] at done
    exact insertRows_spares sound done
  | changeAccount inside demands =>
    have named : TableId.named? User.table = some .users := rfl
    exact update_spares sound named (fun _ mem _ => position_users mem) inside
      (fun t found _ searched => owns_of_find_users demands searched) done
  | changeTodos inside demands =>
    have named : TableId.named? Todo.table = some .todos := rfl
    exact update_spares sound named (fun _ mem _ => position_todos mem) inside
      (fun t found present searched => owns_of_find_todos sound present demands searched) done
  | dropAccount demands => exact delete_users_spares sound demands done
  | dropTodos demands => exact delete_todos_spares sound demands done

end Storage.Database

/-- Statements confined to a user keep an open pool on a sound database that differs from an earlier
one in rows of that user alone. -/
theorem Storage.Pool.keeps_spares (userId : Int) (before : Database) :
    runner.Keeps userId fun p => p.database.Sound ∧ before.SparesOthers userId p.database := by
  refine ⟨fun s _ p held => held, fun s confined p held => ?_, fun s _ p held => held⟩
  change (execute p s).2.database.Sound ∧ before.SparesOthers userId (execute p s).2.database
  rw [execute]
  split
  · split
    · next database outcome done =>
      obtain ⟨_, _, done⟩ := bind_eq_ok_iff.1 done
      obtain ⟨sound, spared⟩ := Database.write_spares confined held.1 done
      exact ⟨sound, held.2.trans spared⟩
    · exact held
  · exact held

/-! ## Reachable databases -/

/-- A new database that is filled by a valid store is sound. -/
theorem Store.Valid.sound {s : Store} (valid : s.Valid) (now : Int)
    (checksum : Migration.Checksum) :
    (s.fill (Migration.surroundings now checksum)).Sound := by
  have single (row : Row) : ([row].map Row.key).Nodup := List.nodup_singleton _
  constructor
  case keyed =>
    intro id t present
    cases id <;> cases present
    case versions => exact single _
    case history => exact single _
    case users =>
      rw [List.map_map]
      exact valid.userIds.nodup
    case todos =>
      rw [List.map_map]
      exact valid.todoIds.nodup
  case owned =>
    rw [Database.ownersExist_iff]
    rintro t ⟨⟩ row mem
    obtain ⟨todo, held, rfl⟩ := List.mem_map.1 mem
    exact ⟨_, rfl, (Database.hasOwner_row todo).trans (valid.owners todo held)⟩

theorem Reachable.sound {db : Database} (reachable : Reachable db) : db.Sound := by
  obtain ⟨now, operations, schedule, reached⟩ := reachable
  rw [Run.follow_fresh] at reached
  have filled : _ = db := congrArg Pool.database reached
  rw [← filled]
  exact (Run.follow_valid Store.valid_empty schedule).sound now Crypto.sha256Hex

end TodoServer
