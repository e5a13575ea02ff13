import TodoServer.Service.Todo
import TodoServer.Storage.Pool

/-!
# Statements on any database

What statements are known to do whatever the tables hold: which tables they touch, which rows a
filter finds, and where rows are put.
-/

namespace TodoServer.Storage

/-- A computation succeeds when its first part does and the rest succeeds on its result. -/
theorem bind_eq_ok_iff {ε α β : Type} {x : Except ε α} {f : α → Except ε β} {b : β} :
    (x >>= f) = .ok b ↔ ∃ a, x = .ok a ∧ f a = .ok b := by
  cases x with
  | error e => simp [bind, Except.bind]
  | ok a => simp [bind, Except.bind]

namespace Database

/-- No two rows of a table have the same key. -/
def Keyed (db : Database) : Prop :=
  ∀ id t, db.table? id = some t → (t.rows.map Row.key).Nodup

variable {db db' : Database} {outcome : WriteOutcome}

theorem checkOwners_eq_ok_iff : db.checkOwners = .ok db' ↔ db.ownersExist = true ∧ db' = db := by
  rw [checkOwners]
  cases db.ownersExist <;> simp [eq_comm]

/-- A table that is put in place changes nothing else, and no todo is without its owner that was not
so before. -/
theorem putTable_eq_ok {id : TableId} {t : Table} (put : db.putTable id t = .ok db') :
    db' = db.setTable id t ∧ (db.ownersExist = true → db'.ownersExist = true) := by
  cases id with
  | versions | history =>
    cases put
    exact ⟨rfl, fun owned => owned⟩
  | users | todos =>
    obtain ⟨owned, rfl⟩ := checkOwners_eq_ok_iff.1 put
    exact ⟨rfl, fun _ => owned⟩

/-- A new row changes no table but its own. -/
theorem insert_eq_ok {table : String} {data : Record}
    (inserted : db.insert table data = .ok (db', outcome)) :
    ∃ id t t', db.resolve table = .ok (id, t) ∧ db' = db.setTable id t' := by
  obtain ⟨⟨id, t⟩, resolved, inserted⟩ := bind_eq_ok_iff.1 inserted
  obtain ⟨positions, _, inserted⟩ := bind_eq_ok_iff.1 inserted
  obtain ⟨⟨t', last⟩, _, inserted⟩ := bind_eq_ok_iff.1 inserted
  obtain ⟨final, checked, done⟩ := bind_eq_ok_iff.1 inserted
  cases done
  exact ⟨id, t, t', resolved, (putTable_eq_ok checked).1⟩

/-- A table that is resolved is the one of the name that is asked for. -/
theorem resolve_eq_ok_iff {table : String} {id : TableId} {t : Table} :
    db.resolve table = .ok (id, t) ↔ TableId.named? table = some id ∧ db.table? id = some t := by
  constructor
  · intro resolved
    rw [resolve] at resolved
    split at resolved
    · split at resolved <;> cases resolved
      exact ⟨‹_›, ‹_›⟩
    · cases resolved
  · rintro ⟨named, present⟩
    simp only [resolve, named, present]

@[simp] theorem table?_setTable_self (id : TableId) (t : Table) :
    (db.setTable id t).table? id = some t := by
  cases id <;> rfl

theorem table?_setTable_of_ne {id other : TableId} (different : other ≠ id) (t : Table) :
    (db.setTable id t).table? other = db.table? other := by
  cases id <;> cases other <;> first | rfl | exact absurd rfl different

theorem Keyed.setTable (keyed : db.Keyed) {id : TableId} {t : Table}
    (unique : (t.rows.map Row.key).Nodup) : (db.setTable id t).Keyed := by
  intro other t' present
  by_cases same : other = id
  · subst same
    rw [table?_setTable_self, Option.some_inj] at present
    exact present ▸ unique
  · rw [table?_setTable_of_ne same] at present
    exact keyed other t' present

/-! ## Rows that a filter finds -/

section

variable {value : Condition → Except StorageError Truth} {c : Condition} {nodes : List Node}

theorem truth_condition_eq_ok {found : Option Truth}
    (here : Node.truth value (.condition c) = .ok found) :
    ∃ truth, value c = .ok truth ∧ found = some truth := by
  rw [Node.truth] at here
  cases truth : value c with
  | error e =>
    rw [truth] at here
    cases here
  | ok truth' =>
    rw [truth] at here
    cases here
    exact ⟨truth', rfl, rfl⟩

theorem truthAll_ne_none (mem : .condition c ∈ nodes) :
    Node.truthAll value .and nodes ≠ .ok none := by
  induction nodes with
  | nil => cases mem
  | cons node rest ih =>
    intro nothing
    rw [Node.truthAll] at nothing
    obtain ⟨first, here, later⟩ := bind_eq_ok_iff.1 nothing
    cases first with
    | none =>
      rcases List.mem_cons.1 mem with rfl | mem
      · obtain ⟨_, _, none⟩ := truth_condition_eq_ok here
        cases none
      · exact ih mem later
    | some first =>
      simp only at later
      split at later
      · cases later
      · obtain ⟨others, _, final⟩ := bind_eq_ok_iff.1 later
        cases others <;> cases final

/-- Each condition among trees that hold together holds. -/
theorem truth_of_truthAll (mem : .condition c ∈ nodes)
    (all : Node.truthAll value .and nodes = .ok (some .yes)) : value c = .ok .yes := by
  induction nodes with
  | nil => cases mem
  | cons node rest ih =>
    rw [Node.truthAll] at all
    obtain ⟨first, here, later⟩ := bind_eq_ok_iff.1 all
    cases first with
    | none =>
      rcases List.mem_cons.1 mem with rfl | mem
      · obtain ⟨_, _, none⟩ := truth_condition_eq_ok here
        cases none
      · exact ih mem later
    | some first =>
      have head : first = .yes → .condition c = node → value c = .ok .yes := by
        rintro rfl rfl
        obtain ⟨truth, holds, same⟩ := truth_condition_eq_ok here
        rw [holds, ← Option.some_inj.1 same]
      simp only at later
      split at later
      · next decided =>
        cases later
        cases decided
      · obtain ⟨others, behind, final⟩ := bind_eq_ok_iff.1 later
        cases others with
        | none =>
          cases final
          rcases List.mem_cons.1 mem with same | mem
          · exact head rfl same
          · exact absurd behind (truthAll_ne_none mem)
        | some others =>
          -- Both halves of a conjunction that holds do.
          have both : first = .yes ∧ others = .yes := by
            cases first <;> cases others <;> first | exact ⟨rfl, rfl⟩ | cases final
          rcases List.mem_cons.1 mem with same | mem
          · exact head both.1 same
          · exact ih mem (both.2 ▸ behind)

/-- A filter that accepts lets all conditions among its trees hold. -/
theorem truth_of_accepts {filter : Filter} (mem : .condition c ∈ filter.nodes)
    (accepts : filter.accepts value = .ok true) : value c = .ok .yes := by
  rw [Filter.accepts] at accepts
  obtain ⟨truth, all, final⟩ := bind_eq_ok_iff.1 accepts
  cases truth with
  | none => exact absurd all (truthAll_ne_none mem)
  | some truth =>
    obtain rfl : truth = .yes := by
      cases truth <;> first | rfl | cases final
    exact truth_of_truthAll mem all

end

section

variable {schema : TableSchema} {filter : Filter} {rows found : List Row}

theorem accepted_cons_eq_ok {row : Row}
    (searched : accepted schema filter (row :: rows) = .ok found) :
    ∃ keep others, filter.accepts (conditionTruth schema row) = .ok keep ∧
      accepted schema filter rows = .ok others ∧
      found = if keep then row :: others else others := by
  rw [accepted] at searched
  obtain ⟨keep, accepts, searched⟩ := bind_eq_ok_iff.1 searched
  obtain ⟨others, rest, done⟩ := bind_eq_ok_iff.1 searched
  exact ⟨keep, others, accepts, rest, (Except.ok.inj done).symm⟩

/-- The rows that a filter accepts are there, and it accepts each of them. -/
theorem of_mem_accepted (searched : accepted schema filter rows = .ok found) :
    ∀ row ∈ found, row ∈ rows ∧ filter.accepts (conditionTruth schema row) = .ok true := by
  induction rows generalizing found with
  | nil =>
    cases searched
    simp
  | cons first rest ih =>
    obtain ⟨keep, others, accepts, later, rfl⟩ := accepted_cons_eq_ok searched
    intro row mem
    cases keep with
    | false =>
      obtain ⟨there, accepted⟩ := ih later row mem
      exact ⟨List.mem_cons_of_mem first there, accepted⟩
    | true =>
      rcases List.mem_cons.1 mem with rfl | mem
      · exact ⟨List.mem_cons_self, accepts⟩
      · obtain ⟨there, accepted⟩ := ih later row mem
        exact ⟨List.mem_cons_of_mem first there, accepted⟩

variable {c : Condition} {id : TableId} {t : Table}

/-- With a condition among its trees a filter visits rows in the order of keys. -/
theorem visitOrder_of_mem (mem : .condition c ∈ filter.nodes) (rows : List Row) :
    visitOrder id filter rows = rows := by
  have none : alternatives? id filter = none := by
    unfold alternatives?
    split
    · next nodes =>
      rw [nodes, List.mem_singleton] at mem
      cases mem
    · rfl
  rw [visitOrder, none]

/-- The rows that a filter finds are there, and each condition among its trees holds in them. -/
theorem of_mem_find (mem : .condition c ∈ filter.nodes) (searched : find id t filter = .ok found) :
    ∀ row ∈ found, row ∈ t.rows ∧ conditionTruth id.schema row c = .ok .yes := by
  obtain ⟨_, _, searched⟩ := bind_eq_ok_iff.1 searched
  rw [visitOrder_of_mem mem] at searched
  intro row inside
  obtain ⟨there, accepts⟩ := of_mem_accepted searched row inside
  exact ⟨there, truth_of_accepts mem accepts⟩

theorem visitOrder_subset (id : TableId) (filter : Filter) (rows : List Row) :
    visitOrder id filter rows ⊆ rows := by
  rw [visitOrder]
  split
  · exact List.Subset.refl rows
  · next alternatives _ =>
    refine List.foldlRecOn (motive := (· ⊆ rows)) alternatives _ (List.nil_subset rows) ?_
    intro seen held c _
    exact List.append_subset.2 ⟨held, List.filter_sublist.subset⟩

/-- What a filter finds are rows of the table. -/
theorem subset_of_find (searched : find id t filter = .ok found) : found ⊆ t.rows := by
  obtain ⟨_, _, accepts⟩ := bind_eq_ok_iff.1 searched
  exact fun row mem => visitOrder_subset id filter t.rows (of_mem_accepted accepts row mem).1

end

/-! ## Rows that are put into a table -/

theorem place_perm (row : Row) (rows : List Row) : (Table.place row rows).Perm (row :: rows) := by
  induction rows with
  | nil => exact .refl _
  | cons first rest ih =>
    rw [Table.place]
    split
    · exact .refl _
    · exact (ih.cons first).trans (.swap row first rest)

/-- A row that is put into a table leaves alone the order of those that are looked at. -/
theorem filter_place {p : Row → Bool} {row : Row} (passed : p row = false) (rows : List Row) :
    (Table.place row rows).filter p = rows.filter p := by
  induction rows with
  | nil => rw [Table.place, List.filter_cons_of_neg (by simp [passed])]
  | cons first rest ih =>
    rw [Table.place]
    split
    · rw [List.filter_cons_of_neg (by simp [passed])]
    · rw [List.filter_cons, List.filter_cons, ih]

/-- Records of one size are inserted as the rows of their values under the names of the first. -/
theorem insertAll_of_even {table : String} {first : Record} {others : List Record}
    (given : first.isEmpty = false) (even : ∀ r ∈ others, r.size = first.size) :
    db.insertAll table first others =
      db.insertRows table first.names ((first :: others).map Record.values) := by
  have none : others.any (·.size ≠ first.size) = false := by
    rw [List.any_eq_false]
    intro r mem
    simp [even r mem]
  rw [insertAll, given, if_neg Bool.false_ne_true, none, if_neg Bool.false_ne_true]

/-- New todos are inserted in one statement as their rows. -/
theorem insertAll_toRecord (db : Database) (table : String) (userId : Int) (time : String)
    (first : NewTodo) (others : List NewTodo) :
    db.insertAll table (first.toRecord userId time) (others.map (·.toRecord userId time)) =
      db.insertRows table
        ["title", "description", "completed", "user_id", "created_at", "updated_at"]
        ((first :: others).map fun t => (t.toRecord userId time).values) := by
  have even : ∀ r ∈ others.map (·.toRecord userId time),
      r.size = (first.toRecord userId time).size := by
    intro r mem
    obtain ⟨t, -, rfl⟩ := List.mem_map.1 mem
    rfl
  rw [insertAll_of_even rfl even, List.map_cons, List.map_cons, List.map_map]
  rfl

/-- A row that keeps the constraints has a key of its own. -/
theorem key_notMem_of_checkRow {schema : TableSchema} {others : List Row} {row : Row}
    (checked : checkRow schema others row = .ok ()) : row.key ∉ others.map Row.key := by
  intro used
  obtain ⟨other, mem, same⟩ := List.mem_map.1 used
  have taken : takenColumn? schema others row = some schema.key := by
    have found : others.any (fun r => r.key == row.key) = true :=
      List.any_eq_true.2 ⟨other, mem, beq_iff_eq.2 same⟩
    rw [takenColumn?, if_pos found]
  rw [checkRow, taken] at checked
  split at checked
  · cases checked
  · split at checked <;> cases checked

end Database

end TodoServer.Storage
