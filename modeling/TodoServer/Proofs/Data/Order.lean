import Mathlib.Data.List.Induction
import TodoServer.Proofs.Data.Record
import TodoServer.Proofs.Storage.Statements

/-!
# Records as maps in the order of insertion

Whatever sequence of fields is set and of entries is collected, the record that comes of it holds
each field once, in the order in which the fields are first set, with the value that is set last.
Only one record does so. Rows that are read are such records, also when columns have the same name.
-/

namespace TodoServer

namespace Record

/-! ## The map of some entries -/

/-- The value that is set last for a field. -/
def lastValue? (entries : List (String × Scalar)) (field : String) : Option Scalar :=
  (entries.findRev? (·.1 = field)).map (·.2)

/-- A field is first set before another one is. -/
def Precedes (entries : List (String × Scalar)) (field later : String) : Prop :=
  (entries.map (·.1)).idxOf field < (entries.map (·.1)).idxOf later

/-- A record is the map of some entries in the order of insertion. -/
structure IsMapOf (r : Record) (entries : List (String × Scalar)) : Prop where
  /-- No field occurs twice. -/
  distinct : r.names.Nodup
  /-- The fields are those that are set. -/
  present : ∀ field, field ∈ r.names ↔ field ∈ entries.map (·.1)
  /-- The fields come in the order in which they are first set. -/
  inOrder : r.names.Pairwise (Precedes entries)
  /-- There is a value for each field. -/
  paired : r.names.length = r.values.length
  /-- The value in the position of a field is the one that is set last. -/
  held : ∀ (i : Nat) (field : String), r.names[i]? = some field →
    r.values[i]? = lastValue? entries field
  /-- The value that is found for a field is the one that is set last. -/
  found : ∀ field, r.get? field = lastValue? entries field

theorem lastValue?_concat (entries : List (String × Scalar)) (field other : String)
    (value : Scalar) : lastValue? (entries ++ [(field, value)]) other =
      if other = field then some value else lastValue? entries other := by
  simp only [lastValue?, List.findRev?_eq_find?_reverse, List.reverse_append,
    List.reverse_singleton, List.singleton_append, List.find?_cons, eq_comm (a := field)]
  by_cases same : other = field <;> simp [same]

variable {r s : Record} {entries : List (String × Scalar)}

/-- Whatever else is set afterwards, the order in which fields are first set stays. -/
theorem Precedes.concat {field later : String} (before : Precedes entries field later)
    (entry : String × Scalar) : Precedes (entries ++ [entry]) field later := by
  have mem : field ∈ entries.map (·.1) :=
    List.idxOf_lt_length_iff.1 (Nat.lt_of_lt_of_le before List.idxOf_le_length)
  rw [Precedes, List.map_append, List.idxOf_append_of_mem mem, List.idxOf_append]
  split
  · exact before
  · exact Nat.lt_of_lt_of_le (List.idxOf_lt_length_of_mem mem) (Nat.le_add_left _ _)

/-- A field that is new comes behind all that have been set. -/
theorem precedes_concat {name field : String} (old : name ∈ entries.map (·.1))
    (new : field ∉ entries.map (·.1)) (value : Scalar) :
    Precedes (entries ++ [(field, value)]) name field := by
  rw [Precedes, List.map_append, List.idxOf_append_of_mem old, List.idxOf_append_of_notMem new]
  exact Nat.lt_of_lt_of_le (List.idxOf_lt_length_of_mem old) (Nat.le_add_right _ _)

theorem isMapOf_empty : empty.IsMapOf [] where
  distinct := List.nodup_nil
  present := fun _ => Iff.rfl
  inOrder := .nil
  paired := rfl
  held := nofun
  found := fun _ => rfl

theorem IsMapOf.pairwise_set (map : r.IsMapOf entries) (field : String) (value : Scalar) :
    (r.set field value).names.Pairwise (Precedes (entries ++ [(field, value)])) := by
  have kept : r.names.Pairwise (Precedes (entries ++ [(field, value)])) :=
    map.inOrder.imp fun before => before.concat (field, value)
  rw [names_set]
  split
  · exact kept
  · next absent =>
    have new : field ∉ entries.map (·.1) := fun mem => absent ((map.present field).2 mem)
    refine List.pairwise_append.2 ⟨kept, List.pairwise_singleton _ _, ?_⟩
    intro name mem last single
    rw [List.mem_singleton.1 single]
    exact precedes_concat ((map.present name).1 mem) new value

/-- Setting a field enters its value behind what has been set before. -/
theorem IsMapOf.set (map : r.IsMapOf entries) (field : String) (value : Scalar) :
    (r.set field value).IsMapOf (entries ++ [(field, value)]) := by
  have distinct := nodup_names_set map.distinct field value
  have found (other : String) :
      (r.set field value).get? other = lastValue? (entries ++ [(field, value)]) other := by
    rw [get?_set, lastValue?_concat, map.found]
  exact {
    distinct := distinct
    present := fun other => by
      rw [mem_names_set, map.present, List.map_append, List.mem_append, or_comm]
      exact or_congr_right List.mem_singleton.symm
    inOrder := map.pairwise_set field value
    paired := by rw [names, values, List.length_map, List.length_map]
    held := fun _ other placed => (getElem?_values distinct placed).trans (found other)
    found := found }

theorem isMapOf_ofList (entries : List (String × Scalar)) : (ofList entries).IsMapOf entries := by
  induction entries using List.reverseRecOn with
  | nil => exact isMapOf_empty
  | append_singleton entries entry ih =>
    rw [ofList, List.foldl_concat]
    exact ih.set entry.1 entry.2

/-- Only one record is the map of some entries. -/
theorem IsMapOf.unique (map : r.IsMapOf entries) (other : s.IsMapOf entries) : r = s := by
  have perm : r.names.Perm s.names :=
    (List.perm_ext_iff_of_nodup map.distinct other.distinct).2 fun field =>
      (map.present field).trans (other.present field).symm
  have asymm (a b : String) (ab : Precedes entries a b) (ba : Precedes entries b a) : a = b :=
    absurd ba (Nat.lt_asymm ab)
  have names : r.names = s.names :=
    perm.eq_of_pairwise (fun a b _ _ => asymm a b) map.inOrder other.inOrder
  exact eq_of_get? map.distinct names fun field => (map.found field).trans (other.found field).symm

theorem isMapOf_iff : r.IsMapOf entries ↔ r = ofList entries :=
  ⟨fun map => map.unique (isMapOf_ofList entries), fun same => same ▸ isMapOf_ofList entries⟩

/-! ## Sequences of steps -/

/-- What can be done to a record. -/
inductive Step where
  /-- Sets a field, whether in place or in a chain. -/
  | set (field : String) (value : Scalar)
  /-- Begins anew with the record of some entries. -/
  | collect (entries : List (String × Scalar))
  deriving DecidableEq, Repr

/-- The record after a step. -/
def take (r : Record) : Step → Record
  | .set field value => r.set field value
  | .collect entries => ofList entries

/-- The record that some steps make. -/
def make (steps : List Step) : Record :=
  steps.foldl take empty

/-- The entries that are set after a step. Those of a record that is given up do not count. -/
def Step.enter (before : List (String × Scalar)) : Step → List (String × Scalar)
  | .set field value => before ++ [(field, value)]
  | .collect entries => entries

/-- The entries that some steps set, in order. -/
def entered (steps : List Step) : List (String × Scalar) :=
  steps.foldl Step.enter []

theorem make_concat (steps : List Step) (step : Step) :
    make (steps ++ [step]) = (make steps).take step :=
  List.foldl_concat _ _ _ _

theorem entered_concat (steps : List Step) (step : Step) :
    entered (steps ++ [step]) = step.enter (entered steps) :=
  List.foldl_concat _ _ _ _

theorem IsMapOf.take (map : r.IsMapOf entries) (step : Step) :
    (r.take step).IsMapOf (step.enter entries) := by
  cases step with
  | set field value => exact map.set field value
  | collect entries => exact isMapOf_ofList entries

theorem isMapOf_make (steps : List Step) : (make steps).IsMapOf (entered steps) := by
  induction steps using List.reverseRecOn with
  | nil => exact isMapOf_empty
  | append_singleton steps step ih =>
    rw [make_concat, entered_concat]
    exact ih.take step

/-- The records that can be made are those that steps make. -/
theorem built_iff : r.Built ↔ ∃ steps, make steps = r := by
  constructor
  · intro built
    induction built with
    | empty => exact ⟨[], rfl⟩
    | ofList entries => exact ⟨[.collect entries], rfl⟩
    | set _ field value ih =>
      obtain ⟨steps, rfl⟩ := ih
      exact ⟨steps ++ [.set field value], make_concat steps _⟩
  · rintro ⟨steps, rfl⟩
    rw [isMapOf_iff.1 (isMapOf_make steps)]
    exact .ofList _

/-- **Records are maps in the order of insertion.** Whatever steps have made a record, it is the map
of the entries that they set, ordered by the first entry of each field. Setting a field leaves the
value and the position of every other field, setting it twice is setting it to the later value, and
two different fields are set in either order with the same result unless both are new. -/
theorem ordered_by_insertion (steps : List Step) :
    (make steps).IsMapOf (entered steps) ∧
    (∀ field value other, other ≠ field →
      ((make steps).set field value).get? other = (make steps).get? other ∧
      ∀ i : Nat, ((make steps).set field value).names[i]? = some other ↔
        (make steps).names[i]? = some other) ∧
    (∀ field old value,
      ((make steps).set field old).set field value = (make steps).set field value) ∧
    ∀ a b v w, a ≠ b →
      (((make steps).set a v).set b w = ((make steps).set b w).set a v ↔
        a ∈ (make steps).names ∨ b ∈ (make steps).names) := by
  have map := isMapOf_make steps
  refine ⟨map, fun field value other different => ⟨?_, fun i => ?_⟩, ?_, ?_⟩
  · exact get?_set_of_ne _ value different
  · exact getElem?_names_set _ value different i
  · exact set_set map.distinct
  · exact fun a b v w different => set_comm_iff map.distinct different v w

/-- A record that is given up for a row in which a column occurs twice, and changes of that row. -/
def sampleSteps : List Step :=
  [.set "left" .null,
    .collect [("id", .integer 1), ("title", .text "a"), ("id", .integer 2)],
    .set "done" (.bool false), .set "title" (.text "b")]

theorem ordered_by_insertion_sample :
    (make sampleSteps).fields =
        [("id", .integer 2), ("title", .text "b"), ("done", .bool false)] ∧
      (make sampleSteps).IsMapOf (entered sampleSteps) ∧
      ((make sampleSteps).set "id" .null).get? "title" = some (.text "b") ∧
      ((make sampleSteps).set "id" .null).names[2]? = some "done" ∧
      ((make sampleSteps).set "id" .null).set "new" .null =
        ((make sampleSteps).set "new" .null).set "id" .null ∧
      ((make sampleSteps).set "new" .null).set "left" .null ≠
        ((make sampleSteps).set "left" .null).set "new" .null := by
  obtain ⟨map, alone, -, order⟩ := ordered_by_insertion sampleSteps
  refine ⟨by decide, map, ?_, ?_, ?_, ?_⟩
  · exact (alone "id" .null "title" (by decide)).1.trans (by decide)
  · exact ((alone "id" .null "done" (by decide)).2 2).2 (by decide)
  · exact (order "id" "new" .null .null (by decide)).2 (by decide)
  · exact fun same => absurd ((order "new" "left" .null .null (by decide)).1 same) (by decide)

end Record

/-! ## Rows that are read -/

namespace Storage

/-- What an output gives for a row, or for the number of rows. -/
def Output.entry (row : Row) (count : Nat) : Output → String × Scalar
  | term name t => (name, (Database.termValue row t).toScalar)
  | .count name => (name, .integer count)

namespace Database

/-- The record of a row is the map of what the outputs give, also when some have the same name. -/
theorem isMapOf_record (outputs : List Output) (row : Row) (count : Nat) :
    (record outputs row count).IsMapOf (outputs.map (Output.entry row count)) := by
  have same : record outputs row count = .ofList (outputs.map (Output.entry row count)) := by
    refine congrArg Record.ofList (List.map_congr_left fun output _ => ?_)
    cases output <;> rfl
  exact Record.isMapOf_iff.2 same

/-- Each record that a selection returns is the map of what its outputs give, for one of the rows
that it finds unless the number of rows is asked for. -/
theorem isMapOf_of_select {db : Database} {table : String} {columns : List String}
    {filter : Filter} {id : TableId} {t : Table} {outputs : List Output} {records : List Record}
    (resolved : db.resolve table = .ok (id, t))
    (projected : Output.ofText? id.schema
      (if columns.isEmpty then "*" else Text.join ", " columns) = some outputs)
    (selected : db.select table columns filter = .ok records) :
    ∃ rows, find id t filter = .ok rows ∧ ∀ r ∈ records, ∃ row,
      r.IsMapOf (outputs.map (Output.entry row rows.length)) ∧
      (row ∈ rows ∨ outputs.any Output.isTotal = true) := by
  obtain ⟨_, resolved', selected⟩ := bind_eq_ok_iff.1 selected
  cases resolved.symm.trans resolved'
  simp only [projected] at selected
  obtain ⟨rows, found, selected⟩ := bind_eq_ok_iff.1 selected
  refine ⟨rows, found, fun r mem => ?_⟩
  split at selected
  · next total =>
    cases selected
    rw [List.mem_singleton.1 mem]
    exact ⟨_, isMapOf_record _ _ _, .inr total⟩
  · cases selected
    obtain ⟨row, picked, rfl⟩ := List.mem_map.1 mem
    exact ⟨row, isMapOf_record _ _ _, .inl picked⟩

end Database

end Storage

end TodoServer
