import Mathlib.Data.List.Perm.Subperm
import TodoServer.Proofs.Data.Record
import TodoServer.Proofs.Sql.Insertion
import TodoServer.Proofs.Sql.Placeholders

/-!
# Batches and single insertions

A single insertion stores its record. A batch stores the values of each record by position, under
the names of the first: it is refused when the first record is empty or another one has more or
fewer fields, and it stores what single insertions store as long as all records have the same names
in the same order. Records with as many fields in another order are accepted and stored wrongly.
-/

namespace TodoServer

/-! ## Records -/

namespace Record

/-- The values of a record under other names. -/
def renamed (names : List String) (r : Record) : Record :=
  ⟨names.zip r.values⟩

theorem renamed_names (r : Record) : r.renamed r.names = r := by
  obtain ⟨fields⟩ := r
  simp [renamed, names, values, List.zip_map', List.map_id']

theorem names_renamed {columns : List String} {r : Record} (size : r.size = columns.length) :
    (r.renamed columns).names = columns := by
  rw [← length_values] at size
  exact List.map_fst_zip (Nat.le_of_eq size.symm)

/-- Whether two records give each column the same value. -/
def Agrees (r other : Record) : Prop :=
  ∀ column, r.get? column = other.get? column

/-- A record agrees with its values under other names when these name each value as before. -/
theorem agrees_renamed_iff {columns : List String} {r : Record} (size : r.size = columns.length)
    (distinct : columns.Nodup) (own : r.names.Nodup) :
    (r.renamed columns).Agrees r ↔ ∀ entry ∈ columns.zip r.values, entry ∈ r.fields := by
  have named : (r.renamed columns).names = columns := names_renamed size
  have apart : (r.renamed columns).names.Nodup := by rwa [named]
  constructor
  · rintro agrees ⟨field, value⟩ mem
    rw [← get?_eq_some_iff own, ← agrees field]
    exact (get?_eq_some_iff apart).2 mem
  · intro all column
    -- Both have as many entries, so that none of the own ones is left out.
    have length : r.fields.length ≤ (r.renamed columns).fields.length := by
      have width : r.fields.length = columns.length := size
      simp [renamed, width, size]
    have perm := (List.subperm_of_subset (List.Nodup.of_map _ apart) all).perm_of_length_le length
    refine Option.ext fun value => ?_
    rw [get?_eq_some_iff apart, get?_eq_some_iff own]
    exact perm.mem_iff

end Record

/-- A text with values stores rows in a table that agree with records in order. -/
def Fragment.Files (f : Fragment) (table : String) (records : List Record) : Prop :=
  ∃ rows, f.stored? = some (table, rows) ∧ List.Forall₂ Record.Agrees rows records

/-! ## Commands -/

namespace Sql

/-- The tuples of records hold the values from where those before them stopped. -/
theorem spellsAll_tuples (s : Scribe) {n : Nat} {rows : List Record} {after : List Scalar}
    (held : s.values.drop n = rows.flatMap Record.values ++ after) :
    SpellsAll s n (Command.tuples s.dialect n rows) (n + (rows.flatMap Record.values).length)
      ((rows.map Record.values).map tupleLexemes) := by
  induction rows generalizing n with
  | nil => exact .nil n
  | cons row rest ih =>
    rw [List.flatMap_cons, List.append_assoc] at held
    have later : s.values.drop (n + row.size) = rest.flatMap Record.values ++ after := by
      rw [← List.drop_drop, held, List.drop_left' (by rw [Record.length_values])]
    have tuple := (SpellsAll.placeholders s held).join.enclosed
    have total : n + ((row :: rest).flatMap Record.values).length =
        n + row.values.length + (rest.flatMap Record.values).length := by
      rw [List.flatMap_cons, List.length_append, Nat.add_assoc]
    rw [Record.length_values] at tuple total
    rw [total]
    exact .cons tuple (ih later)

/-- The text of an insertion of tuples reads as such. -/
theorem read?_tuples (s : Scribe) {table tuples : String} {columns : List String}
    {rows : List (List Scalar)} {m : Nat} (named : isWord table = true)
    (plain : ∀ column ∈ columns, isWord column = true) (some : rows ≠ [])
    (spells : Spells s 0 tuples m (commas (rows.map tupleLexemes))) :
    Insertion.read? (s.lexemes 0 ("INSERT INTO " ++ table ++ " (" ++ Text.join ", " columns ++
      ") VALUES " ++ tuples).toList) = .some (.tuples table columns rows) := by
  have front : Spells s 0 ("INSERT" ++ " " ++ "INTO" ++ " " ++ table ++ " " ++
      ("(" ++ Text.join ", " columns ++ ")") ++ " " ++ "VALUES" ++ " " ++ tuples) m _ :=
    (((((Spells.word rfl).behind (.word rfl)).behind (.word named)).behind
      (SpellsAll.words s 0 plain).join.enclosed).behind (.word rfl)).behind spells
  have text : "INSERT INTO " ++ table ++ " (" ++ Text.join ", " columns ++ ") VALUES " ++ tuples =
      "INSERT" ++ " " ++ "INTO" ++ " " ++ table ++ " " ++
        ("(" ++ Text.join ", " columns ++ ")") ++ " " ++ "VALUES" ++ " " ++ tuples := by
    rw [← String.toList_inj]
    simp
  have spelled := front [] stops_nil
  rw [List.append_nil, ← text] at spelled
  have ends : s.lexemes m [] = [] := by rw [Scribe.lexemes, lexemes_nil, placeValues]
  have names := group?_commas Lexeme.word? .word (fun _ => rfl) rfl columns
    (.word "VALUES" :: commas (rows.map tupleLexemes))
  rw [spelled, ends, List.append_nil]
  simp only [List.append_assoc, List.cons_append, List.nil_append]
  simp [Insertion.read?, names, tuples?_commas some]

end Sql

namespace Command

variable (d : Dialect) {table : String} {first data : Record} {others : List Record}

open Sql

theorem stored?_of_read {f : Fragment} {table : String} {columns : List String}
    {rows : List (List Scalar)}
    (read : Insertion.read? ((⟨d, f.values⟩ : Scribe).lexemes 0 f.text.toList) =
      some (.tuples table columns rows)) :
    f.stored? = if columns ≠ [] ∧ ∀ row ∈ rows, row.length = columns.length then
      some (table, rows.map fun row => ⟨columns.zip row⟩) else none := by
  have start : d.questionMarks 0 = 0 := by cases d <;> rfl
  rw [Scribe.lexemes, start] at read
  rw [Fragment.stored?, read, Option.bind_eq_bind, Option.bind_some, Insertion.rows?]
  split <;> rfl

/-- What a batch stores, and when it is accepted. -/
theorem stored?_insertAll (named : isWord table = true)
    (plain : ∀ name ∈ first.names, isWord name = true) :
    ((insertAll table first others).write d).stored? =
      if first.isEmpty = false ∧ ∀ r ∈ others, r.size = first.size then
        some (table, (first :: others).map (Record.renamed first.names))
      else none := by
  have held : (first :: others).flatMap Record.values =
      (first :: others).flatMap Record.values ++ [] := (List.append_nil _).symm
  have tuples := (spellsAll_tuples ⟨d, (first :: others).flatMap Record.values⟩ (n := 0) held).join
  have some : (first :: others).map Record.values ≠ [] := List.cons_ne_nil _ _
  have read := read?_tuples _ named plain some tuples
  have accepted : (first.names ≠ [] ∧ ∀ row ∈ (first :: others).map Record.values,
      row.length = first.names.length) ↔
      first.isEmpty = false ∧ ∀ r ∈ others, r.size = first.size := by
    simp [Record.names, Record.isEmpty, Record.size, Record.values]
  rw [stored?_of_read d read, List.map_map]
  simp only [accepted]
  rfl

/-- A batch of one record with fields is written as its single insertion. -/
theorem write_insertAll_singleton (given : data.isEmpty = false) :
    (insertAll table data []).write d = (insert table data).write d := by
  have single : Text.join ", " (tuples d 0 [data]) =
      "(" ++ d.placeholderList 1 data.size ++ ")" := by
    simp [tuples, Text.join]
  have joined (front back : String) :
      front ++ ") VALUES " ++ ("(" ++ back ++ ")") = front ++ ") VALUES (" ++ back ++ ")" := by
    rw [← String.toList_inj]
    simp
  have values : [data].flatMap Record.values = data.values := List.flatMap_singleton _ _
  simp only [write, single, joined, values, given, Bool.false_eq_true, if_false]

/-- An insertion without fields stores a row of defaults. -/
theorem stored?_defaults (named : isWord table = true) :
    ((insert table .empty).write d).stored? = some (table, [.empty]) := by
  have spells : Spells ⟨d, []⟩ 0 ("INSERT" ++ " " ++ "INTO" ++ " " ++ table ++ " " ++ "DEFAULT" ++
      " " ++ "VALUES") 0 _ :=
    ((((Spells.word rfl).behind (.word rfl)).behind (.word named)).behind (.word rfl)).behind
      (.word rfl)
  have text : "INSERT INTO " ++ table ++ " DEFAULT VALUES" =
      "INSERT" ++ " " ++ "INTO" ++ " " ++ table ++ " " ++ "DEFAULT" ++ " " ++ "VALUES" := by
    rw [← String.toList_inj]
    simp
  have start : d.questionMarks 0 = 0 := by cases d <;> rfl
  have spelled := spells [] stops_nil
  rw [List.append_nil, ← text, Scribe.lexemes, Scribe.lexemes, start, lexemes_nil] at spelled
  have written : (insert table .empty).write d =
      ⟨"INSERT INTO " ++ table ++ " DEFAULT VALUES", []⟩ := rfl
  rw [written, Fragment.stored?, spelled]
  rfl

/-- A single insertion stores its record. -/
theorem stored?_insert (named : isWord table = true)
    (plain : ∀ name ∈ data.names, isWord name = true) :
    ((insert table data).write d).stored? = some (table, [data]) := by
  cases given : data.isEmpty with
  | false =>
    rw [← write_insertAll_singleton d given, stored?_insertAll d named plain,
      if_pos ⟨given, List.forall_mem_nil _⟩, List.map_singleton, Record.renamed_names]
  | true =>
    obtain ⟨fields⟩ := data
    cases List.isEmpty_iff.1 given
    exact stored?_defaults d named

/-- A batch stores what agrees with its records when the names of the first give each of their
values the field that it has there. -/
theorem files_insertAll_iff (named : isWord table = true)
    (plain : ∀ name ∈ first.names, isWord name = true)
    (distinct : ∀ r ∈ first :: others, r.names.Nodup) :
    ((insertAll table first others).write d).Files table (first :: others) ↔
      first.isEmpty = false ∧ ∀ r ∈ others, r.size = first.size ∧
        ∀ entry ∈ first.names.zip r.values, entry ∈ r.fields := by
  have own := distinct first List.mem_cons_self
  have agrees {r : Record} (mem : r ∈ others) (size : r.size = first.size) :
      (r.renamed first.names).Agrees r ↔ ∀ entry ∈ first.names.zip r.values, entry ∈ r.fields :=
    Record.agrees_renamed_iff (size.trans first.length_names.symm) own
      (distinct r (List.mem_cons_of_mem first mem))
  rw [Fragment.Files, stored?_insertAll d named plain]
  constructor
  · rintro ⟨rows, stored, filed⟩
    split at stored
    · next accepted =>
      cases stored
      rw [List.forall₂_map_left_iff] at filed
      refine ⟨accepted.1, fun r mem => ⟨accepted.2 r mem, (agrees mem (accepted.2 r mem)).1 ?_⟩⟩
      exact List.forall₂_same.1 filed r (List.mem_cons_of_mem first mem)
    · cases stored
  · rintro ⟨given, rows⟩
    rw [if_pos ⟨given, fun r mem => (rows r mem).1⟩]
    refine ⟨_, rfl, List.forall₂_map_left_iff.2 (List.forall₂_same.2 fun r mem => ?_)⟩
    rcases List.mem_cons.1 mem with rfl | mem
    · rw [Record.renamed_names]
      exact fun _ => rfl
    · exact (agrees mem (rows r mem).1).2 (rows r mem).2

/-- A batch stores just its records when all of them have the names of the first in its order. -/
theorem stored?_insertAll_eq_iff (named : isWord table = true)
    (plain : ∀ name ∈ first.names, isWord name = true) :
    ((insertAll table first others).write d).stored? = some (table, first :: others) ↔
      first.isEmpty = false ∧ ∀ r ∈ others, r.names = first.names := by
  rw [stored?_insertAll d named plain]
  constructor
  · intro stored
    split at stored
    · next accepted =>
      obtain ⟨-, same⟩ := Prod.mk.inj (Option.some.inj stored)
      refine ⟨accepted.1, fun r mem => ?_⟩
      have kept : r.renamed first.names = r :=
        List.map_inj_left.1 (same.trans (List.map_id _).symm) r (List.mem_cons_of_mem first mem)
      have size := (accepted.2 r mem).trans first.length_names.symm
      exact (congrArg Record.names kept).symm.trans (Record.names_renamed size)
    · cases stored
  · rintro ⟨given, same⟩
    have sizes : ∀ r ∈ others, r.size = first.size := fun r mem => by
      rw [← r.length_names, same r mem, first.length_names]
    rw [if_pos ⟨given, sizes⟩, Option.some_inj, Prod.mk.injEq]
    refine ⟨rfl, (List.map_congr_left fun r mem => ?_).trans (List.map_id _)⟩
    rcases List.mem_cons.1 mem with rfl | mem
    · exact r.renamed_names
    · rw [← same r mem]
      exact r.renamed_names

end Command

/-- Each single insertion stores its record. A batch is accepted when its first record has fields
and all others have as many, and then files values by position: it stores what single insertions
store exactly when the names of the first record, taken in order, are those of the values of each
other one. -/
theorem batches_filed_by_position (d : Dialect) {table : String} {first : Record}
    {others : List Record} (named : Sql.isWord table = true)
    (plain : ∀ r ∈ first :: others, r.names.Nodup ∧ ∀ name ∈ r.names, Sql.isWord name = true) :
    (∀ r ∈ first :: others, ((Command.insert table r).write d).stored? = some (table, [r])) ∧
    ((Command.insertAll table first others).write d).stored? =
      (if first.isEmpty = false ∧ ∀ r ∈ others, r.size = first.size then
        some (table, (first :: others).map (Record.renamed first.names)) else none) ∧
    (((Command.insertAll table first others).write d).Files table (first :: others) ↔
      first.isEmpty = false ∧ ∀ r ∈ others, r.size = first.size ∧
        ∀ entry ∈ first.names.zip r.values, entry ∈ r.fields) ∧
    (((Command.insertAll table first others).write d).stored? = some (table, first :: others) ↔
      first.isEmpty = false ∧ ∀ r ∈ others, r.names = first.names) := by
  have words := (plain first List.mem_cons_self).2
  exact ⟨fun r mem => Command.stored?_insert d named (plain r mem).2,
    Command.stored?_insertAll d named words,
    Command.files_insertAll_iff d named words fun r mem => (plain r mem).1,
    Command.stored?_insertAll_eq_iff d named words⟩

/-- A record with two fields. -/
def Record.sample : Record := ⟨[("title", .text "Milk"), ("description", .text "two litres")]⟩

/-- A record with the same fields in another order. -/
def Record.swapped : Record := ⟨[("description", .text "brown"), ("title", .text "Bread")]⟩

/-- Records with the same names in the same order are stored as they are. -/
theorem batch_of_samples_stored : Sql.isWord "todos" = true ∧
    (∀ r ∈ [Record.sample, .sample],
      r.names.Nodup ∧ ∀ name ∈ r.names, Sql.isWord name = true) ∧
    ((Command.insertAll "todos" .sample [.sample]).write .postgres).stored? =
      some ("todos", [.sample, .sample]) := by
  have named : Sql.isWord "todos" = true := by decide +kernel
  have plain : ∀ r ∈ [Record.sample, .sample],
      r.names.Nodup ∧ ∀ name ∈ r.names, Sql.isWord name = true := by decide +kernel
  obtain ⟨-, -, -, stored⟩ := batches_filed_by_position .postgres named plain
  exact ⟨named, plain, stored.2 ⟨rfl, fun r mem => by rw [List.mem_singleton.1 mem]⟩⟩

/-- Fields in another order are stored under the wrong names, and an empty record, which a single
insertion stores, is refused as a batch. -/
theorem swapped_batch_misfiled :
    ((Command.insertAll "todos" .sample [.swapped]).write .sqlite).stored? =
      some ("todos", [.sample, ⟨[("title", .text "brown"), ("description", .text "Bread")]⟩]) ∧
    Record.swapped.get? "title" = some (.text "Bread") ∧
    ((Command.insert "todos" .empty).write .sqlite).stored? = some ("todos", [.empty]) ∧
    ((Command.insertAll "todos" .empty []).write .sqlite).stored? = none := by
  have named : Sql.isWord "todos" = true := by decide +kernel
  have plain : ∀ name ∈ Record.sample.names, Sql.isWord name = true := by decide +kernel
  have equal : Record.sample.isEmpty = false ∧
      ∀ r ∈ [Record.swapped], r.size = Record.sample.size := by decide
  refine ⟨?_, rfl, Command.stored?_defaults .sqlite named, ?_⟩
  · rw [Command.stored?_insertAll .sqlite named plain, if_pos equal]
    rfl
  · have blank : ¬(Record.empty.isEmpty = false ∧
        ∀ r ∈ ([] : List Record), r.size = Record.empty.size) := by decide
    rw [Command.stored?_insertAll .sqlite named (List.forall_mem_nil _), if_neg blank]

end TodoServer
