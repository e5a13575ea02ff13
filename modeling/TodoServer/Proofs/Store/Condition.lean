import TodoServer.Proofs.Store.Basic

/-!
# Conditions on the rows of a store

The conditions that services write have a truth value in each row of a store, and so a filter finds
those rows whose user or todo it describes.
-/

namespace TodoServer

namespace Storage.Cell

theorem compareLists_eq_iff {α : Type} {key : α → Nat} (inj : ∀ a b, key a = key b → a = b) :
    ∀ as bs : List α, compareLists key as bs = .eq ↔ as = bs
  | [], [] => by simp [compareLists]
  | [], _ :: _ => by simp [compareLists]
  | _ :: _, [] => by simp [compareLists]
  | a :: as, b :: bs => by
    have rest := compareLists_eq_iff inj as bs
    rw [compareLists, Ordering.then_eq_eq, Nat.compare_eq_eq, rest, List.cons.injEq]
    exact ⟨fun ⟨same, others⟩ => ⟨inj a b same, others⟩, fun ⟨same, others⟩ => ⟨same ▸ rfl, others⟩⟩

theorem text_beq (a b : String) : ((text a).order (text b) == .eq) = decide (a = b) := by
  rw [Bool.eq_iff_iff, beq_iff_eq, decide_eq_true_iff, order,
    compareLists_eq_iff (fun _ _ => Char.toNat_inj.1), String.toList_inj]

theorem integer_beq (a b : Int) : ((integer a).order (integer b) == .eq) = decide (a = b) := by
  rw [Bool.eq_iff_iff, beq_iff_eq, decide_eq_true_iff, order, Int.compare_eq_eq]

end Storage.Cell

namespace Storage.Database

open Cell

/-! ## Single conditions -/

/-- An equality between a column and a value, neither of them null. -/
theorem conditionTruth_eq {schema : TableSchema} {row : Row} {field : String}
    {value : Scalar} (position : Nat) (named : Term.ofText? schema field = some (.column position))
    (present : (row.cell position).isNull = false)
    (given : (Cell.ofScalar value).isNull = false) :
    conditionTruth schema row ⟨field, .eq, value⟩ =
      .ok (.ofBool ((row.cell position).order
        ((Cell.ofScalar value).comparable (schema.affinityAt position)) == .eq)) := by
  simp only [conditionTruth, named, compareTruth, termValue, present, given, Bool.or_false]
  rfl

variable (t : Todo) (u : User)

theorem truth_todo_id (n : Int) :
    conditionTruth .todos t.row ⟨"id", .eq, .integer n⟩ = .ok (.ofBool (t.id = n)) := by
  rw [conditionTruth_eq 0 rfl rfl rfl, ← integer_beq]
  rfl

theorem truth_todo_userId (n : Int) :
    conditionTruth .todos t.row ⟨"user_id", .eq, .integer n⟩ = .ok (.ofBool (t.userId = n)) := by
  rw [conditionTruth_eq 4 rfl rfl rfl, ← integer_beq]
  rfl

theorem truth_todo_completed (b : Bool) :
    conditionTruth .todos t.row ⟨"completed", .eq, .bool b⟩ = .ok (.ofBool (t.completed = b)) := by
  rw [conditionTruth_eq 3 rfl rfl rfl]
  cases b <;> cases h : t.completed <;> simp only [Todo.row, h] <;> rfl

theorem truth_user_id (n : Int) :
    conditionTruth .users u.row ⟨"id", .eq, .integer n⟩ = .ok (.ofBool (u.id = n)) := by
  rw [conditionTruth_eq 0 rfl rfl rfl, ← integer_beq]
  rfl

theorem truth_user_name (name : String) :
    conditionTruth .users u.row ⟨"name", .eq, .text name⟩ = .ok (.ofBool (u.name = name)) := by
  rw [conditionTruth_eq 1 rfl rfl rfl, ← text_beq]
  rfl

theorem truth_user_email (email : String) :
    conditionTruth .users u.row ⟨"email", .eq, .text email⟩ = .ok (.ofBool (u.email = email)) := by
  rw [conditionTruth_eq 2 rfl rfl rfl, ← text_beq]
  rfl

/-- The refusal of a pattern that is too long. -/
def patternTooComplex : StorageError := .database "LIKE or GLOB pattern too complex"

/-- A pattern on a column. A null column is neither like it nor unlike it. -/
theorem conditionTruth_like {schema : TableSchema} {row : Row} {field : String}
    (position : Nat) (named : Term.ofText? schema field = some (.column position))
    (pattern : String) :
    conditionTruth schema row ⟨field, .like, .text pattern⟩ =
      if Like.patternLimit < pattern.utf8ByteSize then .error patternTooComplex
      else .ok (((row.cell position).chars?.map fun text =>
        .ofBool (Like.isMatch (Text.untilNul pattern) text)).getD .unknown) := by
  have size : (ofScalar (.text pattern)).byteSize = pattern.utf8ByteSize := rfl
  simp only [conditionTruth, named, compareTruth, termValue, size]
  congr 1
  cases (row.cell position).chars? <;> rfl

theorem truth_todo_title (pattern : String) :
    conditionTruth .todos t.row ⟨"title", .like, .text pattern⟩ =
      if Like.patternLimit < pattern.utf8ByteSize then .error patternTooComplex
      else .ok (.ofBool (Text.isLike pattern t.title)) :=
  conditionTruth_like 1 rfl pattern

theorem truth_todo_description (pattern : String) :
    conditionTruth .todos t.row ⟨"description", .like, .text pattern⟩ =
      if Like.patternLimit < pattern.utf8ByteSize then .error patternTooComplex
      else
        .ok ((t.description.map fun text => .ofBool (Text.isLike pattern text)).getD .unknown) := by
  rw [conditionTruth_like 2 rfl pattern]
  cases h : t.description <;> simp only [Todo.row, h] <;> rfl

/-! ## Filters -/

variable {value : Condition → Except StorageError Truth}

theorem accepts_nil : Filter.accepts value ⟨[]⟩ = .ok true := rfl

/-- Conditions are looked at one after the other, and the first that fails decides. -/
theorem accepts_cons {c : Condition} {holds : Bool} (truth : value c = .ok (.ofBool holds))
    (rest : List Node) :
    Filter.accepts value ⟨.condition c :: rest⟩ =
      if holds then Filter.accepts value ⟨rest⟩ else .ok false := by
  simp only [Filter.accepts, Node.truthAll, Node.truth, truth]
  cases holds with
  | false => rfl
  | true =>
    cases Node.truthAll value .and rest with
    | error e => rfl
    | ok others =>
      cases others with
      | none => rfl
      | some truth => cases truth <;> rfl

/-- Of two alternatives the second is looked at unless the first holds. -/
theorem accepts_either {a b : Condition} {truth truth' : Truth} (first : value a = .ok truth)
    (second : value b = .ok truth') :
    Filter.accepts value ⟨[.group .or [.condition a, .condition b]]⟩ =
      .ok (decide (truth = .yes) || decide (truth' = .yes)) := by
  simp only [Filter.accepts, Node.truthAll, Node.truth, first, second]
  cases truth <;> cases truth' <;> rfl

/-- A refusal of the first of two alternatives is one of the filter. -/
theorem accepts_either_error {a b : Condition} {e : StorageError} (refused : value a = .error e) :
    Filter.accepts value ⟨[.group .or [.condition a, .condition b]]⟩ = .error e := by
  simp only [Filter.accepts, Node.truthAll, Node.truth, refused]
  rfl

/-- A filter accepts those rows whose item meets what it describes. -/
theorem accepted_map {α : Type} {schema : TableSchema} {filter : Filter} {row : α → Row}
    {p : α → Bool} {xs : List α}
    (accepts : ∀ x ∈ xs, filter.accepts (conditionTruth schema (row x)) = .ok (p x)) :
    accepted schema filter (xs.map row) = .ok ((xs.filter p).map row) := by
  induction xs with
  | nil => rfl
  | cons x rest ih =>
    have others := ih fun y mem => accepts y (List.mem_cons_of_mem x mem)
    simp only [List.map_cons, accepted, accepts x List.mem_cons_self, others]
    cases h : p x <;> simp only [List.filter_cons, h] <;> rfl

/-- A refusal in any row is one of the whole search. -/
theorem accepted_map_error {α : Type} {schema : TableSchema} {filter : Filter} {row : α → Row}
    {p : α → Bool} {e : StorageError} {xs : List α}
    (accepts : ∀ x ∈ xs, filter.accepts (conditionTruth schema (row x)) =
      if p x then .error e else .ok false) :
    accepted schema filter (xs.map row) = if xs.any p then .error e else .ok [] := by
  induction xs with
  | nil => rfl
  | cons x rest ih =>
    have others := ih fun y mem => accepts y (List.mem_cons_of_mem x mem)
    have first := accepts x List.mem_cons_self
    cases h : p x with
    | true =>
      rw [h] at first
      simp [accepted, first, h, bind, Except.bind]
    | false =>
      rw [h] at first
      by_cases more : rest.any p <;> simp [accepted, first, others, more, h, bind, Except.bind]

/-- The name of a column means something in its own table. -/
theorem isSome_ofText?_of_column (id : TableId) :
    ∀ name ∈ id.schema.columnNames, (Term.ofText? id.schema name).isSome = true := by
  cases id <;> decide +kernel

/-- Nothing is amiss with the fields of a filter that all name columns. -/
theorem checkFields_of_columns (id : TableId) {filter : Filter} {fields : List String}
    (asked : filter.fields = fields) (columns : ∀ field ∈ fields, field ∈ id.schema.columnNames) :
    checkFields id.schema filter = .ok () := by
  have none : (Node.allConditions filter.nodes).find?
      (fun c => (Term.ofText? id.schema c.field).isNone) = none := by
    rw [List.find?_eq_none]
    intro c mem
    have column := columns c.field (asked ▸ List.mem_map_of_mem mem)
    rw [Bool.not_eq_true, Option.isNone_eq_false_iff]
    exact isSome_ofText?_of_column id c.field column
  rw [checkFields, none]

/-- The todos that a filter finds. -/
theorem find_todos {filter : Filter} {p : Todo → Bool} {todos : List Todo} {last : Int}
    (named : checkFields .todos filter = .ok ())
    (accepts : ∀ t ∈ todos, filter.accepts (conditionTruth .todos t.row) = .ok (p t)) :
    find .todos ⟨todos.map Todo.row, last⟩ filter = .ok ((todos.filter p).map Todo.row) := by
  have visited : visitOrder .todos filter (todos.map Todo.row) = todos.map Todo.row := rfl
  simp only [find, TableId.schema, named, visited, accepted_map accepts]
  rfl

/-- A filter that is refused in some todos finds none of the others. -/
theorem find_todos_error {filter : Filter} {p : Todo → Bool} {e : StorageError} {todos : List Todo}
    {last : Int} (named : checkFields .todos filter = .ok ())
    (accepts : ∀ t ∈ todos, filter.accepts (conditionTruth .todos t.row) =
      if p t then .error e else .ok false) :
    find .todos ⟨todos.map Todo.row, last⟩ filter = if todos.any p then .error e else .ok [] := by
  have visited : visitOrder .todos filter (todos.map Todo.row) = todos.map Todo.row := rfl
  simp only [find, TableId.schema, named, visited, accepted_map_error accepts]
  rfl

/-- The users that a filter of plain conditions finds. -/
theorem find_users {filter : Filter} {p : User → Bool} {users : List User} {last : Int}
    (plain : alternatives? .users filter = none) (named : checkFields .users filter = .ok ())
    (accepts : ∀ u ∈ users, filter.accepts (conditionTruth .users u.row) = .ok (p u)) :
    find .users ⟨users.map User.row, last⟩ filter = .ok ((users.filter p).map User.row) := by
  have visited : visitOrder .users filter (users.map User.row) = users.map User.row := by
    rw [visitOrder, plain]
  simp only [find, TableId.schema, named, visited, accepted_map accepts]
  rfl

/-! ## Alternatives -/

/-- A condition with what it says of a user. -/
abbrev Alternative := Condition × (User → Bool)

/-- What visiting alternatives one after the other adds to the users seen before. -/
theorem visit_alternatives (users : List User) (alternatives : List Alternative)
    (truths : ∀ a ∈ alternatives, ∀ u : User,
      conditionTruth .users u.row a.1 = .ok (.ofBool (a.2 u))) (seen : List User) :
    ∃ visited : List User,
      (alternatives.map Prod.fst).foldl (fun seen c =>
        seen ++ (users.map User.row).filter fun row =>
          (match conditionTruth .users row c with
            | .ok .yes => true
            | _ => false) && !seen.any (·.key == row.key)) (seen.map User.row) =
        visited.map User.row ∧
      (∀ u ∈ visited, u ∈ seen ∨ ∃ a ∈ alternatives, a.2 u = true) ∧
      visited.head? = seen.head?.or (alternatives.findSome? fun a => users.find? a.2) := by
  induction alternatives generalizing seen with
  | nil => exact ⟨seen, rfl, fun u mem => .inl mem, by simp⟩
  | cons a others ih =>
    have truth := truths a List.mem_cons_self
    have more := fun b mem => truths b (List.mem_cons_of_mem a mem)
    let found := users.filter fun u => a.2 u && !seen.any (·.id == u.id)
    have step : seen.map User.row ++ ((users.map User.row).filter fun row =>
        (match conditionTruth .users row a.1 with
          | .ok .yes => true
          | _ => false) && !(seen.map User.row).any (·.key == row.key)) =
        (seen ++ found).map User.row := by
      rw [List.map_append, List.filter_map]
      refine congrArg (seen.map User.row ++ ·) (congrArg (List.map User.row) ?_)
      refine List.filter_congr fun u _ => ?_
      simp only [Function.comp_apply, truth u, List.any_map]
      cases a.2 u <;> rfl
    obtain ⟨visited, order, held, head⟩ := ih more (seen ++ found)
    refine ⟨visited, ?_, ?_, ?_⟩
    · rw [List.map_cons, List.foldl_cons, step]
      exact order
    · intro u mem
      rcases held u mem with before | ⟨b, later, holds⟩
      · rcases List.mem_append.1 before with old | new
        · exact .inl old
        · have here := (List.mem_filter.1 new).2
          exact .inr ⟨a, List.mem_cons_self, (Bool.and_eq_true_iff.1 here).1⟩
      · exact .inr ⟨b, List.mem_cons_of_mem a later, holds⟩
    · rw [head, List.findSome?_cons]
      cases seen with
      | cons first _ => simp
      | nil =>
        have all : found = users.filter a.2 := List.filter_congr fun u _ => by simp
        rw [List.nil_append, all, List.head?_filter, List.head?_nil, Option.none_or]
        cases users.find? a.2 <;> simp

/-- A choice holds where one of its alternatives holds. -/
theorem truthAll_alternatives {u : User} {alternatives : List Alternative}
    (truths : ∀ a ∈ alternatives, conditionTruth .users u.row a.1 = .ok (.ofBool (a.2 u))) :
    Node.truthAll (conditionTruth .users u.row) .or (alternatives.map fun a => .condition a.1) =
      .ok (if alternatives.isEmpty then none else some (.ofBool (alternatives.any (·.2 u)))) := by
  induction alternatives with
  | nil => rfl
  | cons a others ih =>
    have more := ih fun b mem => truths b (List.mem_cons_of_mem a mem)
    simp only [List.map_cons, Node.truthAll, Node.truth, truths a List.mem_cons_self, more,
      List.any_cons]
    cases a.2 u with
    | true => rfl
    | false =>
      cases others with
      | nil => rfl
      | cons b rest => cases List.any (b :: rest) (·.2 u) <;> rfl

/-- The users that a choice between equalities finds, the first of which meets the first equality
that any user meets. -/
theorem find_alternatives {filter : Filter} {alternatives : List Alternative} (users : List User)
    (last : Int) (choice : filter = ⟨[.group .or (alternatives.map fun a => .condition a.1)]⟩)
    (through : alternatives? .users filter = some (alternatives.map Prod.fst))
    (truths : ∀ a ∈ alternatives, ∀ u : User,
      conditionTruth .users u.row a.1 = .ok (.ofBool (a.2 u)))
    (named : checkFields .users filter = .ok ()) :
    ∃ visited : List User,
      find .users ⟨users.map User.row, last⟩ filter = .ok (visited.map User.row) ∧
      visited.head? = alternatives.findSome? fun a => users.find? a.2 := by
  obtain ⟨visited, order, held, head⟩ := visit_alternatives users alternatives truths []
  refine ⟨visited, ?_, by simpa using head⟩
  have visits : visitOrder .users filter (users.map User.row) = visited.map User.row := by
    rw [visitOrder, through]
    exact order
  have accepted : ∀ u ∈ visited,
      filter.accepts (conditionTruth .users u.row) = .ok ((fun _ => true) u) := by
    intro u mem
    rcases held u mem with seen | ⟨a, given, holds⟩
    · cases seen
    · have some : alternatives.isEmpty = false :=
        List.isEmpty_eq_false_iff.2 (List.ne_nil_of_mem given)
      have any : alternatives.any (·.2 u) = true := List.any_eq_true.2 ⟨a, given, holds⟩
      simp only [choice, Filter.accepts, Node.truthAll, Node.truth,
        truthAll_alternatives fun a mem => truths a mem u, some, any]
      rfl
  simp only [find, TableId.schema, named, visits, accepted_map accepted]
  rw [List.filter_true]
  rfl

end Storage.Database

end TodoServer
