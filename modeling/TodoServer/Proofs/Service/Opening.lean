import TodoServer.Proofs.Query.Blanked
import TodoServer.Proofs.Query.Trace
import TodoServer.Service.Operation

/-!
# The first statement of an operation

Every operation of the services opens with one call. The text of that call depends on which optional
arguments are present and on the size of a batch, and on no text, number or flag that was given.
-/

namespace TodoServer

/-! ## Builders without values -/

namespace FilterBuilder

variable (b : FilterBuilder)

/-- A builder without the values of its conditions. -/
def blanked : FilterBuilder :=
  { b with nodes := Node.allBlanked b.nodes }

theorem blanked_condition (field : String) (comparison : Comparison) (value : Scalar) :
    (b.condition field comparison value).blanked =
      b.blanked.condition field comparison value.blanked := by
  cases blank : Text.isAllBlank field with
  | true => simp [condition, Condition.of, blank, blanked]
  | false =>
    simp [condition, Condition.of, blank, blanked, Node.allBlanked, Node.blanked, Condition.blanked]

theorem blanked_eq (field : String) (value : Scalar) :
    (b.eq field value).blanked = b.blanked.eq field value.blanked :=
  b.blanked_condition field .eq value

theorem blanked_eqGiven (field : String) (value : Option Scalar) :
    (b.eqGiven field value).blanked = b.blanked.eqGiven field (value.map Scalar.blanked) := by
  cases value with
  | none => rfl
  | some value => exact b.blanked_eq field value

theorem blanked_nested (connective : Connective) (inner : FilterBuilder) :
    (b.nested connective inner).blanked = b.blanked.nested connective inner.blanked := by
  simp only [nested, blanked, Node.allBlanked_append]
  rfl

theorem build_blanked : b.blanked.build = b.build.map Filter.blanked := by
  obtain ⟨nodes, error⟩ := b
  cases error <;> rfl

end FilterBuilder

/-- Values that are given or not alike are alike once they are blanked. -/
theorem Scalar.map_blanked_of_isSome {α : Type} {x y : Option α} (f g : α → Scalar)
    (present : x.isSome = y.isSome) :
    (x.map f).map Scalar.blanked = (y.map g).map Scalar.blanked := by
  cases x <;> cases y <;> simp_all [Scalar.blanked]

/-! ## Filters that can always be built -/

theorem Users.identified_eq (userId : Int) :
    identified userId = .ok ⟨[.condition ⟨"id", .eq, .integer userId⟩]⟩ := rfl

theorem Users.mailed_eq (email : String) :
    orFilter (FilterBuilder.empty.eq "email" (.text email)).build =
      .ok ⟨[.condition ⟨"email", .eq, .text email⟩]⟩ := rfl

theorem Todos.owned_eq (userId todoId : Int) :
    owned userId todoId = .ok ⟨[.condition ⟨"id", .eq, .integer todoId⟩,
      .condition ⟨"user_id", .eq, .integer userId⟩]⟩ := rfl

namespace Operation

/-! ## Openings -/

/-- The call that an operation opens with, if its filter can be built. -/
def opening (moment : Moment) : Operation → Option Executor.Call
  | insertUser name email password =>
    some (.insert User.table (Users.newRecord moment.now moment.salt name email password))
  | getUser userId => (Users.identified userId).toOption.map (.select User.table [])
  | findUser name email => (Users.namedOrMailed name email).toOption.map (.select User.table [])
  | updateUser userId name email password =>
    (Users.identified userId).toOption.map
      (.update User.table (Users.changes moment.now moment.salt name email password))
  | deleteUser userId => (Users.identified userId).toOption.map (.delete User.table)
  | authenticate email _ =>
    (orFilter (FilterBuilder.empty.eq "email" (.text email)).build).toOption.map
      (.select User.table ["id", "password_hash"])
  | listTodos userId completed search =>
    (orFilter (Todos.listing userId completed search).build).toOption.map (.select Todo.table [])
  | getTodo userId todoId => (Todos.owned userId todoId).toOption.map (.select Todo.table [])
  | insertTodo userId todo =>
    some (.insert Todo.table (todo.toRecord userId moment.now.text))
  | insertTodos userId todos =>
    some (.insertAll Todo.table (todos.map (·.toRecord userId moment.now.text)))
  | updateTodo userId todoId title description =>
    (Todos.owned userId todoId).toOption.map
      (.update Todo.table (Todos.changes moment.now title description))
  | isCompleted userId todoId | toggle userId todoId =>
    (Todos.owned userId todoId).toOption.map (.select Todo.table ["completed"])
  | deleteTodo userId todoId => (Todos.owned userId todoId).toOption.map (.delete Todo.table)

/-- The statements that an operation opens with. -/
def opened (d : Dialect) (moment : Moment) (operation : Operation) : List Statement :=
  (operation.opening moment).elim [] (Executor.Call.issued d)

variable {σ : Type} (r : Runner σ)

theorem first_noting (filter : Except ServiceError Filter) (state : σ) :
    (Users.first (Executor.noting r) filter (state, [])).2.2 =
      (filter.toOption.map (.select User.table [])).elim [] (Executor.Call.issued r.dialect) := by
  cases filter with
  | error e => rfl
  | ok filter =>
    simp only [Users.first, Executor.select, Executor.fetch_noting]
    rfl

theorem fetch_noting (filter : Except ServiceError Filter) (state : σ) :
    (Todos.fetch (Executor.noting r) filter (state, [])).2.2 =
      (filter.toOption.map (.select Todo.table [])).elim [] (Executor.Call.issued r.dialect) := by
  cases filter with
  | error e => rfl
  | ok filter =>
    simp only [Todos.fetch, Executor.select, Executor.fetch_noting]
    rfl

/-- Reading the flag of a todo hands over one selection. -/
theorem completion_noting (userId todoId : Int) (state : σ) (issued : List Statement) :
    (Todos.completion (Executor.noting r) userId todoId (state, issued)).2.2 =
      issued ++ ((Todos.owned userId todoId).toOption.map
        (.select Todo.table ["completed"])).elim [] (Executor.Call.issued r.dialect) := by
  simp only [Todos.completion, Todos.owned_eq, Executor.select, Executor.fetch_noting]
  rfl

/-- A step of a toggle takes nothing back. -/
theorem prefix_step (moment : Moment) (userId todoId : Int) (t : Todos.Toggle)
    (state : σ × List Statement) :
    state.2 <+: (t.step (Executor.noting r) moment.now userId todoId state).2.2 := by
  obtain ⟨state, issued⟩ := state
  cases t with
  | reading =>
    simp only [Todos.Toggle.step, completion_noting]
    exact List.prefix_append _ _
  | writing seen =>
    simp only [Todos.Toggle.step, Todos.flip]
    split
    · exact List.prefix_refl issued
    · simp only [Executor.update, Executor.execute_noting]
      exact List.prefix_append _ _
  | done answer => exact List.prefix_refl issued

/-- An operation that is no toggle hands over its opening and nothing else. -/
theorem issues_opened (moment : Moment) {operation : Operation}
    (plain : operation.toggled? = none) (state : σ) :
    (operation.run (Executor.noting r) moment (state, [])).2.2 =
      operation.opened r.dialect moment := by
  cases operation with
  | insertUser name email password =>
    simp only [run, shaped, Users.insert, Executor.insert, Executor.execute_noting]
    rfl
  | getUser userId =>
    simp only [run, shaped, Users.get, first_noting]
    rfl
  | findUser name email =>
    simp only [run, shaped, Users.find, first_noting]
    rfl
  | updateUser userId name email password =>
    simp only [run, shaped, Users.update, Users.identified_eq, Executor.update,
      Executor.execute_noting]
    rfl
  | deleteUser userId =>
    simp only [run, shaped, Users.delete, Users.identified_eq, Executor.delete,
      Executor.execute_noting]
    rfl
  | authenticate email password =>
    simp only [run, shaped, Users.authenticate, Users.mailed_eq, Executor.select,
      Executor.fetch_noting]
    rfl
  | listTodos userId completed search =>
    simp only [run, shaped, Todos.list, fetch_noting]
    rfl
  | getTodo userId todoId =>
    simp only [run, shaped, Todos.get, fetch_noting]
    rfl
  | insertTodo userId todo =>
    simp only [run, shaped, Todos.insert, Executor.insert, Executor.execute_noting]
    rfl
  | insertTodos userId todos =>
    cases todos with
    | nil => rfl
    | cons todo rest =>
      simp only [run, shaped, Todos.insertMany, Executor.insertAll, Executor.execute_noting]
      rfl
  | updateTodo userId todoId title description =>
    simp only [run, shaped, Todos.update, Todos.owned_eq, Executor.update, Executor.execute_noting]
    rfl
  | isCompleted userId todoId =>
    simp only [run, shaped, Todos.isCompleted, completion_noting]
    rfl
  | toggle userId todoId => cases plain
  | deleteTodo userId todoId =>
    simp only [run, shaped, Todos.delete, Todos.owned_eq, Executor.delete, Executor.execute_noting]
    rfl

/-- The first statement that an operation hands to a runner is that of its opening. -/
theorem opens (moment : Moment) (operation : Operation) (state : σ) :
    (operation.run (Executor.noting r) moment (state, [])).2.2.head? =
      (operation.opened r.dialect moment).head? := by
  cases plain : operation.toggled? with
  | none => rw [issues_opened r moment plain]
  | some toggled =>
    cases operation with
    | toggle userId todoId =>
      have reads : (Todos.Toggle.step (Executor.noting r) moment.now userId todoId .reading
          (state, [])).2.2 = (toggle userId todoId).opened r.dialect moment :=
        completion_noting r userId todoId state []
      obtain ⟨s, once⟩ : ∃ s, (toggle userId todoId).opened r.dialect moment = [s] := by
        rw [opened, opening, Todos.owned_eq]
        exact ⟨_, rfl⟩
      obtain ⟨more, goes⟩ := prefix_step r moment userId todoId
        (Todos.Toggle.step (Executor.noting r) moment.now userId todoId .reading (state, [])).1
        (Todos.Toggle.step (Executor.noting r) moment.now userId todoId .reading (state, [])).2
      simp only [run, shaped, Todos.toggle, Todos.Toggle.run]
      rw [← goes, reads, once]
      rfl
    | _ => cases plain

end Operation

/-! ## Openings without values -/

theorem Record.blanked_stamped {given other : Record} (same : given.blanked = other.blanked)
    (field : String) (value value' : Scalar) :
    (if given.isEmpty then given else given.set field value).blanked =
      (if other.isEmpty then other else other.set field value').blanked := by
  have empty : given.isEmpty = other.isEmpty := by
    rw [← given.isEmpty_blanked, same, other.isEmpty_blanked]
  rw [empty]
  split
  · exact same
  · rw [blanked_set, same, blanked_set]
    rfl

theorem Users.blanked_newRecord (now now' : Instant) (salt salt' : List UInt8)
    (name name' email email' password password' : String) :
    (newRecord now salt name email password).blanked =
      (newRecord now' salt' name' email' password').blanked := by
  simp only [newRecord, Record.blanked_ofList, List.map_cons, List.map_nil, Scalar.blanked]

theorem NewTodo.blanked_toRecord (todo todo' : NewTodo) (userId userId' : Int)
    (now now' : String) :
    (todo.toRecord userId now).blanked = (todo'.toRecord userId' now').blanked := by
  simp only [toRecord, Record.blanked_ofList, List.map_cons, List.map_nil, Scalar.blanked]

theorem Users.blanked_changes (now now' : Instant) (salt salt' : List UInt8)
    {name name' email email' password password' : Option String}
    (names : name.isSome = name'.isSome) (emails : email.isSome = email'.isSome)
    (passwords : password.isSome = password'.isSome) :
    (changes now salt name email password).blanked =
      (changes now' salt' name' email' password').blanked := by
  refine Record.blanked_stamped ?_ _ _ _
  simp only [Record.blanked_setGiven]
  rw [Scalar.map_blanked_of_isSome _ .text names, Scalar.map_blanked_of_isSome _ .text emails,
    Scalar.map_blanked_of_isSome _ (fun password => .text (Auth.hashPassword password salt'))
      passwords]

theorem Todos.blanked_changes (now now' : Instant)
    {title title' description description' : Option String} (titles : title.isSome = title'.isSome)
    (descriptions : description.isSome = description'.isSome) :
    (changes now title description).blanked = (changes now' title' description').blanked := by
  refine Record.blanked_stamped ?_ _ _ _
  simp only [Record.blanked_setGiven]
  rw [Scalar.map_blanked_of_isSome _ .text titles,
    Scalar.map_blanked_of_isSome _ .text descriptions]

theorem NewTodo.blanked_toRecords (userId userId' : Int) (now now' : String) :
    ∀ {todos todos' : List NewTodo}, todos.length = todos'.length →
      (todos.map (·.toRecord userId now)).map Record.blanked =
        (todos'.map (·.toRecord userId' now')).map Record.blanked
  | [], [], _ => rfl
  | todo :: rest, todo' :: rest', same => by
    have others := blanked_toRecords userId userId' now now' (Nat.succ.inj same)
    simp only [List.map_cons, others, todo.blanked_toRecord todo' userId userId' now now']

/-- Filters are alike if they differ in values alone, or if neither can be built. -/
def FiltersAlike (x y : Except ServiceError Filter) : Prop :=
  x.toOption.map Filter.blanked = y.toOption.map Filter.blanked

theorem FiltersAlike.of_builders {b b' : FilterBuilder} (same : b.blanked = b'.blanked) :
    FiltersAlike (orFilter b.build) (orFilter b'.build) := by
  have built (b : FilterBuilder) : (orFilter b.build).toOption.map Filter.blanked =
      (orFilter b.blanked.build).toOption := by
    rw [b.build_blanked]
    cases b.build <;> rfl
  rw [FiltersAlike, built, same, built]

namespace FiltersAlike

variable {x y : Except ServiceError Filter} (alike : FiltersAlike x y) (table : String)

include alike

theorem calls {call other : Filter → Executor.Call}
    (same : ∀ f g, f.blanked = g.blanked → (call f).blanked = (other g).blanked) :
    (x.toOption.map call).map Executor.Call.blanked =
      (y.toOption.map other).map Executor.Call.blanked := by
  rw [FiltersAlike] at alike
  generalize x.toOption = x at alike ⊢
  generalize y.toOption = y at alike ⊢
  cases x with
  | none =>
    cases y with
    | none => rfl
    | some g => cases alike
  | some f =>
    cases y with
    | none => cases alike
    | some g => exact congrArg some (same f g (Option.some.inj alike))

theorem select (columns : List String) :
    (x.toOption.map (.select table columns)).map Executor.Call.blanked =
      (y.toOption.map (.select table columns)).map Executor.Call.blanked := by
  refine alike.calls fun f g same => ?_
  simp only [Executor.Call.blanked, same]

theorem update {data other : Record} (changed : data.blanked = other.blanked) :
    (x.toOption.map (.update table data)).map Executor.Call.blanked =
      (y.toOption.map (.update table other)).map Executor.Call.blanked := by
  refine alike.calls fun f g same => ?_
  simp only [Executor.Call.blanked, changed, same]

theorem delete :
    (x.toOption.map (.delete table)).map Executor.Call.blanked =
      (y.toOption.map (.delete table)).map Executor.Call.blanked := by
  refine alike.calls fun f g same => ?_
  simp only [Executor.Call.blanked, same]

end FiltersAlike

theorem Users.identified_alike (userId userId' : Int) :
    FiltersAlike (identified userId) (identified userId') :=
  .of_builders (by simp only [FilterBuilder.blanked_eq]; rfl)

theorem Users.mailed_alike (email email' : String) :
    FiltersAlike (orFilter (FilterBuilder.empty.eq "email" (.text email)).build)
      (orFilter (FilterBuilder.empty.eq "email" (.text email')).build) :=
  .of_builders (by simp only [FilterBuilder.blanked_eq]; rfl)

theorem Todos.owned_alike (userId userId' todoId todoId' : Int) :
    FiltersAlike (owned userId todoId) (owned userId' todoId') :=
  .of_builders (by simp only [FilterBuilder.blanked_eq]; rfl)

theorem Users.namedOrMailed_alike {name name' email email' : Option String}
    (names : name.isSome = name'.isSome) (emails : email.isSome = email'.isSome) :
    FiltersAlike (namedOrMailed name email) (namedOrMailed name' email') := by
  have missing : (name.isNone && email.isNone) = (name'.isNone && email'.isNone) := by
    rw [← Option.not_isSome, ← Option.not_isSome, names, emails, Option.not_isSome,
      Option.not_isSome]
  simp only [namedOrMailed, missing]
  split
  · rfl
  · refine .of_builders ?_
    simp only [FilterBuilder.blanked_nested, FilterBuilder.blanked_eqGiven]
    rw [Scalar.map_blanked_of_isSome _ .text names, Scalar.map_blanked_of_isSome _ .text emails]

theorem Todos.listing_alike (userId userId' : Int) {completed completed' : Option Bool}
    {search search' : Option String} (flags : completed.isSome = completed'.isSome)
    (texts : (wanted search).isSome = (wanted search').isSome) :
    FiltersAlike (orFilter (listing userId completed search).build)
      (orFilter (listing userId' completed' search').build) := by
  refine .of_builders ?_
  have owner : ((FilterBuilder.empty.eq "user_id" (.integer userId)).eqGiven "completed"
        (completed.map .bool)).blanked =
      ((FilterBuilder.empty.eq "user_id" (.integer userId')).eqGiven "completed"
        (completed'.map .bool)).blanked := by
    rw [FilterBuilder.blanked_eqGiven, FilterBuilder.blanked_eqGiven, FilterBuilder.blanked_eq,
      FilterBuilder.blanked_eq, Scalar.map_blanked_of_isSome _ .bool flags]
    rfl
  simp only [listing]
  cases searched : wanted search with
  | none =>
    cases searched' : wanted search' with
    | none => exact owner
    | some text' => simp [searched, searched'] at texts
  | some text =>
    cases searched' : wanted search' with
    | none => simp [searched, searched'] at texts
    | some text' =>
      simp only [FilterBuilder.blanked_nested, FilterBuilder.blanked_condition, owner]
      rfl

namespace Operation

/-- Whether two operations are of one kind, have the same optional arguments and batches of the same
size. A search text counts as present unless it is blank. -/
def Alike : Operation → Operation → Prop
  | insertUser .., insertUser .. => True
  | getUser _, getUser _ => True
  | findUser name email, findUser name' email' =>
    name.isSome = name'.isSome ∧ email.isSome = email'.isSome
  | updateUser _ name email password, updateUser _ name' email' password' =>
    name.isSome = name'.isSome ∧ email.isSome = email'.isSome ∧
      password.isSome = password'.isSome
  | deleteUser _, deleteUser _ => True
  | authenticate .., authenticate .. => True
  | listTodos _ completed search, listTodos _ completed' search' =>
    completed.isSome = completed'.isSome ∧
      (Todos.wanted search).isSome = (Todos.wanted search').isSome
  | getTodo .., getTodo .. => True
  | insertTodo .., insertTodo .. => True
  | insertTodos _ todos, insertTodos _ todos' => todos.length = todos'.length
  | updateTodo _ _ title description, updateTodo _ _ title' description' =>
    title.isSome = title'.isSome ∧ description.isSome = description'.isSome
  | isCompleted .., isCompleted .. => True
  | toggle .., toggle .. => True
  | deleteTodo .., deleteTodo .. => True
  | _, _ => False

/-- Operations that are alike open with calls that differ in values alone. -/
theorem blanked_opening (m m' : Moment) {a b : Operation} (alike : a.Alike b) :
    (a.opening m).map Executor.Call.blanked = (b.opening m').map Executor.Call.blanked := by
  unfold Alike at alike
  split at alike
  · next =>
    simp only [opening, Option.map_some, Executor.Call.blanked]
    rw [Users.blanked_newRecord]
  · next userId userId' => exact (Users.identified_alike userId userId').select _ _
  · next => exact (Users.namedOrMailed_alike alike.1 alike.2).select _ _
  · next userId _ _ _ userId' _ _ _ =>
    obtain ⟨names, emails, passwords⟩ := alike
    have changed := Users.blanked_changes m.now m'.now m.salt m'.salt names emails passwords
    exact (Users.identified_alike userId userId').update _ changed
  · next userId userId' => exact (Users.identified_alike userId userId').delete _
  · next email _ email' _ => exact (Users.mailed_alike email email').select _ _
  · next userId _ _ userId' _ _ =>
    exact (Todos.listing_alike userId userId' alike.1 alike.2).select _ _
  · next userId todoId userId' todoId' =>
    exact (Todos.owned_alike userId userId' todoId todoId').select _ _
  · next =>
    simp only [opening, Option.map_some, Executor.Call.blanked]
    rw [NewTodo.blanked_toRecord]
  · next userId todos userId' todos' =>
    simp only [opening, Option.map_some, Executor.Call.blanked]
    rw [NewTodo.blanked_toRecords userId userId' m.now.text m'.now.text alike]
  · next userId todoId _ _ userId' todoId' _ _ =>
    have changed := Todos.blanked_changes m.now m'.now alike.1 alike.2
    exact (Todos.owned_alike userId userId' todoId todoId').update _ changed
  · next userId todoId userId' todoId' =>
    exact (Todos.owned_alike userId userId' todoId todoId').select _ _
  · next userId todoId userId' todoId' =>
    exact (Todos.owned_alike userId userId' todoId todoId').select _ _
  · next userId todoId userId' todoId' =>
    exact (Todos.owned_alike userId userId' todoId todoId').delete _
  · exact alike.elim

/-- The text of the first statement that an operation hands to a runner, if it hands over any. -/
def firstText {σ : Type} (r : Runner σ) (moment : Moment) (operation : Operation) (state : σ) :
    Option String :=
  (operation.run (Executor.noting r) moment (state, [])).2.2.head?.map fun s => s.written.text

theorem texts_opened (d : Dialect) (moment : Moment) (operation : Operation) :
    (operation.opened d moment).map (fun s => s.written.text) =
      ((operation.opening moment).map Executor.Call.blanked).elim []
        fun call => (call.text? d).toOption.join.toList := by
  rw [opened]
  cases operation.opening moment with
  | none => rfl
  | some call =>
    simp only [Option.map_some, Option.elim_some, Executor.Call.texts_issued,
      Executor.Call.text?_blanked]

theorem firstText_eq_of_alike {σ τ : Type} {r : Runner σ} {r' : Runner τ}
    (same : r.dialect = r'.dialect) {a b : Operation} (alike : a.Alike b) (m m' : Moment)
    (state : σ) (state' : τ) : a.firstText r m state = b.firstText r' m' state' := by
  have texts : (a.opened r.dialect m).map (fun s => s.written.text) =
      (b.opened r'.dialect m').map fun s => s.written.text := by
    rw [texts_opened, texts_opened, blanked_opening m m' alike, same]
  rw [firstText, firstText, opens, opens, ← List.head?_map, ← List.head?_map, texts]

end Operation

/-- **Values never influence text.** What differs in values alone is written as the same text or
refused for the same reason: condition text, and the calls of the executor. The first statement of
an operation has the same text whatever its arguments are, as long as the operations are alike and
the runners speak one dialect. -/
theorem text_independent_of_values :
    (∀ (d : Dialect) (connective : Connective) (bound : Nat) (nodes nodes' : List Node),
      Node.allBlanked nodes = Node.allBlanked nodes' →
      (Fragment.ofNodes d connective bound nodes).text =
        (Fragment.ofNodes d connective bound nodes').text) ∧
    (∀ (d : Dialect) (call call' : Executor.Call),
      call.blanked = call'.blanked → call.text? d = call'.text? d) ∧
    (∀ (σ τ : Type) (r : Runner σ) (r' : Runner τ) (a b : Operation) (m m' : Moment) (state : σ)
      (state' : τ),
      r.dialect = r'.dialect → a.Alike b →
      a.firstText r m state = b.firstText r' m' state') := by
  refine ⟨?_, ?_, ?_⟩
  · intro d connective bound nodes nodes' same
    have blanked := Fragment.ofNodes_blanked d connective bound
    rw [← Fragment.text_blanked, ← blanked nodes, same, blanked nodes', Fragment.text_blanked]
  · intro d call call' same
    exact Executor.Call.text?_eq_of_blanked same d
  · intro σ τ r r' a b m m' state state' same alike
    exact Operation.firstText_eq_of_alike same alike m m' state state'

/-- A runner that finds nothing and changes nothing. -/
def idleRunner (d : Dialect) : Runner Unit where
  dialect := d
  fetch _ state := (.ok [], state)
  execute _ state := (.ok ⟨none, 0⟩, state)

/-- A search for a text that tries to break out of its statement. -/
def hostileSearch : Operation :=
  .listTodos 1 (some true) (some " \x27 OR 1 = 1 -- ")

/-- A search for nothing special. -/
def plainSearch : Operation :=
  .listTodos 2 (some false) (some "milk")

theorem text_of_hostileSearch :
    (Fragment.ofNodes .sqlite .or 0 [.condition ⟨"id", .eq, .text "\x27"⟩]).text =
      (Fragment.ofNodes .sqlite .or 0 [.condition ⟨"id", .eq, .null⟩]).text ∧
    (Executor.Call.insertAll "todos" [.ofList [("title", .text "?")]]).text? .postgres =
      (Executor.Call.insertAll "todos" [.ofList [("title", .text "$1")]]).text? .postgres ∧
    hostileSearch.firstText (idleRunner .sqlite) default () =
      plainSearch.firstText (idleRunner .sqlite) default () := by
  obtain ⟨fragments, calls, operations⟩ := text_independent_of_values
  have searched : hostileSearch.Alike plainSearch := by
    refine ⟨rfl, ?_⟩
    decide
  refine ⟨fragments .sqlite .or 0 _ _ rfl, calls .postgres _ _ rfl, ?_⟩
  exact operations Unit Unit _ _ hostileSearch plainSearch default default () () rfl searched

end TodoServer
