import TodoServer.Proofs.Store.Basic
import Mathlib.Data.List.Find

/-!
# Changes of a store

What one write can do to a store, as one relation with a case for each kind of write. A change keeps
a store valid, and ids that it issues lie above all that were issued before.
-/

namespace TodoServer

/-- A todo with the opposite of the flag that was seen. -/
def Todo.flipped (seen : Bool) (time : String) (t : Todo) : Todo :=
  { t with completed := !seen, updatedAt := time }

namespace Store

/-- What a write does to a store. -/
inductive Change (s : Store) : Store → Prop
  | none : Change s s
  | userAdded (user : User) :
    user.id = s.lastUser + 1 → checkUser s.users user = .ok () →
    Change s { s with users := s.users ++ [user], lastUser := user.id }
  | userChanged (old new : User) :
    new.id = old.id → checkUser (s.users.filter (·.id ≠ old.id)) new = .ok () →
    Change s { s with users := s.users.map fun u => if u.id = old.id then new else u }
  | userDropped (userId : Int) : Change s (s.dropUser userId).2
  | todosAdded (userId last : Int) (added : List Todo) :
    s.hasUser userId = true → (∀ t ∈ added, t.userId = userId ∧ s.lastTodo < t.id) →
    (∀ t ∈ added, t.fault? = .none) → s.lastTodo ≤ last → Issued (added.map Todo.id) last →
    Change s { s with todos := s.todos ++ added, lastTodo := last }
  | todoChanged (old new : Todo) :
    old ∈ s.todos → new.id = old.id → new.userId = old.userId → new.completed = old.completed →
    new.fault? = .none →
    Change s { s with todos := s.todos.map fun t => if t.id = old.id then new else t }
  | todoDropped (userId todoId : Int) : Change s (s.dropTodo userId todoId).2

/-- What the write of a toggle does to a store that holds the todo with the flag that was seen. -/
inductive Flip (userId todoId : Int) (seen : Bool) (s : Store) : Store → Prop
  | flipped (old new : Todo) :
    old ∈ s.todos → old.id = todoId ∧ old.userId = userId ∧ old.completed = seen →
    new.id = old.id → new.userId = old.userId → new.completed = !seen → new.fault? = .none →
    Flip userId todoId seen s
      { s with todos := s.todos.map fun t => if t.id = old.id then new else t }

variable {s s' : Store}

/-! ## Validity -/

theorem checkUser_eq_ok_iff {others : List User} {u : User} :
    checkUser others u = .ok () ↔ u.fault? = none ∧ ∀ x ∈ others, x.email ≠ u.email := by
  rw [checkUser]
  cases u.fault? with
  | some check => simp
  | none => by_cases used : others.any (·.email = u.email) <;> simp_all

theorem checkTodo_eq_ok_iff {t : Todo} : checkTodo t = .ok () ↔ t.fault? = none := by
  rw [checkTodo]
  cases t.fault? <;> simp

theorem hasUser_iff {userId : Int} : s.hasUser userId = true ↔ userId ∈ s.users.map User.id := by
  simp [hasUser]

theorem hasUser_dropUser (s : Store) (userId id : Int) :
    (s.dropUser userId).2.hasUser id = (s.hasUser id && decide (id ≠ userId)) := by
  rw [Bool.eq_iff_iff, Bool.and_eq_true, decide_eq_true_iff, hasUser_iff, hasUser_iff]
  constructor
  · intro mem
    obtain ⟨u, kept, rfl⟩ := List.mem_map.1 mem
    obtain ⟨held, other⟩ := List.mem_filter.1 kept
    exact ⟨List.mem_map_of_mem held, of_decide_eq_true other⟩
  · rintro ⟨mem, other⟩
    obtain ⟨u, held, rfl⟩ := List.mem_map.1 mem
    exact List.mem_map_of_mem (List.mem_filter.2 ⟨held, decide_eq_true other⟩)

/-- Replacing an item by one of the same key keeps the keys. -/
theorem map_replaced {α : Type} (key : α → Int) (xs : List α) {old new : α}
    (same : key new = key old) :
    (xs.map fun x => if key x = key old then new else x).map key = xs.map key := by
  rw [List.map_map]
  refine List.map_congr_left fun x _ => ?_
  by_cases found : key x = key old
  · simp [found, same]
  · simp [found]

namespace Valid

variable (valid : s.Valid)

include valid

theorem userAdded {user : User} (next : user.id = s.lastUser + 1)
    (checked : checkUser s.users user = .ok ()) :
    Valid { s with users := s.users ++ [user], lastUser := user.id } := by
  obtain ⟨sound, free⟩ := checkUser_eq_ok_iff.1 checked
  refine ⟨?_, valid.todoIds, ?_, ?_, ?_, valid.todos⟩
  · rw [List.map_append, List.map_singleton, next]
    exact valid.userIds.append_next
  · refine List.pairwise_append.2 ⟨valid.emails, List.pairwise_singleton _ _, ?_⟩
    intro u mem v new
    rw [List.mem_singleton.1 new]
    exact free u mem
  · intro t mem
    have owned := hasUser_iff.1 (valid.owners t mem)
    refine hasUser_iff.2 ?_
    rw [List.map_append]
    exact List.mem_append_left _ owned
  · intro u mem
    rcases List.mem_append.1 mem with old | new
    · exact valid.users u old
    · rw [List.mem_singleton.1 new]
      exact sound

theorem userChanged {old new : User} (same : new.id = old.id)
    (checked : checkUser (s.users.filter (·.id ≠ old.id)) new = .ok ()) :
    Valid { s with users := s.users.map fun u => if u.id = old.id then new else u } := by
  obtain ⟨sound, free⟩ := checkUser_eq_ok_iff.1 checked
  have ids := map_replaced User.id s.users same
  refine ⟨ids ▸ valid.userIds, valid.todoIds, ?_, ?_, ?_, valid.todos⟩
  · have apart : s.users.Pairwise (·.id ≠ ·.id) := List.pairwise_map.1 valid.userIds.nodup
    refine List.pairwise_map.2 ((valid.emails.and apart).imp_of_mem ?_)
    intro a b memA memB ⟨emails, distinct⟩
    by_cases foundA : a.id = old.id <;> by_cases foundB : b.id = old.id
    · exact absurd (foundA.trans foundB.symm) distinct
    · simpa [foundA, foundB] using (free b (by simp [memB, foundB])).symm
    · simpa [foundA, foundB] using free a (by simp [memA, foundA])
    · simpa [foundA, foundB] using emails
  · intro t mem
    refine hasUser_iff.2 ?_
    rw [ids]
    exact hasUser_iff.1 (valid.owners t mem)
  · intro u mem
    obtain ⟨v, held, rfl⟩ := List.mem_map.1 mem
    by_cases found : v.id = old.id
    · simpa [found] using sound
    · simpa [found] using valid.users v held

/-- No todo outlives its owner. -/
theorem userDropped (userId : Int) : (s.dropUser userId).2.Valid := by
  have kept : (s.users.filter (·.id ≠ userId)).Sublist s.users := List.filter_sublist
  refine ⟨valid.userIds.sublist (kept.map _), valid.todoIds.sublist (List.filter_sublist.map _),
    valid.emails.sublist kept, ?_, ?_, ?_⟩
  · intro t mem
    obtain ⟨held, other⟩ := List.mem_filter.1 mem
    rw [hasUser_dropUser, valid.owners t held]
    exact other
  · exact fun u mem => valid.users u (List.mem_filter.1 mem).1
  · exact fun t mem => valid.todos t (List.mem_filter.1 mem).1

theorem todosAdded {userId last : Int} {added : List Todo} (owner : s.hasUser userId = true)
    (fresh : ∀ t ∈ added, t.userId = userId ∧ s.lastTodo < t.id)
    (sound : ∀ t ∈ added, t.fault? = none) (more : s.lastTodo ≤ last)
    (issued : Issued (added.map Todo.id) last) :
    Valid { s with todos := s.todos ++ added, lastTodo := last } := by
  refine ⟨valid.userIds, ⟨?_, ?_, issued.last_nonneg⟩, valid.emails, ?_, valid.users, ?_⟩
  · rw [List.map_append]
    refine List.pairwise_append.2 ⟨valid.todoIds.ascending, issued.ascending, ?_⟩
    intro id old id' new
    obtain ⟨t, mem, rfl⟩ := List.mem_map.1 new
    have bound := valid.todoIds.le_last id old
    have above := (fresh t mem).2
    omega
  · intro id mem
    rw [List.map_append] at mem
    rcases List.mem_append.1 mem with old | new
    · exact Int.le_trans (valid.todoIds.le_last id old) more
    · exact issued.le_last id new
  · intro t mem
    rcases List.mem_append.1 mem with old | new
    · exact valid.owners t old
    · rw [(fresh t new).1]
      exact owner
  · intro t mem
    rcases List.mem_append.1 mem with old | new
    · exact valid.todos t old
    · exact sound t new

theorem todoReplaced {old new : Todo} (held : old ∈ s.todos) (same : new.id = old.id)
    (owner : new.userId = old.userId) (sound : new.fault? = none) :
    Valid { s with todos := s.todos.map fun t => if t.id = old.id then new else t } := by
  have ids := map_replaced Todo.id s.todos same
  refine ⟨valid.userIds, ids ▸ valid.todoIds, valid.emails, ?_, valid.users, ?_⟩
  · intro t mem
    obtain ⟨x, stored, rfl⟩ := List.mem_map.1 mem
    by_cases found : x.id = old.id
    · simpa [found, owner, hasUser] using valid.owners old held
    · simpa [found, hasUser] using valid.owners x stored
  · intro t mem
    obtain ⟨x, stored, rfl⟩ := List.mem_map.1 mem
    by_cases found : x.id = old.id
    · simpa [found] using sound
    · simpa [found] using valid.todos x stored

theorem todoDropped (userId todoId : Int) : (s.dropTodo userId todoId).2.Valid :=
  ⟨valid.userIds, valid.todoIds.sublist (List.filter_sublist.map _), valid.emails,
    fun t mem => valid.owners t (List.mem_filter.1 mem).1, valid.users,
    fun t mem => valid.todos t (List.mem_filter.1 mem).1⟩

/-- Every write keeps all constraints. -/
theorem change (step : s.Change s') : s'.Valid := by
  cases step with
  | none => exact valid
  | userAdded user next checked => exact valid.userAdded next checked
  | userChanged old new same checked => exact valid.userChanged same checked
  | userDropped userId => exact valid.userDropped userId
  | todosAdded userId last added owner fresh sound more issued =>
    exact valid.todosAdded owner fresh sound more issued
  | todoChanged old new held same owner flag sound =>
    exact valid.todoReplaced held same owner sound
  | todoDropped userId todoId => exact valid.todoDropped userId todoId

theorem flip {userId todoId : Int} {seen : Bool} (step : Flip userId todoId seen s s') :
    s'.Valid := by
  cases step with
  | flipped old new held _ same owner _ sound => exact valid.todoReplaced held same owner sound

end Valid

/-! ## Ids -/

/-- What comes later: counters do not go back, and what was not there has an id above them. -/
structure Follows (s s' : Store) : Prop where
  lastUser : s.lastUser ≤ s'.lastUser
  lastTodo : s.lastTodo ≤ s'.lastTodo
  users : ∀ id ∈ s'.users.map User.id, id ∈ s.users.map User.id ∨ s.lastUser < id
  todos : ∀ id ∈ s'.todos.map Todo.id, id ∈ s.todos.map Todo.id ∨ s.lastTodo < id

theorem Follows.refl (s : Store) : s.Follows s :=
  ⟨Int.le_refl _, Int.le_refl _, fun _ => .inl, fun _ => .inl⟩

/-- A store with the same ids and counters. -/
theorem Follows.todoReplaced {old new : Todo} (same : new.id = old.id) :
    s.Follows { s with todos := s.todos.map fun t => if t.id = old.id then new else t } := by
  refine ⟨Int.le_refl _, Int.le_refl _, fun _ => .inl, ?_⟩
  intro id mem
  rw [map_replaced Todo.id s.todos same] at mem
  exact .inl mem

theorem Change.follows (step : s.Change s') : s.Follows s' := by
  cases step with
  | none => exact .refl s
  | userAdded user next =>
    refine ⟨by simp only [next]; omega, Int.le_refl _, ?_, fun _ => .inl⟩
    intro id mem
    rw [List.map_append] at mem
    rcases List.mem_append.1 mem with old | new
    · exact .inl old
    · rw [List.map_singleton, List.mem_singleton, next] at new
      exact .inr (by omega)
  | userChanged old new same =>
    refine ⟨Int.le_refl _, Int.le_refl _, ?_, fun _ => .inl⟩
    intro id mem
    rw [map_replaced User.id s.users same] at mem
    exact .inl mem
  | userDropped userId =>
    exact ⟨Int.le_refl _, Int.le_refl _,
      fun _ mem => .inl ((List.filter_sublist.map _).subset mem),
      fun _ mem => .inl ((List.filter_sublist.map _).subset mem)⟩
  | todosAdded userId last added owner fresh sound more =>
    refine ⟨Int.le_refl _, more, fun _ => .inl, ?_⟩
    intro id mem
    rw [List.map_append] at mem
    rcases List.mem_append.1 mem with old | new
    · exact .inl old
    · obtain ⟨t, held, rfl⟩ := List.mem_map.1 new
      exact .inr (fresh t held).2
  | todoChanged old new held same => exact .todoReplaced same
  | todoDropped userId todoId =>
    exact ⟨Int.le_refl _, Int.le_refl _, fun _ => .inl,
      fun _ mem => .inl ((List.filter_sublist.map _).subset mem)⟩

theorem Flip.follows {userId todoId : Int} {seen : Bool} (step : Flip userId todoId seen s s') :
    s.Follows s' := by
  cases step with
  | flipped old new _ _ same => exact .todoReplaced same

/-! ## Flags -/

/-- The flag of the todo of an id and an owner. -/
def flag? (s : Store) (userId todoId : Int) : Option Bool :=
  (s.todo? userId todoId).map Todo.completed

/-- A search among the items that meet a condition which is the same for all that are sought. -/
theorem find?_filter_of_const {α : Type} {p q : α → Bool} {kept : Bool}
    (const : ∀ x, p x = true → q x = kept) (xs : List α) :
    (xs.filter q).find? p = if kept then xs.find? p else none := by
  induction xs with
  | nil => cases kept <;> rfl
  | cons x rest ih =>
    cases sought : p x with
    | true =>
      have same := const x sought
      cases kept <;> simp_all
    | false =>
      rw [List.find?_cons, sought, ← ih, List.filter_cons]
      split
      · rw [List.find?_cons, sought]
      · rfl

theorem mem_of_todo? {userId todoId : Int} {t : Todo} (found : s.todo? userId todoId = some t) :
    t ∈ s.todos ∧ t.id = todoId ∧ t.userId = userId := by
  have sought := List.find?_some found
  simp only [Bool.and_eq_true, decide_eq_true_eq] at sought
  exact ⟨List.mem_of_find?_eq_some found, sought⟩

theorem Valid.todo?_of_mem (valid : s.Valid) {t : Todo} (held : t ∈ s.todos) :
    s.todo? t.userId t.id = some t := by
  cases found : s.todo? t.userId t.id with
  | none =>
    have absent := List.find?_eq_none.1 found t held
    simp at absent
  | some x =>
    obtain ⟨stored, same, _⟩ := mem_of_todo? found
    rw [valid.todoIds.eq_of_same stored held same]

theorem todo?_replaced {old new : Todo} (same : new.id = old.id) (owner : new.userId = old.userId)
    (held : old ∈ s.todos) (valid : s.Valid) (userId todoId : Int) :
    ({ s with todos := s.todos.map fun t => if t.id = old.id then new else t } : Store).todo?
      userId todoId =
      (s.todo? userId todoId).map fun t => if t.id = old.id then new else t := by
  have kept : ∀ t ∈ s.todos, ((if t.id = old.id then new else t).id = todoId &&
      (if t.id = old.id then new else t).userId = userId) =
        (decide (t.id = todoId) && decide (t.userId = userId)) := by
    intro t mem
    by_cases found : t.id = old.id
    · rw [valid.todoIds.eq_of_same mem held found, if_pos rfl, same, owner]
    · rw [if_neg found]
  simp only [todo?, List.find?_map]
  congr 1
  exact List.find?_congr kept

/-- Apart from a flip, a write keeps the flag of a known todo or removes the todo. -/
theorem Change.flag? (step : s.Change s') (valid : s.Valid) {userId todoId : Int}
    (known : todoId ≤ s.lastTodo) :
    s'.flag? userId todoId = s.flag? userId todoId ∨ s'.flag? userId todoId = .none := by
  cases step with
  | none | userAdded | userChanged => exact .inl rfl
  | userDropped dropped =>
    have const : ∀ t : Todo, (t.id = todoId && t.userId = userId) = true →
        decide (t.userId ≠ dropped) = decide (userId ≠ dropped) := by
      intro t sought
      simp_all
    simp only [Store.flag?, todo?, dropUser, find?_filter_of_const const]
    split
    · exact .inl rfl
    · exact .inr rfl
  | todosAdded owner last added _ fresh =>
    have absent : added.find? (fun t => t.id = todoId && t.userId = userId) = .none := by
      rw [List.find?_eq_none]
      intro t mem
      have above := (fresh t mem).2
      simp only [Bool.and_eq_true, decide_eq_true_eq, not_and]
      omega
    left
    simp only [Store.flag?, todo?, List.find?_append, absent, Option.or_none]
  | todoChanged old new held same owner flag =>
    left
    rw [Store.flag?, Store.flag?, todo?_replaced same owner held valid, Option.map_map]
    refine Option.map_congr fun t found => ?_
    by_cases replaced : t.id = old.id
    · have stored := (mem_of_todo? found).1
      simp [valid.todoIds.eq_of_same stored held replaced, flag]
    · simp [replaced]
  | todoDropped owner dropped =>
    have const : ∀ t : Todo, (t.id = todoId && t.userId = userId) = true →
        (!(t.id = dropped && t.userId = owner)) = !(todoId = dropped && userId = owner) := by
      intro t sought
      simp_all
    simp only [Store.flag?, todo?, dropTodo, find?_filter_of_const const]
    split
    · exact .inl rfl
    · exact .inr rfl

/-- A flip turns the flag that was seen around. -/
theorem Flip.flag? {userId todoId : Int} {seen : Bool} (step : Flip userId todoId seen s s')
    (valid : s.Valid) :
    s.flag? userId todoId = some seen ∧ s'.flag? userId todoId = some !seen := by
  cases step with
  | flipped old new held chosen same owner flag =>
    obtain ⟨rfl, rfl, rfl⟩ := chosen
    have found := valid.todo?_of_mem held
    rw [Store.flag?, Store.flag?, todo?_replaced same owner held valid, found]
    simp [flag]

/-- A flip of one todo keeps the flags of all others. -/
theorem Flip.flag?_of_ne {userId todoId : Int} {seen : Bool} (step : Flip userId todoId seen s s')
    (valid : s.Valid) {userId' todoId' : Int} (other : (userId', todoId') ≠ (userId, todoId)) :
    s'.flag? userId' todoId' = s.flag? userId' todoId' := by
  cases step with
  | flipped old new held chosen same owner flag =>
    obtain ⟨rfl, rfl, rfl⟩ := chosen
    rw [Store.flag?, Store.flag?, todo?_replaced same owner held valid, Option.map_map]
    refine Option.map_congr fun t found => ?_
    obtain ⟨stored, rfl, rfl⟩ := mem_of_todo? found
    have apart : t.id ≠ old.id := by
      intro replaced
      rw [valid.todoIds.eq_of_same stored held replaced] at other
      exact other rfl
    simp [apart]

/-! ## Accounts that are found -/

theorem mem_of_user? {userId : Int} {u : User} (found : s.user? userId = some u) :
    u ∈ s.users ∧ u.id = userId :=
  ⟨List.mem_of_find?_eq_some found, by simpa using List.find?_some found⟩

theorem Valid.user?_of_mem (valid : s.Valid) {u : User} (held : u ∈ s.users) :
    s.user? u.id = some u := by
  cases found : s.user? u.id with
  | none =>
    have absent := List.find?_eq_none.1 found u held
    simp at absent
  | some x =>
    obtain ⟨stored, same⟩ := mem_of_user? found
    rw [valid.userIds.eq_of_same stored held same]

/-- Accounts are told apart by their emails. -/
theorem Valid.eq_of_email (valid : s.Valid) {u v : User} (heldU : u ∈ s.users) (heldV : v ∈ s.users)
    (same : u.email = v.email) : u = v :=
  List.inj_on_of_nodup_map (List.pairwise_map.2 valid.emails) heldU heldV same

/-- An account is there or has no row. -/
theorem hasUser_eq_isSome (s : Store) (userId : Int) :
    s.hasUser userId = (s.user? userId).isSome := by
  rw [hasUser, user?, List.isSome_find?]

/-! ## What writes change -/

/-- The todos that new ones become, with the ids after the last one issued. -/
def newTodos (userId : Int) (time : String) : Int → List NewTodo → List Todo
  | _, [] => []
  | last, new :: rest =>
    ⟨last + 1, new.title, new.description, false, userId, time, time⟩ ::
      newTodos userId time (last + 1) rest

theorem addUser_eq_ok {name email hash time : String} {id : Int}
    (added : s.addUser name email hash time = .ok (id, s')) :
    id = s.lastUser + 1 ∧ checkUser s.users ⟨id, name, email, hash, time, time⟩ = .ok () ∧
      s' =
        { s with users := s.users ++ [⟨id, name, email, hash, time, time⟩], lastUser := id } := by
  rw [addUser] at added
  split at added
  · cases added
  · cases checked : checkUser s.users ⟨s.lastUser + 1, name, email, hash, time, time⟩ with
    | error e =>
      simp only [checked, bind, Except.bind] at added
      cases added
    | ok _ =>
      simp only [checked, bind, Except.bind] at added
      cases added
      exact ⟨rfl, checked, rfl⟩

theorem addTodo_eq_ok {userId : Int} {time : String} {new : NewTodo}
    (added : s.addTodo userId time new = .ok s') :
    Todo.fault? ⟨s.lastTodo + 1, new.title, new.description, false, userId, time, time⟩ = none ∧
      s' = { s with
        todos :=
          s.todos ++ [⟨s.lastTodo + 1, new.title, new.description, false, userId, time, time⟩]
        lastTodo := s.lastTodo + 1 } := by
  rw [addTodo] at added
  split at added
  · cases added
  · cases checked :
        checkTodo ⟨s.lastTodo + 1, new.title, new.description, false, userId, time, time⟩ with
    | error e =>
      simp only [checked, bind, Except.bind] at added
      cases added
    | ok _ =>
      simp only [checked, bind, Except.bind] at added
      cases added
      exact ⟨checkTodo_eq_ok_iff.1 checked, rfl⟩

theorem foldlM_addTodo_eq_ok {userId : Int} {time : String} {new : List NewTodo}
    (added : new.foldlM (fun s new => s.addTodo userId time new) s = .ok s') :
    (∀ t ∈ newTodos userId time s.lastTodo new, t.fault? = none) ∧
      s' = { s with
        todos := s.todos ++ newTodos userId time s.lastTodo new
        lastTodo := s.lastTodo + new.length } := by
  induction new generalizing s with
  | nil =>
    cases added
    simp [newTodos]
  | cons first rest ih =>
    rw [List.foldlM_cons] at added
    cases one : s.addTodo userId time first with
    | error e =>
      rw [one] at added
      cases added
    | ok mid =>
      rw [one] at added
      obtain ⟨sound, rfl⟩ := addTodo_eq_ok one
      obtain ⟨others, rfl⟩ := ih added
      refine ⟨?_, ?_⟩
      · intro t mem
        rcases List.mem_cons.1 mem with here | later
        · rw [here]
          exact sound
        · exact others t later
      · simp only [newTodos, List.append_assoc, List.singleton_append, List.length_cons]
        congr 1
        omega

theorem addTodos_eq_ok {userId id : Int} {time : String} {new : List NewTodo}
    (added : s.addTodos userId time new = .ok (id, s')) :
    id = s.lastTodo + new.length ∧ s.hasUser userId = true ∧
      (∀ t ∈ newTodos userId time s.lastTodo new, t.fault? = none) ∧
      s' = { s with todos := s.todos ++ newTodos userId time s.lastTodo new, lastTodo := id } := by
  rw [addTodos] at added
  cases all : new.foldlM (fun s new => s.addTodo userId time new) s with
  | error e =>
    rw [all] at added
    cases added
  | ok final =>
    obtain ⟨sound, rfl⟩ := foldlM_addTodo_eq_ok all
    simp only [all, bind, Except.bind] at added
    split at added
    · next owner =>
      cases added
      exact ⟨rfl, owner, sound, rfl⟩
    · cases added

/-- A user that keeps all constraints is stored. -/
theorem addUser_of_checked {name email hash time : String}
    (room : s.lastUser < Storage.Database.keyLimit)
    (checked : checkUser s.users ⟨s.lastUser + 1, name, email, hash, time, time⟩ = .ok ()) :
    s.addUser name email hash time = .ok (s.lastUser + 1,
      { s with
        users := s.users ++ [⟨s.lastUser + 1, name, email, hash, time, time⟩]
        lastUser := s.lastUser + 1 }) := by
  have next : ¬Storage.Database.keyLimit < s.lastUser + 1 := by omega
  simp only [addUser, next, if_false, checked, bind, Except.bind]

/-- A todo that keeps all constraints is stored. -/
theorem addTodos_of_checked {userId : Int} {time : String} {new : NewTodo}
    (room : s.lastTodo < Storage.Database.keyLimit) (owner : s.hasUser userId = true)
    (checked : checkTodo ⟨s.lastTodo + 1, new.title, new.description, false, userId, time, time⟩ =
      .ok ()) :
    s.addTodos userId time [new] = .ok (s.lastTodo + 1,
      { s with
        todos :=
          s.todos ++ [⟨s.lastTodo + 1, new.title, new.description, false, userId, time, time⟩]
        lastTodo := s.lastTodo + 1 }) := by
  have next : ¬Storage.Database.keyLimit < s.lastTodo + 1 := by omega
  have owned : (s.users.any fun u => decide (u.id = userId)) = true := owner
  simp only [addTodos, List.foldlM_cons, List.foldlM_nil, addTodo, next, if_false, checked, bind,
    Except.bind, pure, Except.pure, hasUser, owned, if_true]

theorem newTodos_spec (userId : Int) (time : String) (last : Int) (new : List NewTodo) :
    (∀ t ∈ newTodos userId time last new, t.userId = userId ∧ last < t.id) ∧
      ((newTodos userId time last new).map Todo.id).Pairwise (· < ·) ∧
      ∀ t ∈ newTodos userId time last new, t.id ≤ last + new.length := by
  induction new generalizing last with
  | nil => simp [newTodos]
  | cons first rest ih =>
    obtain ⟨owned, ascending, bound⟩ := ih (last + 1)
    refine ⟨?_, ?_, ?_⟩
    · intro t mem
      rcases List.mem_cons.1 mem with rfl | later
      · exact ⟨rfl, by simp only; omega⟩
      · have above := owned t later
        exact ⟨above.1, by omega⟩
    · rw [newTodos, List.map_cons]
      refine List.pairwise_cons.2 ⟨?_, ascending⟩
      intro id mem
      obtain ⟨t, held, rfl⟩ := List.mem_map.1 mem
      exact (owned t held).2
    · intro t mem
      rw [List.length_cons]
      rcases List.mem_cons.1 mem with rfl | later
      · simp only
        omega
      · have below := bound t later
        omega

theorem Change.of_addUser {name email hash time : String} {id : Int}
    (added : s.addUser name email hash time = .ok (id, s')) : s.Change s' := by
  obtain ⟨rfl, checked, rfl⟩ := addUser_eq_ok added
  exact .userAdded ⟨s.lastUser + 1, name, email, hash, time, time⟩ rfl checked

/-- A change of an account that was found touches that account alone. -/
theorem changeUser_eq_ok {userId : Int} {change : User → User} {count : Nat}
    (changed : s.changeUser userId change = .ok (count, s')) :
    (s.user? userId = none ∧ count = 0 ∧ s' = s) ∨
      ∃ user, s.user? userId = some user ∧ count = 1 ∧
        checkUser (s.users.filter (·.id ≠ user.id)) (change user) = .ok () ∧
        s' =
          { s with users := s.users.map fun u => if u.id = user.id then change user else u } := by
  rw [changeUser] at changed
  cases found : s.user? userId with
  | none =>
    rw [found] at changed
    cases changed
    exact .inl ⟨rfl, rfl, rfl⟩
  | some user =>
    obtain ⟨-, same⟩ := mem_of_user? found
    subst same
    rw [found] at changed
    cases checked : checkUser (s.users.filter (·.id ≠ user.id)) (change user) with
    | error e =>
      simp only [checked, bind, Except.bind] at changed
      cases changed
    | ok _ =>
      simp only [checked, bind, Except.bind] at changed
      cases changed
      exact .inr ⟨user, rfl, rfl, checked, rfl⟩

theorem Change.of_changeUser {userId : Int} {change : User → User} {count : Nat}
    (changed : s.changeUser userId change = .ok (count, s')) (keeps : ∀ u, (change u).id = u.id) :
    s.Change s' := by
  obtain ⟨_, _, rfl⟩ | ⟨user, _, _, checked, rfl⟩ := changeUser_eq_ok changed
  · exact .none
  · exact .userChanged user (change user) (keeps user) checked

theorem Change.of_addTodos (valid : s.Valid) {userId id : Int} {time : String} {new : List NewTodo}
    (added : s.addTodos userId time new = .ok (id, s')) : s.Change s' := by
  obtain ⟨rfl, owner, sound, rfl⟩ := addTodos_eq_ok added
  obtain ⟨owned, ascending, bound⟩ := newTodos_spec userId time s.lastTodo new
  have nonneg := valid.todoIds.last_nonneg
  refine .todosAdded userId _ _ owner owned sound (by omega) ⟨ascending, ?_, by omega⟩
  intro n mem
  obtain ⟨t, held, rfl⟩ := List.mem_map.1 mem
  exact bound t held

/-- A change of a todo that was found touches that todo alone. -/
theorem changeTodo_eq_ok {userId todoId : Int} {condition : Todo → Bool} {change : Todo → Todo}
    {count : Nat} (changed : s.changeTodo userId todoId condition change = .ok (count, s')) :
    ((s.todo? userId todoId).filter condition = none ∧ count = 0 ∧ s' = s) ∨
      ∃ todo, (s.todo? userId todoId).filter condition = some todo ∧ count = 1 ∧
        (change todo).fault? = none ∧
        s' =
          { s with todos := s.todos.map fun t => if t.id = todo.id then change todo else t } := by
  rw [changeTodo] at changed
  split at changed
  · next absent =>
    cases changed
    exact .inl ⟨absent, rfl, rfl⟩
  · next todo found =>
    obtain ⟨_, same, _⟩ := mem_of_todo? (Option.filter_eq_some_iff.1 found).1
    cases checked : checkTodo (change todo) with
    | error e =>
      simp only [checked, bind, Except.bind] at changed
      cases changed
    | ok _ =>
      simp only [checked, bind, Except.bind] at changed
      cases changed
      exact .inr ⟨todo, found, rfl, checkTodo_eq_ok_iff.1 checked, by rw [same]⟩

theorem Change.of_changeTodo {userId todoId : Int} {condition : Todo → Bool} {change : Todo → Todo}
    {count : Nat} (changed : s.changeTodo userId todoId condition change = .ok (count, s'))
    (keeps : ∀ t, (change t).id = t.id ∧ (change t).userId = t.userId ∧
      (change t).completed = t.completed) : s.Change s' := by
  obtain ⟨_, _, rfl⟩ | ⟨todo, found, _, sound, rfl⟩ := changeTodo_eq_ok changed
  · exact .none
  · obtain ⟨held, _, _⟩ := mem_of_todo? (Option.filter_eq_some_iff.1 found).1
    obtain ⟨same, owner, flag⟩ := keeps todo
    exact .todoChanged todo (change todo) held same owner flag sound

/-- The removal of an account that is not there changes nothing. -/
theorem Valid.dropUser_of_none (valid : s.Valid) {userId : Int} (missing : s.user? userId = none) :
    s.dropUser userId = (0, s) := by
  have users : s.users.filter (·.id ≠ userId) = s.users :=
    List.filter_eq_self.2 fun u held => by simpa using List.find?_eq_none.1 missing u held
  have todos : s.todos.filter (·.userId ≠ userId) = s.todos := by
    refine List.filter_eq_self.2 fun t held => decide_eq_true ?_
    rintro rfl
    have owner := valid.owners t held
    rw [hasUser_eq_isSome, missing] at owner
    cases owner
  rw [dropUser, missing, users, todos]
  rfl

/-- The removal of a todo that is not there changes nothing. -/
theorem dropTodo_of_none {userId todoId : Int} (missing : s.todo? userId todoId = none) :
    s.dropTodo userId todoId = (0, s) := by
  have todos : s.todos.filter (fun t => !(t.id = todoId && t.userId = userId)) = s.todos :=
    List.filter_eq_self.2 fun t held => by
      simpa [imp_iff_not_or] using List.find?_eq_none.1 missing t held
  rw [dropTodo, missing, todos]
  rfl

/-- A change of a todo that is not there changes nothing. -/
theorem changeTodo_of_none {userId todoId : Int} {condition : Todo → Bool} {change : Todo → Todo}
    (missing : s.todo? userId todoId = none) :
    s.changeTodo userId todoId condition change = .ok (0, s) := by
  rw [changeTodo, missing, Option.filter_none]

/-- A flag that is still what was seen is flipped. -/
theorem changeTodo_of_flag (valid : s.Valid) {userId todoId : Int} {seen : Bool} (time : String)
    (still : s.flag? userId todoId = some seen) :
    ∃ s', s.changeTodo userId todoId (·.completed = seen) (Todo.flipped seen time) = .ok (1, s') ∧
      Flip userId todoId seen s s' := by
  obtain ⟨todo, found, rfl⟩ := Option.map_eq_some_iff.1 still
  obtain ⟨held, rfl, rfl⟩ := mem_of_todo? found
  have sound : (todo.flipped todo.completed time).fault? = none := valid.todos todo held
  refine ⟨{ s with todos := s.todos.map fun t =>
    if t.id = todo.id then todo.flipped todo.completed time else t }, ?_,
    .flipped todo _ held ⟨rfl, rfl, rfl⟩ rfl rfl rfl sound⟩
  rw [changeTodo, found, Option.filter_some, if_pos (decide_eq_true rfl)]
  simp only [bind, Except.bind, checkTodo_eq_ok_iff.2 sound]

/-- A flag that is no longer what was seen is left alone. -/
theorem changeTodo_of_flag_ne {userId todoId : Int} {seen : Bool} (change : Todo → Todo)
    (other : s.flag? userId todoId ≠ some seen) :
    s.changeTodo userId todoId (·.completed = seen) change = .ok (0, s) := by
  have none : (s.todo? userId todoId).filter (·.completed = seen) = none := by
    rw [flag?] at other
    cases found : s.todo? userId todoId with
    | none => rfl
    | some todo =>
      rw [found, Option.map_some, ne_eq, Option.some_inj] at other
      rw [Option.filter_some, if_neg (by simpa using other)]
  rw [changeTodo, none]

end Store

end TodoServer
