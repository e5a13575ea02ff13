import TodoServer.Proofs.Api.Effect

/-!
# Submissions

What callers submit to be stored passes the rules of its form before it is written. The rules count
all characters of a text and the checks of the tables only those before the first NUL, so the rows
of what is accepted pass the checks as well unless a text holds a NUL where a check looks.
-/

namespace TodoServer

open Storage

/-! ## Texts as storage sees them -/

namespace Text

/-- Whether storage sees anything of a text: it does not start with NUL. -/
def isSeen (s : String) : Bool :=
  s.toList.head? ≠ some '\x00'

/-- Whether storage sees three signs of an email: the third one is not NUL. -/
def isSeenEmail (s : String) : Bool :=
  s.toList[2]? ≠ some '\x00'

/-- Of a text with a character storage sees one unless that is NUL. -/
theorem one_le_length_untilNul {s : String} (some : 1 ≤ s.length) :
    1 ≤ (untilNul s).length ↔ isSeen s = true := by
  rw [← String.length_toList] at some
  rw [untilNul, isSeen]
  cases spelled : s.toList with
  | nil => simp [spelled] at some
  | cons first others => by_cases null : first = '\x00' <;> simp [null]

theorem length_untilNul_le (s : String) : (untilNul s).length ≤ s.length := by
  rw [← String.length_toList, untilNul]
  exact (List.takeWhile_prefix _).length_le

end Text

namespace Address

/-- A text that is parted at its last at sign is made of the parts. -/
theorem eq_of_atLastSign? {cs user domain : List Char}
    (found : atLastSign? cs = some (user, domain)) : cs = user ++ '@' :: domain := by
  have whole : cs.reverse.takeWhile (· ≠ '@') ++ cs.reverse.dropWhile (· ≠ '@') = cs.reverse :=
    List.takeWhile_append_dropWhile
  rw [atLastSign?] at found
  cases rest : cs.reverse.dropWhile (· ≠ '@') with
  | nil =>
    rw [rest, List.append_nil] at whole
    rw [whole, List.reverse_reverse, if_neg (Nat.lt_irrefl _)] at found
    cases found
  | cons sign others =>
    have stops := List.head?_dropWhile_not (· ≠ '@') cs.reverse
    rw [rest] at stops whole
    have turned := congrArg List.reverse whole
    rw [List.reverse_reverse, List.reverse_append, List.reverse_cons] at turned
    have parted : cs.take (cs.length - (cs.reverse.takeWhile (· ≠ '@')).reverse.length - 1) =
        others.reverse := by
      generalize (cs.reverse.takeWhile (· ≠ '@')).reverse = domain at turned
      have length : cs.length - domain.length - 1 = others.reverse.length := by
        rw [← turned]
        simp only [List.length_append, List.length_singleton]
        omega
      rw [length, ← turned, List.append_assoc, List.take_left]
    simp only [Option.ite_none_right_eq_some, Option.some_inj, Prod.mk.injEq, parted] at found
    obtain ⟨-, rfl, rfl⟩ := found
    have sign : sign = '@' := by simpa using stops
    rw [sign, List.append_assoc] at turned
    exact turned.symm

/-- A user is not empty and holds no NUL. -/
theorem isUser_spec {cs : List Char} (user : isUser cs = true) : cs ≠ [] ∧ '\x00' ∉ cs := by
  rw [isUser, Bool.and_eq_true] at user
  refine ⟨by simpa using user.1, fun mem => ?_⟩
  have allowed := List.all_eq_true.1 user.2 _ mem
  revert allowed
  decide

/-- An email starts with two signs that are not NUL and has one more at least. -/
theorem isEmail_spec {s : String} (email : isEmail s = true) :
    ∃ first second third others, s.toList = first :: second :: third :: others ∧
      first ≠ '\x00' ∧ second ≠ '\x00' := by
  rw [isEmail] at email
  split at email
  · cases email
  · next user domain parted =>
    simp only [Bool.and_eq_true] at email
    obtain ⟨⟨-, named⟩, domained⟩ := email
    obtain ⟨some, plain⟩ := isUser_spec named
    have whole := eq_of_atLastSign? parted
    have domainSome : domain ≠ [] := by
      rintro rfl
      revert domained
      decide
    obtain ⟨d, domainRest, rfl⟩ := List.exists_cons_of_ne_nil domainSome
    -- Behind a user of one sign the third sign is the first of the domain, which may be NUL.
    match user, some, plain with
    | [first], _, plain =>
      exact ⟨first, '@', d, domainRest, whole, fun null => plain (by simp [null]), by decide⟩
    | first :: second :: rest, _, plain =>
      obtain ⟨third, others, more⟩ := List.exists_cons_of_ne_nil
        (List.append_ne_nil_of_right_ne_nil rest (List.cons_ne_nil '@' (d :: domainRest)))
      refine ⟨first, second, third, others, ?_, fun null => plain (by simp [null]),
        fun null => plain (by simp [null])⟩
      rw [whole, List.cons_append, List.cons_append, more]

end Address

/-- Of an email storage sees three signs unless the third one is NUL. -/
theorem Text.three_le_length_untilNul {s : String} (email : Address.isEmail s = true) :
    3 ≤ (untilNul s).length ↔ isSeenEmail s = true := by
  obtain ⟨first, second, third, others, spelled, one, two⟩ := Address.isEmail_spec email
  rw [untilNul, isSeenEmail, spelled]
  by_cases null : third = '\x00' <;> simp [one, two, null]

/-! ## Rows and their constraints -/

/-- Whether a row has a value where one is needed and passes all checks of its table. -/
def Storage.Row.Keeps (row : Row) (id : TableId) : Prop :=
  Database.missingColumn? id.schema row = none ∧ Database.failedCheck? id.schema row = none

/-- Whether data become a row when they are inserted into a table. -/
def Record.BecomesRow (data : Record) (id : TableId) (t : Table) (row : Row) : Prop :=
  ∃ positions, data.names.mapM (Database.dataPosition id.schema) = .ok positions ∧
    Database.assemble id.schema t positions data.values = .ok row

/-- Whether data turn a row of a table into another one when it is updated with them. -/
def Record.TurnsRow (data : Record) (id : TableId) (old row : Row) : Prop :=
  ∃ positions, data.names.mapM (Database.dataPosition id.schema) = .ok positions ∧
    Database.assignAll id.schema (positions.zip data.values) old = .ok row

theorem User.row_keeps_iff (u : User) : u.row.Keeps .users ↔ u.fault? = none := by
  rw [Row.Keeps, TableId.schema, Database.failedCheck?_user]
  exact and_iff_right rfl

theorem Todo.row_keeps_iff (t : Todo) : t.row.Keeps .todos ↔ t.fault? = none := by
  rw [Row.Keeps, TableId.schema, Database.failedCheck?_todo]
  exact and_iff_right rfl

namespace Api

/-! ## Submissions -/

/-- What a caller submits to be stored. -/
inductive Submission where
  | registration (account : Registration)
  | profile (change : ProfileChange)
  | todo (new : NewTodo)
  | batch (new : List NewTodo)
  | todoChange (change : TodoChange)

namespace Submission

/-- The rules of its form that a submission breaks. -/
def violations : Submission → List Violation
  | registration account => registrationForm.violations account
  | profile change => profileForm.violations change
  | todo new => newTodoForm.violations new
  | batch new => batchForm.violations new
  | todoChange change => todoChangeForm.violations change

/-- Whether no text of a submission holds a NUL where a check looks. -/
def isSeen : Submission → Bool
  | registration account => Text.isSeen account.name && Text.isSeenEmail account.email
  | profile change => change.name.all Text.isSeen && change.email.all Text.isSeenEmail
  | todo new => Text.isSeen new.title
  | batch new => new.all fun t => Text.isSeen t.title
  | todoChange change => change.title.all Text.isSeen

/-- The email that a submission asks for. -/
def email? : Submission → Option String
  | registration account => some account.email
  | profile change => change.email
  | _ => none

/-- The rows that a submission of a user is written as, new ones or changed ones of a database. -/
inductive Writes (moment : Moment) (userId : Int) (db : Database) :
    Submission → TableId → Row → Prop
  | registered (account : Registration) (t : Table) (row : Row) :
    (Users.newRecord moment.now moment.salt account.name account.email account.password).BecomesRow
      .users t row →
    Writes moment userId db (.registration account) .users row
  | profileChanged (change : ProfileChange) (old row : Row) :
    old ∈ db.rowsOf .users →
    (Users.changes moment.now moment.salt change.name change.email change.password).TurnsRow
      .users old row →
    Writes moment userId db (.profile change) .users row
  | created (new : NewTodo) (t : Table) (row : Row) :
    (new.toRecord userId moment.now.text).BecomesRow .todos t row →
    Writes moment userId db (.todo new) .todos row
  | createdMany (all : List NewTodo) (new : NewTodo) (t : Table) (row : Row) :
    new ∈ all → (new.toRecord userId moment.now.text).BecomesRow .todos t row →
    Writes moment userId db (.batch all) .todos row
  | todoChanged (change : TodoChange) (old row : Row) :
    old ∈ db.rowsOf .todos →
    (TodoServer.Todos.changes moment.now change.title change.description).TurnsRow .todos old row →
    Writes moment userId db (.todoChange change) .todos row

/-- What a request for an endpoint submits. -/
inductive From (request : Http.Request) : Endpoint → Submission → Prop
  | registration {account : Registration} :
    registrationForm.ofRequest openLimit request = .ok account →
    From request (.everybody .register) (.registration account)
  | profile {change : ProfileChange} :
    profileForm.ofRequest ownLimit request = .ok change →
    From request (.owner .changeProfile) (.profile change)
  | todo {new : NewTodo} :
    newTodoForm.ofRequest ownLimit request = .ok new → From request (.owner .createTodo) (.todo new)
  | batch {new : List NewTodo} :
    batchForm.ofRequest ownLimit request = .ok new → From request (.owner .createTodos) (.batch new)
  | todoChange {part : String} {change : TodoChange} :
    todoChangeForm.ofRequest ownLimit request = .ok change →
    From request (.owner (.changeTodo part)) (.todoChange change)

end Submission

/-! ### Rules and checks -/

theorem Violation.check_eq_nil_iff {holds : Bool} {field message : String} :
    check holds field message = [] ↔ holds = true := by
  cases holds <;> simp [check]

theorem name_of_rule {name : String} (accepted : nameRule name = []) :
    (1 ≤ (Text.untilNul name).length ∧ (Text.untilNul name).length ≤ 100) ↔
      Text.isSeen name = true := by
  have bounds := Violation.check_eq_nil_iff.1 accepted
  simp only [Option.all_some, Bool.and_eq_true, decide_eq_true_eq] at bounds
  rw [Text.one_le_length_untilNul bounds.1]
  exact and_iff_left (Nat.le_trans (Text.length_untilNul_le name) bounds.2)

theorem email_of_rule {email : String} (accepted : emailRule email = []) :
    3 ≤ (Text.untilNul email).length ↔ Text.isSeenEmail email = true :=
  Text.three_le_length_untilNul (Violation.check_eq_nil_iff.1 accepted)

theorem title_of_rule {title : String} (accepted : titleRule title = []) :
    1 ≤ (Text.untilNul title).length ↔ Text.isSeen title = true := by
  have bounds := Violation.check_eq_nil_iff.1 accepted
  simp only [Option.all_some, Bool.and_eq_true, decide_eq_true_eq] at bounds
  exact Text.one_le_length_untilNul bounds.1

/-- A list keeps the rules for its items when each item does. -/
theorem Violation.ofItems_eq_nil_iff {α : Type} {rules : α → List Violation} {place : Nat}
    {items : List α} : ofItems rules place items = [] ↔ ∀ item ∈ items, rules item = [] := by
  induction items generalizing place with
  | nil => simp [ofItems]
  | cons first rest ih =>
    rw [ofItems, List.append_eq_nil_iff, List.map_eq_nil_iff, ih, List.forall_mem_cons]

/-- An accepted account passes the checks of its table where it is seen. -/
theorem fault?_registered {account : Registration}
    (accepted : (Submission.registration account).violations = []) (id : Int)
    (hash created updated : String) :
    User.fault? ⟨id, account.name, account.email, hash, created, updated⟩ = none ↔
      (Submission.registration account).isSeen = true := by
  obtain ⟨rules, -⟩ := List.append_eq_nil_iff.1 accepted
  obtain ⟨name, email⟩ := List.append_eq_nil_iff.1 rules
  rw [User.fault?_eq_none_iff, name_of_rule name, email_of_rule email, Submission.isSeen,
    Bool.and_eq_true]

/-- An account passes the checks after an accepted change where the change is seen. -/
theorem fault?_changed {change : ProfileChange}
    (accepted : (Submission.profile change).violations = []) {old : User}
    (sound : old.fault? = none)
    (time : String) (hash : Option String) :
    (Users.changed time change.name change.email hash old).fault? = none ↔
      (Submission.profile change).isSeen = true := by
  obtain ⟨rules, -⟩ := List.append_eq_nil_iff.1 accepted
  obtain ⟨names, emails⟩ := List.append_eq_nil_iff.1 rules
  obtain ⟨oldName, oldEmail⟩ := (User.fault?_eq_none_iff old).1 sound
  have name : (1 ≤ (Text.untilNul (change.name.getD old.name)).length ∧
      (Text.untilNul (change.name.getD old.name)).length ≤ 100) ↔
      change.name.all Text.isSeen = true := by
    cases given : change.name with
    | none => exact iff_of_true oldName rfl
    | some name =>
      rw [given] at names
      exact name_of_rule names
  have email : 3 ≤ (Text.untilNul (change.email.getD old.email)).length ↔
      change.email.all Text.isSeenEmail = true := by
    cases given : change.email with
    | none => exact iff_of_true oldEmail rfl
    | some email =>
      rw [given] at emails
      exact email_of_rule emails
  rw [User.fault?_eq_none_iff, Submission.isSeen, Bool.and_eq_true, ← name, ← email]
  rfl

/-- An accepted todo passes the check of its table where it is seen. -/
theorem fault?_created {new : NewTodo} (accepted : todoRules new = []) (id userId : Int)
    (time : String) :
    Todo.fault? ⟨id, new.title, new.description, false, userId, time, time⟩ = none ↔
      Text.isSeen new.title = true := by
  rw [Todo.fault?_eq_none_iff]
  exact title_of_rule (List.append_eq_nil_iff.1 accepted).1

/-- A todo passes the check after an accepted change where the change is seen. -/
theorem fault?_todoChanged {change : TodoChange}
    (accepted : (Submission.todoChange change).violations = []) {old : Todo}
    (sound : old.fault? = none) (time : String) :
    (TodoServer.Todos.changed time change.title change.description old).fault? = none ↔
      (Submission.todoChange change).isSeen = true := by
  obtain ⟨titles, -⟩ := List.append_eq_nil_iff.1 accepted
  rw [Todo.fault?_eq_none_iff] at sound ⊢
  have title : 1 ≤ (Text.untilNul (change.title.getD old.title)).length ↔
      change.title.all Text.isSeen = true := by
    cases given : change.title with
    | none => exact iff_of_true sound rfl
    | some title =>
      rw [given] at titles
      exact title_of_rule titles
  exact title

end Api

/-! ### Rows of submissions -/

/-- Data become the row that is made of them with a new key. -/
theorem Record.BecomesRow.of_made {data : Record} {id : TableId} {t : Table} {row : Row}
    {positions : List Nat} {made : Int → Row} (becomes : data.BecomesRow id t row)
    (placed : data.names.mapM (Database.dataPosition id.schema) = .ok positions)
    (assembled : Database.assemble id.schema t positions data.values =
      (Database.freshKey id.schema t).map made) : ∃ key, row = made key := by
  obtain ⟨found, placed', assembled'⟩ := becomes
  cases placed.symm.trans placed'
  rw [assembled] at assembled'
  cases fresh : Database.freshKey id.schema t with
  | error e => rw [fresh] at assembled'; cases assembled'
  | ok key =>
    rw [fresh] at assembled'
    cases assembled'
    exact ⟨key, rfl⟩

/-- A new account becomes the row of a user. -/
theorem Users.row_of_newRecord {now : Instant} {salt : List UInt8} {name email password : String}
    {t : Table} {row : Row}
    (becomes : (newRecord now salt name email password).BecomesRow .users t row) :
    ∃ id, row = User.row
      ⟨id, name, email, Auth.hashPassword password salt, now.text, now.text⟩ :=
  have named : ["name", "email", "password_hash", "created_at", "updated_at"].mapM
      (Database.dataPosition .users) = .ok [1, 2, 3, 4, 5] := rfl
  becomes.of_made named
    (Database.assemble_user t name email (Auth.hashPassword password salt) now.text now.text)

/-- A new todo becomes the row of a todo. -/
theorem Todos.row_of_toRecord {new : NewTodo} {userId : Int} {time : String} {t : Table} {row : Row}
    (becomes : (new.toRecord userId time).BecomesRow .todos t row) :
    ∃ id, row = Todo.row ⟨id, new.title, new.description, false, userId, time, time⟩ :=
  have named : ["title", "description", "completed", "user_id", "created_at", "updated_at"].mapM
      (Database.dataPosition .todos) = .ok [1, 2, 3, 4, 5, 6] := rfl
  becomes.of_made named
    (Database.assemble_todo t new.title new.description false userId time time)

/-- Data without fields leave a row as it is. -/
theorem Record.TurnsRow.of_empty {id : TableId} {old row : Row}
    (turns : Record.empty.TurnsRow id old row) : row = old := by
  obtain ⟨positions, placed, assigned⟩ := turns
  cases placed
  cases assigned
  rfl

/-- Placed data turn a row into the one that the assignments make of it. -/
theorem Record.TurnsRow.of_placed {data : Record} {id : TableId} {old row changed : Row}
    {placed : Database.Placed} (turns : data.TurnsRow id old row)
    (fields : data.fields = placed.map Prod.snd)
    (named : ∀ x ∈ placed, Database.dataPosition id.schema x.2.1 = .ok x.1)
    (assigned : Database.assignAll id.schema (placed.map fun x => (x.1, x.2.2)) old = .ok changed) :
    row = changed := by
  obtain ⟨positions, found, made⟩ := turns
  cases (Database.mapM_dataPosition fields named).symm.trans found
  rw [Database.zip_values fields, assigned] at made
  cases made
  rfl

/-- A change of an account turns its row into the row of the changed account. -/
theorem Users.row_of_changes {now : Instant} {salt : List UInt8}
    {name email password : Option String}
    {u : User} {row : Row}
    (turns : (changes now salt name email password).TurnsRow .users u.row row) :
    row = u.row ∨ row = (changed now.text name email
      (password.map (Auth.hashPassword · salt)) u).row := by
  by_cases absent : name = none ∧ email = none ∧ password = none
  · obtain ⟨rfl, rfl, rfl⟩ := absent
    exact .inl (Record.TurnsRow.of_empty turns)
  · exact .inr (turns.of_placed (fields_changes now salt absent)
      (dataPosition_placed _ name email _) (assignAll_placed _ name email _ u))

/-- A change of a todo turns its row into the row of the changed todo. -/
theorem Todos.row_of_changes {now : Instant} {title description : Option String} {t : Todo}
    {row : Row} (turns : (changes now title description).TurnsRow .todos t.row row) :
    row = t.row ∨ row = (changed now.text title description t).row := by
  by_cases absent : title = none ∧ description = none
  · obtain ⟨rfl, rfl⟩ := absent
    exact .inl (Record.TurnsRow.of_empty turns)
  · exact .inr (turns.of_placed (fields_changes now absent)
      (dataPosition_placed _ title description) (assignAll_placed _ title description t))

namespace Api

/-- The rows of an accepted submission that is seen keep the constraints of their tables. -/
theorem Submission.rows_keep {s : Store} {rest : Database} (valid : s.Valid) {moment : Moment}
    {userId : Int} {submission : Submission} (accepted : submission.violations = [])
    (seen : submission.isSeen = true) {id : TableId} {row : Row}
    (writes : submission.Writes moment userId (s.fill rest) id row) : row.Keeps id := by
  cases writes with
  | registered account t row becomes =>
    obtain ⟨id, rfl⟩ := Users.row_of_newRecord becomes
    exact (User.row_keeps_iff _).2 ((fault?_registered accepted _ _ _ _).2 seen)
  | profileChanged change old row held turns =>
    obtain ⟨u, stored, rfl⟩ := List.mem_map.1 held
    have sound := valid.users u stored
    rcases Users.row_of_changes turns with rfl | rfl
    · exact u.row_keeps_iff.2 sound
    · exact (User.row_keeps_iff _).2 ((fault?_changed accepted sound _ _).2 seen)
  | created new t row becomes =>
    obtain ⟨id, rfl⟩ := TodoServer.Todos.row_of_toRecord becomes
    exact (Todo.row_keeps_iff _).2 ((fault?_created accepted _ _ _).2 seen)
  | createdMany all new t row mem becomes =>
    obtain ⟨id, rfl⟩ := TodoServer.Todos.row_of_toRecord becomes
    have rules := Violation.ofItems_eq_nil_iff.1 (List.append_eq_nil_iff.1 accepted).2 new mem
    exact (Todo.row_keeps_iff _).2
      ((fault?_created rules _ _ _).2 (List.all_eq_true.1 seen new mem))
  | todoChanged change old row held turns =>
    obtain ⟨t, stored, rfl⟩ := List.mem_map.1 held
    have sound := valid.todos t stored
    rcases TodoServer.Todos.row_of_changes turns with rfl | rfl
    · exact t.row_keeps_iff.2 sound
    · exact (Todo.row_keeps_iff _).2 ((fault?_todoChanged accepted sound _).2 seen)

end Api

end TodoServer
