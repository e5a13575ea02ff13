import TodoServer.Proofs.Auth.Password
import TodoServer.Proofs.Storage.Confinement

/-!
# Statements and stored passwords

Two databases that differ in nothing but the stored passwords are told apart by none of the
statements that are carried out on accounts and todos: such statements fail alike or succeed alike,
and leave behind two databases that again differ in nothing but the stored passwords.
-/

namespace TodoServer

/-- Two computations that fail alike or succeed with related results. -/
inductive AgreeUpTo {ε α β : Type} (related : α → β → Prop) : Except ε α → Except ε β → Prop
  | failed (e : ε) : AgreeUpTo related (.error e) (.error e)
  | done {a : α} {b : β} : related a b → AgreeUpTo related (.ok a) (.ok b)

namespace AgreeUpTo

variable {ε α β γ δ : Type} {related : α → β → Prop} {final : γ → δ → Prop}

/-- What goes on alike from related results agrees when what came before does. -/
theorem bind {x : Except ε α} {y : Except ε β} (agree : AgreeUpTo related x y)
    {f : α → Except ε γ} {g : β → Except ε δ}
    (next : ∀ a b, related a b → AgreeUpTo final (f a) (g b)) :
    AgreeUpTo final (x >>= f) (y >>= g) := by
  cases agree with
  | failed e => exact .failed e
  | done both => exact next _ _ both

theorem map {x : Except ε α} {y : Except ε β} (agree : AgreeUpTo related x y)
    {f : α → γ} {g : β → δ} (both : ∀ a b, related a b → final (f a) (g b)) :
    AgreeUpTo final (x.map f) (y.map g) := by
  cases agree with
  | failed e => exact .failed e
  | done here => exact .done (both _ _ here)

/-- What goes on alike from one result agrees. -/
theorem bind_same (x : Except ε α) {f : α → Except ε γ} {g : α → Except ε δ}
    (next : ∀ a, x = .ok a → AgreeUpTo final (f a) (g a)) :
    AgreeUpTo final (x >>= f) (x >>= g) := by
  cases x with
  | error e => exact .failed e
  | ok a => exact next a rfl

end AgreeUpTo

/-- A stored password that can be read. -/
def Auth.IsHash (stored : String) : Prop :=
  (PasswordHash.parse? stored).isSome = true

theorem Auth.isHash_hashPassword (password : String) (salt : List UInt8) :
    IsHash (hashPassword password salt) := by
  have accepted := verifyPassword?_hashPassword password salt
  obtain ⟨hash, read, -⟩ := Option.map_eq_some_iff.1 accepted
  rw [IsHash, read, Option.isSome_some]

/-- The table that a command is about. -/
def Command.table : Command → String
  | select table _ _ => table
  | insert table _ => table
  | insertAll table _ _ => table
  | update table _ _ => table
  | delete table _ => table

/-- Commands that write and whose outcome tells nothing of the passwords that are stored: those
about other tables than that of the accounts, and those with which accounts are created, changed and
removed. -/
inductive Command.Discreet : Command → Prop
  | apart {command : Command} :
    Storage.TableId.named? command.table ≠ some .users → Discreet command
  | addAccount (now : Instant) (salt : List UInt8) (name email password : String) :
    Discreet (.insert User.table (Users.newRecord now salt name email password))
  | changeAccount (now : Instant) (salt : List UInt8) (name email password : Option String)
    (userId : Int) :
    Discreet (.update User.table (Users.changes now salt name email password)
      ⟨[.condition ⟨"id", .eq, .integer userId⟩]⟩)
  | dropAccount (userId : Int) :
    Discreet (.delete User.table ⟨[.condition ⟨"id", .eq, .integer userId⟩]⟩)

namespace Storage

/-! ## Rows -/

/-- The position of the stored password of an account. -/
def hashPosition : Nat := 3

/-- Two accounts that differ at most in their stored passwords, which can both be read. -/
inductive Row.SameButHash : Row → Row → Prop
  | mk (key : Int) (name email : Cell) (others : List Cell) {old new : String} :
    Auth.IsHash old → Auth.IsHash new →
    SameButHash ⟨key, name :: email :: .text old :: others⟩
      ⟨key, name :: email :: .text new :: others⟩

namespace Row.SameButHash

variable {row other : Row} (same : row.SameButHash other)

include same

theorem key : row.key = other.key := by
  cases same
  rfl

theorem cell {position : Nat} (apart : position ≠ hashPosition) :
    row.cell position = other.cell position := by
  cases same with
  | mk key name email others old new =>
    match position with
    | 0 | 1 | 2 => rfl
    | 3 => exact absurd rfl apart
    | _ + 4 => rfl

theorem left : row.SameButHash row := by
  cases same with
  | mk key name email others old new => exact .mk key name email others old old

theorem right : other.SameButHash other := by
  cases same with
  | mk key name email others old new => exact .mk key name email others new new

end Row.SameButHash

/-- Two tables of accounts that differ at most in stored passwords. -/
structure Table.SameButHashes (t t' : Table) : Prop where
  rows : List.Forall₂ Row.SameButHash t.rows t'.rows
  lastKey : t.lastKey = t'.lastKey

/-- Two databases that differ at most in stored passwords. -/
structure Database.SameButHashes (a b : Database) : Prop where
  users : Option.Rel Table.SameButHashes a.users b.users
  todos : a.todos = b.todos
  versions : a.versions = b.versions
  history : a.history = b.history
  indexes : a.indexes = b.indexes

/-- Rows that are looked at alike pass a test alike. -/
theorem any_of_forall₂ {rows others : List Row} (same : List.Forall₂ Row.SameButHash rows others)
    {p q : Row → Bool} (alike : ∀ row other, row.SameButHash other → p row = q other) :
    rows.any p = others.any q := by
  induction same with
  | nil => rfl
  | cons here _ ih => rw [List.any_cons, List.any_cons, alike _ _ here, ih]

/-- Rows that are looked at alike are kept alike. -/
theorem filter_of_forall₂ {rows others : List Row} (same : List.Forall₂ Row.SameButHash rows others)
    {p q : Row → Bool} (alike : ∀ row other, row.SameButHash other → p row = q other) :
    List.Forall₂ Row.SameButHash (rows.filter p) (others.filter q) :=
  List.rel_filter (fun _ _ both => Bool.eq_iff_iff.1 (alike _ _ both)) same

/-- Rows that are looked at alike come to the same one after the other. -/
theorem foldl_of_forall₂ {σ : Type} {rows others : List Row}
    (same : List.Forall₂ Row.SameButHash rows others) {f : σ → Row → σ}
    (alike : ∀ x row other, row.SameButHash other → f x row = f x other) (x : σ) :
    rows.foldl f x = others.foldl f x := by
  induction same generalizing x with
  | nil => rfl
  | cons here _ ih => rw [List.foldl_cons, List.foldl_cons, alike _ _ _ here, ih]

theorem place_of_forall₂ {rows others : List Row} (same : List.Forall₂ Row.SameButHash rows others)
    {row other : Row} (here : row.SameButHash other) :
    List.Forall₂ Row.SameButHash (Table.place row rows) (Table.place other others) := by
  induction same with
  | nil => exact .cons here .nil
  | cons first later ih =>
    rw [Table.place, Table.place, here.key, first.key]
    split
    · exact .cons here (.cons first later)
    · exact .cons first ih

namespace Database

open List (Forall₂)

/-! ## Searches -/

section

variable {row other : Row} {t t' : Table} {c : Condition} {position : Nat}
  (named : Term.ofText? .users c.field = some (.column position)) (apart : position ≠ hashPosition)

include named apart

/-- A condition on another column has the same truth in two such accounts. -/
theorem conditionTruth_agrees (same : row.SameButHash other) :
    conditionTruth .users row c = conditionTruth .users other c := by
  simp only [conditionTruth, named, compareTruth, termValue, same.cell apart]
  rfl

/-- A search by another column finds two such tables alike. -/
theorem find_agrees (same : t.SameButHashes t') :
    AgreeUpTo (Forall₂ Row.SameButHash) (find .users t ⟨[.condition c]⟩)
      (find .users t' ⟨[.condition c]⟩) := by
  have accepted_agrees : ∀ {rows others : List Row}, Forall₂ Row.SameButHash rows others →
      AgreeUpTo (Forall₂ Row.SameButHash) (accepted .users ⟨[.condition c]⟩ rows)
        (accepted .users ⟨[.condition c]⟩ others) := by
    intro rows others same
    induction same with
    | nil => exact .done .nil
    | @cons row other _ _ here _ ih =>
      have truth : Filter.accepts (conditionTruth .users row) ⟨[.condition c]⟩ =
          Filter.accepts (conditionTruth .users other) ⟨[.condition c]⟩ := by
        simp only [Filter.accepts, Node.truthAll, Node.truth,
          conditionTruth_agrees named apart here]
      rw [accepted, accepted, truth]
      -- Both rows are kept or neither is, since the condition is on another column.
      refine .bind_same _ fun keep _ => ih.bind fun found found' both => .done ?_
      cases keep with
      | true => exact .cons here both
      | false => exact both
  have mem : .condition c ∈ (⟨[.condition c]⟩ : Filter).nodes := List.mem_cons_self
  rw [find, find, visitOrder_of_mem mem, visitOrder_of_mem mem]
  exact .bind_same _ fun _ _ => accepted_agrees same.rows

end

/-- A search for the account of an id finds two such tables alike. -/
theorem find_identified_agrees {t t' : Table} (same : t.SameButHashes t') (userId : Int) :
    AgreeUpTo (Forall₂ Row.SameButHash) (find .users t ⟨[.condition ⟨"id", .eq, .integer userId⟩]⟩)
      (find .users t' ⟨[.condition ⟨"id", .eq, .integer userId⟩]⟩) := by
  have named : Term.ofText? .users "id" = some (.column 0) := rfl
  have apart : 0 ≠ hashPosition := by decide
  exact find_agrees named apart same

/-! ## Constraints -/

section

variable {t t' : Table} (same : t.SameButHashes t') {row other : Row} (here : row.SameButHash other)

include same in
/-- The next key does not depend on stored passwords. -/
theorem freshKey_agrees : freshKey .users t = freshKey .users t' := by
  have top : t.maxKey? = t'.maxKey? :=
    foldl_of_forall₂ same.rows (fun _ _ _ both => by rw [both.key]) none
  rw [freshKey, freshKey, top, same.lastKey]

include here in
/-- A row keeps the constraints beside others whatever the stored passwords are. -/
theorem checkRow_agrees {rows others : List Row} (beside : Forall₂ Row.SameButHash rows others) :
    checkRow .users rows row = checkRow .users others other := by
  have missing : missingColumn? .users row = missingColumn? .users other := by
    cases here
    rfl
  have failed : failedCheck? .users row = failedCheck? .users other := by
    cases here
    rfl
  have keys : (rows.any fun r => r.key == row.key) = others.any fun r => r.key == other.key :=
    any_of_forall₂ beside fun _ _ both => by rw [both.key, here.key]
  -- Beside the key the email alone has to be unique.
  have apart : 2 ≠ hashPosition := by decide
  have mails : (rows.any fun r => (r.cell 2).order (other.cell 2) == .eq) =
      others.any fun r => (r.cell 2).order (other.cell 2) == .eq :=
    any_of_forall₂ beside fun _ _ both => by rw [both.cell apart]
  have taken : takenColumn? .users rows row = takenColumn? .users others other := by
    have column : TableSchema.users.position? "email" = some 2 := rfl
    have unique : TableSchema.users.unique = ["email"] := rfl
    simp only [takenColumn?, keys, unique, List.find?_cons, column, here.cell apart, mails]
    rfl
  rw [checkRow, checkRow, missing, failed, taken]

include same in
/-- Whether an account is the owner of a todo does not depend on stored passwords. -/
theorem hasOwner_agrees (todo : Row) : hasOwner t todo = hasOwner t' todo := by
  have users (n : Int) : t.rows.any (·.key == n) = t'.rows.any (·.key == n) :=
    any_of_forall₂ same.rows fun _ _ both => by rw [both.key]
  simp only [hasOwner, users]

include same here in
theorem addRow_agrees :
    AgreeUpTo Table.SameButHashes (addRow .users t row) (addRow .users t' other) := by
  rw [addRow, addRow, checkRow_agrees here same.rows]
  refine .bind_same _ fun _ _ => .done ⟨place_of_forall₂ same.rows here, ?_⟩
  change max t.lastKey row.key = max t'.lastKey other.key
  rw [same.lastKey, here.key]

end

/-- A new account is added alike. -/
theorem addRows_agrees {t t' : Table} (same : t.SameButHashes t') (name email time : String)
    {hash : String} (read : Auth.IsHash hash) :
    AgreeUpTo (fun x y => x.1.SameButHashes y.1 ∧ x.2 = y.2)
      (addRows .users [1, 2, 3, 4, 5] t 0
        [[.text name, .text email, .text hash, .text time, .text time]])
      (addRows .users [1, 2, 3, 4, 5] t' 0
        [[.text name, .text email, .text hash, .text time, .text time]]) := by
  rw [addRows_cons, addRows_cons, assemble_user, assemble_user, freshKey_agrees same]
  cases freshKey .users t' with
  | error e => exact .failed e
  | ok key =>
    have added := addRow_agrees same
      (.mk key (.text name) (.text email) [.text time, .text time] read read)
    exact AgreeUpTo.bind (added.map fun _ _ both => ⟨both, rfl⟩) fun _ _ both => .done both

/-! ## Assignments -/

/-- Values at positions that are no keys, of which those for the stored password can be read. -/
def Assignable (assignments : List (Nat × Scalar)) : Prop :=
  ∀ x ∈ assignments, x.1 ≠ 0 ∧ (x.1 = hashPosition → ∃ hash, x.2 = .text hash ∧ Auth.IsHash hash)

section

variable {row other : Row} {assignments : List (Nat × Scalar)}

theorem assignAll_agrees (assignable : Assignable assignments) (same : row.SameButHash other) :
    AgreeUpTo Row.SameButHash (assignAll .users assignments row)
      (assignAll .users assignments other) := by
  induction assignments generalizing row other with
  | nil => exact .done same
  | cons x later ih =>
    obtain ⟨position, value⟩ := x
    obtain ⟨noKey, hash⟩ := assignable _ List.mem_cons_self
    have here : AgreeUpTo Row.SameButHash (assign .users row position value)
        (assign .users other position value) := by
      cases same with
      | mk key name email others old new =>
        match position with
        | 0 => exact absurd rfl noKey
        | 1 => exact .done (.mk key _ email others old new)
        | 2 => exact .done (.mk key name _ others old new)
        | 3 =>
          obtain ⟨given, rfl, read⟩ := hash rfl
          exact .done (.mk key name email others read read)
        | n + 4 => exact .done (.mk key name email (others.set n _) old new)
    exact here.bind fun _ _ both => ih (fun x mem => assignable x (List.mem_cons_of_mem _ mem)) both

theorem changeRows_agrees (assignable : Assignable assignments)
    {rows others chosen chosen' : List Row} (same : Forall₂ Row.SameButHash rows others)
    (picked : Forall₂ Row.SameButHash chosen chosen') :
    AgreeUpTo (Forall₂ Row.SameButHash) (changeRows .users assignments rows chosen)
      (changeRows .users assignments others chosen') := by
  induction picked generalizing rows others with
  | nil => exact .done same
  | @cons old old' _ _ first _ ih =>
    rw [changeRows, changeRows]
    refine (assignAll_agrees assignable first).bind fun new new' made => ?_
    have beside := filter_of_forall₂ same (p := (·.key != old.key)) (q := (·.key != old'.key))
      fun _ _ both => by rw [both.key, first.key]
    simp only
    rw [checkRow_agrees made beside]
    refine .bind_same _ fun _ _ => ih ?_
    rw [made.key, first.key]
    split
    · refine List.forall₂_map_left_iff.2
        (List.forall₂_map_right_iff.2 (same.imp fun _ _ both => ?_))
      rw [both.key]
      split
      · exact made
      · exact both
    · rw [← first.key]
      exact place_of_forall₂ (first.key ▸ beside) made

end

/-- The changes that are asked for of an account can be assigned. -/
theorem assignable_placed (time : String) (salt : List UInt8)
    (name email password : Option String) :
    Assignable ((Users.placed time name email (password.map (Auth.hashPassword · salt))).map
      fun x => (x.1, x.2.2)) := by
  have read := fun password => Auth.isHash_hashPassword password salt
  cases name <;> cases email <;> cases password <;>
    simp [Assignable, Users.placed, hashPosition, read]

/-! ## Databases -/

namespace SameButHashes

variable {a b : Database} (same : a.SameButHashes b)

include same

/-- Both databases have accounts, or neither has. -/
theorem users_cases : a.users = none ∧ b.users = none ∨
    ∃ t t', a.users = some t ∧ b.users = some t' ∧ t.SameButHashes t' := by
  have users := same.users
  cases found : a.users <;> cases found' : b.users <;> rw [found, found'] at users <;> cases users
  · exact .inl ⟨rfl, rfl⟩
  · exact .inr ⟨_, _, rfl, rfl, ‹_›⟩

/-- The passwords that are stored in the first database can be read. -/
theorem readable : ∀ row ∈ a.rowsOf .users, row.SameButHash row := by
  obtain ⟨absent, -⟩ | ⟨t, t', stored, -, tables⟩ := same.users_cases
  · intro row mem
    rw [rowsOf, Database.table?, absent] at mem
    cases mem
  · have present : a.table? .users = some t := stored
    have both : Forall₂ (fun row other => row.SameButHash row ∧ row.SameButHash other) t.rows
        t'.rows :=
      tables.rows.imp fun _ _ here => ⟨here.left, here⟩
    rw [rowsOf_eq present]
    exact ((List.forall₂_and_left (p := fun row : Row => row.SameButHash row) _ _).1 both).1

/-- A table that is not that of the accounts is the same in both. -/
theorem table? {id : TableId} (other : id ≠ .users) : a.table? id = b.table? id := by
  cases id with
  | versions => exact same.versions
  | history => exact same.history
  | users => exact absurd rfl other
  | todos => exact same.todos

theorem setTable {id : TableId} (other : id ≠ .users) (t : Table) :
    (a.setTable id t).SameButHashes (b.setTable id t) := by
  obtain ⟨users, todos, versions, history, indexes⟩ := same
  cases id with
  | versions => exact ⟨users, todos, rfl, history, indexes⟩
  | history => exact ⟨users, todos, versions, rfl, indexes⟩
  | users => exact absurd rfl other
  | todos => exact ⟨users, rfl, versions, history, indexes⟩

theorem setUsers {t t' : Table} (tables : t.SameButHashes t') :
    (a.setTable .users t).SameButHashes (b.setTable .users t') :=
  ⟨.some tables, same.todos, same.versions, same.history, same.indexes⟩

/-- The accounts are resolved to two tables that differ at most in stored passwords. -/
theorem resolve_users :
    AgreeUpTo (fun x y => ∃ t t' : Table, x = (.users, t) ∧ y = (.users, t') ∧ t.SameButHashes t')
      (a.resolve User.table) (b.resolve User.table) := by
  have named : TableId.named? User.table = some .users := rfl
  simp only [resolve, named, Database.table?]
  obtain ⟨absent, absent'⟩ | ⟨t, t', stored, stored', tables⟩ := same.users_cases
  · rw [absent, absent']
    exact .failed _
  · rw [stored, stored']
    exact .done ⟨t, t', rfl, rfl, tables⟩

theorem resolve_eq {table : String} (other : TableId.named? table ≠ some .users) :
    a.resolve table = b.resolve table := by
  rw [resolve, resolve]
  cases named : TableId.named? table with
  | none => rfl
  | some id =>
    have apart : id ≠ .users := fun accounts => other (accounts ▸ named)
    simp only [same.table? apart]

/-- Whether todos have owners does not depend on stored passwords. -/
theorem ownersExist_eq : a.ownersExist = b.ownersExist := by
  rw [ownersExist, ownersExist, same.todos]
  obtain ⟨absent, absent'⟩ | ⟨t, t', stored, stored', tables⟩ := same.users_cases
  · rw [absent, absent']
  · have owner : hasOwner t = hasOwner t' := funext fun row => hasOwner_agrees tables row
    rw [stored, stored']
    cases b.todos with
    | none => rfl
    | some todos => exact congrArg todos.rows.all owner

theorem checkOwners_agrees : AgreeUpTo SameButHashes a.checkOwners b.checkOwners := by
  rw [checkOwners, checkOwners, same.ownersExist_eq]
  split
  · exact .done same
  · exact .failed _

theorem dropOrphans : a.dropOrphans.SameButHashes b.dropOrphans := by
  rw [Database.dropOrphans, Database.dropOrphans, same.todos]
  obtain ⟨absent, absent'⟩ | ⟨t, t', stored, stored', tables⟩ := same.users_cases
  · rw [absent, absent']
    exact same
  · have owner : hasOwner t = hasOwner t' := funext fun row => hasOwner_agrees tables row
    rw [stored, stored']
    cases b.todos with
    | none => exact same
    | some todos =>
      refine ⟨.some tables, ?_, same.versions, same.history, same.indexes⟩
      exact congrArg (fun kept => some { todos with rows := todos.rows.filter kept }) owner

/-! ## Statements -/

theorem putTable_agrees {id : TableId} (other : id ≠ .users) (t : Table) :
    AgreeUpTo SameButHashes (a.putTable id t) (b.putTable id t) := by
  cases id with
  | versions | history => exact .done (same.setTable other t)
  | users => exact absurd rfl other
  | todos => exact (same.setTable other t).checkOwners_agrees

end SameButHashes

/-- Writes that report the same and leave two databases that differ at most in stored passwords. -/
def SameOutcome (x y : Database × WriteOutcome) : Prop :=
  x.2 = y.2 ∧ x.1.SameButHashes y.1

section

variable {a b : Database} (same : a.SameButHashes b)

include same

section

variable {table : String} (other : TableId.named? table ≠ some .users)

include other

omit same in
/-- What a name other than that of the accounts is resolved to is no table of accounts. -/
theorem ne_users_of_resolve {id : TableId} {t : Table} (resolved : b.resolve table = .ok (id, t)) :
    id ≠ .users :=
  fun accounts => other (accounts ▸ (resolve_eq_ok_iff.1 resolved).1)

theorem insertRows_apart (fields : List String) (rows : List (List Scalar)) :
    AgreeUpTo SameOutcome (a.insertRows table fields rows) (b.insertRows table fields rows) := by
  rw [insertRows, insertRows, same.resolve_eq other]
  refine .bind_same _ fun found resolved => ?_
  obtain ⟨id, t⟩ := found
  refine .bind_same _ fun positions _ => .bind_same _ fun added _ => ?_
  exact (same.putTable_agrees (ne_users_of_resolve other resolved) added.1).bind
    fun _ _ both => .done ⟨rfl, both⟩

theorem update_apart (data : Record) (filter : Filter) :
    AgreeUpTo SameOutcome (a.update table data filter) (b.update table data filter) := by
  rw [update, update, same.resolve_eq other]
  refine .bind_same _ fun found resolved => ?_
  obtain ⟨id, t⟩ := found
  refine .bind_same _ fun positions _ => .bind_same _ fun chosen _ => .bind_same _ fun rows _ => ?_
  exact (same.putTable_agrees (ne_users_of_resolve other resolved) _).bind
    fun _ _ both => .done ⟨rfl, both⟩

theorem delete_apart (filter : Filter) :
    AgreeUpTo SameOutcome (a.delete table filter) (b.delete table filter) := by
  rw [delete, delete, same.resolve_eq other]
  refine .bind_same _ fun found resolved => ?_
  obtain ⟨id, t⟩ := found
  refine .bind_same _ fun chosen _ => .done ⟨rfl, ?_⟩
  exact (same.setTable (ne_users_of_resolve other resolved) _).dropOrphans

end

/-- A command about another table than that of the accounts reads the same. -/
theorem read_apart {command : Command} (other : TableId.named? command.table ≠ some .users) :
    a.read command = b.read command := by
  cases command with
  | select table columns filter =>
    have resolved : a.resolve table = b.resolve table := same.resolve_eq other
    rw [read, read, select, select, resolved]
  | insert | insertAll | update | delete => rfl

/-- A command about another table than that of the accounts writes alike. -/
theorem write_apart {command : Command} (other : TableId.named? command.table ≠ some .users) :
    AgreeUpTo SameOutcome (a.write command) (b.write command) := by
  cases command with
  | select => exact .done ⟨rfl, same⟩
  | insert table data => exact insertRows_apart same other _ _
  | insertAll table first others =>
    rw [write, write, insertAll, insertAll]
    split
    · exact .failed _
    · split
      · exact .failed _
      · exact insertRows_apart same other _ _
  | update table data filter => exact update_apart same other data filter
  | delete table filter => exact delete_apart same other filter

theorem putUsers_agrees {t t' : Table} (tables : t.SameButHashes t') :
    AgreeUpTo SameButHashes (a.putTable .users t) (b.putTable .users t') :=
  (same.setUsers tables).checkOwners_agrees

/-- A new account is stored alike. -/
theorem addAccount_agrees (now : Instant) (salt : List UInt8) (name email password : String) :
    AgreeUpTo SameOutcome (a.insert User.table (Users.newRecord now salt name email password))
      (b.insert User.table (Users.newRecord now salt name email password)) := by
  have names : (Users.newRecord now salt name email password).names =
      ["name", "email", "password_hash", "created_at", "updated_at"] := rfl
  have named : ["name", "email", "password_hash", "created_at", "updated_at"].mapM
      (dataPosition .users) = .ok [1, 2, 3, 4, 5] := rfl
  rw [insert, insert, insertRows, insertRows, names]
  refine same.resolve_users.bind fun _ _ found => ?_
  obtain ⟨t, t', rfl, rfl, tables⟩ := found
  simp only [TableId.schema, named]
  refine (addRows_agrees tables name email now.text (Auth.isHash_hashPassword password salt)).bind
    fun _ _ both => ?_
  exact (putUsers_agrees same both.1).bind fun _ _ left => .done ⟨by rw [both.2], left⟩

/-- An account is changed alike. -/
theorem changeAccount_agrees {data : Record} {placed : Placed}
    (fields : data.fields = placed.map Prod.snd)
    (named : ∀ x ∈ placed, dataPosition .users x.2.1 = .ok x.1)
    (assignable : Assignable (placed.map fun x => (x.1, x.2.2))) (userId : Int) :
    AgreeUpTo SameOutcome (a.update User.table data ⟨[.condition ⟨"id", .eq, .integer userId⟩]⟩)
      (b.update User.table data ⟨[.condition ⟨"id", .eq, .integer userId⟩]⟩) := by
  rw [update, update]
  refine same.resolve_users.bind fun _ _ found => ?_
  obtain ⟨t, t', rfl, rfl, tables⟩ := found
  simp only [TableId.schema, mapM_dataPosition fields named]
  refine .bind_same _ fun positions done => ?_
  cases done
  rw [zip_values fields]
  refine (find_identified_agrees tables userId).bind fun chosen chosen' picked => ?_
  refine (changeRows_agrees assignable tables.rows picked).bind fun rows rows' both => ?_
  have changed : Table.SameButHashes { t with rows } { t' with rows := rows' } :=
    ⟨both, tables.lastKey⟩
  refine (putUsers_agrees same changed).bind fun _ _ left => .done ⟨?_, left⟩
  rw [picked.length_eq]

/-- An account is removed alike, with its todos. -/
theorem dropAccount_agrees (userId : Int) :
    AgreeUpTo SameOutcome (a.delete User.table ⟨[.condition ⟨"id", .eq, .integer userId⟩]⟩)
      (b.delete User.table ⟨[.condition ⟨"id", .eq, .integer userId⟩]⟩) := by
  rw [delete, delete]
  refine same.resolve_users.bind fun _ _ found => ?_
  obtain ⟨t, t', rfl, rfl, tables⟩ := found
  refine (find_identified_agrees tables userId).bind fun chosen chosen' picked => ?_
  have rows := filter_of_forall₂ tables.rows (p := fun row => !chosen.any (·.key == row.key))
    (q := fun row => !chosen'.any (·.key == row.key)) fun row other both => by
      rw [any_of_forall₂ picked fun _ _ here => by rw [here.key, both.key]]
  have left : Table.SameButHashes { t with rows := _ } { t' with rows := _ } :=
    ⟨rows, tables.lastKey⟩
  refine .done ⟨?_, (same.setUsers left).dropOrphans⟩
  rw [picked.length_eq]

/-- A discreet command writes alike. -/
theorem write_agrees {command : Command} (discreet : command.Discreet) :
    AgreeUpTo SameOutcome (a.write command) (b.write command) := by
  cases discreet with
  | apart other => exact write_apart same other
  | addAccount now salt name email password =>
    exact addAccount_agrees same now salt name email password
  | dropAccount userId => exact dropAccount_agrees same userId
  | changeAccount now salt name email password userId =>
    by_cases absent : name = none ∧ email = none ∧ password = none
    · obtain ⟨rfl, rfl, rfl⟩ := absent
      have fields : (Users.changes now salt none none none).fields =
          ([] : Placed).map Prod.snd := rfl
      exact changeAccount_agrees same fields (List.forall_mem_nil _) (List.forall_mem_nil _) userId
    · exact changeAccount_agrees same (Users.fields_changes now salt absent)
        (Users.dataPosition_placed _ name email _)
        (assignable_placed now.text salt name email password) userId

/-- Accounts that a filter asks for by another column are read as records of rows that differ at
most in stored passwords. -/
theorem select_agrees {c : Condition} {position : Nat}
    (named : Term.ofText? .users c.field = some (.column position))
    (apart : position ≠ hashPosition)
    {columns : List String} {outputs : List Output}
    (projected : Output.ofText? .users
      (if columns.isEmpty then "*" else Text.join ", " columns) = some outputs)
    (plain : outputs.any Output.isTotal = false) :
    AgreeUpTo (Forall₂ fun record other => ∃ row row' count, row.SameButHash row' ∧
        record = Database.record outputs row count ∧ other = Database.record outputs row' count)
      (a.select User.table columns ⟨[.condition c]⟩)
      (b.select User.table columns ⟨[.condition c]⟩) := by
  rw [select, select]
  refine same.resolve_users.bind fun _ _ found => ?_
  obtain ⟨t, t', rfl, rfl, tables⟩ := found
  simp only [TableId.schema, projected, plain]
  refine (find_agrees named apart tables).bind fun rows rows' both => .done ?_
  refine List.forall₂_map_left_iff.2
    (List.forall₂_map_right_iff.2 (both.imp fun row row' here => ?_))
  rw [both.length_eq]
  exact ⟨row, row', rows'.length, here, rfl, rfl⟩

end

end Database

end Storage

end TodoServer
