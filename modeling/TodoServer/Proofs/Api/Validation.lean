import Mathlib.Data.List.Infix
import TodoServer.Proofs.Api.Submission

/-!
# Broken rules by name

Each form declares rules with their wordings: its own, and for a batch those of each item. What is
told of a document that breaks some of them is made of the wordings of the form's own rules alone,
in alphabetical order. So it names every broken rule unless one is broken inside an item.
-/

namespace TodoServer

/-- Each of some texts stands in the text that is made of them. -/
theorem Text.infix_join {separator part : String} {parts : List String} (mem : part ∈ parts) :
    part.toList <:+: (join separator parts).toList := by
  match parts, mem with
  | [single], mem =>
    rw [join, String.intercalate_singleton, List.mem_singleton.1 mem]
  | first :: second :: rest, mem =>
    rw [join, String.intercalate_cons_cons, String.toList_append]
    rcases List.mem_cons.1 mem with rfl | later
    · rw [String.toList_append, List.append_assoc]
      exact (List.prefix_append _ _).isInfix
    · have behind : part.toList <:+: (join separator (second :: rest)).toList := infix_join later
      exact behind.trans (List.suffix_append _ _).isInfix

namespace Api

/-! ## Wordings -/

namespace Violation

/-- The wordings of the violations of a form itself. -/
def own (violations : List Violation) : List String :=
  (violations.filter (·.item.isNone)).map (·.message)

theorem text_eq (violations : List Violation) :
    text violations = Text.join "; " ((own violations).mergeSort (· ≤ ·)) := rfl

theorem text_eq_empty {violations : List Violation} (unnamed : own violations = []) :
    text violations = "" := by
  rw [text_eq, unnamed, List.mergeSort_nil]
  rfl

/-- The wording of violations does not depend on the order in which they are found. -/
theorem text_of_perm {violations others : List Violation} (perm : others.Perm violations) :
    text others = text violations := by
  have wordings : (own others).Perm (own violations) := (perm.filter _).map _
  have sorted (xs : List String) : (xs.mergeSort (· ≤ ·)).Pairwise (· ≤ ·) := by
    have trans (a b c : String) (ab : decide (a ≤ b) = true) (bc : decide (b ≤ c) = true) :
        decide (a ≤ c) = true := by
      rw [decide_eq_true_eq] at ab bc ⊢
      exact String.le_trans ab bc
    have total (a b : String) : (decide (a ≤ b) || decide (b ≤ a)) = true := by
      simpa using String.le_total a b
    exact (List.pairwise_mergeSort trans total xs).imp of_decide_eq_true
  have same : (own others).mergeSort (· ≤ ·) = (own violations).mergeSort (· ≤ ·) := by
    refine List.Perm.eq_of_pairwise ?_ (sorted _) (sorted _) ?_
    · intro a b _ _ ab ba
      exact String.le_antisymm ab ba
    · exact (List.mergeSort_perm _ _).trans (wordings.trans (List.mergeSort_perm _ _).symm)
  rw [text_eq, text_eq, same]

theorem infix_text {violations : List Violation} {message : String}
    (mem : message ∈ own violations) : message.toList <:+: (text violations).toList := by
  rw [text_eq]
  exact Text.infix_join (List.mem_mergeSort.2 mem)

section

variable {violations others : List Violation} {m field message : String}

theorem own_append : own (violations ++ others) = own violations ++ own others := by
  rw [own, List.filter_append, List.map_append]
  rfl

theorem mem_own_check {holds : Bool} :
    m ∈ own (check holds field message) ↔ m = message ∧ holds = false := by
  cases holds <;> simp [own, check]

/-- Violations inside items have no wording of their own. -/
theorem own_ofItems {α : Type} {rules : α → List Violation} {place : Nat} {items : List α} :
    own (ofItems rules place items) = [] := by
  induction items generalizing place with
  | nil => rfl
  | cons item rest ih =>
    rw [ofItems, own_append, ih, List.append_nil, own]
    simp

end

end Violation

/-! ## Declared rules -/

/-- A rule that is declared for a value, and what is said of values that break it. -/
structure Rule (α : Type) where
  message : String
  isKept : α → Prop

namespace Rule

variable {α β : Type}

/-- A rule for a part of a value. -/
def on (part : α → β) (rule : Rule β) : Rule α :=
  ⟨rule.message, fun value => rule.isKept (part value)⟩

/-- A rule for a part of a value that may be left out. -/
def onGiven (part : α → Option β) (rule : Rule β) : Rule α :=
  ⟨rule.message, fun value => ∀ given, part value = some given → rule.isKept given⟩

/-- A rule for each item of a list. -/
def onEach (rule : Rule α) : Rule (List α) :=
  ⟨rule.message, fun items => ∀ item ∈ items, rule.isKept item⟩

/-- Violations are found by some rules: their wordings are those of the broken rules, and there are
none when all rules are kept. -/
structure Decide (rules : List (Rule α)) (found : α → List Violation) : Prop where
  own : ∀ value message, message ∈ Violation.own (found value) ↔
    ∃ rule ∈ rules, rule.message = message ∧ ¬rule.isKept value
  none : ∀ value, found value = [] ↔ ∀ rule ∈ rules, rule.isKept value

namespace Decide

variable {rules others : List (Rule β)} {found more : β → List Violation}

theorem check {holds : β → Bool} {isKept : β → Prop} {field message : String}
    (same : ∀ value, holds value = true ↔ isKept value) :
    Decide [⟨message, isKept⟩] fun value => Violation.check (holds value) field message := by
  refine ⟨fun value m => ?_, fun value => ?_⟩
  · rw [Violation.mem_own_check, ← Bool.not_eq_true, same]
    simp [eq_comm]
  · rw [Violation.check_eq_nil_iff, same]
    simp

theorem append (decide : Decide rules found) (decide' : Decide others more) :
    Decide (rules ++ others) fun value => found value ++ more value := by
  refine ⟨fun value m => ?_, fun value => ?_⟩
  · rw [Violation.own_append, List.mem_append, decide.own, decide'.own]
    simp only [List.mem_append, or_and_right, exists_or]
  · rw [List.append_eq_nil_iff, decide.none, decide'.none, List.forall_mem_append]

theorem on (decide : Decide rules found) (part : α → β) :
    Decide (rules.map (Rule.on part)) fun value => found (part value) := by
  refine ⟨fun value m => ?_, fun value => ?_⟩
  · rw [decide.own]
    simp [Rule.on]
  · rw [decide.none]
    simp [Rule.on]

theorem onGiven (decide : Decide rules found) (part : α → Option β) :
    Decide (rules.map (Rule.onGiven part)) fun value => Violation.ofGiven found (part value) := by
  refine ⟨fun value m => ?_, fun value => ?_⟩
  · cases given : part value with
    | none => simp [Violation.ofGiven, Violation.own, Rule.onGiven, given]
    | some given' =>
      rw [Violation.ofGiven, decide.own]
      simp [Rule.onGiven, given]
  · cases given : part value with
    | none => simp [Violation.ofGiven, Rule.onGiven, given]
    | some given' =>
      rw [Violation.ofGiven, decide.none]
      simp [Rule.onGiven, given]

end Decide

/-! ### The rules of fields -/

def ofName : Rule String :=
  ⟨"Name must be 1-100 characters", fun s => 1 ≤ s.length ∧ s.length ≤ 100⟩

def ofEmail : Rule String :=
  ⟨"Email must be a valid address", fun s => Address.isEmail s = true⟩

def ofPassword : Rule String :=
  ⟨"Password must be 8-128 characters", fun s => 8 ≤ s.length ∧ s.length ≤ 128⟩

def ofTitle : Rule String :=
  ⟨"Title must be 1-200 characters", fun s => 1 ≤ s.length ∧ s.length ≤ 200⟩

def ofDescription : Rule String :=
  ⟨"Description must be at most 2000 characters", fun s => s.length ≤ 2000⟩

def emailGiven : Rule String :=
  ⟨"Email cannot be empty", fun s => 1 ≤ s.length⟩

def passwordGiven : Rule String :=
  ⟨"Password cannot be empty", fun s => 1 ≤ s.length⟩

def ofSize : Rule (List NewTodo) :=
  ⟨"Batch must hold 1-500 todos", fun todos => 1 ≤ todos.length ∧ todos.length ≤ 500⟩

theorem ofName_decides : Decide [ofName] nameRule := .check (by simp)

theorem ofEmail_decides : Decide [ofEmail] emailRule := .check fun _ => Iff.rfl

theorem ofPassword_decides : Decide [ofPassword] passwordRule := .check (by simp)

theorem ofTitle_decides : Decide [ofTitle] titleRule := .check (by simp)

theorem ofDescription_decides : Decide [ofDescription] descriptionRule := .check (by simp)

theorem ofSize_decides : Decide [ofSize] batchRule := by
  refine .check fun todos => ?_
  rw [Bool.and_eq_true, decide_eq_true_iff, decide_eq_true_iff]
  exact Iff.rfl

end Rule

/-! ### The rules of forms -/

/-- The forms of the documents that callers send. -/
inductive FormId where
  | credentials
  | registration
  | profile
  | todo
  | todoChange
  | batch
  deriving DecidableEq

namespace FormId

/-- What a document of a form is read as. -/
abbrev Value : FormId → Type
  | credentials => Credentials
  | registration => Registration
  | profile => ProfileChange
  | todo => NewTodo
  | todoChange => TodoChange
  | batch => List NewTodo

def form : (id : FormId) → Form id.Value
  | credentials => credentialsForm
  | registration => registrationForm
  | profile => profileForm
  | todo => newTodoForm
  | todoChange => todoChangeForm
  | batch => batchForm

/-- The rules for the fields of a form. -/
def ownRules : (id : FormId) → List (Rule id.Value)
  | credentials => [.on Credentials.email .emailGiven, .on Credentials.password .passwordGiven]
  | registration => [.on Registration.name .ofName, .on Registration.email .ofEmail,
    .on Registration.password .ofPassword]
  | profile => [.onGiven ProfileChange.name .ofName, .onGiven ProfileChange.email .ofEmail,
    .onGiven ProfileChange.password .ofPassword]
  | todo => [.on NewTodo.title .ofTitle, .onGiven NewTodo.description .ofDescription]
  | todoChange => [.onGiven TodoChange.title .ofTitle,
    .onGiven TodoChange.description .ofDescription]
  | batch => [.ofSize]

/-- The rules for the fields of the items of a form. -/
def itemRules : (id : FormId) → List (Rule id.Value)
  | batch => todo.ownRules.map .onEach
  | _ => []

/-- All rules that are declared for a form. -/
def rules (id : FormId) : List (Rule id.Value) :=
  id.ownRules ++ id.itemRules

theorem todo_decides : Rule.Decide todo.ownRules todoRules :=
  (Rule.ofTitle_decides.on _).append (Rule.ofDescription_decides.onGiven _)

/-- The violations of a form other than a batch are found by the rules for its fields. -/
theorem decides {id : FormId} (single : id ≠ batch) :
    Rule.Decide id.ownRules id.form.violations := by
  cases id with
  | credentials =>
    have email : Rule.Decide [.emailGiven]
        (Violation.ofLength 1 none "email" "Email cannot be empty") := .check (by simp)
    have password : Rule.Decide [.passwordGiven]
        (Violation.ofLength 1 none "password" "Password cannot be empty") := .check (by simp)
    exact (email.on _).append (password.on _)
  | registration =>
    exact ((Rule.ofName_decides.on _).append (Rule.ofEmail_decides.on _)).append
      (Rule.ofPassword_decides.on _)
  | profile =>
    exact ((Rule.ofName_decides.onGiven _).append (Rule.ofEmail_decides.onGiven _)).append
      (Rule.ofPassword_decides.onGiven _)
  | todo => exact todo_decides
  | todoChange =>
    exact (Rule.ofTitle_decides.onGiven _).append (Rule.ofDescription_decides.onGiven _)
  | batch => exact absurd rfl single

variable {id : FormId} {value : id.Value}

/-- The wordings of the violations of a form are those of the broken rules for its fields. -/
theorem mem_own_iff {message : String} :
    message ∈ Violation.own (id.form.violations value) ↔
      ∃ rule ∈ id.ownRules, rule.message = message ∧ ¬rule.isKept value := by
  by_cases single : id = batch
  · subst single
    change message ∈ Violation.own (batchRule value ++ Violation.ofItems todoRules 0 value) ↔ _
    rw [Violation.own_append, Violation.own_ofItems, List.append_nil]
    exact Rule.ofSize_decides.own value message
  · exact (decides single).own value message

/-- A value has no violations when it keeps all rules of its form. -/
theorem violations_eq_nil_iff :
    id.form.violations value = [] ↔ ∀ rule ∈ id.rules, rule.isKept value := by
  rw [rules, List.forall_mem_append]
  by_cases single : id = batch
  · subst single
    have items : Violation.ofItems todoRules 0 value = [] ↔
        ∀ rule ∈ batch.itemRules, rule.isKept value := by
      simp only [Violation.ofItems_eq_nil_iff, todo_decides.none, itemRules, List.forall_mem_map,
        Rule.onEach]
      exact ⟨fun all rule mem item held => all item held rule mem,
        fun all item held rule mem => all rule mem item held⟩
    change batchRule value ++ Violation.ofItems todoRules 0 value = [] ↔ _
    rw [List.append_eq_nil_iff, items, Rule.ofSize_decides.none]
    exact Iff.rfl
  · have plain : id.itemRules = [] := by cases id <;> first | rfl | exact absurd rfl single
    rw [(decides single).none, plain]
    simp

/-- A broken rule for a field is named. -/
theorem infix_text {rule : Rule id.Value} (declared : rule ∈ id.ownRules)
    (broken : ¬rule.isKept value) :
    rule.message.toList <:+: (Violation.text (id.form.violations value)).toList :=
  Violation.infix_text (mem_own_iff.2 ⟨rule, declared, rfl, broken⟩)

/-- What is told of a batch is nothing or the wording of the rule for its size. -/
theorem text_batch (todos : List NewTodo) :
    Violation.text (batchForm.violations todos) = "" ∨
      Violation.text (batchForm.violations todos) = "Batch must hold 1-500 todos" := by
  have own : Violation.own (batchForm.violations todos) = Violation.own (batchRule todos) := by
    change Violation.own (batchRule todos ++ Violation.ofItems todoRules 0 todos) = _
    rw [Violation.own_append, Violation.own_ofItems, List.append_nil]
  rw [Violation.text_eq, own, batchRule, Violation.check]
  split
  · left
    rw [← Violation.text_eq]
    exact Violation.text_eq_empty rfl
  · right
    change Text.join "; " (["Batch must hold 1-500 todos"].mergeSort _) = _
    rw [List.mergeSort_singleton, Text.join, String.intercalate_singleton]

/-- A rule for a field of an item is never named. -/
theorem not_infix_text {rule : Rule id.Value} (declared : rule ∈ id.itemRules) :
    ¬rule.message.toList <:+: (Violation.text (id.form.violations value)).toList := by
  cases id with
  | batch =>
    have wording : rule.message = "Title must be 1-200 characters" ∨
        rule.message = "Description must be at most 2000 characters" := by
      obtain ⟨inner, mem, rfl⟩ := List.mem_map.1 declared
      rcases List.mem_cons.1 mem with rfl | later
      · exact .inl rfl
      · rw [List.mem_singleton.1 later]
        exact .inr rfl
    have told := text_batch value
    change ¬rule.message.toList <:+: (Violation.text (batchForm.violations value)).toList
    rcases wording with wording | wording <;> rcases told with told | told <;>
      rw [wording, told] <;> decide
  | _ => cases declared

theorem message_ne_empty {rule : Rule id.Value} (declared : rule ∈ id.ownRules) :
    rule.message ≠ "" := by
  have all : ∀ message ∈ id.ownRules.map Rule.message, message ≠ "" := by cases id <;> decide
  exact all _ (List.mem_map_of_mem declared)

/-- What is told names all broken rules when none is broken inside an item. -/
theorem names_all_iff (broken : ∃ rule ∈ id.rules, ¬rule.isKept value) :
    (Violation.text (id.form.violations value) ≠ "" ∧ ∀ rule ∈ id.rules, ¬rule.isKept value →
        rule.message.toList <:+: (Violation.text (id.form.violations value)).toList) ↔
      ∀ rule ∈ id.itemRules, rule.isKept value := by
  constructor
  · rintro ⟨-, named⟩ rule declared
    by_contra broken
    exact not_infix_text declared (named rule (List.mem_append_right _ declared) broken)
  · intro kept
    have own {rule : Rule id.Value} (declared : rule ∈ id.rules) (broken : ¬rule.isKept value) :
        rule ∈ id.ownRules := by
      rcases List.mem_append.1 declared with here | inside
      · exact here
      · exact absurd (kept rule inside) broken
    refine ⟨?_, fun rule declared broken => infix_text (own declared broken) broken⟩
    obtain ⟨rule, declared, broken⟩ := broken
    have named := infix_text (own declared broken) broken
    intro empty
    rw [empty] at named
    have blank : rule.message = "" := String.toList_eq_nil_iff.1 (List.infix_nil.1 named)
    exact message_ne_empty (own declared broken) blank

end FormId

/-! ## Rejected documents -/

/-- A document with violations is rejected. -/
theorem Form.ofRequest_of_violated {α : Type} {form : Form α} {limit : Nat}
    {request : Http.Request} {media : Http.MediaType} {value : α}
    (announced : (request.plainHeader? "content-type").bind Http.MediaType.parse? = some media)
    (document : media.isJson = true) (within : request.body.length ≤ limit)
    (read : form.read request.body = .ok value) (found : form.violations value ≠ []) :
    form.ofRequest limit request = .error (.violated (form.violations value)) := by
  have short : ¬limit < request.body.length := Nat.not_lt.2 within
  have some : (form.violations value).isEmpty = false := by simpa using found
  simp only [ofRequest, announced, document, short, read, checked, some, Bool.not_true,
    Bool.false_eq_true, if_false]

/-- A request whose document is read as a value that breaks a declared rule is rejected with status
400 and a wording that does not depend on the order in which the violations are found. It names all
broken rules for the fields of the form. It is not empty and names all broken rules exactly when no
rule is broken inside an item. -/
theorem broken_rules_named (id : FormId) (limit : Nat) (request : Http.Request)
    (media : Http.MediaType)
    (announced : (request.plainHeader? "content-type").bind Http.MediaType.parse? = some media)
    (document : media.isJson = true) (within : request.body.length ≤ limit) {value : id.Value}
    (read : id.form.read request.body = .ok value)
    (broken : ∃ rule ∈ id.rules, ¬rule.isKept value) :
    ∃ rejection, id.form.ofRequest limit request = .error rejection ∧
      rejection.toApiError.response = .json 400 (.obj [("error", .str "bad_request"),
        ("code", .str "VALIDATION_ERROR"), ("message", .str rejection.message)]) ∧
      (∀ others : List Violation, others.Perm (id.form.violations value) →
        Violation.text others = rejection.message) ∧
      (∀ rule ∈ id.ownRules, ¬rule.isKept value →
        rule.message.toList <:+: rejection.message.toList) ∧
      ((rejection.message ≠ "" ∧ ∀ rule ∈ id.rules, ¬rule.isKept value →
          rule.message.toList <:+: rejection.message.toList) ↔
        ∀ rule ∈ id.itemRules, rule.isKept value) := by
  have found : id.form.violations value ≠ [] := by
    intro none
    obtain ⟨rule, declared, broken⟩ := broken
    exact broken (FormId.violations_eq_nil_iff.1 none rule declared)
  exact ⟨.violated (id.form.violations value),
    Form.ofRequest_of_violated announced document within read found, rfl,
    fun others => Violation.text_of_perm, fun rule declared => FormId.infix_text declared,
    FormId.names_all_iff broken⟩

end Api

open Api

/-- A request whose body is a document. -/
def Http.Request.forDocument (path document : String) : Request :=
  ⟨"POST", ⟨"", path, none⟩, [⟨"content-type", "application/json"⟩], Text.utf8 document⟩

/-- A registration that breaks two rules is told of both. -/
theorem Api.broken_rules_named_sample :
    ∃ rejection, registrationForm.ofRequest ownLimit (.forDocument "/api/v1/users"
        "\x7b\"name\":\"\",\"email\":\"ann@example.org\",\"password\":\"secret\"\x7d") =
          .error rejection ∧
      "Name must be 1-100 characters".toList <:+: rejection.message.toList ∧
      "Password must be 8-128 characters".toList <:+: rejection.message.toList := by
  let value : Registration := ⟨"", "ann@example.org", "secret"⟩
  have read : registrationForm.read (Text.utf8
      "\x7b\"name\":\"\",\"email\":\"ann@example.org\",\"password\":\"secret\"\x7d") =
        .ok value := by
    decide +kernel
  have noName : ¬(Rule.on Registration.name .ofName).isKept value := by
    simp [Rule.on, Rule.ofName, value]
  have shortPassword : ¬(Rule.on Registration.password .ofPassword).isKept value := by
    simp only [Rule.on, Rule.ofPassword, value]
    decide
  obtain ⟨rejection, told, -, -, named, -⟩ := broken_rules_named .registration ownLimit
    (.forDocument "/api/v1/users"
      "\x7b\"name\":\"\",\"email\":\"ann@example.org\",\"password\":\"secret\"\x7d")
    ⟨"application", "json", none⟩ (by decide +kernel) (by decide) (by decide +kernel) read
    ⟨_, List.mem_append_left _ (List.mem_cons_self ..), noName⟩
  have nameTold := named (.on Registration.name .ofName) (List.mem_cons_self ..) noName
  have passwordTold := named (.on Registration.password .ofPassword)
    (List.mem_cons_of_mem _ (List.mem_cons_of_mem _ (List.mem_cons_self ..))) shortPassword
  exact ⟨rejection, told, nameTold, passwordTold⟩

/-- A batch with an untitled todo breaks a declared rule and is told nothing. -/
theorem Api.broken_item_unnamed :
    batchForm.read (Text.utf8 "\x7b\"todos\":[\x7b\"title\":\"\"\x7d]\x7d") = .ok [⟨"", none⟩] ∧
      ¬(Rule.onEach (.on NewTodo.title .ofTitle)).isKept [⟨"", none⟩] ∧
      Rule.onEach (.on NewTodo.title .ofTitle) ∈ FormId.batch.rules ∧
      ∃ rejection, batchForm.ofRequest ownLimit
          (.forDocument "/api/v1/todos/batch" "\x7b\"todos\":[\x7b\"title\":\"\"\x7d]\x7d") =
            .error rejection ∧
        rejection.message = "" := by
  refine ⟨by decide +kernel, ?_, ?_, ?_⟩
  · simp [Rule.onEach, Rule.on, Rule.ofTitle]
  · exact List.mem_append_right _ (List.mem_cons_self ..)
  · have told := @Form.ofRequest_of_violated _ batchForm ownLimit
      (.forDocument "/api/v1/todos/batch" "\x7b\"todos\":[\x7b\"title\":\"\"\x7d]\x7d")
      ⟨"application", "json", none⟩ [⟨"", none⟩] (by decide +kernel) (by decide) (by decide +kernel)
      (by decide +kernel) (by decide)
    exact ⟨_, told, Violation.text_eq_empty rfl⟩

end TodoServer
