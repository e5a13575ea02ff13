import TodoServer.Proofs.Service.ByText
import TodoServer.Proofs.Storage.Like
import TodoServer.Proofs.Store.Reachable
import TodoServer.Proofs.Store.View
import Mathlib.Data.List.TakeWhile

/-!
# Lists of todos

A list returns each todo of its caller that has the status and contains the text asked for, once and
in the order of ids, and no other todo, whether storage is handed the selection or nothing but its
text. Of each todo that is compared with a pattern storage is taken to match it as it is written; it
does so for all texts and patterns without NUL. Where there is a todo to compare, a pattern that is
too long is refused.
-/

namespace TodoServer

open Storage

/-! ## What is asked for -/

namespace Todo

variable (t : Todo)

/-- A todo that a list asks for. -/
structure Sought (userId : Int) (completed : Option Bool) (search : Option String) : Prop where
  owner : t.userId = userId
  status : ∀ flag, completed = some flag → t.completed = flag
  /-- Blanks around the text do not count, and blanks alone ask for nothing. -/
  text : ∀ query, search = some query → Text.trim query ≠ "" →
    Text.Contains (Text.trim query) t.title ∨
      ∃ description, t.description = some description ∧
        Text.Contains (Text.trim query) description

/-- A todo of a database that is compared with the text asked for: its owner is the caller, and it
has the status. -/
structure Admitted (db : Database) (userId : Int) (completed : Option Bool) : Prop where
  stored : t.row ∈ db.rowsOf .todos
  owner : t.userId = userId
  status : ∀ flag, completed = some flag → t.completed = flag

/-- A pattern is true of the title and of the description if it matches them as a whole, false if it
does not match them, and unknown where there is no description. -/
structure LikeAsWritten (pattern : String) : Prop where
  title : Database.conditionTruth .todos t.row ⟨"title", .like, .text pattern⟩ =
    .ok (.ofBool (Like.Matches pattern.toList t.title.toList))
  description : Database.conditionTruth .todos t.row ⟨"description", .like, .text pattern⟩ =
    .ok ((t.description.map fun text =>
      .ofBool (Like.Matches pattern.toList text.toList)).getD .unknown)

/-- The text asked for, if there is one, makes a pattern that is matched as it is written. -/
def SearchedAsWritten (search : Option String) : Prop :=
  ∀ query, search = some query → Text.trim query ≠ "" →
    t.LikeAsWritten (Todos.pattern (Text.trim query))

end Todo

/-- The text asked for makes a pattern that storage does not take. -/
def Todos.IsTooLong (search : Option String) : Prop :=
  ∃ query, search = some query ∧ Text.trim query ≠ "" ∧
    Like.patternLimit < (pattern (Text.trim query)).utf8ByteSize

/-! ## Patterns -/

namespace Todos

variable {s : Store} {rest : Database} {userId : Int} {completed : Option Bool}
  {search : Option String} {t : Todo}

theorem wanted_eq_some_iff {text : String} :
    wanted search = some text ↔
      ∃ query, search = some query ∧ Text.trim query = text ∧ text ≠ "" := by
  rw [wanted, Option.filter_eq_some_iff, Option.map_eq_some_iff]
  constructor
  · rintro ⟨⟨query, asked, trimmed⟩, some⟩
    exact ⟨query, asked, trimmed, of_decide_eq_true some⟩
  · rintro ⟨query, asked, trimmed, some⟩
    exact ⟨⟨query, asked, trimmed⟩, decide_eq_true some⟩

theorem toList_pattern (text : String) :
    (pattern text).toList = '%' :: (text.toList.flatMap Sql.escapeLikeChar ++ ['%']) := by
  simp [pattern, Sql.escapeLike]

theorem matches_pattern_iff (text other : String) :
    Like.Matches (pattern text).toList other.toList ↔ Text.Contains text other := by
  rw [toList_pattern, Like.matches_containing_iff, Text.Contains]

theorem ofBool_inj {a b : Bool} (same : Truth.ofBool a = Truth.ofBool b) : a = b := by
  cases a <;> cases b <;> first | rfl | cases same

theorem isLike_iff_of_truth {text other : String}
    (same : (.ok (.ofBool (Text.isLike (pattern text) other)) : Except StorageError Truth) =
      .ok (.ofBool (Like.Matches (pattern text).toList other.toList))) :
    Text.isLike (pattern text) other = true ↔ Text.Contains text other := by
  rw [ofBool_inj (Except.ok.inj same), decide_eq_true_iff]
  exact matches_pattern_iff text other

/-- A todo is like the pattern of a text when it contains the text. -/
theorem isLike_iff {text : String} (assumed : t.LikeAsWritten (pattern text)) :
    isLike (pattern text) t = true ↔ Text.Contains text t.title ∨
      ∃ description, t.description = some description ∧ Text.Contains text description := by
  have title := assumed.title
  have described := assumed.description
  -- A pattern that is too long would be refused, and not be true or false.
  have short : ¬Like.patternLimit < (pattern text).utf8ByteSize := by
    intro long
    rw [Database.truth_todo_title, if_pos long] at title
    cases title
  rw [Database.truth_todo_title, if_neg short] at title
  rw [Database.truth_todo_description, if_neg short] at described
  rw [isLike, Bool.or_eq_true, isLike_iff_of_truth title]
  refine or_congr Iff.rfl ?_
  cases present : t.description with
  | none => simp
  | some text' =>
    rw [present, Option.map_some, Option.map_some, Option.getD_some, Option.getD_some] at described
    rw [Option.any_some, isLike_iff_of_truth described]
    simp

theorem isLike_eq_decide {pattern text : String} (plain : '\x00' ∉ pattern.toList)
    (plain' : '\x00' ∉ text.toList) :
    Text.isLike pattern text = decide (Like.Matches pattern.toList text.toList) := by
  have whole {s : String} (plain : '\x00' ∉ s.toList) : Text.untilNul s = s.toList := by
    refine List.takeWhile_eq_self_iff.2 fun c mem => decide_eq_true ?_
    rintro rfl
    exact plain mem
  rw [Text.isLike, whole plain, whole plain', Bool.eq_iff_iff, Like.isMatch_iff, decide_eq_true_iff]

/-- Storage matches texts without NUL with every pattern without NUL that is not too long as it is
written. -/
theorem likeAsWritten_of_plain {pattern : String}
    (short : pattern.utf8ByteSize ≤ Like.patternLimit) (plain : '\x00' ∉ pattern.toList)
    (title : '\x00' ∉ t.title.toList)
    (described : ∀ description, t.description = some description → '\x00' ∉ description.toList) :
    t.LikeAsWritten pattern := by
  constructor
  · rw [Database.truth_todo_title, if_neg (Nat.not_lt.2 short), isLike_eq_decide plain title]
  · rw [Database.truth_todo_description, if_neg (Nat.not_lt.2 short)]
    cases present : t.description with
    | none => rfl
    | some text =>
      rw [Option.map_some, Option.map_some, isLike_eq_decide plain (described text present)]

/-! ## Lists on a store -/

theorem isListed_iff : isListed userId completed t = true ↔
    t.userId = userId ∧ ∀ flag, completed = some flag → t.completed = flag := by
  rw [isListed, Bool.and_eq_true, decide_eq_true_iff]
  cases completed <;> simp

theorem admitted_iff :
    t.Admitted (s.fill rest) userId completed ↔ t ∈ s.todos ∧ isListed userId completed t := by
  rw [isListed_iff, ← Store.mem_todos_iff rest]
  exact ⟨fun ⟨stored, owner, status⟩ => ⟨stored, owner, status⟩,
    fun ⟨stored, owner, status⟩ => ⟨stored, owner, status⟩⟩

theorem any_isListed_iff : s.todos.any (isListed userId completed) = true ↔
    ∃ t : Todo, t.Admitted (s.fill rest) userId completed := by
  simp only [admitted_iff, List.any_eq_true]

/-- Where there is a todo to compare, a pattern that is too long is refused. -/
theorem listed_of_long (long : IsTooLong search)
    (admitted : ∃ t : Todo, t.Admitted (s.fill rest) userId completed) :
    listed s userId completed search = .error (.query (.storage Database.patternTooComplex)) := by
  obtain ⟨query, asked, some, long⟩ := long
  rw [listed, wanted_eq_some_iff.2 ⟨query, asked, rfl, some⟩]
  exact if_pos ⟨long, any_isListed_iff.2 admitted⟩

/-- What a list holds otherwise. -/
theorem listed_eq_ok
    (short : ¬(IsTooLong search ∧ ∃ t : Todo, t.Admitted (s.fill rest) userId completed)) :
    ∃ p : Todo → Bool, listed s userId completed search = .ok (s.todos.filter p) ∧
      ∀ t ∈ s.todos, (isListed userId completed t = true → t.SearchedAsWritten search) →
        (p t = true ↔ t.Sought userId completed search) := by
  rw [listed]
  cases asked : wanted search with
  | none =>
    refine ⟨isListed userId completed, rfl, fun t _ _ => isListed_iff.trans ?_⟩
    constructor
    · rintro ⟨owner, status⟩
      refine ⟨owner, status, fun query given some => ?_⟩
      have found := wanted_eq_some_iff.2 ⟨query, given, rfl, some⟩
      rw [asked] at found
      cases found
    · exact fun sought => ⟨sought.owner, sought.status⟩
  | some text =>
    obtain ⟨query, given, rfl, some⟩ := wanted_eq_some_iff.1 asked
    have taken : ¬(Like.patternLimit < (pattern (Text.trim query)).utf8ByteSize ∧
        s.todos.any (isListed userId completed) = true) := by
      rintro ⟨long, present⟩
      exact short ⟨⟨query, given, some, long⟩, any_isListed_iff.1 present⟩
    refine ⟨fun t => isListed userId completed t && isLike (pattern (Text.trim query)) t,
      if_neg taken, fun t _ assumed => ?_⟩
    rw [Bool.and_eq_true]
    constructor
    · rintro ⟨within, like⟩
      obtain ⟨owner, status⟩ := isListed_iff.1 within
      refine ⟨owner, status, fun other asked' _ => ?_⟩
      rw [Option.some_inj.1 (asked'.symm.trans given)]
      exact (isLike_iff (assumed within query given some)).1 like
    · intro sought
      have within := isListed_iff.2 ⟨sought.owner, sought.status⟩
      exact ⟨within, (isLike_iff (assumed within query given some)).2
        (sought.text query given some)⟩

end Todos

/-! ## Lists -/

/-- A list changes nothing and is answered from the text of its selection as it is from the
selection. It returns the todos that it asks for, each once and in the order of ids, and no other
todo, where of each todo that is compared with the text it counts how storage matches that one. Only
a text that is too long is refused, if there is a todo to compare. -/
theorem lists_exactly {db : Database} (reachable : Reachable db) (userId : Int)
    (completed : Option Bool) (search : Option String) :
    ∃ answer,
      Todos.list Pool.runner userId completed search (.of db) = (answer, .of db) ∧
      Todos.list Pool.textRunner userId completed search (.of db) = (answer, .of db) ∧
      (Todos.IsTooLong search ∧ (∃ t : Todo, t.Admitted db userId completed) →
        answer = .error (.query (.storage Database.patternTooComplex))) ∧
      (¬(Todos.IsTooLong search ∧ ∃ t : Todo, t.Admitted db userId completed) →
        ∃ todos, answer = .ok todos ∧ (todos.map Todo.id).Pairwise (· < ·) ∧
          ∀ t : Todo, (t.Admitted db userId completed → t.SearchedAsWritten search) →
            (t ∈ todos ↔ t.row ∈ db.rowsOf .todos ∧ t.Sought userId completed search)) := by
  obtain ⟨s, rest, valid, rfl⟩ := reachable.filled
  have answered : Todos.list Pool.runner userId completed search (s.pool rest) =
      (Todos.listed s userId completed search, s.pool rest) :=
    Todos.list_pool userId completed search
  refine ⟨_, answered, ?_, ?_, fun short => ?_⟩
  · exact (Todos.list_textRunner (s.pool rest) userId completed search).trans answered
  · rintro ⟨long, admitted⟩
    exact Todos.listed_of_long long admitted
  · obtain ⟨p, listed, sought⟩ := Todos.listed_eq_ok short
    refine ⟨_, listed, ?_, fun t assumed => ?_⟩
    · exact valid.todoIds.ascending.sublist (List.filter_sublist.map _)
    · rw [Store.mem_todos_iff, List.mem_filter]
      exact and_congr_right fun held =>
        sought t held fun within => assumed (Todos.admitted_iff.2 ⟨held, within⟩)

/-- A search for a text with a percent sign, with blanks around it. -/
theorem search_for_percent :
    Reachable (sampleDatabase "Bread") ∧
      ∃ todos,
        Todos.list Pool.runner 1 (some false) (some " 0% O\u00a0") (.of (sampleDatabase "Bread")) =
          (.ok todos, .of (sampleDatabase "Bread")) ∧
        Todos.list Pool.textRunner 1 (some false) (some " 0% O\u00a0")
          (.of (sampleDatabase "Bread")) = (.ok todos, .of (sampleDatabase "Bread")) ∧
        (todos.map Todo.id).Pairwise (· < ·) ∧
        ∀ t : Todo, t ∈ todos ↔ t.row ∈ (sampleDatabase "Bread").rowsOf .todos ∧
          t.Sought 1 (some false) (some " 0% O\u00a0") := by
  have reachable : Reachable (sampleDatabase "Bread") :=
    reachable_sampleDatabase (by decide +kernel)
  have short : ¬Todos.IsTooLong (some " 0% O\u00a0") := by
    rintro ⟨query, asked, -, long⟩
    cases asked
    revert long
    decide +kernel
  have plain : ∀ t ∈ (Store.sample "Bread").todos, '\x00' ∉ t.title.toList ∧
      ∀ description, t.description = some description → '\x00' ∉ description.toList := by
    simp [Store.sample]
  have assumed (t : Todo) (admitted : t.Admitted (sampleDatabase "Bread") 1 (some false)) :
      t.SearchedAsWritten (some " 0% O\u00a0") := by
    intro query asked _
    cases asked
    obtain ⟨title, described⟩ := plain t ((Store.mem_todos_iff _).1 admitted.stored)
    exact Todos.likeAsWritten_of_plain (by decide +kernel) (by decide +kernel) title described
  obtain ⟨answer, given, text, -, exact⟩ := lists_exactly reachable 1 (some false)
    (some " 0% O\u00a0")
  obtain ⟨todos, rfl, ascending, sought⟩ := exact fun long => short long.1
  exact ⟨reachable, todos, given, text, ascending, fun t => sought t (assumed t)⟩

end TodoServer
