import TodoServer.Proofs.Filter.Normal
import TodoServer.Proofs.Sql.Batch
import TodoServer.Proofs.Sql.Meaning

/-!
# What the text of a statement says

The text of a selection, a change or a removal is read clause by clause: the words of the language
and the names between them, the columns or the assignments between commas, and behind WHERE a
condition as the grammar of conditions has it. A text without WHERE asks for all rows. The text of
each command that is not refused reads back as that command, with its table, its columns and its
data and with a filter of the same formula.
-/

namespace TodoServer

namespace Sql

/-! ## Reading clauses -/

/-- The filter of the condition that tokens make. There is none of a condition that names another
escape character than comparisons are written with. -/
def filter? (tokens : List Token) : Option Filter :=
  (read? tokens).bind fun f => if f.IsStandard then some (.ofFormula f) else none

/-- What comes behind a word of the language. -/
def behind? (casing : Casing) (word : String) : List Token → Option (List Token)
  | .name other :: rest => if casing.same other word then some rest else none
  | _ => none

/-- A name, and what comes behind it. -/
def name? : List Token → Option (String × List Token)
  | .name name :: rest => some (name, rest)
  | _ => none

/-- Names between commas, and what comes behind them. -/
def names? : List Token → Option (List String × List Token)
  | .name name :: .comma :: rest => (names? rest).map fun (names, rest) => (name :: names, rest)
  | .name name :: rest => some ([name], rest)
  | _ => none

/-- The columns of a selection, none of them named for all, and what comes behind them. -/
def projection? : List Token → Option (List String × List Token)
  | .star :: rest => some ([], rest)
  | tokens => names? tokens

/-- Assignments between commas, and what comes behind them. -/
def assignments? : List Token → Option (List (String × Scalar) × List Token)
  | .name field :: .comparison .eq :: .value value :: .comma :: rest =>
    (assignments? rest).map fun (fields, rest) => ((field, value) :: fields, rest)
  | .name field :: .comparison .eq :: .value value :: rest => some ([(field, value)], rest)
  | _ => none

/-- The filter of a statement whose text goes on with these tokens, or ends. -/
def where? (casing : Casing) : List Token → Option Filter
  | [] => some .empty
  | tokens => (behind? casing "WHERE" tokens).bind filter?

/-- The selection of the tokens behind its first word. -/
def selection? (casing : Casing) (tokens : List Token) : Option Command := do
  let (columns, rest) ← projection? tokens
  let (table, rest) ← (behind? casing "FROM" rest).bind name?
  (where? casing rest).map (.select table columns)

/-- The change of the tokens behind its first word. -/
def change? (casing : Casing) (tokens : List Token) : Option Command := do
  let (table, rest) ← name? tokens
  let (fields, rest) ← (behind? casing "SET" rest).bind assignments?
  (where? casing rest).map (.update table ⟨fields⟩)

/-- The removal of the tokens behind its first word. -/
def removal? (casing : Casing) (tokens : List Token) : Option Command := do
  let (table, rest) ← (behind? casing "FROM" tokens).bind name?
  (where? casing rest).map (.delete table)

/-- The command of the tokens of a selection, a change or a removal. -/
def command? (casing : Casing) : List Token → Option Command
  | .name verb :: rest =>
    if casing.same verb "SELECT" then selection? casing rest
    else if casing.same verb "UPDATE" then change? casing rest
    else if casing.same verb "DELETE" then removal? casing rest
    else none
  | _ => none

end Sql

namespace Fragment

/-- The command of the text of an insertion, if it is accepted. -/
def insertion? (f : Fragment) : Option Command :=
  f.stored?.bind fun
    | (_, []) => none
    | (table, [row]) => some (.insert table row)
    | (table, first :: others) => some (.insertAll table first others)

/-- The command that a text with its values says. -/
def command? (casing : Sql.Casing) (f : Fragment) : Option Command :=
  Sql.command? casing (Sql.bindMarks 0 f.values 0 (Sql.lex casing f.text.toList)) <|> f.insertion?

end Fragment

namespace Sql

/-! ## Words and names -/

theorem Casing.same_self (casing : Casing) (word : String) : casing.same word word = true := by
  cases casing <;> simp [same, Text.sameLetters]

/-- The words that statements begin with are told apart in either casing. -/
theorem Casing.same_verb (casing : Casing) :
    ∀ verb ∈ ["SELECT", "UPDATE", "DELETE", "INSERT"], ∀ other ∈ ["SELECT", "UPDATE", "DELETE"],
      casing.same verb other = decide (verb = other) := by
  cases casing <;> decide

@[simp] theorem behind?_name (casing : Casing) (word : String) (rest : List Token) :
    behind? casing word (.name word :: rest) = some rest := by
  rw [behind?, casing.same_self, if_pos rfl]

theorem isWord_of_isPlainName {casing : Casing} {name : String}
    (plain : isPlainName casing name = true) : isWord name = true :=
  (Bool.and_eq_true_iff.1 plain).1

namespace Yields

variable {r : Reader} {n m l : Nat} {text other : String} {tokens others : List Token}

theorem name (plain : isPlainName r.casing text = true) : Yields r n text n [.name text] := by
  intro rest ends
  rw [Reader.tokens, lex_name plain ends]
  rfl

/-- A word that means something in statements, and in conditions is a name like others. -/
theorem word (plain : ∀ casing ∈ [Casing.exact, .folded], isPlainName casing text = true) :
    Yields r n text n [.name text] :=
  .name (plain r.casing (by cases r.casing <;> decide))

theorem star : Yields r n "*" n [.star] := by
  intro rest _
  change bindMarks _ _ _ (lex _ ('*' :: rest)) = _
  rw [lex_star]
  rfl

theorem behind (first : Yields r n text m tokens) (second : Yields r m other l others) :
    Yields r n (text ++ " " ++ other) l (tokens ++ others) := by
  intro rest ends
  have here := first (' ' :: (other.toList ++ rest)) (ends_space _)
  have there := second rest ends
  rw [Reader.tokens] at there
  simp only [Reader.tokens, lex_space, there] at here
  simpa [Reader.tokens] using here

theorem separated (first : Yields r n text m tokens) (second : Yields r m other l others) :
    Yields r n (text ++ ", " ++ other) l (tokens ++ .comma :: others) := by
  intro rest ends
  have here := first (',' :: ' ' :: (other.toList ++ rest)) (ends_comma _)
  have there := second rest ends
  rw [Reader.tokens] at there
  simp only [Reader.tokens, lex_comma, lex_space, bindMarks, there] at here
  simpa [Reader.tokens] using here

theorem assignment {value : Scalar} (plain : isPlainName r.casing text = true)
    (found : r.values[n]? = some value) :
    Yields r n (text ++ " = " ++ r.dialect.placeholder (r.bound + n + 1)) (n + 1)
      [.name text, .comparison .eq, .value value] := by
  intro rest ends
  simp only [String.toList_append, List.append_assoc]
  change r.tokens n (text.toList ++ ' ' :: (Comparison.eq.sql.toList ++ ' ' ::
    ((r.dialect.placeholder (r.bound + n + 1)).toList ++ rest))) = _
  rw [Reader.tokens, lex_name plain (ends_space _), lex_space, lex_comparison _ (ends_space _),
    lex_space, lex_placeholder _ _ ends]
  simp only [bindMarks, bindMarks_mark r.dialect found]
  rfl

end Yields

/-! ## Lists between commas -/

/-- Lists of tokens with commas between them. -/
def separate : List (List Token) → List Token
  | [] => []
  | [tokens] => tokens
  | tokens :: others => tokens ++ .comma :: separate others

theorem separate_cons_cons (tokens next : List Token) (others : List (List Token)) :
    separate (tokens :: next :: others) = tokens ++ .comma :: separate (next :: others) := rfl

/-- Texts that are cut into lists of tokens one after the other. -/
inductive YieldsAll (r : Reader) : Nat → List String → Nat → List (List Token) → Prop
  | nil (n : Nat) : YieldsAll r n [] n []
  | cons {n m l : Nat} {text : String} {texts : List String} {tokens : List Token}
    {others : List (List Token)} : Yields r n text m tokens → YieldsAll r m texts l others →
    YieldsAll r n (text :: texts) l (tokens :: others)

/-- The tokens of an assignment. -/
def assignmentTokens (field : String × Scalar) : List Token :=
  [.name field.1, .comparison .eq, .value field.2]

namespace YieldsAll

variable {r : Reader} {n m : Nat} {texts : List String} {lists : List (List Token)}

theorem join (all : YieldsAll r n texts m lists) :
    Yields r n (Text.join ", " texts) m (separate lists) := by
  induction all with
  | nil n => exact fun rest _ => rfl
  | @cons _ _ _ first _ _ _ yields behind ih =>
    cases behind with
    | nil => simpa [Text.join, separate] using yields
    | cons second more =>
      rw [Text.join, String.intercalate_cons_cons]
      exact yields.separated ih

theorem names (r : Reader) (n : Nat) {names : List String}
    (plain : ∀ name ∈ names, isPlainName r.casing name = true) :
    YieldsAll r n names n (names.map fun name => [.name name]) := by
  induction names with
  | nil => exact .nil n
  | cons name rest ih =>
    exact .cons (.name (plain name List.mem_cons_self))
      (ih fun other mem => plain other (List.mem_cons_of_mem name mem))

/-- The assignments from a position on hold the values from there on. -/
theorem assignments (r : Reader) {n : Nat} {fields : List (String × Scalar)} {after : List Scalar}
    (plain : ∀ field ∈ fields, isPlainName r.casing field.1 = true)
    (held : r.values.drop n = fields.map Prod.snd ++ after) :
    YieldsAll r n (Command.assignments r.dialect (r.bound + n + 1) (fields.map Prod.fst))
      (n + fields.length) (fields.map assignmentTokens) := by
  induction fields generalizing n with
  | nil => exact .nil n
  | cons field rest ih =>
    have here : r.values[n]? = some field.2 := by
      rw [← List.head?_drop, held]
      rfl
    have later : r.values.drop (n + 1) = rest.map Prod.snd ++ after := by
      rw [← List.tail_drop, held]
      rfl
    have total : n + (rest.length + 1) = n + 1 + rest.length := by omega
    rw [List.length_cons, total]
    exact .cons (.assignment (plain field List.mem_cons_self) here)
      (ih (fun other mem => plain other (List.mem_cons_of_mem field mem)) later)

end YieldsAll

/-- Names are read back up to the word behind them. -/
theorem names?_separate {names : List String} (some : names ≠ []) (word : String)
    (rest : List Token) :
    names? (separate (names.map fun name => [.name name]) ++ .name word :: rest) =
      .some (names, .name word :: rest) := by
  match names, some with
  | [name], _ => rfl
  | name :: other :: more, _ =>
    have behind := names?_separate (List.cons_ne_nil other more) word rest
    simp only [List.map_cons] at behind
    simp [separate_cons_cons, names?, behind]

/-- Assignments are read back up to the word behind them. -/
theorem assignments?_separate {fields : List (String × Scalar)} (some : fields ≠ [])
    (word : String) (rest : List Token) :
    assignments? (separate (fields.map assignmentTokens) ++ .name word :: rest) =
      .some (fields, .name word :: rest) := by
  match fields, some with
  | [field], _ => rfl
  | field :: other :: more, _ =>
    have behind := assignments?_separate (List.cons_ne_nil other more) word rest
    rw [List.map_cons, List.map_cons, separate_cons_cons, ← List.map_cons, List.append_assoc,
      List.cons_append, assignmentTokens, List.cons_append, List.cons_append, List.cons_append,
      List.nil_append, assignments?, behind]
    rfl

/-! ## Clauses read back -/

/-- The tokens of a projection. -/
def projectionTokens (columns : List String) : List Token :=
  if columns.isEmpty then [.star] else separate (columns.map fun name => [.name name])

/-- The columns of a selection are read back up to the word behind them. -/
theorem projection?_tokens (columns : List String) (word : String) (rest : List Token) :
    projection? (projectionTokens columns ++ .name word :: rest) =
      some (columns, .name word :: rest) := by
  cases columns with
  | nil => rfl
  | cons column others =>
    have names := names?_separate (List.cons_ne_nil column others) word rest
    cases others <;> exact names

variable (casing : Casing)

theorem command?_selection (columns : List String) (table : String) (rest : List Token) :
    command? casing (.name "SELECT" :: (projectionTokens columns ++
      .name "FROM" :: .name table :: rest)) =
      (where? casing rest).map (.select table columns) := by
  simp [command?, casing.same_verb, selection?, projection?_tokens, name?]

theorem command?_change {fields : List (String × Scalar)} (given : fields ≠ []) (table : String)
    (rest : List Token) :
    command? casing (.name "UPDATE" :: .name table :: .name "SET" ::
      (separate (fields.map assignmentTokens) ++ .name "WHERE" :: rest)) =
      (where? casing (.name "WHERE" :: rest)).map (.update table ⟨fields⟩) := by
  simp [command?, casing.same_verb, change?, name?, assignments?_separate given]

theorem command?_removal (table : String) (rest : List Token) :
    command? casing (.name "DELETE" :: .name "FROM" :: .name table :: rest) =
      (where? casing rest).map (.delete table) := by
  simp [command?, casing.same_verb, removal?, name?]

/-! ## Conditions -/

variable {r : Reader} {n : Nat}

/-- The text of a filter that holds a condition reads as the formula of the filter. -/
theorem reads_ofFilter {filter : Filter} {f : Formula} (found : filter.formula? = some f)
    (plain : ∀ field ∈ filter.fields, isPlainName r.casing field = true)
    (held : r.values.drop n = filter.values) :
    Reads r n (Fragment.ofFilter r.dialect (r.bound + n) filter).text (n + filter.values.length)
      (.chain .or) f := by
  have fields : ∀ c ∈ Node.allConditions filter.nodes, isPlainName r.casing c.field = true :=
    fun c mem => plain c.field (List.mem_map_of_mem mem)
  have bound : (Node.allConditions filter.nodes).map Condition.value <+: r.values.drop n := by
    rw [held]
    exact List.prefix_refl _
  have all := Node.readsAll_pieces filter.nodes n fields bound
  rw [Filter.values, List.length_map]
  exact (all.joined found).outermost

/-- A condition behind its word is read back as a filter of the same formula. -/
theorem where?_of_derives {casing : Casing} {tokens : List Token} {filter : Filter} {f : Formula}
    (found : filter.formula? = some f) (derived : Derives (.chain .or) tokens f) :
    where? casing (.name "WHERE" :: tokens) = some filter.normal := by
  have standard := Filter.isStandard_of_formula? found
  have read : filter? tokens = some (.ofFormula f) := by
    rw [filter?, read?_eq_some_iff.2 derived, Option.bind_some, if_pos standard]
  rw [where?.eq_2 casing _ (List.cons_ne_nil _ _), behind?_name, Option.bind_some, read,
    Filter.normal, found]
  rfl

end Sql

/-! ## Commands -/

/-- A filter comes to no text exactly when it has no formula. -/
theorem Fragment.isEmpty_ofFilter (d : Dialect) (bound : Nat) (filter : Filter) :
    (ofFilter d bound filter).isEmpty = filter.formula?.isNone := by
  rw [ofFilter, isEmpty_ofNodes, Bool.eq_iff_iff, List.isEmpty_iff, Option.isNone_iff_eq_none,
    Filter.formula?_eq_none_iff]

namespace Command

open Sql

/-- The command made again from what its text says: its filter from the formula of the filter, a
batch of one record as a single insertion, and the records of a batch with the names of the
first. -/
def normal : Command → Command
  | select table columns filter => .select table columns filter.normal
  | insert table data => .insert table data
  | insertAll table first [] => .insert table first
  | insertAll table first others => .insertAll table first (others.map (.renamed first.names))
  | update table data filter => .update table data filter.normal
  | delete table filter => .delete table filter.normal

/-- Whether the records of a batch have fields, each as many as the first. -/
def IsEven : Command → Prop
  | insertAll _ first others => first.isEmpty = false ∧ ∀ r ∈ others, r.size = first.size
  | _ => True

variable {casing : Casing} {d : Dialect} {table : String} {columns : List String} {data : Record}
  {filter : Filter}

theorem command?_of_yields {r : Reader} {f : Fragment} {text : String} {m : Nat}
    {tokens : List Token} {command : Command} (unbound : r.bound = 0) (values : f.values = r.values)
    (same : f.text = text) (yields : Yields r 0 text m tokens)
    (read : Sql.command? r.casing tokens = some command) :
    f.command? r.casing = some command := by
  have whole := yields.whole
  rw [unbound, ← values, ← same] at whole
  rw [Fragment.command?, whole, read]
  rfl

theorem yields_projection {r : Reader} {n : Nat}
    (plain : ∀ column ∈ columns, isPlainName r.casing column = true) :
    Yields r n (if columns.isEmpty then "*" else Text.join ", " columns) n
      (projectionTokens columns) := by
  rw [projectionTokens]
  cases columns.isEmpty with
  | true => exact .star
  | false => exact (YieldsAll.names r n plain).join

/-- The condition behind the word for it, as the formula of its filter. -/
theorem yields_where {r : Reader} {n : Nat} {f : Formula} (found : filter.formula? = some f)
    (plain : ∀ field ∈ filter.fields, isPlainName r.casing field = true)
    (held : r.values.drop n = filter.values) :
    ∃ tokens, Yields r n ("WHERE" ++ " " ++ (Fragment.ofFilter r.dialect (r.bound + n) filter).text)
        (n + filter.values.length) (.name "WHERE" :: tokens) ∧
      where? r.casing (.name "WHERE" :: tokens) = some filter.normal := by
  obtain ⟨tokens, derived, yields⟩ := reads_ofFilter found plain held
  exact ⟨tokens, (Yields.word (by decide)).behind yields, where?_of_derives found derived⟩

/-- A selection is read back. -/
theorem command?_select (named : isPlainName casing table = true)
    (shown : ∀ column ∈ columns, isPlainName casing column = true)
    (compared : ∀ field ∈ filter.fields, isPlainName casing field = true) :
    ((select table columns filter).write d).command? casing =
      some (.select table columns filter.normal) := by
  let r : Reader := ⟨casing, d, 0, filter.values⟩
  have values : ((select table columns filter).write d).values = r.values := values_write d _
  have front : Yields r 0 ("SELECT" ++ " " ++ (if columns.isEmpty then "*"
      else Text.join ", " columns) ++ " " ++ "FROM" ++ " " ++ table) 0 _ :=
    (((Yields.word (by decide)).behind (yields_projection shown)).behind
      (.word (by decide))).behind (.name named)
  have blank := Fragment.isEmpty_ofFilter d 0 filter
  cases found : filter.formula? with
  | none =>
    have all : where? casing [] = some filter.normal := by
      rw [Filter.normal, found]
      rfl
    refine command?_of_yields (r := r) rfl values ?_ front ?_
    · rw [found] at blank
      simp only [write, blank, Option.isNone_none, if_true]
      rw [← String.toList_inj]
      simp
    · have read := command?_selection casing columns table []
      rw [all] at read
      simpa using read
  | some f =>
    obtain ⟨tokens, condition, filtered⟩ :=
      yields_where (r := r) (n := 0) found compared (List.drop_zero ..)
    refine command?_of_yields (r := r) rfl values ?_ (front.behind condition) ?_
    · rw [found] at blank
      simp only [write, blank, Option.isNone_some, Bool.false_eq_true, if_false]
      rw [← String.toList_inj]
      simp [r]
    · have read := command?_selection casing columns table (.name "WHERE" :: tokens)
      rw [filtered] at read
      simpa using read

/-- A change that is accepted has data and a formula. -/
theorem formula?_of_update_accepted (accepted : (update table data filter).refusal? d = none) :
    data.fields ≠ [] ∧ ∃ f, filter.formula? = some f := by
  rw [refusal?, Fragment.isEmpty_ofFilter] at accepted
  split at accepted
  · cases accepted
  · next given =>
    split at accepted
    · cases accepted
    · next asked =>
      rw [Bool.not_eq_true, Option.isNone_eq_false_iff, Option.isSome_iff_exists] at asked
      exact ⟨fun none => given (List.isEmpty_iff.2 none), asked⟩

theorem formula?_of_delete_accepted (accepted : (delete table filter).refusal? d = none) :
    ∃ f, filter.formula? = some f := by
  rw [refusal?, Fragment.isEmpty_ofFilter] at accepted
  split at accepted
  · cases accepted
  · next asked =>
    rwa [Bool.not_eq_true, Option.isNone_eq_false_iff, Option.isSome_iff_exists] at asked

/-- A change is read back. -/
theorem command?_update (named : isPlainName casing table = true)
    (assigned : ∀ field ∈ data.names, isPlainName casing field = true)
    (compared : ∀ field ∈ filter.fields, isPlainName casing field = true)
    (accepted : (update table data filter).refusal? d = none) :
    ((update table data filter).write d).command? casing =
      some (.update table data filter.normal) := by
  let r : Reader := ⟨casing, d, 0, data.values ++ filter.values⟩
  obtain ⟨given, f, found⟩ := formula?_of_update_accepted accepted
  have rest : r.values.drop data.size = filter.values :=
    List.drop_left' (Record.length_values data)
  have set : Yields r 0 (Text.join ", " (assignments d 1 data.names)) data.size
      (separate (data.fields.map assignmentTokens)) := by
    have held : r.values.drop 0 = data.fields.map Prod.snd ++ filter.values := rfl
    have all := YieldsAll.assignments r
      (fun field mem => assigned field.1 (List.mem_map_of_mem mem)) held
    have size : 0 + data.fields.length = data.size := Nat.zero_add _
    rw [size] at all
    exact all.join
  obtain ⟨tokens, condition, filtered⟩ := yields_where found compared rest
  have whole : Yields r 0 ("UPDATE" ++ " " ++ table ++ " " ++ "SET" ++ " " ++
      Text.join ", " (assignments d 1 data.names) ++ " " ++ _) _ _ :=
    ((((Yields.word (by decide)).behind (.name named)).behind (.word (by decide))).behind
      set).behind condition
  refine command?_of_yields (r := r) rfl (values_write d _) ?_ whole ?_
  · simp only [write]
    rw [← String.toList_inj]
    simp [r]
  · have read := command?_change casing given table tokens
    rw [filtered] at read
    simpa using read

/-- A removal is read back. -/
theorem command?_delete (named : isPlainName casing table = true)
    (compared : ∀ field ∈ filter.fields, isPlainName casing field = true)
    (accepted : (delete table filter).refusal? d = none) :
    ((delete table filter).write d).command? casing = some (.delete table filter.normal) := by
  let r : Reader := ⟨casing, d, 0, filter.values⟩
  obtain ⟨f, found⟩ := formula?_of_delete_accepted accepted
  obtain ⟨tokens, condition, filtered⟩ :=
    yields_where (r := r) (n := 0) found compared (List.drop_zero ..)
  have whole : Yields r 0 ("DELETE" ++ " " ++ "FROM" ++ " " ++ table ++ " " ++ _) _ _ :=
    (((Yields.word (by decide)).behind (.word (by decide))).behind (.name named)).behind condition
  refine command?_of_yields (r := r) rfl (values_write d _) ?_ whole ?_
  · simp only [write]
    rw [← String.toList_inj]
    simp [r]
  · have read := command?_removal casing table (.name "WHERE" :: tokens)
    rw [filtered] at read
    simpa using read

/-- The text of an insertion is that of no selection, change or removal. -/
theorem command?_of_insertion {f : Fragment} {rest : String}
    (same : f.text = "INSERT " ++ rest) : f.command? casing = f.insertion? := by
  have plain : isPlainName casing "INSERT" = true := by cases casing <;> decide
  have text : f.text.toList = "INSERT".toList ++ ' ' :: rest.toList := by
    rw [same]
    simp
  rw [Fragment.command?, text, lex_name plain (ends_space _)]
  simp [bindMarks, Sql.command?, casing.same_verb]

/-- A single insertion is read back. -/
theorem command?_insert (named : isPlainName casing table = true)
    (plain : ∀ name ∈ data.names, isPlainName casing name = true) :
    ((insert table data).write d).command? casing = some (.insert table data) := by
  have stored := stored?_insert d (isWord_of_isPlainName named)
    fun name mem => isWord_of_isPlainName (plain name mem)
  have begins : ∃ rest, ((insert table data).write d).text = "INSERT " ++ rest := by
    simp only [write]
    split
    · exact ⟨"INTO " ++ table ++ " DEFAULT VALUES", by rw [← String.toList_inj]; simp⟩
    · refine ⟨"INTO " ++ table ++ " (" ++ Text.join ", " data.names ++ ") VALUES (" ++
        d.placeholderList 1 data.size ++ ")", ?_⟩
      rw [← String.toList_inj]
      simp
  obtain ⟨rest, same⟩ := begins
  rw [command?_of_insertion same, Fragment.insertion?, stored]
  rfl

/-- A batch is read back. -/
theorem command?_insertAll {first : Record} {others : List Record}
    (named : isPlainName casing table = true)
    (plain : ∀ name ∈ first.names, isPlainName casing name = true)
    (even : (insertAll table first others).IsEven) :
    ((insertAll table first others).write d).command? casing =
      some (insertAll table first others).normal := by
  have stored : ((insertAll table first others).write d).stored? = _ :=
    stored?_insertAll d (isWord_of_isPlainName named)
      fun name mem => isWord_of_isPlainName (plain name mem)
  have same : ((insertAll table first others).write d).text = "INSERT " ++ ("INTO " ++ table ++
      " (" ++ Text.join ", " first.names ++ ") VALUES " ++
        Text.join ", " (tuples d 0 (first :: others))) := by
    rw [write, ← String.toList_inj]
    simp
  obtain ⟨given, sizes⟩ := even
  rw [command?_of_insertion same, Fragment.insertion?, stored, if_pos ⟨given, sizes⟩]
  cases others with
  | nil => simp [normal, Record.renamed_names]
  | cons second more => simp [normal, Record.renamed_names]

end Command

/-- **Statements say in their text what they are.** The text of a command that is not refused reads
back, with its values, as the command itself: its table, its columns and its data, and a filter of
the formula of its own. -/
theorem Fragment.command?_write {casing : Sql.Casing} {d : Dialect} {command : Command}
    (plain : ∀ name ∈ command.names, Sql.isPlainName casing name = true)
    (accepted : command.refusal? d = none) (even : command.IsEven) :
    (command.write d).command? casing = some command.normal := by
  cases command with
  | select table columns filter =>
    simp only [Command.names, List.cons_append, List.forall_mem_cons,
      List.forall_mem_append] at plain
    exact Command.command?_select plain.1 plain.2.1 plain.2.2
  | insert table data =>
    simp only [Command.names, List.forall_mem_cons] at plain
    exact Command.command?_insert plain.1 plain.2
  | insertAll table first others =>
    simp only [Command.names, List.forall_mem_cons] at plain
    exact Command.command?_insertAll plain.1 plain.2 even
  | update table data filter =>
    simp only [Command.names, List.cons_append, List.forall_mem_cons,
      List.forall_mem_append] at plain
    exact Command.command?_update plain.1 plain.2.1 plain.2.2 accepted
  | delete table filter =>
    simp only [Command.names, List.forall_mem_cons] at plain
    exact Command.command?_delete plain.1 plain.2 accepted

end TodoServer
