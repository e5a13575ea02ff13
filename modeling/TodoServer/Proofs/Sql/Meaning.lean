import TodoServer.Proofs.Filter.Formula
import TodoServer.Proofs.Sql.Spelling
import TodoServer.Sql.Fragment

/-!
# What condition text means

Condition text that is written for a forest reads back as the formula of the forest, each
placeholder with the value it binds. The text of a part is followed by more text, and the marks in
it are counted on from those before, so both are carried through the recursion.
-/

namespace TodoServer

/-- The formula that a fragment behind `bound` values reads as, if it is well formed. -/
def Fragment.formula? (casing : Sql.Casing) (bound : Nat) (f : Fragment) : Option Sql.Formula :=
  Sql.read? (Sql.bindMarks bound f.values 0 (Sql.lex casing f.text.toList))

namespace Sql

/-- What the reading of a whole text goes by. -/
structure Reader where
  casing : Casing
  dialect : Dialect
  bound : Nat
  values : List Scalar

/-- The tokens of the rest of a text, `n` values being bound before it. -/
def Reader.tokens (r : Reader) (n : Nat) (rest : List Char) : List Token :=
  bindMarks r.bound r.values (r.dialect.questionMarks n) (lex r.casing rest)

/-- Whatever ends it, a text is cut into these tokens and binds the values from the `n`th up to the
`m`th. -/
def Yields (r : Reader) (n : Nat) (text : String) (m : Nat) (tokens : List Token) : Prop :=
  ∀ rest, Ends rest → r.tokens n (text.toList ++ rest) = tokens ++ r.tokens m rest

/-- A text is cut into tokens that make a formula. -/
def Reads (r : Reader) (n : Nat) (text : String) (m : Nat) (level : Level) (f : Formula) : Prop :=
  ∃ tokens, Derives level tokens f ∧ Yields r n text m tokens

variable {r : Reader} {n m l : Nat} {f g : Formula}

/-- All tokens of a text that begins and ends a statement. -/
theorem Yields.whole {text : String} {tokens : List Token} (yields : Yields r 0 text m tokens) :
    bindMarks r.bound r.values 0 (lex r.casing text.toList) = tokens := by
  have start : r.dialect.questionMarks 0 = 0 := by cases r.dialect <;> rfl
  have all := yields [] ends_nil
  simpa only [Reader.tokens, start, lex_nil, bindMarks, List.append_nil] using all

theorem reads_condition {c : Condition} (plain : isPlainName r.casing c.field = true)
    (found : r.values[n]? = some c.value) :
    Reads r n (c.sql r.dialect (r.bound + n + 1)) (n + 1) .term
      (.comparison c c.comparison.escape?) := by
  refine ⟨[.name c.field, .comparison c.comparison, .value c.value] ++ c.comparison.clause,
    ?derived, ?tokens⟩
  case derived =>
    obtain ⟨field, comparison, value⟩ := c
    cases comparison with
    | like => exact .escaped field value "\\"
    | eq | ne | lt | gt | le | ge => exact .comparison field _ value
  case tokens =>
    intro rest ends
    have behind := ends_trailing c.comparison ends
    simp only [Condition.sql, String.toList_append, List.append_assoc]
    change r.tokens n (c.field.toList ++ ' ' :: (c.comparison.sql.toList ++ ' ' ::
      ((r.dialect.placeholder (r.bound + n + 1)).toList ++
        (c.comparison.trailing.toList ++ rest)))) = _
    rw [Reader.tokens, lex_name plain (ends_space _), lex_space,
      lex_comparison _ (ends_space _), lex_space, lex_placeholder _ _ behind, lex_trailing _ ends]
    simp only [bindMarks, bindMarks_mark r.dialect found, bindMarks_clause]
    rfl

/-- Parentheses make a term of any formula. -/
theorem Reads.grouped {text : String} (h : Reads r n text m (.chain .or) f) :
    Reads r n ("(" ++ text ++ ")") m .term f := by
  obtain ⟨tokens, derived, reads⟩ := h
  refine ⟨.opening :: (tokens ++ [.closing]), .grouped derived, fun rest ends => ?_⟩
  have inner := reads (')' :: rest) (ends_closing rest)
  simp only [Reader.tokens, lex_closing, bindMarks] at inner
  simp [Reader.tokens, bindMarks, inner]

theorem Reads.joined {connective : Connective} {text other : String}
    (first : Reads r n text m (Level.below connective) f)
    (second : Reads r m other l (.chain connective) g) :
    Reads r n (text ++ (" " ++ connective.sql ++ " ") ++ other) l (.chain connective)
      (.joined connective f g) := by
  obtain ⟨tokens, derived, reads⟩ := first
  obtain ⟨others, derived', reads'⟩ := second
  refine ⟨tokens ++ .connective connective :: others, .joined derived derived', fun rest ends => ?_⟩
  have inner := reads (' ' :: (connective.sql.toList ++ ' ' :: (other.toList ++ rest)))
    (ends_space _)
  have last := reads' rest ends
  rw [Reader.tokens] at last
  simp only [Reader.tokens, lex_space, lex_connective connective (ends_space _), bindMarks,
    last] at inner
  simpa [Reader.tokens] using inner

theorem Reads.single (connective : Connective) {text : String}
    (h : Reads r n text m (Level.below connective) f) : Reads r n text m (.chain connective) f := by
  obtain ⟨tokens, derived, reads⟩ := h
  exact ⟨tokens, .single derived, reads⟩

theorem Reads.below (connective : Connective) {text : String} (h : Reads r n text m .term f) :
    Reads r n text m (Level.below connective) f := by
  cases connective with
  | and => exact h
  | or => exact Reads.single .and h

theorem Reads.outermost {connective : Connective} {text : String}
    (h : Reads r n text m (.chain connective) f) : Reads r n text m (.chain .or) f := by
  cases connective with
  | and => exact Reads.single .or h
  | or => exact h

/-- Pieces read one after the other as formulas. -/
inductive ReadsAll (r : Reader) : Nat → List String → Nat → List Formula → Prop where
  | nil (n : Nat) : ReadsAll r n [] n []
  | cons {n m l : Nat} {piece : String} {pieces : List String} {f : Formula} {fs : List Formula}
    (first : Reads r n piece m .term f) (others : ReadsAll r m pieces l fs) :
    ReadsAll r n (piece :: pieces) l (f :: fs)

theorem ReadsAll.append {pieces others : List String} {fs gs : List Formula}
    (h : ReadsAll r n pieces m fs) (h' : ReadsAll r m others l gs) :
    ReadsAll r n (pieces ++ others) l (fs ++ gs) := by
  induction h with
  | nil n => exact h'
  | cons first _ ih => exact .cons first (ih h')

/-- There is a piece for each formula. -/
theorem ReadsAll.eq_nil_iff {pieces : List String} {fs : List Formula}
    (h : ReadsAll r n pieces m fs) : pieces = [] ↔ fs = [] := by
  cases h <;> simp

theorem ReadsAll.eq_of_nil {pieces : List String} (h : ReadsAll r n pieces m []) : m = n := by
  cases h
  rfl

/-- Pieces with a connective between them read as the formula that joins theirs. -/
theorem ReadsAll.joined {connective : Connective} {pieces : List String} {fs : List Formula}
    (h : ReadsAll r n pieces m fs) (joins : Formula.join? connective fs = some f) :
    Reads r n (connective.joined pieces) m (.chain connective) f := by
  induction h generalizing f with
  | nil n => simp [Formula.join?] at joins
  | cons first others ih =>
    cases others with
    | nil =>
      obtain rfl := Option.some.inj joins
      simpa [Connective.joined, Text.join] using (first.below connective).single connective
    | @cons _ _ _ piece pieces g fs second others =>
      rw [Formula.join?] at joins
      cases found : Formula.join? connective (g :: fs) with
      | none => simp [Formula.join?_eq_none_iff] at found
      | some tail =>
        rw [found] at joins
        obtain rfl := Option.some.inj joins
        have joined := (first.below connective).joined (ih found)
        simpa [Connective.joined, Text.join, String.intercalate_cons_cons] using joined

end Sql

/-! ## Whole forests -/

variable {r : Sql.Reader}

/-- The values of a part stand at its place among all values. -/
theorem getElem?_of_singleton_prefix {values : List Scalar} {n : Nat} {value : Scalar}
    (h : [value] <+: values.drop n) : values[n]? = some value := by
  obtain ⟨tail, whole⟩ := h
  have head : (values.drop n)[0]? = some value := by rw [← whole]; rfl
  simpa using head

theorem prefix_drop_add {values first others : List Scalar} {n : Nat}
    (h : first ++ others <+: values.drop n) : others <+: values.drop (n + first.length) := by
  obtain ⟨tail, whole⟩ := h
  refine ⟨tail, ?_⟩
  rw [← List.drop_drop, ← whole, List.append_assoc, List.drop_left]

mutual

/-- The piece of a tree reads as the formula of the tree. -/
theorem Node.readsAll_piece? (node : Node) (n : Nat)
    (plain : ∀ c ∈ node.conditions, Sql.isPlainName r.casing c.field = true)
    (bound : node.conditions.map Condition.value <+: r.values.drop n) :
    Sql.ReadsAll r n (node.piece? r.dialect (r.bound + n)).1.toList (n + node.conditions.length)
      node.formula?.toList := by
  match node with
  | .condition c =>
    have found := getElem?_of_singleton_prefix bound
    exact .cons (Sql.reads_condition (plain c (by simp [Node.conditions])) found) (.nil _)
  | .group connective children =>
    have inner := Node.readsAll_pieces children n plain bound
    have blank := connective.joined_eq_empty_iff
      (Node.pieces_ne_empty r.dialect (r.bound + n) children)
    rw [inner.eq_nil_iff] at blank
    cases joins : Sql.Formula.join? connective (Node.formulas children) with
    | none =>
      have nothing := Sql.Formula.join?_eq_none_iff.1 joins
      rw [nothing] at inner
      have absent : ((Node.group connective children).piece? r.dialect (r.bound + n)).1 = none := by
        simp [Node.piece?, blank.2 nothing]
      rw [Node.formula?, joins, absent, Node.conditions, inner.eq_of_nil]
      exact .nil n
    | some f =>
      have something : Node.formulas children ≠ [] := by
        intro nothing
        rw [nothing] at joins
        cases joins
      let pieces := (Node.pieces r.dialect (r.bound + n) children).1
      have present : ((Node.group connective children).piece? r.dialect (r.bound + n)).1 =
          some ("(" ++ connective.joined pieces ++ ")") := by
        simp [Node.piece?, String.isEmpty_iff, blank, something, pieces]
      rw [Node.formula?, joins, present]
      exact .cons (inner.joined joins).outermost.grouped (.nil _)

/-- The pieces of siblings read as the formulas of the siblings. -/
theorem Node.readsAll_pieces (nodes : List Node) (n : Nat)
    (plain : ∀ c ∈ Node.allConditions nodes, Sql.isPlainName r.casing c.field = true)
    (bound : (Node.allConditions nodes).map Condition.value <+: r.values.drop n) :
    Sql.ReadsAll r n (Node.pieces r.dialect (r.bound + n) nodes).1
      (n + (Node.allConditions nodes).length) (Node.formulas nodes) := by
  match nodes with
  | [] => exact .nil n
  | node :: rest =>
    simp only [Node.allConditions, List.mem_append] at plain
    rw [Node.allConditions, List.map_append] at bound
    have first := Node.readsAll_piece? node n (fun c h => plain c (.inl h))
      ((List.prefix_append _ _).trans bound)
    have behind := prefix_drop_add bound
    rw [List.length_map] at behind
    have others := Node.readsAll_pieces rest _ (fun c h => plain c (.inr h)) behind
    simpa [Node.pieces, Node.piece?_values, Node.formulas, Node.allConditions, Nat.add_assoc]
      using first.append others

end

/-- **Condition text means its forest.** The text written for a forest that holds a condition is
well formed, compares what the conditions of the forest compare, and has the truth value of the
forest whatever truth values the conditions have. -/
theorem Fragment.formula?_ofNodes (casing : Sql.Casing) (d : Dialect) (connective : Connective)
    (bound : Nat) (nodes : List Node) (holds : Node.allConditions nodes ≠ [])
    (plain : ∀ c ∈ Node.allConditions nodes, Sql.isPlainName casing c.field = true) :
    ∃ f, (ofNodes d connective bound nodes).formula? casing bound = some f ∧
      f.comparisons = (Node.allConditions nodes).map Condition.escaped ∧
      ∀ value : Condition → Truth,
        Node.truthAll (m := Id) value connective nodes = some (f.truth value) := by
  let values := (Node.allConditions nodes).map Condition.value
  have all := Node.readsAll_pieces (r := ⟨casing, d, bound, values⟩) nodes 0 plain
    (List.prefix_refl values)
  have comparisons := Sql.Formula.comparisons_join? connective (Node.formulas nodes)
  cases joins : Sql.Formula.join? connective (Node.formulas nodes) with
  | none =>
    have nothing := all.eq_nil_iff.2 (Sql.Formula.join?_eq_none_iff.1 joins)
    exact absurd ((Node.pieces_eq_nil_iff d _ nodes).1 nothing) holds
  | some f =>
    obtain ⟨tokens, derived, reads⟩ := (all.joined joins).outermost
    refine ⟨f, ?_, ?_, fun value => ?_⟩
    · have whole := reads.whole
      rw [Fragment.formula?, Fragment.values_ofNodes, Sql.read?_eq_some_iff]
      exact whole ▸ derived
    · rw [joins, Node.comparisons_formulas] at comparisons
      exact comparisons
    · rw [Node.truth_formulas, joins]
      rfl

/-- A pattern beside a group that holds a condition only behind groups without one. -/
def sampleForest : List Node :=
  [.condition ⟨"title", .like, .text "a%"⟩, .group .or [.group .and []],
    .group .or [.condition ⟨"id", .lt, .null⟩, .group .and [], .condition ⟨"é_2", .eq, .bool true⟩]]

theorem formula?_sampleForest :
    Node.allConditions sampleForest ≠ [] ∧
    (∀ c ∈ Node.allConditions sampleForest, Sql.isPlainName .folded c.field = true) ∧
    ∃ f, (Fragment.ofNodes .postgres .and 2 sampleForest).formula? .folded 2 = some f ∧
      f.comparisons = (Node.allConditions sampleForest).map Condition.escaped ∧
      ∀ value : Condition → Truth,
        Node.truthAll (m := Id) value .and sampleForest = some (f.truth value) := by
  have holds : Node.allConditions sampleForest ≠ [] := by decide
  have plain : ∀ c ∈ Node.allConditions sampleForest, Sql.isPlainName .folded c.field = true := by
    decide
  exact ⟨holds, plain, Fragment.formula?_ofNodes .folded .postgres .and 2 sampleForest holds plain⟩

example : (⟨"a = ? OR b < ? AND c LIKE ?", [.null, .null, .null]⟩ : Fragment).formula? .exact 0 =
    some (.joined .or (.comparison ⟨"a", .eq, .null⟩ none)
      (.joined .and (.comparison ⟨"b", .lt, .null⟩ none)
        (.comparison ⟨"c", .like, .null⟩ none))) := by
  cbv

end TodoServer
