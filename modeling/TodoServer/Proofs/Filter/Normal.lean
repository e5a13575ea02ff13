import TodoServer.Proofs.Filter.Formula

/-!
# Filters of one formula

A formula is that of a tree in which each connective has two parts below it. A filter with this tree
instead of its own accepts what it accepts, refuses where it refuses and compares the same: what a
filter comes to depends on its formula alone.
-/

namespace TodoServer

namespace Sql.Formula

/-- Whether each comparison names the escape character of its kind. -/
def IsStandard (f : Formula) : Prop :=
  ∀ x ∈ f.comparisons, x.2 = x.1.comparison.escape?

instance (f : Formula) : Decidable f.IsStandard :=
  inferInstanceAs (Decidable (∀ x ∈ f.comparisons, x.2 = x.1.comparison.escape?))

theorem comparisons_ne_nil (f : Formula) : f.comparisons ≠ [] := by
  induction f with
  | comparison => exact List.cons_ne_nil _ _
  | joined _ first second ih _ => exact List.append_ne_nil_of_left_ne_nil ih _

/-- The tree of a formula. -/
def node : Formula → Node
  | comparison condition _ => .condition condition
  | joined connective first second => .group connective [first.node, second.node]

/-- The tree of a formula has that formula. -/
theorem formula?_node {f : Formula} (standard : f.IsStandard) : f.node.formula? = some f := by
  induction f with
  | comparison condition escape? =>
    have usual : escape? = condition.comparison.escape? := standard _ (List.mem_singleton_self _)
    rw [node, Node.formula?, usual]
  | joined connective first second ihFirst ihSecond =>
    have here := ihFirst fun x mem => standard x (List.mem_append_left _ mem)
    have there := ihSecond fun x mem => standard x (List.mem_append_right _ mem)
    simp [node, Node.formula?, Node.formulas, here, there, join?]

variable {m : Type → Type} [Monad m] (value : Condition → m Truth)

/-- The truth of a formula under a valuation of its conditions, from left to right. What decides a
combination ends the evaluation. -/
def evaluate : Formula → m Truth
  | comparison condition _ => value condition
  | joined connective first second => do
    let truth ← first.evaluate
    if truth = connective.decisive then pure truth
    else return connective.combine truth (← second.evaluate)

/-- The truth of a formula, if there is one. -/
def evaluate? : Option Formula → m (Option Truth)
  | none => pure none
  | some f => some <$> f.evaluate value

end Sql.Formula

/-! ## Evaluation -/

mutual

theorem Node.truth_eq_evaluate? {m : Type → Type} [Monad m] [LawfulMonad m]
    (value : Condition → m Truth) (node : Node) :
    node.truth value = Sql.Formula.evaluate? value node.formula? := by
  match node with
  | .condition c => rfl
  | .group connective children => exact Node.truthAll_eq_evaluate? value connective children

/-- A forest is evaluated as the formula that joins its formulas. -/
theorem Node.truthAll_eq_evaluate? {m : Type → Type} [Monad m] [LawfulMonad m]
    (value : Condition → m Truth) (connective : Connective) (nodes : List Node) :
    Node.truthAll value connective nodes =
      Sql.Formula.evaluate? value (Sql.Formula.join? connective (Node.formulas nodes)) := by
  match nodes with
  | [] => rfl
  | node :: rest =>
    rw [Node.truthAll, Node.truth_eq_evaluate? value node,
      Node.truthAll_eq_evaluate? value connective rest, Node.formulas]
    cases node.formula? with
    | none => simp [Sql.Formula.evaluate?]
    | some f =>
      cases others : Sql.Formula.join? connective (Node.formulas rest) with
      | none => simp [Sql.Formula.join?, others, Sql.Formula.evaluate?]
      | some g =>
        simp only [Option.toList_some, List.cons_append, List.nil_append, Sql.Formula.join?, others,
          Sql.Formula.evaluate?, Sql.Formula.evaluate, map_eq_pure_bind, bind_assoc, pure_bind]
        refine bind_congr fun first => ?_
        split <;> simp

end

/-! ## Filters -/

namespace Filter

variable {f g : Filter}

/-- The formula of a filter, if the filter holds a condition. -/
def formula? (f : Filter) : Option Sql.Formula :=
  Sql.Formula.join? .and (Node.formulas f.nodes)

/-- The filter of a formula. -/
def ofFormula (f : Sql.Formula) : Filter := ⟨[f.node]⟩

/-- The filter made again from its formula. -/
def normal (f : Filter) : Filter :=
  f.formula?.elim .empty ofFormula

theorem comparisons_formula? (f : Filter) :
    (f.formula?.map Sql.Formula.comparisons).getD [] =
      (Node.allConditions f.nodes).map Condition.escaped := by
  rw [formula?, Sql.Formula.comparisons_join?, Node.comparisons_formulas]

theorem isStandard_of_formula? {formula : Sql.Formula} (found : f.formula? = some formula) :
    formula.IsStandard := by
  intro x mem
  have comparisons := comparisons_formula? f
  rw [found, Option.map_some, Option.getD_some] at comparisons
  rw [comparisons] at mem
  obtain ⟨c, -, rfl⟩ := List.mem_map.1 mem
  rfl

theorem formula?_ofFormula {formula : Sql.Formula} (standard : formula.IsStandard) :
    (ofFormula formula).formula? = some formula := by
  simp [ofFormula, formula?, Node.formulas, Sql.Formula.formula?_node standard, Sql.Formula.join?]

theorem formula?_normal (f : Filter) : f.normal.formula? = f.formula? := by
  rw [normal]
  cases found : f.formula? with
  | none => rfl
  | some formula => exact formula?_ofFormula (isStandard_of_formula? found)

/-- A filter has no formula exactly when it holds no condition. -/
theorem formula?_eq_none_iff : f.formula? = none ↔ Node.allConditions f.nodes = [] := by
  have comparisons := comparisons_formula? f
  cases found : f.formula? with
  | none =>
    rw [found, Option.map_none, Option.getD_none] at comparisons
    exact iff_of_true rfl (List.map_eq_nil_iff.1 comparisons.symm)
  | some formula =>
    refine iff_of_false (Option.some_ne_none formula) fun nothing => ?_
    rw [found, nothing] at comparisons
    exact formula.comparisons_ne_nil comparisons

/-- Filters of one formula hold the same conditions. -/
theorem allConditions_eq_of_formula? (same : f.formula? = g.formula?) :
    Node.allConditions f.nodes = Node.allConditions g.nodes := by
  have escaped := comparisons_formula? f
  rw [same, comparisons_formula? g] at escaped
  have back : Prod.fst ∘ Condition.escaped = id := rfl
  have conditions := congrArg (List.map Prod.fst) escaped
  rwa [List.map_map, List.map_map, back, List.map_id, List.map_id, eq_comm] at conditions

theorem allConditions_normal (f : Filter) :
    Node.allConditions f.normal.nodes = Node.allConditions f.nodes :=
  allConditions_eq_of_formula? (formula?_normal f)

/-- Filters of one formula accept alike. -/
theorem accepts_eq_of_formula? {m : Type → Type} [Monad m] [LawfulMonad m]
    (value : Condition → m Truth) (same : f.formula? = g.formula?) :
    f.accepts value = g.accepts value := by
  rw [formula?, formula?] at same
  rw [accepts, accepts, Node.truthAll_eq_evaluate?, Node.truthAll_eq_evaluate?, same]

theorem accepts_normal {m : Type → Type} [Monad m] [LawfulMonad m] (value : Condition → m Truth)
    (f : Filter) : f.normal.accepts value = f.accepts value :=
  accepts_eq_of_formula? value (formula?_normal f)

end Filter

end TodoServer
