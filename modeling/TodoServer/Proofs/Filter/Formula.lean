import TodoServer.Proofs.Sql.Grammar

/-!
# The formula of a filter

A forest stands for one formula: its conditions are joined group by group, and what holds no
condition is left out. The formula is true, false or unknown exactly when the forest is.
-/

namespace TodoServer

/-- The escape character that a comparison names for its pattern. -/
def Comparison.escape? : Comparison → Option String
  | .like => some "\\"
  | _ => none

/-- A condition with the escape character of its comparison. -/
def Condition.escaped (c : Condition) : Condition × Option String :=
  (c, c.comparison.escape?)

/-- The formula of some formulas with a connective between neighbours. -/
def Sql.Formula.join? (connective : Connective) : List Sql.Formula → Option Sql.Formula
  | [] => none
  | f :: rest =>
    match join? connective rest with
    | none => some f
    | some g => some (.joined connective f g)

mutual

/-- The formula of a tree, if it holds a condition. -/
def Node.formula? : Node → Option Sql.Formula
  | .condition c => some (.comparison c c.comparison.escape?)
  | .group connective children => Sql.Formula.join? connective (Node.formulas children)

/-- The formulas of those siblings that hold a condition. -/
def Node.formulas : List Node → List Sql.Formula
  | [] => []
  | node :: rest => node.formula?.toList ++ Node.formulas rest

end

namespace Sql.Formula

theorem join?_eq_none_iff {connective : Connective} {fs : List Formula} :
    join? connective fs = none ↔ fs = [] := by
  match fs with
  | [] => simp [join?]
  | f :: rest =>
    simp only [join?]
    split <;> simp

theorem comparisons_join? (connective : Connective) (fs : List Formula) :
    ((join? connective fs).map comparisons).getD [] = fs.flatMap comparisons := by
  induction fs with
  | nil => rfl
  | cons f rest ih =>
    rw [List.flatMap_cons, ← ih]
    cases h : join? connective rest <;> simp [join?, h, comparisons]

end Sql.Formula

mutual

theorem Node.comparisons_formula? (node : Node) :
    (node.formula?.map Sql.Formula.comparisons).getD [] =
      node.conditions.map Condition.escaped := by
  match node with
  | .condition c => rfl
  | .group connective children =>
    rw [Node.formula?, Sql.Formula.comparisons_join?, Node.comparisons_formulas children]
    rfl

/-- The comparisons of the formulas are the conditions of the forest. -/
theorem Node.comparisons_formulas (nodes : List Node) :
    (Node.formulas nodes).flatMap Sql.Formula.comparisons =
      (Node.allConditions nodes).map Condition.escaped := by
  match nodes with
  | [] => rfl
  | node :: rest =>
    rw [Node.formulas, Node.allConditions, List.map_append, List.flatMap_append,
      Node.comparisons_formulas rest, ← Node.comparisons_formula? node]
    cases node.formula? <;> simp

end

/-! ## Truth -/

/-- What decides a combination decides it whatever else is combined. -/
theorem Connective.combine_decisive (connective : Connective) (t : Truth) :
    connective.combine connective.decisive t = connective.decisive := by
  cases connective <;> cases t <;> rfl

variable (value : Condition → Truth)

/-- The truth of siblings, the first of them apart. -/
theorem Node.truthAll_cons (connective : Connective) (node : Node) (rest : List Node) :
    Node.truthAll (m := Id) value connective (node :: rest) =
      match Node.truth (m := Id) value node, Node.truthAll (m := Id) value connective rest with
      | none, others => others
      | some first, none => some first
      | some first, some others => some (connective.combine first others) := by
  rw [Node.truthAll]
  change (match Node.truth (m := Id) value node with
    | none => Node.truthAll (m := Id) value connective rest
    | some first =>
      if first = connective.decisive then some first
      else match Node.truthAll (m := Id) value connective rest with
        | none => some first
        | some others => some (connective.combine first others)) = _
  split
  · next nothing => rw [nothing]
  · next first found =>
    rw [found]
    split
    · next decides =>
      subst decides
      cases Node.truthAll (m := Id) value connective rest <;>
        simp [connective.combine_decisive]
    · cases Node.truthAll (m := Id) value connective rest <;> rfl

mutual

theorem Node.truth_formula? (node : Node) :
    Node.truth (m := Id) value node = node.formula?.map (Sql.Formula.truth value) := by
  match node with
  | .condition c => rfl
  | .group connective children => exact Node.truth_formulas connective children

/-- A forest and the formula that joins its formulas have the same truth value. Ending an evaluation
early does not change it. -/
theorem Node.truth_formulas (connective : Connective) (nodes : List Node) :
    Node.truthAll (m := Id) value connective nodes =
      (Sql.Formula.join? connective (Node.formulas nodes)).map (Sql.Formula.truth value) := by
  match nodes with
  | [] => rfl
  | node :: rest =>
    rw [Node.truthAll_cons, Node.truth_formula? node, Node.truth_formulas connective rest,
      Node.formulas]
    cases node.formula? with
    | none => rfl
    | some f =>
      cases h : Sql.Formula.join? connective (Node.formulas rest) <;>
        simp [Sql.Formula.join?, h, Sql.Formula.truth]

end

end TodoServer
