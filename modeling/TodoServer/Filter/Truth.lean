import TodoServer.Filter.Basic

/-!
# What a filter says

Conditions hold, fail or are unknown, and connectives combine the three as in SQL. A group that
holds no condition at any depth says nothing and is left out of its siblings' combination.
-/

namespace TodoServer

/-- A truth value of SQL. -/
inductive Truth where
  | yes
  | no
  | unknown
  deriving DecidableEq, Repr, Inhabited

namespace Truth

def ofBool (b : Bool) : Truth :=
  if b then yes else no

/-- Both hold; one that fails decides. -/
def and : Truth → Truth → Truth
  | no, _ => no
  | _, no => no
  | yes, yes => yes
  | _, _ => unknown

/-- One of two holds; one that holds decides. -/
def or : Truth → Truth → Truth
  | yes, _ => yes
  | _, yes => yes
  | no, no => no
  | _, _ => unknown

end Truth

namespace Connective

/-- The combination of two truth values. -/
def combine : Connective → Truth → Truth → Truth
  | and => Truth.and
  | or => Truth.or

/-- The truth value that decides a combination alone. -/
def decisive : Connective → Truth
  | and => .no
  | or => .yes

end Connective

section

variable {m : Type → Type} [Monad m]

mutual

/-- The truth of a tree under a valuation of its conditions, from left to right. Nothing comes of a
tree without conditions. -/
def Node.truth (value : Condition → m Truth) : Node → m (Option Truth)
  | .condition c => some <$> value c
  | .group connective children => Node.truthAll value connective children

/-- The truth of siblings. What decides the combination ends the evaluation. -/
def Node.truthAll (value : Condition → m Truth) (connective : Connective) :
    List Node → m (Option Truth)
  | [] => pure none
  | node :: rest => do
    match ← node.truth value with
    | none => Node.truthAll value connective rest
    | some first =>
      if first = connective.decisive then pure (some first)
      else do
        match ← Node.truthAll value connective rest with
        | none => pure (some first)
        | some others => pure (some (connective.combine first others))

end

/-- Whether a filter accepts: it says nothing, or what it says holds. -/
def Filter.accepts (value : Condition → m Truth) (f : Filter) : m Bool := do
  match ← Node.truthAll value .and f.nodes with
  | none => pure true
  | some truth => pure (truth = .yes)

end

end TodoServer
