import TodoServer.Data.Scalar
import TodoServer.Text.Blank

/-!
# Filters

A filter is a forest: conditions are its leaves and groups its inner nodes. A group joins its
children with one connective, and the trees of a filter are joined with AND.
-/

namespace TodoServer

/-- Why a filter cannot be built. -/
inductive FilterError where
  | unknownComparison (token : String)
  | unknownConnective (token : String)
  | blankField
  | lookupWithoutKey
  | other (detail : String)
  deriving DecidableEq, Repr

/-- The wording of a filter error. -/
def FilterError.message (e : FilterError) : String :=
  "Invalid expression: " ++ match e with
    | unknownComparison token => s!"unknown comparison operator '{token}'"
    | unknownConnective token => s!"unknown logical connective '{token}'"
    | blankField => "condition field name is empty"
    | lookupWithoutKey => "user lookup needs a name or an email"
    | other detail => detail

/-- How a field stands to a value. -/
inductive Comparison where
  | eq
  | ne
  | lt
  | gt
  | le
  | ge
  | like
  deriving DecidableEq, Repr

namespace Comparison

/-- The token between field and placeholder. -/
def sql : Comparison → String
  | eq => "="
  | ne => "<>"
  | lt => "<"
  | gt => ">"
  | le => "<="
  | ge => ">="
  | like => "LIKE"

/-- The clause after the placeholder: patterns escape with a backslash. -/
def trailing : Comparison → String
  | like => " ESCAPE '\\'"
  | _ => ""

/-- Reads a token, whatever blanks stand around it and whatever the case of its letters. -/
def parse (token : String) : Except FilterError Comparison :=
  let token := Text.trim token
  if token = "=" then .ok eq
  else if token = "<>" ∨ token = "!=" then .ok ne
  else if token = "<" then .ok lt
  else if token = ">" then .ok gt
  else if token = "<=" then .ok le
  else if token = ">=" then .ok ge
  else if Text.sameLetters token "like" then .ok like
  else .error (.unknownComparison token)

end Comparison

/-- How sibling nodes are joined. -/
inductive Connective where
  | and
  | or
  deriving DecidableEq, Repr, Inhabited

namespace Connective

def sql : Connective → String
  | and => "AND"
  | or => "OR"

/-- Reads a connective, whatever blanks stand around it and whatever the case of its letters. -/
def parse (token : String) : Except FilterError Connective :=
  let token := Text.trim token
  if Text.sameLetters token "and" then .ok and
  else if Text.sameLetters token "or" then .ok or
  else .error (.unknownConnective token)

end Connective

/-- A field compared with a value. -/
structure Condition where
  field : String
  comparison : Comparison
  value : Scalar
  deriving DecidableEq, Repr

/-- A condition on a field whose name is not blank. -/
def Condition.of (field : String) (comparison : Comparison) (value : Scalar) :
    Except FilterError Condition :=
  if Text.isAllBlank field then .error .blankField else .ok ⟨field, comparison, value⟩

/-- A tree of a filter. -/
inductive Node where
  | condition (c : Condition)
  | group (connective : Connective) (children : List Node)
  deriving Repr, Inhabited

/-- Trees joined with AND. -/
structure Filter where
  nodes : List Node
  deriving Repr, Inhabited

namespace Filter

/-- The filter that asks for nothing. -/
def empty : Filter := ⟨[]⟩

def isEmpty (f : Filter) : Bool :=
  f.nodes.isEmpty

end Filter

mutual

/-- The conditions of a tree from left to right. -/
def Node.conditions : Node → List Condition
  | .condition c => [c]
  | .group _ children => Node.allConditions children

/-- The conditions of a forest from left to right. -/
def Node.allConditions : List Node → List Condition
  | [] => []
  | node :: rest => node.conditions ++ Node.allConditions rest

end

/-- The fields that a filter compares. -/
def Filter.fields (f : Filter) : List String :=
  (Node.allConditions f.nodes).map Condition.field

/-- The values that a filter compares with. -/
def Filter.values (f : Filter) : List Scalar :=
  (Node.allConditions f.nodes).map Condition.value

end TodoServer
