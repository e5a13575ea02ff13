import TodoServer.Filter.Builder

/-!
# Programs of builders

The steps of a builder as values, so that any sequence of them can be spoken of: a builder that is
nested in another one has followed a program of its own. A session takes steps and asks for filters
in any order.
-/

namespace TodoServer.FilterBuilder

/-- What a builder is told to append. -/
inductive Step where
  | condition (field : String) (comparison : Comparison) (value : Scalar)
  | eq (field : String) (value : Scalar)
  /-- A group of finished trees. -/
  | group (connective : Connective) (children : List Node)
  /-- A group of what another builder has gathered along a program. -/
  | nested (connective : Connective) (program : List Step)
  deriving Repr

mutual

/-- The builder after a step. -/
def take (b : FilterBuilder) : Step → FilterBuilder
  | .condition field comparison value => b.condition field comparison value
  | .eq field value => b.eq field value
  | .group connective children => b.group connective children
  | .nested connective program => b.nested connective (follow empty program)

/-- The builder after the steps of a program. -/
def follow (b : FilterBuilder) : List Step → FilterBuilder
  | [] => b
  | step :: rest => (b.take step).follow rest

end

/-- The filter of a program, or its first error. -/
def built (program : List Step) : Except FilterError Filter :=
  (empty.follow program).build

/-- What can be asked of a builder. -/
inductive Call where
  | step (step : Step)
  | build
  deriving Repr

/-- A builder and what it answered whenever a filter was asked for. -/
structure Session where
  builder : FilterBuilder
  answers : List (Except FilterError Filter)

/-- The session after a call. Asking for the filter leaves the builder as it is. -/
def Session.answer (s : Session) : Call → Session
  | .step step => { s with builder := s.builder.take step }
  | .build => { s with answers := s.answers ++ [s.builder.build] }

/-- The session after some calls to a new builder. -/
def session (calls : List Call) : Session :=
  calls.foldl Session.answer ⟨empty, []⟩

/-- The steps among some calls. -/
def steps (calls : List Call) : List Step :=
  calls.filterMap fun
    | .step step => some step
    | .build => none

/-- How often some calls ask for the filter. -/
def requests (calls : List Call) : Nat :=
  calls.countP fun
    | .step _ => false
    | .build => true

end TodoServer.FilterBuilder
