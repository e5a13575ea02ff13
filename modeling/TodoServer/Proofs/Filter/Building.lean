import TodoServer.Filter.Program

/-!
# What builders build

A program of a builder lists trees: a condition for each condition, a group for each group and one
group for each nested program. It builds exactly these, unless a field somewhere in them is blank;
then it builds nothing, and neither does any program that goes on with it or nests it. So no filter,
group or condition that can be come by has a blank field.
-/

namespace TodoServer

/-! ## Blank fields -/

/-- Some field that a tree compares is blank. -/
def Node.HasBlank (node : Node) : Prop :=
  ∃ c ∈ node.conditions, Text.trim c.field = ""

namespace Node

theorem mem_allConditions {nodes : List Node} {c : Condition} :
    c ∈ allConditions nodes ↔ ∃ node ∈ nodes, c ∈ node.conditions := by
  induction nodes with
  | nil => simp [allConditions]
  | cons node rest ih => simp [allConditions, ih]

theorem hasBlank_condition {c : Condition} : (condition c).HasBlank ↔ Text.trim c.field = "" := by
  simp [HasBlank, conditions]

theorem hasBlank_group {connective : Connective} {children : List Node} :
    (group connective children).HasBlank ↔ ∃ child ∈ children, child.HasBlank := by
  simp only [HasBlank, conditions, mem_allConditions]
  constructor
  · rintro ⟨c, ⟨child, mem, inside⟩, blank⟩
    exact ⟨child, mem, c, inside, blank⟩
  · rintro ⟨child, mem, c, inside, blank⟩
    exact ⟨c, ⟨child, mem, inside⟩, blank⟩

end Node

namespace FilterBuilder

/-! ## The trees of a program -/

mutual

/-- The tree that a step lists. -/
def Step.tree : Step → Node
  | .condition field comparison value => .condition ⟨field, comparison, value⟩
  | .eq field value => .condition ⟨field, .eq, value⟩
  | .group connective children => .group connective children
  | .nested connective program => .group connective (trees program)

/-- The trees that a program lists, in order. -/
def trees : List Step → List Node
  | [] => []
  | step :: rest => step.tree :: trees rest

end

theorem trees_eq_map (program : List Step) : trees program = program.map Step.tree := by
  induction program with
  | nil => rfl
  | cons step rest ih => rw [trees, ih, List.map_cons]

/-! ## Steps one by one -/

section

variable (b : FilterBuilder) (field : String) (comparison : Comparison) (value : Scalar)

theorem condition_of_named (named : Text.trim field ≠ "") :
    b.condition field comparison value =
      ⟨b.nodes ++ [.condition ⟨field, comparison, value⟩], b.error⟩ := by
  have filled : Text.isAllBlank field = false := by
    rwa [ne_eq, Text.trim_eq_empty_iff, Bool.not_eq_true] at named
  simp [condition, Condition.of, filled]

theorem error_condition : (b.condition field comparison value).error =
    (b.error <|> if Text.trim field = "" then some .blankField else none) := by
  by_cases blank : Text.trim field = ""
  · simp [condition, Condition.of, blank, (Text.trim_eq_empty_iff field).1 blank]
  · simp [condition_of_named b field comparison value blank, blank]

end

/-- An error met before comes first. -/
theorem error_take (b : FilterBuilder) (step : Step) :
    (b.take step).error = (b.error <|> (empty.take step).error) := by
  cases step with
  | condition field comparison value => simp [take, error_condition, empty]
  | eq field value => simp [take, eq, error_condition, empty]
  | group connective children => simp [take, group, empty]
  | nested connective program => simp [take, nested, empty]

theorem error_follow (b : FilterBuilder) (program : List Step) :
    (b.follow program).error = (b.error <|> (empty.follow program).error) := by
  induction program generalizing b with
  | nil => simp [follow, empty]
  | cons step rest ih =>
    rw [follow, follow, ih (b.take step), ih (empty.take step), error_take b step]
    cases b.error <;> rfl

theorem follow_append (b : FilterBuilder) (program later : List Step) :
    b.follow (program ++ later) = (b.follow program).follow later := by
  induction program generalizing b with
  | nil => rfl
  | cons step rest ih => exact ih (b.take step)

/-- A program goes through exactly when each of its steps does. -/
theorem error_follow_eq_none_iff {program : List Step} :
    (empty.follow program).error = none ↔ ∀ step ∈ program, (empty.take step).error = none := by
  induction program with
  | nil => simp [follow, empty]
  | cons step rest ih =>
    rw [follow, error_follow, List.forall_mem_cons, ← ih]
    cases (empty.take step).error <;> simp

/-! ## Programs without blank fields -/

mutual

/-- A step without a blank field appends its tree. -/
theorem take_eq (b : FilterBuilder) (step : Step) (named : ¬step.tree.HasBlank) :
    b.take step = ⟨b.nodes ++ [step.tree], b.error⟩ := by
  match step with
  | .condition field comparison value =>
    rw [Step.tree, Node.hasBlank_condition] at named
    rw [take, condition_of_named _ _ _ _ named, Step.tree]
  | .eq field value =>
    rw [Step.tree, Node.hasBlank_condition] at named
    rw [take, eq, condition_of_named _ _ _ _ named, Step.tree]
  | .group connective children => rfl
  | .nested connective program =>
    rw [Step.tree, Node.hasBlank_group] at named
    rw [take, nested, follow_eq empty program named]
    simp [empty, Step.tree]

/-- A program without a blank field appends its trees. -/
theorem follow_eq (b : FilterBuilder) (program : List Step)
    (named : ¬∃ tree ∈ trees program, tree.HasBlank) :
    b.follow program = ⟨b.nodes ++ trees program, b.error⟩ := by
  match program with
  | [] => simp [follow, trees]
  | step :: rest =>
    simp only [trees, List.mem_cons, exists_eq_or_imp, not_or] at named
    rw [follow, take_eq b step named.1, follow_eq _ rest named.2, List.append_assoc]
    rfl

end

/-! ## Programs with blank fields -/

mutual

/-- The error of a step is that of a blank field in its tree. -/
theorem hasBlank_of_take (step : Step) {e : FilterError}
    (failed : (empty.take step).error = some e) : e = .blankField ∧ step.tree.HasBlank := by
  have conditions {field : String} {comparison : Comparison} {value : Scalar}
      (failed : (empty.condition field comparison value).error = some e) :
      e = .blankField ∧ (Node.condition ⟨field, comparison, value⟩).HasBlank := by
    rw [error_condition] at failed
    split at failed
    · next blank => exact ⟨(Option.some.inj failed).symm, Node.hasBlank_condition.2 blank⟩
    · cases failed
  match step with
  | .condition field comparison value => exact conditions failed
  | .eq field value => exact conditions failed
  | .group connective children => cases failed
  | .nested connective program =>
    obtain ⟨same, blank⟩ := hasBlank_of_follow program failed
    exact ⟨same, Node.hasBlank_group.2 blank⟩

/-- The error of a program is that of a blank field in its trees. -/
theorem hasBlank_of_follow (program : List Step) {e : FilterError}
    (failed : (empty.follow program).error = some e) :
    e = .blankField ∧ ∃ tree ∈ trees program, tree.HasBlank := by
  match program with
  | [] => cases failed
  | step :: rest =>
    rw [follow, error_follow] at failed
    simp only [trees, List.mem_cons, exists_eq_or_imp]
    cases first : (empty.take step).error with
    | some e' =>
      rw [first] at failed
      cases failed
      exact (hasBlank_of_take step first).imp_right .inl
    | none =>
      rw [first] at failed
      exact (hasBlank_of_follow rest failed).imp_right .inr

end

end FilterBuilder

/-! ## What can be come by -/

open FilterBuilder (Step)

mutual

/-- Trees that can be come by: conditions that were made, groups of such trees, the trees of a
filter that was built, and the children of such a group. -/
inductive Node.Obtainable : Node → Prop where
  | condition {field : String} {comparison : Comparison} {value : Scalar} {c : Condition}
      (made : Condition.of field comparison value = .ok c) : Node.Obtainable (.condition c)
  | group (connective : Connective) {children : List Node}
      (each : ∀ child ∈ children, Node.Obtainable child) :
      Node.Obtainable (.group connective children)
  | built {program : List Step} {f : Filter} {node : Node}
      (each : ∀ step ∈ program, FilterBuilder.Step.Feasible step)
      (succeeds : FilterBuilder.built program = .ok f) (mem : node ∈ f.nodes) : Node.Obtainable node
  | child {connective : Connective} {children : List Node} {node : Node}
      (whole : Node.Obtainable (.group connective children)) (mem : node ∈ children) :
      Node.Obtainable node

/-- Steps that can be taken: the trees of a group have to be there. -/
inductive FilterBuilder.Step.Feasible : Step → Prop where
  | condition (field : String) (comparison : Comparison) (value : Scalar) :
      FilterBuilder.Step.Feasible (.condition field comparison value)
  | eq (field : String) (value : Scalar) : FilterBuilder.Step.Feasible (.eq field value)
  | group (connective : Connective) {children : List Node}
      (each : ∀ child ∈ children, Node.Obtainable child) :
      FilterBuilder.Step.Feasible (.group connective children)
  | nested (connective : Connective) {program : List Step}
      (each : ∀ step ∈ program, FilterBuilder.Step.Feasible step) :
      FilterBuilder.Step.Feasible (.nested connective program)

end

/-- Filters that can be come by: the one that asks for nothing, and those that were built. -/
def Filter.Obtainable (f : Filter) : Prop :=
  f = .empty ∨
    ∃ program : List Step, (∀ step ∈ program, step.Feasible) ∧ FilterBuilder.built program = .ok f

/-- A program that goes through lists trees without blank fields, if its steps do, and builds
them. -/
theorem FilterBuilder.named_of_built {program : List Step} {f : Filter}
    (each : ∀ step ∈ program, (empty.take step).error = none → ¬step.tree.HasBlank)
    (succeeds : built program = .ok f) :
    f = ⟨trees program⟩ ∧ ∀ tree ∈ trees program, ¬tree.HasBlank := by
  have passed : (empty.follow program).error = none := by
    rw [built, build] at succeeds
    split at succeeds
    · cases succeeds
    · assumption
  have named : ∀ tree ∈ trees program, ¬tree.HasBlank := by
    intro tree mem
    rw [trees_eq_map] at mem
    obtain ⟨step, held, rfl⟩ := List.mem_map.1 mem
    exact each step held (error_follow_eq_none_iff.1 passed step held)
  rw [built, follow_eq empty program (by simpa using named)] at succeeds
  cases succeeds
  exact ⟨rfl, named⟩

theorem Condition.named_of_made {field : String} {comparison : Comparison} {value : Scalar}
    {c : Condition} (made : Condition.of field comparison value = .ok c) :
    c = ⟨field, comparison, value⟩ ∧ Text.trim field ≠ "" := by
  rw [Condition.of] at made
  split at made
  · cases made
  · next named =>
    cases made
    exact ⟨rfl, mt (Text.trim_eq_empty_iff field).1 named⟩

mutual

/-- A tree that can be come by has no blank field. -/
theorem Node.Obtainable.named {node : Node} (obtainable : node.Obtainable) :
    ¬node.HasBlank := by
  match obtainable with
  | .condition made =>
    obtain ⟨rfl, named⟩ := Condition.named_of_made made
    exact mt Node.hasBlank_condition.1 named
  | .group connective each =>
    rw [Node.hasBlank_group]
    rintro ⟨child, mem, blank⟩
    exact (each child mem).named blank
  | .built each succeeds mem =>
    obtain ⟨rfl, named⟩ :=
      FilterBuilder.named_of_built (fun step mem => (each step mem).named) succeeds
    exact named _ mem
  | .child whole mem =>
    intro blank
    exact whole.named (Node.hasBlank_group.2 ⟨_, mem, blank⟩)

/-- A step that can be taken and goes through has no blank field. -/
theorem FilterBuilder.Step.Feasible.named {step : Step} (feasible : step.Feasible)
    (passed : (FilterBuilder.empty.take step).error = none) : ¬step.tree.HasBlank := by
  have conditions {field : String} {comparison : Comparison} {value : Scalar}
      (passed : (FilterBuilder.empty.condition field comparison value).error = none) :
      ¬(Node.condition ⟨field, comparison, value⟩).HasBlank := by
    rw [FilterBuilder.error_condition] at passed
    intro blank
    rw [if_pos (Node.hasBlank_condition.1 blank)] at passed
    cases passed
  match feasible with
  | .condition field comparison value => exact conditions passed
  | .eq field value => exact conditions passed
  | .group connective each =>
    rw [Step.tree, Node.hasBlank_group]
    rintro ⟨child, mem, blank⟩
    exact (each child mem).named blank
  | .nested connective each =>
    have all := FilterBuilder.error_follow_eq_none_iff.1 passed
    rw [Step.tree, Node.hasBlank_group, FilterBuilder.trees_eq_map]
    rintro ⟨tree, mem, blank⟩
    obtain ⟨step, held, rfl⟩ := List.mem_map.1 mem
    exact (each step held).named (all step held) blank

end

namespace FilterBuilder

/-! ## Programs that go on -/

/-- A program leads to all that begin with it, nest it, or begin with or nest one that it leads
to. -/
inductive LeadsTo (program : List Step) : List Step → Prop where
  | same : LeadsTo program program
  | extended {other : List Step} (leads : LeadsTo program other) (later : List Step) :
      LeadsTo program (other ++ later)
  | nested {other : List Step} (leads : LeadsTo program other) (before : List Step)
      (connective : Connective) : LeadsTo program (before ++ [.nested connective other])

theorem built_eq_error_iff {program : List Step} {e : FilterError} :
    built program = .error e ↔ (empty.follow program).error = some e := by
  rw [built, build]
  cases (empty.follow program).error <;> simp

/-- A failed program fails for ever, and so does what nests it. -/
theorem LeadsTo.fails {program other : List Step} {e : FilterError} (leads : LeadsTo program other)
    (failed : built program = .error e) : built other = .error e := by
  rw [built_eq_error_iff] at failed ⊢
  induction leads with
  | same => exact failed
  | extended _ later ih => rw [follow_append, error_follow, ih]; rfl
  | @nested other _ before connective ih =>
    have inner : (empty.follow [.nested connective other]).error = some e := by
      rw [follow, follow, error_take]
      simpa [take, FilterBuilder.nested, empty] using ih
    rw [follow_append, error_follow, inner]
    cases before : (empty.follow before).error with
    | none => rfl
    | some e' =>
      rw [(hasBlank_of_follow _ before).1, (hasBlank_of_follow _ ih).1]
      rfl

/-! ## Sessions -/

/-- The builder of a session takes the steps and nothing else. -/
theorem builder_answers (calls : List Call) (s : Session) :
    (calls.foldl Session.answer s).builder = s.builder.follow (steps calls) := by
  induction calls generalizing s with
  | nil => rfl
  | cons call rest ih =>
    rw [List.foldl_cons, ih]
    cases call <;> rfl

/-- A session keeps its answers and adds one for each request. -/
theorem answers_grow (calls : List Call) (s : Session) :
    ∃ more, (calls.foldl Session.answer s).answers = s.answers ++ more ∧
      more.length = requests calls := by
  induction calls generalizing s with
  | nil => exact ⟨[], by simp, rfl⟩
  | cons call rest ih =>
    obtain ⟨more, grown, count⟩ := ih (s.answer call)
    rw [List.foldl_cons, grown]
    cases call with
    | step step => exact ⟨more, rfl, by simpa [requests] using count⟩
    | build =>
      refine ⟨s.builder.build :: more, ?_, by simpa [requests] using count⟩
      simp [Session.answer]

/-- A filter that was built is that of the steps before, whatever is called later. -/
theorem answer_kept (before later : List Call) :
    (session (before ++ .build :: later)).answers[requests before]? =
      some (built (steps before)) := by
  obtain ⟨first, grown, count⟩ := answers_grow before ⟨empty, []⟩
  have builder := builder_answers before ⟨empty, []⟩
  obtain ⟨more, kept, -⟩ :=
    answers_grow later ((before.foldl Session.answer ⟨empty, []⟩).answer .build)
  rw [List.nil_append] at grown
  rw [session, List.foldl_append, List.foldl_cons, kept, Session.answer, grown, builder, ← count]
  simp [built]

/-! ## The main statement -/

/-- A program builds exactly the trees that it lists, unless a field in them is blank. -/
structure Translates (program : List Step) : Prop where
  /-- It fails exactly when a condition somewhere in it has a blank field. -/
  fails_iff : (∃ e, built program = .error e) ↔
    ∃ c ∈ Node.allConditions (trees program), Text.trim c.field = ""
  /-- Whatever goes on with a failed program or nests it fails as well, and for the same reason. -/
  lasts : ∀ e, built program = .error e →
    e = .blankField ∧ ∀ other, LeadsTo program other → built other = .error e
  /-- Without a blank field it builds what it lists. -/
  lists : (∀ c ∈ Node.allConditions (trees program), Text.trim c.field ≠ "") →
    built program = .ok ⟨trees program⟩

theorem translates {program : List Step} (feasible : ∀ step ∈ program, step.Feasible) :
    Translates program := by
  have anywhere : (∃ c ∈ Node.allConditions (trees program), Text.trim c.field = "") ↔
      ∃ tree ∈ trees program, tree.HasBlank := by
    simp only [Node.mem_allConditions, Node.HasBlank]
    constructor
    · rintro ⟨c, ⟨tree, mem, held⟩, blank⟩
      exact ⟨tree, mem, c, held, blank⟩
    · rintro ⟨tree, mem, c, held, blank⟩
      exact ⟨c, ⟨tree, mem, held⟩, blank⟩
  refine ⟨?_, ?_, ?_⟩
  · rw [anywhere]
    constructor
    · rintro ⟨e, failed⟩
      exact (hasBlank_of_follow program (built_eq_error_iff.1 failed)).2
    · rintro ⟨tree, mem, blank⟩
      cases result : built program with
      | error e => exact ⟨e, rfl⟩
      | ok f =>
        have named := (named_of_built (fun step held => (feasible step held).named) result).2
        exact absurd blank (named tree mem)
  · intro e failed
    exact ⟨(hasBlank_of_follow program (built_eq_error_iff.1 failed)).1,
      fun other leads => leads.fails failed⟩
  · intro named
    have listed := follow_eq empty program (mt anywhere.2 (by simpa using named))
    rw [built, listed]
    rfl

end FilterBuilder

/-- A filter that can be come by has no blank field. -/
theorem Filter.Obtainable.named {f : Filter} (obtainable : f.Obtainable) :
    ∀ node ∈ f.nodes, ¬node.HasBlank := by
  obtain rfl | ⟨program, feasible, succeeds⟩ := obtainable
  · exact nofun
  · exact fun node mem => (Node.Obtainable.built feasible succeeds mem).named

/-- **Builders translate faithfully.** A program builds the trees that it lists, in order and with
each nested program as one group, and fails exactly when a field in them is blank, and with it
whatever goes on with it or nests it. What can be come by has no blank field, and a filter that was
built is the same whatever the builder is told later. -/
theorem builders_faithful :
    (∀ program : List Step, (∀ step ∈ program, step.Feasible) →
      FilterBuilder.Translates program) ∧
    (∀ field comparison value c, Condition.of field comparison value = .ok c →
      Text.trim c.field ≠ "") ∧
    (∀ node : Node, node.Obtainable → ∀ c ∈ node.conditions, Text.trim c.field ≠ "") ∧
    (∀ f : Filter, f.Obtainable → ∀ c ∈ Node.allConditions f.nodes, Text.trim c.field ≠ "") ∧
    (∀ before later : List FilterBuilder.Call,
      (FilterBuilder.session (before ++ .build :: later)).answers[FilterBuilder.requests before]? =
        some (FilterBuilder.built (FilterBuilder.steps before))) := by
  refine ⟨?_, ?_, ?_, ?_, ?_⟩
  · exact fun program feasible => FilterBuilder.translates feasible
  · intro field comparison value c made
    obtain ⟨rfl, named⟩ := Condition.named_of_made made
    exact named
  · intro node obtainable c held blank
    exact obtainable.named ⟨c, held, blank⟩
  · intro f obtainable c held blank
    obtain ⟨node, mem, inside⟩ := Node.mem_allConditions.1 held
    exact obtainable.named node mem ⟨c, inside, blank⟩
  · exact FilterBuilder.answer_kept

/-- Trees that a filter was built of. -/
def sampleTrees : List Node :=
  FilterBuilder.trees [.condition "id" .ne (.integer 7), .group .and []]

/-- A search among the todos of an owner, beside a group of trees that are there already. -/
def sampleProgram : List Step :=
  [.eq "user_id" (.integer 1),
    .nested .or [.condition "title" .like (.text "%milk%"),
      .nested .and [.eq "completed" (.bool false),
        .condition "description" .like (.text "%milk%")]],
    .group .or sampleTrees]

/-- A program with a blank field two levels deep. -/
def blankProgram : List Step :=
  [.eq "user_id" (.integer 1), .nested .or [.nested .and [.condition "\u2003\t" .like (.text "%")]]]

theorem feasible_sampleTrees : ∀ node ∈ sampleTrees, node.Obtainable := by
  have steps : ∀ step ∈ [Step.condition "id" .ne (.integer 7), .group .and []], step.Feasible := by
    simp only [List.forall_mem_cons]
    exact ⟨.condition _ _ _, .group .and nofun, nofun⟩
  exact fun node mem => .built steps rfl mem

theorem feasible_sampleProgram : ∀ step ∈ sampleProgram, step.Feasible := by
  simp only [sampleProgram, List.forall_mem_cons]
  refine ⟨.eq _ _, .nested .or ?_, .group .or feasible_sampleTrees, nofun⟩
  simp only [List.forall_mem_cons]
  refine ⟨.condition _ _ _, .nested .and ?_, nofun⟩
  simp only [List.forall_mem_cons]
  exact ⟨.eq _ _, .condition _ _ _, nofun⟩

theorem feasible_blankProgram : ∀ step ∈ blankProgram, step.Feasible := by
  simp only [blankProgram, List.forall_mem_cons]
  refine ⟨.eq _ _, .nested .or ?_, nofun⟩
  simp only [List.forall_mem_cons]
  refine ⟨.nested .and ?_, nofun⟩
  simp only [List.forall_mem_cons]
  exact ⟨.condition _ _ _, nofun⟩

theorem builders_faithful_sample :
    (∀ step ∈ sampleProgram, step.Feasible) ∧
    FilterBuilder.built sampleProgram = .ok ⟨FilterBuilder.trees sampleProgram⟩ ∧
    (∀ step ∈ blankProgram, step.Feasible) ∧
    FilterBuilder.built (sampleProgram ++ [.nested .or blankProgram] ++ sampleProgram) =
      .error .blankField ∧
    Condition.of "title" .like .null = .ok ⟨"title", .like, .null⟩ ∧ Text.trim "title" ≠ "" ∧
    (∀ node ∈ sampleTrees, ∀ c ∈ node.conditions, Text.trim c.field ≠ "") ∧
    (∀ c ∈ Node.allConditions (FilterBuilder.trees sampleProgram), Text.trim c.field ≠ "") ∧
    (FilterBuilder.session [.step (.eq "a" .null), .build, .step (.eq "" .null)]).answers[0]? =
      some (FilterBuilder.built [.eq "a" .null]) := by
  obtain ⟨programs, conditions, trees, filters, sessions⟩ := builders_faithful
  have whole := programs sampleProgram feasible_sampleProgram
  have blank := programs blankProgram feasible_blankProgram
  obtain ⟨e, failed⟩ := blank.fails_iff.2 (by decide)
  obtain ⟨rfl, lasts⟩ := blank.lasts e failed
  have built := whole.lists (by decide)
  have made : Condition.of "title" .like .null = .ok ⟨"title", .like, .null⟩ := by rfl
  refine ⟨feasible_sampleProgram, built, feasible_blankProgram, ?_, made, ?_, ?_, ?_, ?_⟩
  · exact lasts _ ((FilterBuilder.LeadsTo.same.nested sampleProgram .or).extended sampleProgram)
  · exact conditions "title" .like .null ⟨"title", .like, .null⟩ made
  · exact fun node mem => trees node (feasible_sampleTrees node mem)
  · exact filters ⟨FilterBuilder.trees sampleProgram⟩ (.inr ⟨_, feasible_sampleProgram, built⟩)
  · exact sessions [.step (.eq "a" .null)] [.step (.eq "" .null)]

end TodoServer
