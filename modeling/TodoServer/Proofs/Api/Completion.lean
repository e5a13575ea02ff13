import TodoServer.Api.Interleaving
import TodoServer.Proofs.Api.Effect
import TodoServer.Proofs.Store.Flips
import TodoServer.Proofs.Store.Toggle

/-!
# Flags that are reported

A request that flips the flag of a todo reads the todo back with a statement of its own. So what it
reports is its own flip together with those of others that landed in between, and that is what it
has written only if there is an even number of them.
-/

namespace TodoServer

open Storage

/-- No turn brings back a flag that is gone. -/
theorem Task.effect_stays {s : Store} {userId todoId : Int} (valid : s.Valid)
    (known : todoId ≤ s.lastTodo) (moment : Moment) (task : Task)
    (gone : s.flag? userId todoId = none) :
    (task.effect moment s).2.flag? userId todoId = none := by
  have moves : Task.Moves userId todoId s task _ _ := Task.moves valid known moment task
  cases @Task.Moves.touches _ _ _ _ _ _ 0 moves with
  | keeps same => exact same.symm.trans gone
  | flips seen before => cases gone.symm.trans before
  | drops seen before => cases gone.symm.trans before

namespace Api

/-! ## Visitors of a store -/

namespace Todos.Completing

/-- What one more statement of a request that flips a flag does to a store. -/
def effect (now : Instant) (userId todoId : Int) (c : Completing) (s : Store) :
    Completing × Store :=
  match c with
  | toggling toggle =>
    (match (toggle.effect now userId todoId s).1 with
      | .done (.ok _) => loading
      | .done (.error e) => answered (.error (.ofService e))
      | toggle => toggling toggle, (toggle.effect now userId todoId s).2)
  | loading =>
    (answered ((s.todo? userId todoId).elim (.error (missing todoId)) fun todo =>
      .ok (.json 200 todo.toJson)), s)
  | answered answer => (answered answer, s)

variable {s : Store}

theorem step_pool (valid : s.Valid) (rest : Database) (now : Instant) (userId todoId : Int)
    (c : Completing) :
    c.step Pool.runner now userId todoId (s.pool rest) =
      ((c.effect now userId todoId s).1, (c.effect now userId todoId s).2.pool rest) := by
  cases c with
  | toggling toggle =>
    rw [step, TodoServer.Todos.Toggle.step_pool valid]
    rfl
  | loading =>
    rw [step, shown_pool]
    rfl
  | answered answer => rfl

/-- What one statement of such a request does, as far as its todo goes. -/
inductive Moves (userId todoId : Int) (s : Store) : Completing → Completing → Store → Prop
  | goesOn (toggle toggle' : TodoServer.Todos.Toggle) : (∀ answer, toggle' ≠ .done answer) →
    Moves userId todoId s (toggling toggle) (toggling toggle') s
  | misses (toggle : TodoServer.Todos.Toggle) (e : ApiError) : s.flag? userId todoId = none →
    Moves userId todoId s (toggling toggle) (answered (.error e)) s
  | lands (toggle : TodoServer.Todos.Toggle) (seen : Bool) (s' : Store) :
    s.flag? userId todoId = some seen → s'.flag? userId todoId = some !seen →
    Moves userId todoId s (toggling toggle) loading s'
  | shows (todo : Todo) : s.todo? userId todoId = some todo →
    Moves userId todoId s loading (answered (.ok (.json 200 todo.toJson))) s
  | loses (e : ApiError) : s.flag? userId todoId = none →
    Moves userId todoId s loading (answered (.error e)) s
  | rests (answer : Except ApiError Http.Response) :
    Moves userId todoId s (answered answer) (answered answer) s

theorem moves (valid : s.Valid) {userId todoId : Int} (now : Instant) (c : Completing)
    (unfinished : ∀ answer, c ≠ toggling (.done answer)) :
    Moves userId todoId s c (c.effect now userId todoId s).1 (c.effect now userId todoId s).2 := by
  cases c with
  | toggling toggle =>
    cases toggle with
    | reading =>
      simp only [effect, TodoServer.Todos.Toggle.effect]
      cases seen : s.flag? userId todoId with
      | none => exact .misses _ _ seen
      | some flag => exact .goesOn _ _ fun answer done => by cases done
    | writing seen =>
      by_cases still : s.flag? userId todoId = some seen
      · obtain ⟨s', changed, flip⟩ := Store.changeTodo_of_flag valid now.text still
        simp only [effect, TodoServer.Todos.Toggle.effect, still, if_true, changed]
        exact .lands _ seen s' still (flip.flag? valid).2
      · simp only [effect, TodoServer.Todos.Toggle.effect, still, if_false]
        exact .goesOn _ _ fun answer done => by cases done
    | done answer => exact absurd rfl (unfinished answer)
  | loading =>
    rw [effect]
    cases found : s.todo? userId todoId with
    | none => exact .loses _ (by rw [Store.flag?, found]; rfl)
    | some todo => exact .shows todo found
  | answered answer => exact .rests answer

end Todos.Completing

namespace Visitor

/-- What one turn does to a store. -/
def effect (moment : Moment) (visitor : Visitor) (s : Store) : Visitor × Store :=
  match visitor with
  | completing userId todoId progress =>
    (completing userId todoId (progress.effect moment.now userId todoId s).1,
      (progress.effect moment.now userId todoId s).2)
  | operating task => (operating (task.effect moment s).1, (task.effect moment s).2)

/-- A task that does to a store what a visitor does. -/
def task : Visitor → Task
  | completing userId todoId (.toggling toggle) => .toggle userId todoId toggle
  | completing userId todoId _ => .toggle userId todoId (.done (.ok true))
  | operating task => task

variable {s : Store}

theorem effect_task (moment : Moment) (visitor : Visitor) (s : Store) :
    (visitor.effect moment s).2 = (visitor.task.effect moment s).2 := by
  cases visitor with
  | completing userId todoId progress => cases progress <;> rfl
  | operating task => rfl

theorem effect_valid (valid : s.Valid) (moment : Moment) (visitor : Visitor) :
    (visitor.effect moment s).2.Valid := by
  rw [effect_task]
  exact Task.effect_valid valid moment visitor.task

theorem step_pool (valid : s.Valid) (rest : Database) (moment : Moment) (visitor : Visitor) :
    visitor.step Pool.runner moment (s.pool rest) =
      ((visitor.effect moment s).1, (visitor.effect moment s).2.pool rest) := by
  cases visitor with
  | completing userId todoId progress =>
    rw [step, Todos.Completing.step_pool valid]
    rfl
  | operating task =>
    rw [step, Task.step_pool valid]
    rfl

/-- A schedule on a database that is filled by a valid store is one on the store. -/
theorem follow_pool (rest : Database) (run : Run Visitor Store) (valid : run.state.Valid)
    (schedule : List (Nat × Moment)) :
    (run.map (·.pool rest)).follow (step Pool.runner) schedule =
      (run.follow effect schedule).map (·.pool rest) := by
  have same (moment : Moment) (visitor : Visitor) (s : Store) (valid : s.Valid) :=
    step_pool valid rest moment visitor
  have kept (moment : Moment) (visitor : Visitor) (s : Store) (valid : s.Valid) :=
    effect_valid valid moment visitor
  exact Run.follow_map (·.pool rest) Store.Valid same kept schedule valid

end Visitor

/-! ## What a run keeps for its requests -/

section

variable {userId todoId : Int} {run : Run Visitor Store} {tasks : List Visitor} {s' : Store}
  {turn : Turn Visitor Store} {caller : Nat} {progress progress' : Todos.Completing}

/-- A caller flipped the flag of a todo once and was answered with the todo that was stored when it
was read back later. -/
def Answers (userId todoId : Int) (run : Run Visitor Store) (caller : Nat)
    (response : Http.Response) : Prop :=
  ∃ front flip between load back todo, run.turns = front ++ flip :: between ++ load :: back ∧
    run.flipsOf (·.flag? userId todoId) caller = [flip] ∧ load.caller = caller ∧
    load.before = .completing userId todoId .loading ∧
    load.source.todo? userId todoId = some todo ∧ response = .json 200 todo.toJson

theorem Answers.append {response : Http.Response}
    (answers : Answers userId todoId run caller response)
    (same : Run.flipsOf (·.flag? userId todoId) ⟨tasks, s', run.turns ++ [turn]⟩ caller =
      run.flipsOf (·.flag? userId todoId) caller) :
    Answers userId todoId ⟨tasks, s', run.turns ++ [turn]⟩ caller response := by
  obtain ⟨front, flip, between, load, back, todo, turns, once, loads⟩ := answers
  refine ⟨front, flip, between, load, back ++ [turn], todo, ?_, same.trans once, loads⟩
  rw [turns, List.append_assoc _ (load :: back), List.cons_append]

/-- What is known of a caller that flips the flag of a todo, by how far the request has come. -/
def CompletionKept (userId todoId : Int) (run : Run Visitor Store) (caller : Nat) :
    Todos.Completing → Prop
  | .toggling toggle =>
    (∀ answer, toggle ≠ .done answer) ∧ run.flipsOf (·.flag? userId todoId) caller = []
  | .loading => ∃ flip, run.flipsOf (·.flag? userId todoId) caller = [flip]
  | .answered (.ok response) => Answers userId todoId run caller response
  | .answered (.error _) => run.state.flag? userId todoId = none

/-- The turn of another caller keeps what is known of a request. -/
theorem CompletionKept.other (kept : CompletionKept userId todoId run caller progress)
    (apart : turn.caller ≠ caller)
    (stays : run.state.flag? userId todoId = none → s'.flag? userId todoId = none) :
    CompletionKept userId todoId ⟨tasks, s', run.turns ++ [turn]⟩ caller progress := by
  have same := @Run.flipsOf_of_ne _ _ (·.flag? userId todoId) run turn tasks s' _ apart
  cases progress with
  | toggling toggle => exact ⟨kept.1, same.trans kept.2⟩
  | loading =>
    obtain ⟨flip, once⟩ := kept
    exact ⟨flip, same.trans once⟩
  | answered answer =>
    cases answer with
    | ok response => exact Answers.append kept same
    | error e => exact stays kept

/-- A turn of the request itself. -/
theorem CompletionKept.own (kept : CompletionKept userId todoId run caller progress)
    (mine : turn.caller = caller) (before : turn.before = .completing userId todoId progress)
    (source : turn.source = run.state) (target : turn.target = s')
    (moves : Todos.Completing.Moves userId todoId run.state progress progress' s') :
    CompletionKept userId todoId ⟨tasks, s', run.turns ++ [turn]⟩ caller progress' := by
  have silent (same : s' = run.state) :
      Run.flipsOf (·.flag? userId todoId) ⟨tasks, s', run.turns ++ [turn]⟩ caller =
        run.flipsOf (·.flag? userId todoId) caller := by
    refine Run.flipsOf_of_silent ?_
    simp [Turn.flips, source, target, same]
  cases moves with
  | goesOn toggle toggle' unfinished => exact ⟨unfinished, (silent rfl).trans kept.2⟩
  | misses toggle e gone => exact gone
  | lands toggle seen s' found flipped =>
    have flips : turn.flips (·.flag? userId todoId) = true := by
      simp [Turn.flips, source, target, found, flipped]
    refine ⟨turn, ?_⟩
    rw [Run.flipsOf_of_flips mine flips, kept.2]
    rfl
  | shows todo found =>
    obtain ⟨flip, once⟩ := kept
    have mem : flip ∈ run.flipsOf (·.flag? userId todoId) caller := by simp [once]
    obtain ⟨front, between, turns⟩ := List.append_of_mem (Run.mem_flipsOf.1 mem).1
    refine ⟨front, flip, between, turn, [], todo, ?_, (silent rfl).trans once, mine, before, ?_,
      rfl⟩
    · rw [turns]
    · rw [source]
      exact found
  | loses e gone => exact gone
  | rests answer =>
    cases answer with
    | ok response => exact Answers.append kept (silent rfl)
    | error e => exact kept

end

/-- What the turns taken so far keep for the requests that flip the flag of a todo. -/
structure CompletionsKept (userId todoId : Int) (initial : Bool) (run : Run Visitor Store) :
    Prop where
  valid : run.state.Valid
  known : todoId ≤ run.state.lastTodo
  counted : run.FlipsCounted (·.flag? userId todoId) initial
  callers : ∀ caller progress, run.tasks[caller]? = some (.completing userId todoId progress) →
    CompletionKept userId todoId run caller progress

namespace CompletionsKept

variable {userId todoId : Int} {initial : Bool} {run : Run Visitor Store} {s : Store}

theorem start (valid : s.Valid) (present : s.flag? userId todoId = some initial)
    (errands : List Errand) :
    CompletionsKept userId todoId initial (Run.start (errands.map Visitor.ofErrand) s) := by
  refine ⟨valid, ?_, .start present, ?_⟩
  · obtain ⟨todo, found, -⟩ := Option.map_eq_some_iff.1 present
    obtain ⟨held, rfl, -⟩ := Store.mem_of_todo? found
    exact valid.todoIds.le_last _ (List.mem_map_of_mem held)
  · intro caller progress found
    rw [Run.start, List.getElem?_map] at found
    obtain ⟨errand, -, visitor⟩ := Option.map_eq_some_iff.1 found
    cases errand <;> cases visitor
    exact ⟨fun answer done => (by cases done), rfl⟩

/-- One turn keeps what is kept for the requests. -/
theorem step (inv : CompletionsKept userId todoId initial run) {caller : Nat} {visitor : Visitor}
    (found : run.tasks[caller]? = some visitor) (moment : Moment) :
    CompletionsKept userId todoId initial
      ⟨run.tasks.set caller (visitor.effect moment run.state).1,
        (visitor.effect moment run.state).2,
        run.turns ++ [⟨caller, visitor, (visitor.effect moment run.state).1, run.state,
          (visitor.effect moment run.state).2⟩]⟩ := by
  have state := Visitor.effect_task moment visitor run.state
  have follows : run.state.Follows (visitor.effect moment run.state).2 := by
    rw [state]
    exact Task.effect_follows inv.valid moment visitor.task
  have stays (gone : run.state.flag? userId todoId = none) :
      (visitor.effect moment run.state).2.flag? userId todoId = none := by
    rw [state]
    exact Task.effect_stays inv.valid inv.known moment visitor.task gone
  refine ⟨Visitor.effect_valid inv.valid moment visitor, Int.le_trans inv.known follows.lastTodo,
    inv.counted.step rfl stays rfl, ?_⟩
  intro other progress later
  by_cases self : caller = other
  · subst self
    obtain ⟨bound, -⟩ := List.getElem?_eq_some_iff.1 found
    rw [List.getElem?_set_self bound, Option.some_inj] at later
    cases visitor with
    | operating task => cases later
    | completing user todo earlier =>
      obtain ⟨rfl, rfl, rfl⟩ := Visitor.completing.inj later
      have kept := inv.callers caller earlier found
      refine kept.own rfl rfl rfl rfl (Todos.Completing.moves inv.valid moment.now earlier ?_)
      rintro answer rfl
      exact kept.1 answer rfl
  · rw [List.getElem?_set_ne self] at later
    exact (inv.callers other progress later).other self stays

theorem follow (valid : s.Valid) (present : s.flag? userId todoId = some initial)
    (errands : List Errand) (schedule : List (Nat × Moment)) :
    CompletionsKept userId todoId initial
      ((Run.start (errands.map Visitor.ofErrand) s).follow Visitor.effect schedule) :=
  Run.follow_induction schedule (.start valid present errands)
    fun _ _ _ moment found inv => inv.step found moment

end CompletionsKept

/-! ## What requests report -/

/-- What holds of all requests that flip the flag of a todo, when the flag was `initial` at the
start. `flag` shows the flag in a state and `stored` holds of the todo that is stored there. -/
structure CompletionsReport {σ : Type} (flag : σ → Option Bool) (stored : σ → Todo → Prop)
    (userId todoId : Int) (initial : Bool) (run : Run Visitor σ) : Prop where
  /-- The flips alternate in the order in which they landed. -/
  alternate : (run.turns.filter (Turn.flips flag)).map (flag ·.target) =
    (List.range (run.turns.countP (Turn.flips flag))).map fun i =>
      some (Nat.iterate Bool.not (i + 1) initial)
  /-- A request that is told of a todo flipped the flag once and was shown the todo as it was stored
  when it was read back later. It reports its own flip if an even number of flips landed in
  between. -/
  answered : ∀ (caller : Nat) (response : Http.Response),
    run.tasks[caller]? = some (.completing userId todoId (.answered (.ok response))) →
    ∃ (front between back : List (Turn Visitor σ)) (flip load : Turn Visitor σ) (own : Bool)
        (todo : Todo),
      run.turns = front ++ flip :: between ++ load :: back ∧
      run.flipsOf flag caller = [flip] ∧ flag flip.source = some !own ∧
      flag flip.target = some own ∧
      load.caller = caller ∧ load.before = .completing userId todoId .loading ∧
      stored load.source todo ∧ response = .json 200 todo.toJson ∧
      (todo.completed = own ↔ Even (between.countP (Turn.flips flag)))
  /-- A request that is told of an error finds its todo gone. -/
  refused : ∀ (caller : Nat) (e : ApiError),
    run.tasks[caller]? = some (.completing userId todoId (.answered (.error e))) →
    flag run.state = none

/-- What turns keep says all that holds of the requests. -/
theorem CompletionsKept.report {userId todoId : Int} {initial : Bool} {run : Run Visitor Store}
    (inv : CompletionsKept userId todoId initial run) :
    CompletionsReport (·.flag? userId todoId) (fun s todo => s.todo? userId todoId = some todo)
      userId todoId initial run := by
  refine ⟨inv.counted.alternate, ?_, fun caller e found => inv.callers caller _ found⟩
  intro caller response found
  obtain ⟨front, flip, between, load, back, todo, turns, once, mine, before, stored, told⟩ :=
    inv.callers caller _ found
  have mem : flip ∈ run.flipsOf (·.flag? userId todoId) caller := by simp [once]
  obtain ⟨taken, -, flips⟩ := Run.mem_flipsOf.1 mem
  obtain ⟨seen, source, target⟩ := inv.counted.flipped flip taken flips
  have shown : load.source.flag? userId todoId = some todo.completed := by
    rw [Store.flag?, stored]
    rfl
  have source' : flip.source.flag? userId todoId = some !(!seen) := by
    rw [Bool.not_not]
    exact source
  exact ⟨front, between, back, flip, load, !seen, todo, turns, once, source', target, mine, before,
    stored, told, inv.counted.eq_iff_even turns flips source' shown⟩

/-- What holds of the requests of a run holds of the run seen through a function that shows the same
flags and todos. -/
theorem CompletionsReport.map {σ ρ : Type} (f : σ → ρ) {flag : σ → Option Bool}
    {shown : ρ → Option Bool} {stored : σ → Todo → Prop} {held : ρ → Todo → Prop}
    (same : ∀ s, shown (f s) = flag s) (holds : ∀ s todo, stored s todo → held (f s) todo)
    {userId todoId : Int} {initial : Bool} {run : Run Visitor σ}
    (report : CompletionsReport flag stored userId todoId initial run) :
    CompletionsReport shown held userId todoId initial (run.map f) := by
  refine ⟨?_, ?_, ?_⟩
  · rw [Run.map, Run.filter_flips_map same, Run.countP_flips_map same, ← report.alternate,
      List.map_map]
    exact List.map_congr_left fun turn _ => same turn.target
  · intro caller response found
    obtain ⟨front, between, back, flip, load, own, todo, turns, once, source, target, mine, before,
      stored, told, even⟩ := report.answered caller response found
    refine ⟨front.map (Turn.map f), between.map (Turn.map f), back.map (Turn.map f), flip.map f,
      load.map f, own, todo, ?_, ?_, (same _).trans source, (same _).trans target, mine,
      before, holds _ _ stored, told, ?_⟩
    · simp [Run.map, turns]
    · rw [Run.flipsOf_map same, once]
      rfl
    · rw [Run.countP_flips_map same]
      exact even
  · intro caller e found
    exact (same run.state).trans (report.refused caller e found)

/-- However many requests flip the flag of a todo in a reachable database, among any operations and
in any order, each one that is told of the todo is shown it as it is stored when it is read back: it
reports its own flip if an even number of flips of others landed since. -/
theorem completions_report_flag_as_read {db : Database} (reachable : Reachable db)
    {userId todoId : Int} {initial : Bool} (present : db.flag? userId todoId = some initial)
    (errands : List Errand) (schedule : List (Nat × Moment)) :
    CompletionsReport (fun pool : Pool => pool.database.flag? userId todoId)
      (fun pool todo => todo.id = todoId ∧ todo.userId = userId ∧
        todo.row ∈ pool.database.rowsOf .todos) userId todoId initial
      ((Run.start (errands.map Visitor.ofErrand) (Pool.of db)).follow (Visitor.step Pool.runner)
        schedule) := by
  obtain ⟨s, rest, valid, rfl⟩ := reachable.filled
  rw [Store.flag?_fill] at present
  have onStore := Visitor.follow_pool rest (Run.start (errands.map Visitor.ofErrand) s) valid
    schedule
  have report := (CompletionsKept.follow valid present errands schedule).report
  change CompletionsReport _ _ userId todoId initial
    ((Run.map (·.pool rest) (Run.start (errands.map Visitor.ofErrand) s)).follow
      (Visitor.step Pool.runner) schedule)
  rw [onStore]
  refine report.map (·.pool rest) ?_ ?_
  · intro s
    exact Store.flag?_fill rest userId todoId
  · intro s todo found
    obtain ⟨held, id, owner⟩ := Store.mem_of_todo? found
    exact ⟨id, owner, (Store.mem_todos_iff rest).2 held⟩

theorem flag?_sampleDatabase : (sampleDatabase "Bread").flag? 1 1 = some false := by
  rw [sampleDatabase, Store.flag?_fill]
  rfl

/-- Two requests flip a todo and read it back, among a change of its title and its removal. -/
theorem completions_in_sampleDatabase :
    Reachable (sampleDatabase "Bread") ∧ (sampleDatabase "Bread").flag? 1 1 = some false ∧
      CompletionsReport (fun pool : Pool => pool.database.flag? 1 1)
        (fun pool todo => todo.id = 1 ∧ todo.userId = 1 ∧
          todo.row ∈ pool.database.rowsOf .todos) 1 1 false
        ((Run.start ([Errand.completeTodo 1 1, .completeTodo 1 1,
          .carryOut (.updateTodo 1 1 (some "Milk") none), .carryOut (.deleteTodo 1 1)].map
            Visitor.ofErrand) (Pool.of (sampleDatabase "Bread"))).follow
          (Visitor.step Pool.runner) ([0, 1, 0, 2, 0, 1, 1, 1, 3, 1].map (·, Moment.sample))) := by
  have reachable : Reachable (sampleDatabase "Bread") := reachable_sampleDatabase (by decide)
  exact ⟨reachable, flag?_sampleDatabase,
    completions_report_flag_as_read reachable flag?_sampleDatabase _ _⟩

/-- Two requests flip the flag of a todo of a store one after the other, before either of them reads
the todo back. Both are shown the flag as it was at the start. -/
theorem Visitor.follow_overlapping {s : Store} (valid : s.Valid) {userId todoId : Int}
    {initial : Bool} (present : s.flag? userId todoId = some initial) (moment : Moment) :
    ∃ (todo : Todo) (first : Turn Visitor Store),
      let run := (Run.start [ofErrand (.completeTodo userId todoId),
        ofErrand (.completeTodo userId todoId)] s).follow effect
          ([0, 0, 1, 1, 0, 1].map (·, moment))
      run.tasks = [completing userId todoId (.answered (.ok (.json 200 todo.toJson))),
        completing userId todoId (.answered (.ok (.json 200 todo.toJson)))] ∧
      run.flipsOf (·.flag? userId todoId) 0 = [first] ∧
      first.target.flag? userId todoId = some !initial ∧ todo.completed = initial := by
  have reads {s : Store} {seen : Bool} (found : s.flag? userId todoId = some seen) :
      effect moment (completing userId todoId (.toggling .reading)) s =
        (completing userId todoId (.toggling (.writing seen)), s) := by
    simp only [effect, Todos.Completing.effect, TodoServer.Todos.Toggle.effect, found]
  have writes {s : Store} {seen : Bool} (valid : s.Valid)
      (found : s.flag? userId todoId = some seen) :
      ∃ s', effect moment (completing userId todoId (.toggling (.writing seen))) s =
        (completing userId todoId .loading, s') ∧ s'.Valid ∧
        s'.flag? userId todoId = some !seen := by
    obtain ⟨s', changed, flip⟩ := Store.changeTodo_of_flag valid moment.now.text found
    refine ⟨s', ?_, valid.flip flip, (flip.flag? valid).2⟩
    simp only [effect, Todos.Completing.effect, TodoServer.Todos.Toggle.effect, found, if_true,
      changed]
    rfl
  obtain ⟨s₁, wrote, valid₁, found₁⟩ := writes valid present
  obtain ⟨s₂, wrote', valid₂, found₂⟩ := writes valid₁ found₁
  rw [Bool.not_not] at found₂
  obtain ⟨todo, stored, completed⟩ := Option.map_eq_some_iff.1 found₂
  have loads : effect moment (completing userId todoId .loading) s₂ =
      (completing userId todoId (.answered (.ok (.json 200 todo.toJson))), s₂) := by
    simp only [effect, Todos.Completing.effect, stored, Option.elim_some]
  refine ⟨todo, ⟨0, completing userId todoId (.toggling (.writing initial)),
    completing userId todoId .loading, s, s₁⟩, ?_, ?_, found₁, completed⟩
  · simp [Run.start, Run.follow, Run.advance, ofErrand, reads present, wrote, reads found₁, wrote',
      loads]
  · simp [Run.start, Run.follow, Run.advance, ofErrand, reads present, wrote, reads found₁, wrote',
      loads, Run.flipsOf, Run.turnsOf, Turn.flips, present, found₁]

/-- Of two such requests the first one completes the todo and is told that it is not completed. -/
theorem completion_of_other_reported :
    Reachable (sampleDatabase "Bread") ∧ (sampleDatabase "Bread").flag? 1 1 = some false ∧
      ∃ (todo : Todo) (first : Turn Visitor Pool),
        let run := (Run.start [Visitor.ofErrand (.completeTodo 1 1),
          Visitor.ofErrand (.completeTodo 1 1)] (Pool.of (sampleDatabase "Bread"))).follow
            (Visitor.step Pool.runner) ([0, 0, 1, 1, 0, 1].map (·, Moment.sample))
        run.tasks = [.completing 1 1 (.answered (.ok (.json 200 todo.toJson))),
          .completing 1 1 (.answered (.ok (.json 200 todo.toJson)))] ∧
        run.flipsOf (fun pool => pool.database.flag? 1 1) 0 = [first] ∧
        first.target.database.flag? 1 1 = some true ∧ todo.completed = false := by
  let rest := Migration.surroundings 0 Crypto.sha256Hex
  let requests := [Visitor.ofErrand (.completeTodo 1 1), Visitor.ofErrand (.completeTodo 1 1)]
  have valid : (Store.sample "Bread").Valid := Store.valid_sample (by decide)
  have shown (s : Store) : (s.pool rest).database.flag? 1 1 = s.flag? 1 1 :=
    Store.flag?_fill rest 1 1
  obtain ⟨todo, first, tasks, flipped, completed, reported⟩ :=
    @Visitor.follow_overlapping _ valid 1 1 false rfl Moment.sample
  refine ⟨reachable_sampleDatabase (by decide), flag?_sampleDatabase, todo,
    first.map (·.pool rest), ?_⟩
  intro run
  have onStore : run = Run.map (·.pool rest) ((Run.start requests (Store.sample "Bread")).follow
      Visitor.effect ([0, 0, 1, 1, 0, 1].map (·, Moment.sample))) :=
    Visitor.follow_pool rest (Run.start requests (Store.sample "Bread")) valid _
  rw [onStore]
  have seen := @Run.flipsOf_map Visitor Store Pool (·.pool rest)
    (fun pool => pool.database.flag? 1 1) _ shown
  refine ⟨tasks, ?_, (shown first.target).trans completed, reported⟩
  rw [seen, flipped]
  rfl

end Api

end TodoServer
