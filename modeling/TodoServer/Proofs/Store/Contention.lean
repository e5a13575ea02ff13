import TodoServer.Proofs.Store.Reachable
import TodoServer.Proofs.Store.Toggle

/-!
# Toggles among other operations

However many callers toggle one todo, among any other operations and in any order: every toggle that
returns has landed one write, no write is lost, and a toggle starts again only after the flip of
another one or after the todo is gone. As each change of the flag is the write of a toggle that has
landed, or the one that removes the todo, no toggle starts again more often than there are toggles.
-/

namespace TodoServer

open Storage

/-! ## What holds of a run -/

namespace Run

variable {σ : Type} [DecidableEq σ]

/-- The turns in which writes of toggles of a todo landed. -/
def landed (userId todoId : Int) (run : Run Task σ) : List (Turn Task σ) :=
  run.turns.filter (Turn.lands userId todoId)

/-- What holds of all toggles of one todo, when the flag was `initial` at the start and so many
callers toggle it. `view` shows the flag in a state. -/
structure TogglesKept (view : σ → Option Bool) (userId todoId : Int) (initial : Bool) (calls : Nat)
    (run : Run Task σ) : Prop where
  /-- The flag was flipped once for each write that landed. -/
  flag : ∀ now, view run.state = some now →
    now = Nat.iterate Bool.not (run.landed userId todoId).length initial
  /-- The same in each state on the way. -/
  flags : ∀ front turn back, run.turns = front ++ turn :: back → ∀ now,
    view turn.source = some now →
    now = Nat.iterate Bool.not (front.filter (Turn.lands userId todoId)).length initial
  /-- The answers alternate in the order in which the writes landed. -/
  returned : (run.landed userId todoId).map (·.after.answer?) =
    (List.range (run.landed userId todoId).length).map fun i =>
      some (.ok (.completed (Nat.iterate Bool.not (i + 1) initial)))
  /-- A toggle that returned a flag landed one write, from the opposite to that flag. A toggle that
  found no todo wrote nothing. -/
  answered : ∀ caller task answer, run.tasks[caller]? = some task →
    task.operation = .toggle userId todoId → task.answer? = some answer →
    (∃ flag turn, answer = .ok (.completed flag) ∧
      (run.turnsOf caller).filter Turn.writes = [turn] ∧
      view turn.source = some !flag ∧ view turn.target = some flag) ∨
    (answer = .error (.notFound "todo" todoId) ∧ (run.turnsOf caller).filter Turn.writes = [])
  /-- A toggle that has no answer wrote nothing so far. -/
  waiting : ∀ caller task, run.tasks[caller]? = some task →
    task.operation = .toggle userId todoId → task.answer? = none →
    (run.turnsOf caller).filter Turn.writes = []
  /-- A toggle starts again only if another one landed, or the todo went, since it read. -/
  repeated : ∀ front write back, run.turns = front ++ write :: back →
    write.before.operation = .toggle userId todoId → write.repeats = true →
    ∃ earlier read between, front = earlier ++ read :: between ∧
      read.caller = write.caller ∧ read.reads = true ∧
      (∀ turn ∈ between, turn.caller ≠ write.caller) ∧
      ((∃ turn ∈ between, turn.lands userId todoId = true) ∨
        ∃ turn ∈ between, (view turn.source).isSome = true ∧ view turn.target = none)
  /-- No toggle reads more often than once for each toggle and once more. -/
  reads : ∀ caller task, run.tasks[caller]? = some task →
    task.operation = .toggle userId todoId →
    (run.turnsOf caller).countP Turn.reads ≤ calls + 1

end Run

/-! ## Runs -/

section

variable {α : Type} {p : α → Bool} {xs : List α} {i : Nat} {x y : α}

theorem countP_set_of_same (found : xs[i]? = some x) (same : p y = p x) :
    (xs.set i y).countP p = xs.countP p := by
  obtain ⟨bound, rfl⟩ := List.getElem?_eq_some_iff.1 found
  rw [List.countP_set bound, same]
  split
  · next holds =>
    have some := List.countP_pos_iff.2 ⟨xs[i], List.getElem_mem bound, holds⟩
    omega
  · rfl

theorem countP_set_of_new (found : xs[i]? = some x) (before : p x = false) (after : p y = true) :
    (xs.set i y).countP p = xs.countP p + 1 := by
  obtain ⟨bound, rfl⟩ := List.getElem?_eq_some_iff.1 found
  rw [List.countP_set bound, before, after]
  rfl

end

namespace Run

/-- What the turns taken so far keep for the toggles of one todo. Each change of the flag belongs to
a toggle that has landed, apart from one that drops the todo. -/
structure TogglesPaid (userId todoId : Int) (initial : Bool) (calls : Nat)
    (run : Run Task Store) : Prop where
  valid : run.state.Valid
  known : todoId ≤ run.state.lastTodo
  count : run.tasks.countP (·.operation = .toggle userId todoId) = calls
  touches : ∀ turn ∈ run.turns, turn.Touches userId todoId
  flag : ∀ now, run.state.flag? userId todoId = some now →
    now = Nat.iterate Bool.not (run.landed userId todoId).length initial
  flags : ∀ front turn back, run.turns = front ++ turn :: back → ∀ now,
    turn.source.flag? userId todoId = some now →
    now = Nat.iterate Bool.not (front.filter (Turn.lands userId todoId)).length initial
  paid : run.turns.countP (Turn.changes userId todoId) ≤
    run.tasks.countP (Task.hasLanded userId todoId) +
      if run.state.flag? userId todoId = none then 1 else 0
  returned : (run.landed userId todoId).map (·.after.answer?) =
    (List.range (run.landed userId todoId).length).map fun i =>
      some (.ok (.completed (Nat.iterate Bool.not (i + 1) initial)))
  callers : ∀ caller progress, run.tasks[caller]? = some (.toggle userId todoId progress) →
    CallKept userId todoId calls run.turns run.state caller progress
  repeated : ∀ front write back, run.turns = front ++ write :: back →
    write.before.operation = .toggle userId todoId → write.repeats = true →
    ∃ earlier read between, front = earlier ++ read :: between ∧
      read.caller = write.caller ∧ read.reads = true ∧
      (∀ turn ∈ between, turn.caller ≠ write.caller) ∧
      ∃ turn ∈ between, turn.changes userId todoId = true

namespace TogglesPaid

variable {userId todoId : Int} {initial : Bool} {calls : Nat} {run : Run Task Store}
  {tasks : List Task} {s : Store} {turn : Turn Task Store}

theorem landed_of_silent (silent : turn.lands userId todoId = false) :
    landed userId todoId ⟨tasks, s, run.turns ++ [turn]⟩ = run.landed userId todoId := by
  rw [landed, List.filter_append, List.filter_singleton, silent]
  exact List.append_nil _

theorem landed_of_lands (lands : turn.lands userId todoId = true) :
    landed userId todoId ⟨tasks, s, run.turns ++ [turn]⟩ = run.landed userId todoId ++ [turn] := by
  rw [landed, List.filter_append, List.filter_singleton, lands]
  rfl

theorem start {s : Store} (valid : s.Valid) (present : s.flag? userId todoId = some initial)
    (operations : List Operation) :
    (Run.start (operations.map Task.ofOperation) s).TogglesPaid userId todoId initial
      (operations.count (.toggle userId todoId)) := by
  refine ⟨valid, ?_, ?_, by simp [Run.start], ?_, ?_, Nat.zero_le _, rfl, ?_, ?_⟩
  · obtain ⟨t, found, _⟩ := Option.map_eq_some_iff.1 present
    obtain ⟨held, rfl, _⟩ := Store.mem_of_todo? found
    exact valid.todoIds.le_last _ (List.mem_map_of_mem held)
  · rw [Run.start, List.countP_map, List.count]
    refine List.countP_congr fun operation _ => ?_
    simp [Task.operation_ofOperation]
  · intro now same
    exact Option.some_inj.1 (same.symm.trans present)
  · intro front turn back turns
    cases front <;> cases turns
  · intro caller progress found
    rw [Run.start, List.getElem?_map] at found
    obtain ⟨operation, _, task⟩ := Option.map_eq_some_iff.1 found
    cases operation <;> cases task
    exact ⟨rfl, Nat.zero_le _⟩
  · intro front write back turns
    cases front <;> cases turns

/-- Beside a toggle that has not landed, the flag was changed no more often than there are
toggles. -/
theorem few (inv : run.TogglesPaid userId todoId initial calls) {caller : Nat} {task : Task}
    (found : run.tasks[caller]? = some task) (same : task.operation = .toggle userId todoId)
    (ahead : task.hasLanded userId todoId = false) :
    run.turns.countP (Turn.changes userId todoId) ≤ calls := by
  -- Once this toggle has landed, too, there are no more toggles that have than there are toggles.
  let landed : Task := .toggle userId todoId (.done (.ok true))
  have more : (run.tasks.set caller landed).countP (Task.hasLanded userId todoId) =
      run.tasks.countP (Task.hasLanded userId todoId) + 1 :=
    countP_set_of_new found ahead (by simp [landed, Task.hasLanded])
  have all : (run.tasks.set caller landed).countP (·.operation = .toggle userId todoId) =
      run.tasks.countP (·.operation = .toggle userId todoId) :=
    countP_set_of_same found (by rw [same]; rfl)
  have within : (run.tasks.set caller landed).countP (Task.hasLanded userId todoId) ≤
      (run.tasks.set caller landed).countP (·.operation = .toggle userId todoId) :=
    List.countP_mono_left fun task _ landed => decide_eq_true (Task.operation_of_hasLanded landed)
  have paid := inv.paid
  rw [more, all, inv.count] at within
  have last : (if run.state.flag? userId todoId = none then 1 else 0) ≤ 1 := by split <;> omega
  omega

section

variable {caller : Nat} {task task' : Task} {s' : Store}
  (inv : run.TogglesPaid userId todoId initial calls)

include inv

theorem callers_step (found : run.tasks[caller]? = some task)
    (moves : Task.Moves userId todoId run.state task task' s') (other : Nat)
    (progress : Todos.Toggle)
    (later : (run.tasks.set caller task')[other]? = some (.toggle userId todoId progress)) :
    CallKept userId todoId calls (run.turns ++ [⟨caller, task, task', run.state, s'⟩]) s' other
      progress := by
  by_cases self : caller = other
  · subst self
    obtain ⟨bound, _⟩ := List.getElem?_eq_some_iff.1 found
    rw [List.getElem?_set_self bound, Option.some_inj] at later
    subst later
    have tracked : task.operation = .toggle userId todoId := by
      cases moves with
      | other _ _ _ _ different => exact absurd rfl different
      | _ => rfl
    obtain ⟨before, rfl⟩ := Task.eq_toggle tracked
    refine CallKept.own (inv.callers caller before found) (fun ahead => ?_) moves
    refine inv.few found rfl ?_
    cases before with
    | done answer => exact absurd rfl (ahead answer)
    | _ => rfl
  · rw [List.getElem?_set_ne self] at later
    exact (inv.callers other progress later).other rfl self

theorem repeated_step (found : run.tasks[caller]? = some task)
    (moves : Task.Moves userId todoId run.state task task' s')
    (tracked : task.operation = .toggle userId todoId)
    (again : Turn.repeats ⟨caller, task, task', run.state, s'⟩ = true) :
    ∃ earlier read between, run.turns = earlier ++ read :: between ∧
      read.caller = caller ∧ read.reads = true ∧ (∀ turn ∈ between, turn.caller ≠ caller) ∧
      ∃ turn ∈ between, turn.changes userId todoId = true := by
  cases moves with
  | returns seen stale =>
    obtain ⟨_, earlier, read, between, turns, own, reads, others, _, still⟩ :=
      inv.callers caller (.writing seen) found
    exact ⟨earlier, read, between, turns, own, reads, others, still.resolve_left stale⟩
  | other _ _ _ different => exact absurd tracked different
  | _ => cases again

theorem flag_step (touches : Turn.Touches userId todoId ⟨caller, task, task', run.state, s'⟩)
    (now : Bool) (flag : s'.flag? userId todoId = some now) :
    now = Nat.iterate Bool.not (landed userId todoId
      ⟨run.tasks.set caller task', s', run.turns ++ [⟨caller, task, task', run.state, s'⟩]⟩).length
      initial := by
  cases touches with
  | keeps same silent =>
    rw [landed_of_silent silent]
    exact inv.flag now (same.trans flag)
  | flips seen before after lands =>
    have flipped : now = !seen := Option.some_inj.1 (flag.symm.trans after)
    rw [landed_of_lands lands, List.length_append, List.length_singleton,
      Function.iterate_succ_apply', ← inv.flag seen before]
    exact flipped
  | drops seen before gone => exact absurd (flag.symm.trans gone) (Option.some_ne_none now)

theorem returned_step
    (touches : Turn.Touches userId todoId ⟨caller, task, task', run.state, s'⟩) :
    (landed userId todoId ⟨run.tasks.set caller task', s',
      run.turns ++ [⟨caller, task, task', run.state, s'⟩]⟩).map (·.after.answer?) =
      (List.range (landed userId todoId ⟨run.tasks.set caller task', s',
        run.turns ++ [⟨caller, task, task', run.state, s'⟩]⟩).length).map fun i =>
          some (.ok (.completed (Nat.iterate Bool.not (i + 1) initial))) := by
  cases touches with
  | keeps _ silent | drops _ _ _ silent =>
    rw [landed_of_silent silent]
    exact inv.returned
  | flips seen before after lands answer =>
    rw [landed_of_lands lands, List.length_append, List.length_singleton, List.range_succ,
      List.map_append, List.map_append, inv.returned, List.map_singleton, List.map_singleton,
      Function.iterate_succ_apply', ← inv.flag seen before, answer]

theorem paid_step (found : run.tasks[caller]? = some task)
    (touches : Turn.Touches userId todoId ⟨caller, task, task', run.state, s'⟩) :
    (run.turns ++ [(⟨caller, task, task', run.state, s'⟩ : Turn Task Store)]).countP
        (Turn.changes userId todoId) ≤
      (run.tasks.set caller task').countP (Task.hasLanded userId todoId) +
        if s'.flag? userId todoId = none then 1 else 0 := by
  have earlier := inv.paid
  rw [List.countP_append, List.countP_singleton]
  cases touches with
  | keeps same _ landed =>
    have kept : run.state.flag? userId todoId = s'.flag? userId todoId := same
    have silent : Turn.changes userId todoId ⟨caller, task, task', run.state, s'⟩ = false :=
      decide_eq_false (not_not_intro same)
    rw [countP_set_of_same found landed, silent, ← kept]
    exact earlier
  | flips seen before after _ _ ahead landed =>
    -- The toggle that landed pays for the change.
    have held : run.state.flag? userId todoId ≠ none := fun absent => by
      cases before.symm.trans absent
    rw [if_neg held] at earlier
    rw [countP_set_of_new found ahead landed]
    split <;> omega
  | drops seen before gone _ landed =>
    -- The todo is gone for good, so this is the one change that no toggle pays for.
    have held : run.state.flag? userId todoId ≠ none := fun absent => by
      cases before.symm.trans absent
    have absent : s'.flag? userId todoId = none := gone
    rw [if_neg held] at earlier
    rw [countP_set_of_same found landed, if_pos absent]
    split <;> omega

/-- One turn keeps what is kept for the toggles. -/
theorem step (found : run.tasks[caller]? = some task)
    (moves : Task.Moves userId todoId run.state task task' s') (valid : s'.Valid)
    (follows : run.state.Follows s') (same : task'.operation = task.operation) :
    TogglesPaid userId todoId initial calls ⟨run.tasks.set caller task', s',
      run.turns ++ [⟨caller, task, task', run.state, s'⟩]⟩ := by
  have touches : Turn.Touches userId todoId ⟨caller, task, task', run.state, s'⟩ := moves.touches
  refine ⟨valid, Int.le_trans inv.known follows.lastTodo, ?_, ?_, ?_, ?_, ?_, ?_,
    inv.callers_step found moves, ?_⟩
  · rw [countP_set_of_same found (by rw [same])]
    exact inv.count
  · intro turn mem
    rcases List.mem_append.1 mem with old | new
    · exact inv.touches turn old
    · rw [List.mem_singleton.1 new]
      exact touches
  · exact inv.flag_step touches
  · intro front turn back turns
    obtain ⟨rfl, rfl⟩ | ⟨others, turns⟩ := eq_or_eq_of_append_singleton turns
    · exact inv.flag
    · exact inv.flags front turn others turns
  · exact inv.paid_step found touches
  · exact inv.returned_step touches
  · intro front write back turns tracked again
    obtain ⟨rfl, rfl⟩ | ⟨others, turns⟩ := eq_or_eq_of_append_singleton turns
    · exact inv.repeated_step found moves tracked again
    · exact inv.repeated front write others turns tracked again

end

/-- What turns keep says all that holds of the toggles. -/
theorem kept (inv : run.TogglesPaid userId todoId initial calls) :
    run.TogglesKept (·.flag? userId todoId) userId todoId initial calls := by
  have toggling {caller : Nat} {task : Task} (found : run.tasks[caller]? = some task)
      (tracked : task.operation = .toggle userId todoId) :
      ∃ progress, task = .toggle userId todoId progress ∧
        CallKept userId todoId calls run.turns run.state caller progress := by
    obtain ⟨progress, rfl⟩ := Task.eq_toggle tracked
    exact ⟨progress, rfl, inv.callers caller progress found⟩
  refine ⟨inv.flag, inv.flags, inv.returned, ?_, ?_, ?_, ?_⟩
  · intro caller task answer found tracked answered
    obtain ⟨progress, rfl, known⟩ := toggling found tracked
    cases progress with
    | reading | writing => cases answered
    | done outcome =>
      cases answered
      obtain ⟨_, ⟨flag, turn, rfl, wrote, before, after⟩ | ⟨rfl, silent⟩⟩ := known
      · exact .inl ⟨flag, turn, rfl, wrote, before, after⟩
      · exact .inr ⟨rfl, silent⟩
  · intro caller task found tracked open'
    obtain ⟨progress, rfl, known⟩ := toggling found tracked
    cases progress with
    | reading | writing => exact known.1
    | done => cases open'
  · intro front write back turns tracked again
    obtain ⟨earlier, read, between, rfl, own, reads, others, turn, mem, changes⟩ :=
      inv.repeated front write back turns tracked again
    refine ⟨earlier, read, between, rfl, own, reads, others, ?_⟩
    have taken : turn ∈ run.turns := by
      rw [turns]
      simp [mem]
    rcases (inv.touches turn taken).of_changes changes with lands | gone
    · exact .inl ⟨turn, mem, lands⟩
    · exact .inr ⟨turn, mem, gone⟩
  · intro caller task found tracked
    obtain ⟨progress, rfl, known⟩ := toggling found tracked
    cases progress with
    | reading =>
      have few := inv.few found rfl rfl
      exact Nat.le_succ_of_le (known.2.trans few)
    | writing seen =>
      have few := inv.few found rfl rfl
      have paid := known.reads_le
      change (ownTurns caller run.turns).countP Turn.reads ≤ calls + 1
      omega
    | done => exact known.1

end TogglesPaid

/-- What holds of all toggles of a run holds of the run seen through a function that tells states
apart and shows the same flags. -/
theorem TogglesKept.map {σ ρ : Type} [DecidableEq σ] [DecidableEq ρ] {f : σ → ρ}
    (apart : Function.Injective f) {shown : ρ → Option Bool} {view : σ → Option Bool}
    (same : ∀ s, shown (f s) = view s) {userId todoId : Int} {initial : Bool} {calls : Nat}
    {run : Run Task σ} (kept : run.TogglesKept view userId todoId initial calls) :
    (run.map f).TogglesKept shown userId todoId initial calls := by
  have writes (turn : Turn Task σ) : (turn.map f).writes = turn.writes := by
    simp only [Turn.writes, Turn.map, ne_eq, apart.eq_iff]
  have lands (turn : Turn Task σ) :
      (turn.map f).lands userId todoId = turn.lands userId todoId := by
    rw [Turn.lands, writes]
    rfl
  have landing (turns : List (Turn Task σ)) :
      (turns.map (Turn.map f)).filter (Turn.lands userId todoId) =
        (turns.filter (Turn.lands userId todoId)).map (Turn.map f) := by
    rw [List.filter_map]
    exact congrArg (List.map (Turn.map f)) (List.filter_congr fun turn _ => lands turn)
  have landed : (run.map f).landed userId todoId = (run.landed userId todoId).map (Turn.map f) :=
    landing run.turns
  have wrote (caller : Nat) : ((run.map f).turnsOf caller).filter Turn.writes =
      ((run.turnsOf caller).filter Turn.writes).map (Turn.map f) := by
    rw [turnsOf_map, List.filter_map]
    exact congrArg (List.map (Turn.map f)) (List.filter_congr fun turn _ => writes turn)
  refine ⟨?_, ?_, ?_, ?_, ?_, ?_, ?_⟩
  · intro now flag
    rw [landed, List.length_map]
    exact kept.flag now ((same run.state).symm.trans flag)
  · intro front turn back turns now flag
    obtain ⟨front, others, parts, rfl, rest⟩ := List.map_eq_append_iff.1 turns
    obtain ⟨turn, back, rfl, rfl, rfl⟩ := List.map_eq_cons_iff.1 rest
    rw [landing, List.length_map]
    exact kept.flags front turn back parts now ((same turn.source).symm.trans flag)
  · rw [landed, List.length_map, List.map_map]
    exact kept.returned
  · intro caller task answer found tracked answered
    rw [wrote]
    rcases kept.answered caller task answer found tracked answered with
      ⟨flag, turn, returned, single, before, after⟩ | ⟨returned, silent⟩
    · refine .inl ⟨flag, turn.map f, returned, by rw [single]; rfl, ?_, ?_⟩
      · exact (same turn.source).trans before
      · exact (same turn.target).trans after
    · exact .inr ⟨returned, by rw [silent]; rfl⟩
  · intro caller task found tracked waits
    rw [wrote, kept.waiting caller task found tracked waits]
    rfl
  · intro front write back turns tracked again
    obtain ⟨front, others, parts, rfl, rest⟩ := List.map_eq_append_iff.1 turns
    obtain ⟨write, back, rfl, rfl, rfl⟩ := List.map_eq_cons_iff.1 rest
    obtain ⟨earlier, read, between, rfl, mine, reads, others, changed⟩ :=
      kept.repeated front write back parts tracked again
    refine ⟨earlier.map (Turn.map f), read.map f, between.map (Turn.map f), by simp, mine, reads,
      ?_, ?_⟩
    · intro turn mem
      obtain ⟨turn, held, rfl⟩ := List.mem_map.1 mem
      exact others turn held
    · rcases changed with ⟨turn, held, landed⟩ | ⟨turn, held, before, after⟩
      · exact .inl ⟨turn.map f, List.mem_map_of_mem held, (lands turn).trans landed⟩
      · refine .inr ⟨turn.map f, List.mem_map_of_mem held, ?_, (same turn.target).trans after⟩
        rw [← before]
        exact congrArg Option.isSome (same turn.source)
  · intro caller task found tracked
    rw [turnsOf_map, List.countP_map]
    exact kept.reads caller task found tracked

/-- A schedule on a store keeps what is kept for the toggles of a todo of the store. -/
theorem follow_paid {s : Store} (valid : s.Valid) {userId todoId : Int} {initial : Bool}
    (present : s.flag? userId todoId = some initial) (operations : List Operation)
    (schedule : List (Nat × Moment)) :
    ((Run.start (operations.map Task.ofOperation) s).follow Task.effect schedule).TogglesPaid
      userId todoId initial (operations.count (.toggle userId todoId)) := by
  refine follow_induction schedule (.start valid present operations) ?_
  intro run caller task moment found inv
  exact inv.step found (Task.moves inv.valid inv.known moment task)
    (Task.effect_valid inv.valid moment task) (Task.effect_follows inv.valid moment task)
    (Task.operation_effect moment task run.state)

end Run

/-! ## Toggles of a reachable database -/

/-- No toggle is lost. However many callers toggle a todo of theirs in a reachable database, among
any other operations and in any order, each toggle that returns a flag has landed one write, the
flag is flipped once for each of these, and no toggle reads more often than once for each of them
and once more. -/
theorem no_toggle_lost {db : Database} (reachable : Reachable db) {userId todoId : Int}
    {initial : Bool} (present : db.flag? userId todoId = some initial)
    (operations : List Operation) (schedule : List (Nat × Moment)) :
    ((Run.start (operations.map Task.ofOperation) (Pool.of db)).follow (Task.step Pool.runner)
      schedule).TogglesKept (fun pool => pool.database.flag? userId todoId) userId todoId initial
        (operations.count (.toggle userId todoId)) := by
  obtain ⟨s, rest, valid, rfl⟩ := reachable.filled
  rw [Store.flag?_fill] at present
  have onStore :=
    Run.follow_pool rest (Run.start (operations.map Task.ofOperation) s) valid schedule
  have kept := (Run.follow_paid valid present operations schedule).kept
  change ((Run.map (·.pool rest) (Run.start (operations.map Task.ofOperation) s)).follow
    (Task.step Pool.runner) schedule).TogglesKept _ userId todoId initial _
  rw [onStore]
  exact kept.map (fun _ _ => Store.pool_inj rest) fun s => Store.flag?_fill rest userId todoId

/-- Two callers toggle a todo and both read before the first of them writes; a third one then
deletes the todo. -/
theorem two_toggles_kept :
    Reachable (sampleDatabase "Bread") ∧ (sampleDatabase "Bread").flag? 1 1 = some false ∧
      ((Run.start ([Operation.toggle 1 1, .toggle 1 1, .deleteTodo 1 1].map Task.ofOperation)
        (Pool.of (sampleDatabase "Bread"))).follow (Task.step Pool.runner)
          ([0, 1, 1, 0, 0, 2, 0].map (·, Moment.sample))).TogglesKept
        (fun pool => pool.database.flag? 1 1) 1 1 false 2 := by
  have reachable : Reachable (sampleDatabase "Bread") :=
    reachable_sampleDatabase (by decide +kernel)
  have present : (sampleDatabase "Bread").flag? 1 1 = some false := by
    rw [sampleDatabase, Store.flag?_fill]
    rfl
  have calls : [Operation.toggle 1 1, .toggle 1 1, .deleteTodo 1 1].count (.toggle 1 1) = 2 := by
    decide
  refine ⟨reachable, present, ?_⟩
  rw [← calls]
  exact no_toggle_lost reachable present _ _

end TodoServer
