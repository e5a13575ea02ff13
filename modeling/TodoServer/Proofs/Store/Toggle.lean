import TodoServer.Proofs.Store.Run
import TodoServer.Proofs.Store.View

/-!
# Turns beside a todo that is toggled

A toggle reads the flag of its todo and writes the opposite if the flag still is what it read;
otherwise it starts again. What one turn of any caller does to the flag of a todo, and what a turn
keeps of the readings and writes of each caller that toggles it.
-/

namespace TodoServer

open Storage

/-! ## What turns do -/

namespace Turn

variable {τ σ : Type}

/-- Whether a turn changed the state. -/
def writes [DecidableEq σ] (turn : Turn τ σ) : Bool := turn.source ≠ turn.target

/-- Whether a toggle read the flag. -/
def reads (turn : Turn Task σ) : Bool :=
  match turn.before with
  | .toggle _ _ .reading => true
  | _ => false

/-- Whether a toggle went back from its write to reading. -/
def repeats (turn : Turn Task σ) : Bool :=
  match turn.before, turn.after with
  | .toggle _ _ (.writing _), .toggle _ _ .reading => true
  | _, _ => false

/-- Whether the write of a toggle of a todo landed. -/
def lands [DecidableEq σ] (userId todoId : Int) (turn : Turn Task σ) : Bool :=
  turn.before.operation = .toggle userId todoId && turn.writes

end Turn

/-! ## One turn beside a todo -/

/-- What a turn does to a task and a store, as far as the toggles of one todo go. -/
inductive Task.Moves (userId todoId : Int) (s : Store) : Task → Task → Store → Prop
  | sees (seen : Bool) : s.flag? userId todoId = some seen →
    Moves userId todoId s (.toggle userId todoId .reading) (.toggle userId todoId (.writing seen)) s
  | misses : s.flag? userId todoId = none →
    Moves userId todoId s (.toggle userId todoId .reading)
      (.toggle userId todoId (.done (.error (.notFound "todo" todoId)))) s
  | lands (seen : Bool) (s' : Store) : s.flag? userId todoId = some seen →
    s'.flag? userId todoId = some !seen →
    Moves userId todoId s (.toggle userId todoId (.writing seen))
      (.toggle userId todoId (.done (.ok !seen))) s'
  | returns (seen : Bool) : s.flag? userId todoId ≠ some seen →
    Moves userId todoId s (.toggle userId todoId (.writing seen)) (.toggle userId todoId .reading) s
  | rests (answer : Except ServiceError Bool) :
    Moves userId todoId s (.toggle userId todoId (.done answer))
      (.toggle userId todoId (.done answer)) s
  | other (task task' : Task) (s' : Store) : task.operation ≠ .toggle userId todoId →
    task'.operation ≠ .toggle userId todoId →
    s'.flag? userId todoId = s.flag? userId todoId ∨ s'.flag? userId todoId = none →
    Moves userId todoId s task task' s'

namespace Task

variable {s : Store} {userId todoId : Int}

theorem operation_effect (moment : Moment) (task : Task) (s : Store) :
    (task.effect moment s).1.operation = task.operation := by
  cases task with
  | toggle => rfl
  | single _ _ answer => cases answer <;> rfl

theorem eq_toggle {task : Task} (tracked : task.operation = .toggle userId todoId) :
    ∃ progress, task = .toggle userId todoId progress := by
  cases task with
  | toggle user todo progress =>
    cases tracked
    exact ⟨progress, rfl⟩
  | single operation plain =>
    rw [show operation = .toggle userId todoId from tracked] at plain
    cases plain

/-- A turn of a toggle of the todo. -/
theorem moves_toggle (valid : s.Valid) (moment : Moment) (progress : Todos.Toggle) :
    Moves userId todoId s (toggle userId todoId progress)
      ((toggle userId todoId progress).effect moment s).1
      ((toggle userId todoId progress).effect moment s).2 := by
  cases progress with
  | reading =>
    simp only [effect, Todos.Toggle.effect]
    cases seen : s.flag? userId todoId with
    | none => exact .misses seen
    | some seen' => exact .sees seen' seen
  | writing seen =>
    by_cases still : s.flag? userId todoId = some seen
    · obtain ⟨s', changed, flip⟩ := Store.changeTodo_of_flag valid moment.now.text still
      simp only [effect, Todos.Toggle.effect, still, if_true, changed]
      exact .lands seen s' still (flip.flag? valid).2
    · simp only [effect, Todos.Toggle.effect, still, if_false]
      exact .returns seen still
  | done answer => exact .rests answer

/-- A turn of any caller. -/
theorem moves (valid : s.Valid) (known : todoId ≤ s.lastTodo) (moment : Moment) (task : Task) :
    Moves userId todoId s task (task.effect moment s).1 (task.effect moment s).2 := by
  by_cases same : task.operation = .toggle userId todoId
  · obtain ⟨progress, rfl⟩ := eq_toggle same
    exact moves_toggle valid moment progress
  · have later : (task.effect moment s).1.operation ≠ .toggle userId todoId := by
      rw [operation_effect]
      exact same
    refine .other task _ _ same later ?_
    rcases effect_cases valid moment task with change | ⟨user, todo, seen, rfl, _, flip⟩
    · exact change.flag? valid known
    · refine .inl (flip.flag?_of_ne valid fun both => same ?_)
      obtain ⟨rfl, rfl⟩ := Prod.mk.inj both
      rfl

end Task

/-! ## What every turn keeps -/

/-- Whether a turn changed the flag of a todo or removed the todo. -/
def Turn.changes (userId todoId : Int) (turn : Turn Task Store) : Bool :=
  turn.source.flag? userId todoId ≠ turn.target.flag? userId todoId

/-- Whether a task is a toggle of a todo whose write has landed. -/
def Task.hasLanded (userId todoId : Int) : Task → Bool
  | toggle user todo (.done (.ok _)) => user = userId && todo = todoId
  | _ => false

/-- The turns of a caller. -/
def ownTurns (caller : Nat) (turns : List (Turn Task Store)) : List (Turn Task Store) :=
  turns.filter (·.caller = caller)

/-- What is known of a caller that toggles a todo, by how far the toggle has come. Before its write
lands, each reading but the first is paid for by a change of the flag since the one before it. -/
def CallKept (userId todoId : Int) (calls : Nat) (turns : List (Turn Task Store)) (s : Store)
    (caller : Nat) : Todos.Toggle → Prop
  | .reading =>
    (ownTurns caller turns).filter Turn.writes = [] ∧
      (ownTurns caller turns).countP Turn.reads ≤ turns.countP (Turn.changes userId todoId)
  | .writing seen =>
    (ownTurns caller turns).filter Turn.writes = [] ∧
      ∃ earlier read between, turns = earlier ++ read :: between ∧ read.caller = caller ∧
        read.reads = true ∧ (∀ turn ∈ between, turn.caller ≠ caller) ∧
        (ownTurns caller earlier).countP Turn.reads ≤ earlier.countP (Turn.changes userId todoId) ∧
        (s.flag? userId todoId = some seen ∨ ∃ turn ∈ between, turn.changes userId todoId = true)
  | .done answer =>
    (ownTurns caller turns).countP Turn.reads ≤ calls + 1 ∧
      ((∃ flag turn, answer = .ok flag ∧ (ownTurns caller turns).filter Turn.writes = [turn] ∧
          turn.source.flag? userId todoId = some !flag ∧
          turn.target.flag? userId todoId = some flag) ∨
        (answer = .error (.notFound "todo" todoId) ∧
          (ownTurns caller turns).filter Turn.writes = []))

section

variable {userId todoId : Int} {s s' : Store} {task task' : Task} {caller : Nat} {calls : Nat}
  {turns : List (Turn Task Store)}

theorem ownTurns_append (before after : List (Turn Task Store)) :
    ownTurns caller (before ++ after) = ownTurns caller before ++ ownTurns caller after :=
  List.filter_append before after

theorem ownTurns_eq_nil (others : ∀ turn ∈ turns, turn.caller ≠ caller) :
    ownTurns caller turns = [] :=
  List.filter_eq_nil_iff.2 fun turn mem => by simpa using others turn mem

/-- A toggle that has to write finds its flag as it was seen, or else the flag was changed since the
toggle read it. -/
theorem CallKept.reads_le {seen : Bool}
    (kept : CallKept userId todoId calls turns s caller (.writing seen)) :
    (ownTurns caller turns).countP Turn.reads +
        (if s.flag? userId todoId = some seen then 0 else 1) ≤
      turns.countP (Turn.changes userId todoId) + 1 := by
  obtain ⟨_, earlier, read, between, rfl, _, _, others, paid, still⟩ := kept
  have one : (ownTurns caller [read]).countP Turn.reads ≤ 1 :=
    List.countP_le_length.trans (List.length_filter_le _ _)
  have since : (if s.flag? userId todoId = some seen then 0 else 1) ≤
      between.countP (Turn.changes userId todoId) := by
    split
    · exact Nat.zero_le _
    · next stale => exact List.countP_pos_iff.2 (still.resolve_left stale)
  rw [← List.singleton_append, ← List.append_assoc, ownTurns_append, ownTurns_append,
    ownTurns_eq_nil others, List.append_nil, List.countP_append, List.countP_append,
    List.countP_append]
  omega

/-- The turn of another caller keeps what is known of a toggle. -/
theorem CallKept.other {progress : Todos.Toggle}
    (kept : CallKept userId todoId calls turns s caller progress) {turn : Turn Task Store}
    (source : turn.source = s) (apart : turn.caller ≠ caller) :
    CallKept userId todoId calls (turns ++ [turn]) turn.target caller progress := by
  have none : ownTurns caller [turn] = [] := ownTurns_eq_nil (by simpa using apart)
  have own : ownTurns caller (turns ++ [turn]) = ownTurns caller turns := by
    rw [ownTurns_append, none, List.append_nil]
  cases progress with
  | reading =>
    obtain ⟨unwritten, paid⟩ := kept
    refine ⟨own ▸ unwritten, ?_⟩
    rw [own, List.countP_append]
    omega
  | writing seen =>
    obtain ⟨unwritten, earlier, read, between, rfl, caller, reads, others, paid, still⟩ := kept
    refine ⟨own ▸ unwritten, earlier, read, between ++ [turn], by simp, caller, reads, ?_, paid, ?_⟩
    · intro x mem
      rcases List.mem_append.1 mem with old | new
      · exact others x old
      · rw [List.mem_singleton.1 new]
        exact apart
    · rcases still with same | ⟨x, mem, changed⟩
      · by_cases kept : turn.target.flag? userId todoId = some seen
        · exact .inl kept
        · refine .inr ⟨turn, by simp, decide_eq_true ?_⟩
          rw [source, same]
          exact fun eq => kept eq.symm
      · exact .inr ⟨x, List.mem_append_left _ mem, changed⟩
  | done answer =>
    obtain ⟨few, outcome⟩ := kept
    exact ⟨own ▸ few, own ▸ outcome⟩

/-- A turn of the toggle itself. -/
theorem CallKept.own {progress progress' : Todos.Toggle}
    (kept : CallKept userId todoId calls turns s caller progress)
    (few : (∀ answer, progress ≠ .done answer) → turns.countP (Turn.changes userId todoId) ≤ calls)
    (moves : Task.Moves userId todoId s (.toggle userId todoId progress)
      (.toggle userId todoId progress') s') :
    CallKept userId todoId calls
      (turns ++ [⟨caller, .toggle userId todoId progress, .toggle userId todoId progress', s, s'⟩])
      s' caller progress' := by
  have own (turn : Turn Task Store) (mine : turn.caller = caller) :
      ownTurns caller (turns ++ [turn]) = ownTurns caller turns ++ [turn] := by
    rw [ownTurns_append]
    simp [ownTurns, mine]
  have silent (turn : Turn Task Store) (same : turn.source = turn.target) :
      [turn].filter Turn.writes = [] := by simp [Turn.writes, same]
  cases moves with
  | sees seen found =>
    -- This reading is the one that a later write refers to. No change has to pay for it yet.
    obtain ⟨unwritten, paid⟩ := kept
    refine ⟨?_, turns, _, [], rfl, rfl, rfl, by simp, paid, .inl found⟩
    rw [own _ rfl, List.filter_append, unwritten, silent _ rfl, List.append_nil]
  | misses absent =>
    obtain ⟨unwritten, paid⟩ := kept
    have bound := few (by simp)
    refine ⟨?_, .inr ⟨rfl, ?_⟩⟩
    · rw [own _ rfl, List.countP_append]
      simp only [List.countP_singleton, Turn.reads, if_true]
      omega
    · rw [own _ rfl, List.filter_append, unwritten, silent _ rfl, List.append_nil]
  | lands seen s' before after =>
    have bound := few (by simp)
    have paid := kept.reads_le
    obtain ⟨unwritten, _⟩ := kept
    have wrote (turn : Turn Task Store) (source : turn.source = s) (target : turn.target = s') :
        [turn].filter Turn.writes = [turn] := by
      have differ : s ≠ s' := by
        rintro rfl
        rw [before] at after
        cases seen <;> cases after
      simp [Turn.writes, source, target, differ]
    refine ⟨?_, .inl ⟨!seen, ⟨caller, .toggle userId todoId (.writing seen),
      .toggle userId todoId (.done (.ok !seen)), s, s'⟩, rfl, ?_, ?_, after⟩⟩
    · rw [own _ rfl, List.countP_append]
      simp only [List.countP_singleton, Turn.reads, Bool.false_eq_true, if_false]
      omega
    · rw [own _ rfl, List.filter_append, unwritten, wrote _ rfl rfl, List.nil_append]
    · rw [before, Bool.not_not]
  | returns seen stale =>
    -- The flag is not what was seen, so a change since the last reading pays for it.
    have paid := kept.reads_le
    obtain ⟨unwritten, _⟩ := kept
    rw [if_neg stale] at paid
    refine ⟨?_, ?_⟩
    · rw [own _ rfl, List.filter_append, unwritten, silent _ rfl, List.append_nil]
    · rw [own _ rfl, List.countP_append, List.countP_append]
      simp only [List.countP_singleton, Turn.reads, Bool.false_eq_true, if_false]
      omega
  | rests answer =>
    obtain ⟨bound, outcome⟩ := kept
    refine ⟨?_, ?_⟩
    · rw [own _ rfl, List.countP_append]
      simp only [List.countP_singleton, Turn.reads, Bool.false_eq_true, if_false]
      omega
    · rw [own _ rfl, List.filter_append, silent _ rfl, List.append_nil]
      exact outcome
  | other _ _ _ different => exact absurd rfl different

end

/-! ## What a turn is to a flag -/

/-- A turn keeps the flag of a todo, flips it by the write of a toggle, or drops the todo. -/
inductive Turn.Touches (userId todoId : Int) (turn : Turn Task Store) : Prop
  | keeps : turn.source.flag? userId todoId = turn.target.flag? userId todoId →
    turn.lands userId todoId = false →
    turn.after.hasLanded userId todoId = turn.before.hasLanded userId todoId →
    Touches userId todoId turn
  | flips (seen : Bool) : turn.source.flag? userId todoId = some seen →
    turn.target.flag? userId todoId = some !seen → turn.lands userId todoId = true →
    turn.after.answer? = some (.ok (.completed !seen)) →
    turn.before.hasLanded userId todoId = false → turn.after.hasLanded userId todoId = true →
    Touches userId todoId turn
  | drops (seen : Bool) : turn.source.flag? userId todoId = some seen →
    turn.target.flag? userId todoId = none → turn.lands userId todoId = false →
    turn.after.hasLanded userId todoId = turn.before.hasLanded userId todoId →
    Touches userId todoId turn

section

variable {userId todoId : Int} {s s' : Store} {task task' : Task} {caller : Nat}

theorem Task.operation_of_hasLanded (landed : task.hasLanded userId todoId = true) :
    task.operation = .toggle userId todoId := by
  unfold hasLanded at landed
  split at landed
  · simp only [Bool.and_eq_true, decide_eq_true_eq] at landed
    obtain ⟨rfl, rfl⟩ := landed
    rfl
  · cases landed

theorem Task.not_hasLanded (different : task.operation ≠ .toggle userId todoId) :
    task.hasLanded userId todoId = false := by
  rw [← Bool.not_eq_true]
  exact fun landed => different (operation_of_hasLanded landed)

theorem Turn.not_lands_of_silent {turn : Turn Task Store} (silent : turn.source = turn.target) :
    turn.lands userId todoId = false := by
  simp [lands, writes, silent]

theorem Task.Moves.touches (moves : Moves userId todoId s task task' s') :
    Turn.Touches userId todoId ⟨caller, task, task', s, s'⟩ := by
  cases moves with
  | sees | misses | returns => exact .keeps rfl (Turn.not_lands_of_silent rfl) rfl
  | rests answer => exact .keeps rfl (Turn.not_lands_of_silent rfl) rfl
  | lands seen s' before after =>
    have differ : s ≠ s' := by
      rintro rfl
      rw [before] at after
      cases seen <;> cases after
    refine .flips seen before after ?_ rfl rfl ?_
    · simp [Turn.lands, Turn.writes, operation, differ]
    · simp [hasLanded]
  | other _ _ _ different later flag =>
    have apart : Turn.lands userId todoId ⟨caller, task, task', s, s'⟩ = false := by
      simp [Turn.lands, different]
    have same : task'.hasLanded userId todoId = task.hasLanded userId todoId := by
      rw [not_hasLanded different, not_hasLanded later]
    cases before : s.flag? userId todoId with
    | none =>
      refine .keeps ?_ apart same
      rcases flag with kept | gone
      · exact kept.symm
      · exact before.trans gone.symm
    | some seen =>
      rcases flag with kept | gone
      · exact .keeps kept.symm apart same
      · exact .drops seen before gone apart same

/-- A flag changes when a write of a toggle lands and when the todo goes. -/
theorem Turn.Touches.of_changes {turn : Turn Task Store} (touches : turn.Touches userId todoId)
    (changes : turn.changes userId todoId = true) :
    turn.lands userId todoId = true ∨
      ((turn.source.flag? userId todoId).isSome = true ∧
        turn.target.flag? userId todoId = none) := by
  cases touches with
  | keeps same => exact absurd same (of_decide_eq_true changes)
  | flips seen _ _ lands => exact .inl lands
  | drops seen before gone => exact .inr ⟨by rw [before]; rfl, gone⟩

end

end TodoServer
