import TodoServer.Program.Shutdown
import TodoServer.Proofs.Service.Failing

/-!
# Shutting down is final

The signal stays given once it is given, for those who asked for it before and for those who ask
later. Each task is awaited once, by the first shutdown after it was registered. Once a shutdown has
returned, the pool stays closed: operations fail without changing anything, and a further shutdown
only awaits the tasks that were registered since.
-/

namespace TodoServer.Program

theorem Watch.send_flag (w : Watch) : w.send w.flag = w := by
  rw [send]
  split <;> rfl

namespace Shutdown

namespace Call

/-- Whether a call gives the signal. -/
def signals : Call → Bool
  | trigger | shutdown => true
  | _ => false

/-- Whether a call is a wait for the signal. -/
def waits : Call → Bool
  | wait => true
  | _ => false

/-- The task that a call registers. -/
def registered? : Call → Option Nat
  | register task => some task
  | _ => none

end Call

theorem after_append (s : Shutdown) (calls later : List Call) :
    s.after (calls ++ later) = (s.after calls).after later :=
  List.foldl_append

/-! ## The signal and the tasks -/

/-- What some calls leave of the signal and the tasks. -/
structure Left (calls : List Call) (s : Shutdown) : Prop where
  received : s.signal.receivers ≠ 0
  signal : s.signal.flag = calls.any Call.signals
  waits : s.waits = List.replicate (calls.countP Call.waits) (calls.any Call.signals)
  tasks : s.awaited ++ s.tasks = calls.filterMap Call.registered?
  abandoned : s.abandoned = []

theorem left_of (pool : Storage.Pool) : Left [] (of pool) :=
  ⟨Nat.one_ne_zero, rfl, rfl, rfl, rfl⟩

variable {s s' : Shutdown} {calls : List Call}

/-- After a call that does not give the signal. -/
theorem Left.of_quiet (left : Left calls s) {call : Call} (quiet : call.signals = false)
    (received : s'.signal.receivers ≠ 0) (signal : s'.signal.flag = s.signal.flag)
    (waits : s'.waits = s.waits ++ List.replicate (List.countP Call.waits [call]) s.signal.flag)
    (tasks : s'.awaited ++ s'.tasks = s.awaited ++ s.tasks ++ [call].filterMap Call.registered?)
    (abandoned : s'.abandoned = s.abandoned) : Left (calls ++ [call]) s' where
  received := received
  signal := by simp [signal, left.signal, quiet]
  waits := by
    rw [waits, left.waits, left.signal, List.replicate_append_replicate, ← List.countP_append]
    simp [quiet]
  tasks := by
    rw [tasks, left.tasks, List.filterMap_append]
  abandoned := abandoned.trans left.abandoned

theorem flag_trigger (received : s.signal.receivers ≠ 0) : s.trigger.signal.flag = true := by
  simp [trigger, Watch.send, received]

theorem receivers_trigger (s : Shutdown) : s.trigger.signal.receivers = s.signal.receivers := by
  simp only [trigger, Watch.send]
  split <;> rfl

theorem waits_trigger (received : s.signal.receivers ≠ 0) :
    s.trigger.waits = List.replicate s.waits.length true := by
  simp [trigger, Watch.send, received, List.map_const']

/-- After a call that gives the signal. -/
theorem Left.of_signal (left : Left calls s) {call : Call} (loud : call.signals = true)
    (signal : s'.signal = s.trigger.signal) (waits : s'.waits = s.trigger.waits)
    (tasks : s'.awaited ++ s'.tasks = s.awaited ++ s.tasks) (abandoned : s'.abandoned = []) :
    Left (calls ++ [call]) s' where
  received := by
    rw [signal, receivers_trigger]
    exact left.received
  signal := by simp [signal, flag_trigger left.received, loud]
  waits := by
    rw [waits, waits_trigger left.received, left.waits, List.length_replicate]
    cases call with
    | trigger | shutdown => simp [Call.signals, Call.waits]
    | _ => cases loud
  tasks := by
    rw [tasks, left.tasks]
    cases call with
    | trigger | shutdown => simp [Call.registered?]
    | _ => cases loud
  abandoned := abandoned

/-- No task is given up: the signal has been given before. -/
theorem shutdown_eq (received : s.signal.receivers ≠ 0) : s.shutdown =
    { s.trigger with tasks := [], awaited := s.awaited ++ s.tasks, pool := s.pool.close } := by
  rw [shutdown, join, flag_trigger received]
  rfl

/-- Each call carries on with what the calls before it left. -/
theorem Left.step (left : Left calls s) (call : Call) : Left (calls ++ [call]) (s.step call).2 := by
  have kept : s.waits = s.waits ++ [] := (List.append_nil _).symm
  have sameTasks : s.awaited ++ s.tasks = s.awaited ++ s.tasks ++ [] := (List.append_nil _).symm
  cases call with
  | subscribe => exact left.of_quiet rfl (Nat.succ_ne_zero _) rfl kept sameTasks rfl
  | register task =>
    exact left.of_quiet rfl left.received rfl kept (List.append_assoc _ _ _).symm rfl
  | trigger => exact left.of_signal rfl rfl rfl rfl left.abandoned
  | wait => exact left.of_quiet rfl (Nat.succ_ne_zero _) rfl rfl sameTasks rfl
  | shutdown =>
    rw [Shutdown.step, shutdown_eq left.received]
    exact left.of_signal rfl rfl rfl (List.append_nil _) left.abandoned
  | operate moment operation => exact left.of_quiet rfl left.received rfl kept sameTasks rfl

theorem Left.after (left : Left calls s) (later : List Call) :
    Left (calls ++ later) (s.after later) := by
  induction later generalizing s calls with
  | nil => rwa [List.append_nil]
  | cons call later ih =>
    rw [List.append_cons]
    exact ih (left.step call)

/-! ## Each task is awaited once -/

theorem awaited_step (s : Shutdown) {call : Call} (other : call ≠ .shutdown) :
    (s.step call).2.awaited = s.awaited := by
  cases call with
  | shutdown => exact absurd rfl other
  | _ => rfl

/-- Only a shutdown awaits tasks. -/
theorem awaited_after (s : Shutdown) (later : List Call) (none : .shutdown ∉ later) :
    (s.after later).awaited = s.awaited := by
  induction later generalizing s with
  | nil => rfl
  | cons call later ih =>
    rw [List.mem_cons, not_or] at none
    exact (ih _ none.2).trans (s.awaited_step (Ne.symm none.1))

/-- After a shutdown, and until the next one, those tasks are awaited that were registered before
it. -/
theorem Left.awaited_last (left : Left calls s) {later : List Call} (last : .shutdown ∉ later) :
    ((s.step .shutdown).2.after later).awaited = calls.filterMap Call.registered? := by
  rw [awaited_after _ later last, Shutdown.step, shutdown_eq left.received]
  exact left.tasks

/-! ## The pool -/

/-- The signal was heard by everybody and the pool is closed. -/
structure Closed (s : Shutdown) : Prop where
  pool : s.pool.isOpen = false
  received : s.signal.receivers ≠ 0
  signal : s.signal.flag = true
  waits : s.waits = List.replicate s.waits.length true

theorem Closed.trigger (closed : Closed s) : s.trigger = s := by
  have given : s.signal.send true = s.signal :=
    calc s.signal.send true
      _ = s.signal.send s.signal.flag := by rw [closed.signal]
      _ = s.signal := s.signal.send_flag
  have heard : s.trigger.waits = s.waits := (waits_trigger closed.received).trans closed.waits.symm
  calc s.trigger
    _ = { s with signal := s.signal.send true, waits := s.trigger.waits } := rfl
    _ = s := by rw [given, heard]

theorem Closed.shutdown (closed : Closed s) :
    s.shutdown = { s with tasks := [], awaited := s.awaited ++ s.tasks } := by
  have shut : s.pool.close = s.pool := by rw [Storage.Pool.close, ← closed.pool]
  rw [shutdown_eq closed.received, closed.trigger, shut]

theorem Closed.run_operation (closed : Closed s) (moment : Moment) (operation : Operation) :
    Operation.Failed .poolClosed s.pool (operation.opened Storage.Pool.runner.dialect moment)
      (operation.run Storage.Pool.runner moment s.pool) :=
  Operation.run_failing (Storage.Pool.fails_of_not_isOpen closed.pool) moment operation

/-- An operation leaves everything as it is. -/
theorem Closed.operate (closed : Closed s) (moment : Moment) (operation : Operation) :
    (s.step (.operate moment operation)).2 = s := by
  have unchanged := (closed.run_operation moment operation).1
  simp only [Shutdown.step, unchanged]

/-- An operation that issues a statement is told that the pool is closed. -/
theorem Closed.unavailable (closed : Closed s) {moment : Moment} {operation : Operation}
    (issues : operation.Issues Storage.Pool.runner moment s.pool) :
    (s.step (.operate moment operation)).1 =
      .outcome (.error (.query (.storage .poolClosed))) := by
  have opened := Operation.opened_ne_nil_of_issues issues
  have failed := (closed.run_operation moment operation).2 opened
  simp only [Shutdown.step, failed]

theorem Closed.step (closed : Closed s) (call : Call) :
    Closed (s.step call).2 ∧ (s.step call).2.pool = s.pool := by
  cases call with
  | subscribe => exact ⟨⟨closed.pool, Nat.succ_ne_zero _, closed.signal, closed.waits⟩, rfl⟩
  | register task => exact ⟨⟨closed.pool, closed.received, closed.signal, closed.waits⟩, rfl⟩
  | trigger =>
    rw [Shutdown.step, closed.trigger]
    exact ⟨closed, rfl⟩
  | wait =>
    refine ⟨⟨closed.pool, Nat.succ_ne_zero _, closed.signal, ?_⟩, rfl⟩
    rw [Shutdown.step, wait, mayGoOn, closed.signal]
    simp only [List.length_append, List.length_cons, List.length_nil]
    rw [List.replicate_succ', ← closed.waits]
  | shutdown =>
    rw [Shutdown.step, closed.shutdown]
    exact ⟨⟨closed.pool, closed.received, closed.signal, closed.waits⟩, rfl⟩
  | operate moment operation =>
    rw [closed.operate]
    exact ⟨closed, rfl⟩

/-- Nothing reopens the pool or changes what is behind it. -/
theorem Closed.after (closed : Closed s) (later : List Call) :
    Closed (s.after later) ∧ (s.after later).pool = s.pool := by
  induction later generalizing s with
  | nil => exact ⟨closed, rfl⟩
  | cons call later ih =>
    obtain ⟨next, pool⟩ := closed.step call
    obtain ⟨last, kept⟩ := ih next
    exact ⟨last, kept.trans pool⟩

theorem Left.closed (left : Left calls s) : Closed (s.step .shutdown).2 := by
  have next := left.step .shutdown
  have signal : (s.step .shutdown).2.signal.flag = true := by
    rw [next.signal]
    simp [Call.signals]
  refine ⟨?_, next.received, signal, ?_⟩
  · rw [Shutdown.step, shutdown_eq left.received]
    rfl
  · rw [next.waits, List.length_replicate, ← next.signal, signal]

/-! ## The whole life of a service -/

/-- What holds of the signal, of the tasks and of the pool after some calls. -/
structure Lasting (calls : List Call) (s : Shutdown) : Prop where
  triggered : s.triggered = calls.any Call.signals
  /-- It does not matter when a receiver was handed out. -/
  reads : ∀ number, s.reads number = calls.any Call.signals
  /-- Each wait has gone on, or none has. -/
  waits : s.waits = List.replicate (calls.countP Call.waits) (calls.any Call.signals)
  /-- Each task is awaited or will be, once, and none is given up. -/
  tasks : s.awaited ++ s.tasks = calls.filterMap Call.registered? ∧ s.abandoned = []
  /-- The tasks that were registered before the last shutdown have been awaited. -/
  awaited : ∀ before later, calls = before ++ .shutdown :: later → .shutdown ∉ later →
    s.awaited = before.filterMap Call.registered?
  unawaited : .shutdown ∉ calls → s.awaited = []

/-- What holds once a shutdown has returned. -/
structure Final (s : Shutdown) : Prop where
  closed : ∀ later, (s.after later).pool = s.pool ∧ (s.after later).pool.isOpen = false
  unavailable : ∀ moment operation, operation.Issues Storage.Pool.runner moment s.pool →
    (s.step (.operate moment operation)).1 =
      .outcome (.error (.query (.storage (.unavailable "sqlite" "connection pool is closed"))))
  unchanged : ∀ moment operation, (s.step (.operate moment operation)).2 = s
  /-- A further shutdown awaits what was registered in the meantime and does nothing else. -/
  again : s.step .shutdown = (.done, { s with tasks := [], awaited := s.awaited ++ s.tasks })

theorem lasting_after (pool : Storage.Pool) (calls : List Call) :
    Lasting calls ((of pool).after calls) := by
  have left := (left_of pool).after calls
  refine ⟨left.signal, fun _ => left.signal, left.waits, ⟨left.tasks, left.abandoned⟩, ?_, ?_⟩
  · rintro before later rfl last
    rw [after_append]
    exact ((left_of pool).after before).awaited_last last
  · exact fun never => awaited_after _ calls never

theorem Closed.final (closed : Closed s) : Final s where
  closed later := ⟨(closed.after later).2, (closed.after later).1.pool⟩
  unavailable _ _ issues := closed.unavailable issues
  unchanged := closed.operate
  again := by rw [Shutdown.step, closed.shutdown]

/-- Whatever is called in whatever order, the signal lasts, each task is awaited once, and a
shutdown is final. -/
theorem shutdown_lasts (pool : Storage.Pool) (calls : List Call) :
    Lasting calls ((of pool).after calls) ∧
      (.shutdown ∈ calls → Final ((of pool).after calls)) := by
  refine ⟨lasting_after pool calls, fun called => ?_⟩
  obtain ⟨before, later, rfl⟩ := List.append_of_mem called
  rw [after_append]
  exact (((left_of pool).after before).closed.after later).1.final

/-- A wait and a task before a shutdown, and a task and a request after it. -/
theorem shutdown_lasts_sample :
    let s := (of (.of default)).after
      [.wait, .register 1, .shutdown, .subscribe, .register 2]
    s.triggered = true ∧ s.waits = [true] ∧ s.awaited = [1] ∧
      (s.step (.operate default (.getUser 1))).1 = .outcome (.error (.query (.storage
        (.unavailable "sqlite" "connection pool is closed")))) := by
  obtain ⟨lasting, final⟩ := shutdown_lasts (.of default)
    [.wait, .register 1, .shutdown, .subscribe, .register 2]
  refine ⟨lasting.triggered, lasting.waits, ?_, ?_⟩
  · exact lasting.awaited [.wait, .register 1] [.subscribe, .register 2] rfl (by simp)
  · refine (final (by simp)).unavailable default (.getUser 1) ?_
    rw [Operation.Issues, Operation.issues_opened _ _ rfl]
    exact List.cons_ne_nil _ _

end Shutdown

end TodoServer.Program
