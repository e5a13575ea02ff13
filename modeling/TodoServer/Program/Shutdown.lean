import TodoServer.Service.Operation
import TodoServer.Storage.Pool

/-!
# Shutting down

A signal that is given once and for all, the tasks that run beside the server, and the pool.
Shutting down gives the signal, waits for all tasks that it has not waited for before, and closes
the pool. Tasks end once they see the signal.
-/

namespace TodoServer.Program

/-- A channel that keeps the last flag that was sent. -/
structure Watch where
  flag : Bool
  receivers : Nat
  deriving DecidableEq, Repr

namespace Watch

/-- No flag was sent, and one receiver stays with whoever made the channel. -/
def new : Watch := ⟨false, 1⟩

/-- Hands out one more receiver. -/
def receiver (w : Watch) : Watch := { w with receivers := w.receivers + 1 }

/-- Sends a flag. It is lost when nobody receives. -/
def send (flag : Bool) (w : Watch) : Watch := if w.receivers = 0 then w else { w with flag }

end Watch

/-- The state of the signal, of those who wait for it, of the tasks and of the pool. -/
structure Shutdown where
  signal : Watch
  /-- Whether those who wait for the signal have gone on, in order of their coming. -/
  waits : List Bool
  /-- The tasks that are to be waited for. -/
  tasks : List Nat
  /-- The tasks that have been waited for, in order. -/
  awaited : List Nat
  /-- The tasks that did not end in time. -/
  abandoned : List Nat
  pool : Storage.Pool
  deriving DecidableEq, Repr

namespace Shutdown

/-- No signal has been given and no task runs. -/
def of (pool : Storage.Pool) : Shutdown := ⟨.new, [], [], [], [], pool⟩

/-- What can be asked for. -/
inductive Call where
  /-- A receiver of the signal. -/
  | subscribe
  /-- A task to be waited for. -/
  | register (task : Nat)
  | trigger
  /-- Going on as soon as the signal is given. -/
  | wait
  | shutdown
  /-- An operation of a service on the pool. -/
  | operate (moment : Moment) (operation : Operation)

/-- What a call returns. -/
inductive Reply where
  | done
  | receiver (number : Nat)
  /-- The number of a wait. -/
  | waiting (number : Nat)
  | outcome (outcome : Except ServiceError Operation.Outcome)

/-- Whether the signal has been given. -/
def triggered (s : Shutdown) : Bool := s.signal.flag

/-- What a receiver reads, whenever it was handed out. -/
def reads (s : Shutdown) (_ : Nat) : Bool := s.signal.flag

/-- Whether somebody who comes to wait for the signal may go on. -/
def mayGoOn (s : Shutdown) : Bool := s.signal.flag

/-- Somebody comes to wait for the signal. -/
def wait (s : Shutdown) : Shutdown :=
  { s with signal := s.signal.receiver, waits := s.waits ++ [s.mayGoOn] }

/-- Gives the signal, upon which those who wait go on. -/
def trigger (s : Shutdown) : Shutdown :=
  let signal := s.signal.send true
  { s with signal, waits := s.waits.map (· || signal.flag) }

/-- Waits for the tasks. They end if the signal has been given, or else they are given up after
a while. -/
def join (s : Shutdown) : Shutdown :=
  if s.signal.flag then { s with tasks := [], awaited := s.awaited ++ s.tasks }
  else { s with tasks := [], abandoned := s.abandoned ++ s.tasks }

/-- Gives the signal, waits for the tasks and closes the pool, whether or not its checkpoint
fails. -/
def shutdown (s : Shutdown) : Shutdown :=
  let joined := s.trigger.join
  { joined with pool := joined.pool.checkpoint.2.close }

/-- Answers a call. -/
def step (s : Shutdown) : Call → Reply × Shutdown
  | .subscribe => (.receiver s.signal.receivers, { s with signal := s.signal.receiver })
  | .register task => (.done, { s with tasks := s.tasks ++ [task] })
  | .trigger => (.done, s.trigger)
  | .wait => (.waiting s.waits.length, s.wait)
  | .shutdown => (.done, s.shutdown)
  | .operate moment operation =>
    let (outcome, pool) := operation.run Storage.Pool.runner moment s.pool
    (.outcome outcome, { s with pool })

/-- The state after some calls. -/
def after (s : Shutdown) (calls : List Call) : Shutdown :=
  calls.foldl (fun s call => (s.step call).2) s

end Shutdown

end TodoServer.Program
