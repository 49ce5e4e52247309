import IPProxyPool.Lib.Run

/-!
# The supervisor of the workers

`supervise_until` of `main.rs` with its back-off, its metric and the stop signal. Durations are
nanoseconds; how long a worker runs and how late a timer wakes up are decided by the events.
-/

namespace IPProxyPool

def second : Nat := 1000000000

/-- The longest back-off, and the length of a run that resets it. -/
def backoffLimit : Nat := 60 * second

/-- Where the loop stands: at its head, waiting for the worker, in the sleep between two runs, or
left. The two waits know how long they have lasted. -/
inductive SupervisorPhase where
  | head
  | running (ran : Nat)
  | sleeping (slept : Nat)
  | left
  deriving DecidableEq

/-- `stop` is the value of the watch channel, `closed` says that its sender is gone. `spawned` and
`elapsed` observe the loop. -/
structure Supervisor where
  backoff : Nat := second
  phase : SupervisorPhase := .head
  stop : Bool := false
  closed : Bool := false
  restarts : Nat := 0
  spawned : Nat := 0
  elapsed : Nat := 0
  deriving DecidableEq

inductive SupervisorEvent where
  | pass (ns : Nat)
  | proceed
  /-- The worker returns or panics; the supervisor treats the two alike. -/
  | workerEnds
  | wake
  | setStop
  | closeStop

namespace Supervisor

def step (s : Supervisor) : SupervisorEvent → Supervisor
  | .pass ns =>
    { s with
      elapsed := s.elapsed + ns
      phase := match s.phase with
        | .running ran => .running (ran + ns)
        | .sleeping slept => .sleeping (slept + ns)
        | phase => phase }
  | .proceed =>
    match s.phase with
    | .head =>
      if s.stop then { s with phase := .left }
      else { s with phase := .running 0, spawned := s.spawned + 1 }
    | _ => s
  | .workerEnds =>
    match s.phase with
    | .running ran =>
      { s with
        restarts := s.restarts + 1
        backoff := if backoffLimit < ran then second else s.backoff
        phase := .sleeping 0 }
    | _ => s
  | .wake =>
    match s.phase with
    | .sleeping slept =>
      -- the stop signal is looked at before the timer
      if s.stop || s.closed then { s with phase := .left }
      else if s.backoff ≤ slept then
        { s with backoff := min (s.backoff * 2) backoffLimit, phase := .head }
      else s
    | _ => s
  | .setStop => { s with stop := true }
  | .closeStop => { s with closed := true }

end Supervisor

end IPProxyPool
