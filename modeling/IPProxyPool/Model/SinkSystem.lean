import IPProxyPool.Model.Sink

/-!
# Sink processes

Any number of `ChSinkWorker` processes on one consumer group, each run by `run` from the creation of
the group over the removal of stale consumers to its cycles. A process may crash between any two
network calls. Redis may answer a call or lose the answer, and may forget a pending entry that is
gone from the stream; a batch may reach ClickHouse although the insert reports an error.
-/

namespace IPProxyPool
open AssocTable

/-- `landed` holds the entries whose rows are in ClickHouse, `acked` those removed from the pending
list by `XACK`; both are histories. -/
structure SinkSystem where
  created : Bool
  group : ConsumerGroup.Group String
  workers : Table String ChSinkWorker
  landed : List Nat
  acked : List Nat

/-- The steps of the producers and of Redis, then those of the process `name`. -/
inductive SinkSystemEvent where
  | append
  | trim (n : Nat)
  | purge (ids : List Nat)
  | start (name : String) (batchSize : Nat) (ok : Bool)
  | crash (name : String)
  | xinfo (name : String) (info : Option (List ConsumerInfo))
  | delConsumer (name : String) (ok : Bool)
  | reclaim (name : String) (ids : List Nat) (answered : Bool)
  | read (name : String) (count : Nat) (answered : Bool)
  | xackSkips (name : String) (ok : Bool)
  | insert (name : String) (stored answered : Bool)
  | xackValid (name : String) (ok : Bool)

/-- `cleanup_stale_consumers` has the consumers `victims` left to delete. -/
def ChSinkWorker.cleanNext (w : ChSinkWorker) (victims : List String) : ChSinkWorker :=
  if victims.isEmpty then w.newCycle else { w with phase := .cleaning victims }

namespace SinkSystem

def init : SinkSystem := ⟨false, .empty, ∅, [], []⟩

def setWorker (s : SinkSystem) (name : String) (w : ChSinkWorker) : SinkSystem :=
  { s with workers := s.workers.insert name w }

/-- A step of a process that is not alive, or out of turn, does not happen. -/
def inPhase (s : SinkSystem) (name : String) (phase : SinkPhase)
    (k : ChSinkWorker → SinkSystem) : SinkSystem :=
  match s.workers.lookup name with
  | some w => if w.phase = phase then k w else s
  | none => s

/-- `run` until the stale consumers are looked for. The group is created at the end of the stream;
an error of the creation is not looked at. -/
def startWorker (s : SinkSystem) (name : String) (batchSize : Nat) (ok : Bool) : SinkSystem :=
  if name ∈ s.workers then s
  else
    { s with
      created := s.created || ok
      group := if ok && !s.created then s.group.seekEnd else s.group
      workers := s.workers.insert name (.new batchSize) }

def classifyFor (f : WireFormat) (stream : Nat → Fields) (name : String) (isRedelivery : Bool)
    (answered : Bool) (s : SinkSystem) (id : Nat) : SinkSystem :=
  match s.workers.lookup name with
  | some w => if answered then s.setWorker name (w.classify f stream isRedelivery id) else s
  | none => s

/-- A pending entry that is still in the stream goes to the process `name`. -/
def reclaimOne (f : WireFormat) (stream : Nat → Fields) (name : String) (answered : Bool)
    (s : SinkSystem) (id : Nat) : SinkSystem :=
  if s.group.Claimable id then
    classifyFor f stream name true answered { s with group := s.group.claim name id } id
  else s

def readOne (f : WireFormat) (stream : Nat → Fields) (name : String) (answered : Bool)
    (s : SinkSystem) (id : Nat) : SinkSystem :=
  classifyFor f stream name false answered { s with group := s.group.deliver name id } id

def goto (s : SinkSystem) (name : String) (phase : SinkPhase) : SinkSystem :=
  match s.workers.lookup name with
  | some w => s.setWorker name { w with phase := phase }
  | none => s

def xack (s : SinkSystem) (ids : List Nat) : SinkSystem :=
  { s with group := s.group.ack ids, acked := s.acked ++ ids }

def step (f : WireFormat) (stream : Nat → Fields) (s : SinkSystem) : SinkSystemEvent → SinkSystem
  | .append => { s with group := s.group.append }
  | .trim n => { s with group := s.group.trim n }
  | .purge ids => { s with group := s.group.purge ids }
  | .start name batchSize ok => s.startWorker name batchSize ok
  | .crash name => { s with workers := s.workers.erase name }
  | .xinfo name info => s.inPhase name .starting (fun w =>
    s.setWorker name (w.cleanNext ((info.map (staleConsumers name)).getD [])))
  | .delConsumer name ok =>
    match s.workers.lookup name with
    | some w =>
      match w.phase with
      | .cleaning (victim :: victims) =>
        setWorker (if ok then { s with group := s.group.delConsumer victim } else s) name
          (w.cleanNext victims)
      | _ => s
    | none => s
  | .reclaim name ids answered => s.inPhase name .reclaiming (fun _ =>
    goto (ids.foldl (reclaimOne f stream name answered) s) name .reading)
  | .read name count answered => s.inPhase name .reading (fun _ =>
    goto ((if s.created then s.group.readable count else []).foldl
      (readOne f stream name answered) s) name .skipping)
  | .xackSkips name ok => s.inPhase name .skipping (fun w =>
    (if ok then s.xack w.cycle.skipIds else s).setWorker name w.afterSkips)
  | .insert name stored answered => s.inPhase name .inserting (fun w =>
    { s with
      landed := if stored then s.landed ++ w.cycle.validIds else s.landed
      workers := s.workers.insert name (w.afterInsert (stored && answered)) })
  | .xackValid name ok => s.inPhase name .acking (fun w =>
    (if ok then s.xack w.cycle.validIds else s).setWorker name w.newCycle)

end SinkSystem

/-! ### Reported health -/

/-- A completed attempt to write to a backend, and the clock when its outcome was known. -/
structure WriteAttempt where
  ok : Bool
  time : Nat
  deriving DecidableEq

/-- The telemetry worker and one sink with the series of both backends, and as histories the
attempts completed so far. -/
structure Delivery where
  telemetry : TelemetryState := {}
  sink : SinkLifetime
  clickhouse : SinkHealth := {}
  redisAttempts : List WriteAttempt := []
  clickhouseAttempts : List WriteAttempt := []

inductive DeliveryOp where
  | flush (op : TelemetryOp)
  | pump (event : SinkEvent) (now : Nat)

namespace Delivery

def start (batchSize : Nat) : Delivery := { sink := .start batchSize }

/-- The answer to a pipe, where the worker has sent one. -/
def answeredPipe (s : Delivery) : TelemetryOp → List WriteAttempt
  | .attempt ok now =>
    match s.telemetry.phase with
    | .sending _ _ _ => [⟨ok, now⟩]
    | _ => []
  | _ => []

/-- The answer to an insert. -/
def answeredInsert (s : Delivery) (event : SinkEvent) (now : Nat) : List WriteAttempt :=
  match s.sink.worker.phase, event with
  | .inserting, .insert ok => [⟨ok, now⟩]
  | _, _ => []

/-- The outcome that `pump_once` reports: a failed insert at once, a successful one after its
entries are acknowledged, at the time of that moment. -/
def reportedInsert (s : Delivery) (event : SinkEvent) (now : Nat) : List WriteAttempt :=
  match s.sink.worker.phase, event with
  | .inserting, .insert false => [⟨false, now⟩]
  | .acking, .xackValid _ => [⟨true, now⟩]
  | _, _ => []

def mark (h : SinkHealth) (attempt : WriteAttempt) : SinkHealth :=
  if attempt.ok then h.markSinkOk attempt.time else h.markSinkFailed

def step (c : TelemetryConfig) (f : WireFormat) (stream : Nat → Fields) (s : Delivery) :
    DeliveryOp → Delivery
  | .flush op =>
    { s with
      telemetry := s.telemetry.step c op
      redisAttempts := s.redisAttempts ++ s.answeredPipe op }
  | .pump event now =>
    { s with
      sink := s.sink.step f stream event
      clickhouse := (s.reportedInsert event now).foldl mark s.clickhouse
      clickhouseAttempts := s.clickhouseAttempts ++ s.answeredInsert event now }

end Delivery

end IPProxyPool
