import IPProxyPool.Lib.Population
import IPProxyPool.Model.Metrics
import IPProxyPool.Model.Sink
import IPProxyPool.Model.Writers

/-!
# Circuit breakers of a cluster

Any number of gateway instances, each with the worker of `PassiveCircuitBreaker` and the
subscription to the deltas that `main` starts, as the steps between two network calls. The workers
all read the telemetry stream as one consumer of one group. A worker may panic between any two
calls and is then started again by its supervisor; an instance may be killed. Redis may carry a
command out and lose the answer.
-/

namespace IPProxyPool
open RustText

structure Isolation where
  domain : String
  outIp : String
  ttlSecs : Nat
  deriving DecidableEq

/-- What `process_entry` reads: the status and the domain from fields of the entry, the address from
its payload. -/
def breakerEvent (f : WireFormat) (fields : Fields) : Option TelemetryEvent := do
  let status ← fieldText fields "status"
  let domain ← fieldText fields "domain"
  let payload ← fieldText fields "payload"
  let event ← f.fromStr payload
  some ⟨domain, event.outIp, (parseUnsigned (2 ^ 16) status).getD 0⟩

/-- The status and the isolation for which `process_entry` calls `apply_quarantine`. -/
def trigger (f : WireFormat) (fields : Fields) : Option (Nat × Isolation) :=
  (breakerEvent f fields).bind (fun event =>
    (quarantineTtlForStatus event.statusCode).bind (fun ttl =>
      if validQuarantineTarget event.targetDomain event.outIp then
        some (event.statusCode, ⟨event.targetDomain, event.outIp, ttl⟩)
      else none))

def Isolation.message (q : Isolation) : String :=
  quarantineDeltaMessage q.domain q.outIp q.ttlSecs

def quarantineRedisKey (domain outIp : String) : String := "quarantine:" ++ domain ++ ":" ++ outIp

/-- Where the worker of an instance stands. `id` is the entry in hand, `todo` the rest of the batch;
`retry` says that the first attempt of the call has failed. -/
inductive BreakerPhase where
  | down
  | starting
  | reading
  | processing (id : Nat) (todo : List Nat)
  | persisting (q : Isolation) (retry : Bool) (id : Nat) (todo : List Nat)
  | publishing (q : Isolation) (retry : Bool) (id : Nat) (todo : List Nat)
  | acking (id : Nat) (todo : List Nat)

def BreakerPhase.next : List Nat → BreakerPhase
  | [] => .reading
  | id :: todo => .processing id todo

/-- An instance of the gateway; `inbox` holds the messages that its subscription has yet to read. -/
structure BreakerInstance where
  router : RouterEngine
  metrics : MetricsRegistry := {}
  persistFailures : Nat := 0
  publishFailures : Nat := 0
  phase : BreakerPhase
  subscribed : Bool := false
  inbox : List String := []

namespace BreakerInstance

def halted : BreakerInstance := { router := .new [], phase := .down }

/-- `process_entry` until `apply_quarantine` has isolated the address in memory. -/
def processEntry (b : BreakerInstance) (f : WireFormat) (fields : Fields) (id : Nat)
    (todo : List Nat) (now : Instant) : BreakerInstance :=
  match trigger f fields with
  | some (status, q) =>
    { b with
      metrics := b.metrics.noteBreakerTrigger status
      router := b.router.applyQuarantine q.domain q.outIp q.ttlSecs now
      phase := .persisting q false id todo }
  | none => { b with phase := .acking id todo }

/-- The `SETEX` of `run_with_single_retry`. -/
def afterSetEx (b : BreakerInstance) (q : Isolation) (retry : Bool) (id : Nat) (todo : List Nat)
    (ok : Bool) : BreakerInstance :=
  if ok then { b with phase := .publishing q false id todo }
  else if retry then
    { b with persistFailures := b.persistFailures + 1, phase := .publishing q false id todo }
  else { b with phase := .persisting q true id todo }

/-- The `PUBLISH` of `run_with_single_retry`. -/
def afterPublish (b : BreakerInstance) (q : Isolation) (retry : Bool) (id : Nat) (todo : List Nat)
    (ok : Bool) : BreakerInstance :=
  if ok then { b with phase := .acking id todo }
  else if retry then
    { b with publishFailures := b.publishFailures + 1, phase := .acking id todo }
  else { b with phase := .publishing q true id todo }

/-- The supervisor starts the worker anew, with new failure counters. -/
def restart (b : BreakerInstance) : BreakerInstance :=
  { b with persistFailures := 0, publishFailures := 0, phase := .starting }

def receive (b : BreakerInstance) (message : String) : BreakerInstance :=
  if b.subscribed then { b with inbox := b.inbox ++ [message] } else b

/-- One round of the loop over the delta stream. -/
def applyNext (b : BreakerInstance) (now : Instant) : BreakerInstance :=
  match b.inbox with
  | [] => b
  | message :: rest => { b with router := (b.router.applyDelta message now).2, inbox := rest }

end BreakerInstance

/-- `processed` lists the entries for which `process_entry` was called, `setExs` and `sent` the
commands that Redis has carried out; all three are histories. -/
structure BreakerSystem (ι : Type*) where
  created : Bool
  group : ConsumerGroup.Group String
  instances : ι → BreakerInstance
  processed : List Nat
  setExs : List (String × Nat)
  sent : List String

/-- The steps of the producers and of Redis, then those of the instance `i`. -/
inductive BreakerStep (ι : Type*) where
  | append
  | trim (n : Nat)
  | boot (i : ι) (nodes : List ProxyNode)
  | kill (i : ι)
  | create (i : ι) (ok : Bool)
  | panic (i : ι)
  | read (i : ι) (answered : Bool)
  | process (i : ι) (now : Instant)
  | setEx (i : ι) (stored answered : Bool)
  | publish (i : ι) (sent answered : Bool)
  | xack (i : ι) (ok : Bool)
  | subscribe (i : ι)
  | unsubscribe (i : ι) (received : Nat)
  | delta (i : ι) (now : Instant)
  | router (i : ι) (op : RouterOp)

def breakerConsumer : String := "worker_01"

def breakerReadCount : Nat := 100

namespace BreakerSystem

variable {ι : Type*} [DecidableEq ι]

def init : BreakerSystem ι := ⟨false, .empty, fun _ => .halted, [], [], []⟩

def setInstance (s : BreakerSystem ι) (i : ι) (b : BreakerInstance) : BreakerSystem ι :=
  { s with instances := Function.update s.instances i b }

/-- The entries that `XREADGROUP` hands out. -/
def readBatch (s : BreakerSystem ι) : List Nat :=
  if s.created then s.group.readable breakerReadCount else []

/-- `subscribe` is called once the stream of the last subscription has ended, `unsubscribe` when the
connection is lost after the first `received` of the waiting messages. -/
def step (f : WireFormat) (stream : Nat → Fields) (s : BreakerSystem ι) :
    BreakerStep ι → BreakerSystem ι
  | .append => { s with group := s.group.append }
  | .trim n => { s with group := s.group.trim n }
  | .boot i nodes =>
    match (s.instances i).phase with
    | .down => s.setInstance i { s.instances i with router := .new nodes, phase := .starting }
    | _ => s
  | .kill i => s.setInstance i .halted
  | .create i ok =>
    match (s.instances i).phase with
    | .starting =>
      { s with
        created := s.created || ok
        group := if ok && !s.created then s.group.seekEnd else s.group
        }.setInstance i { s.instances i with phase := .reading }
    | _ => s
  | .panic i =>
    match (s.instances i).phase with
    | .down => s
    | _ => s.setInstance i (s.instances i).restart
  | .read i answered =>
    match (s.instances i).phase with
    | .reading =>
      { s with group := s.readBatch.foldl (fun g id => g.deliver breakerConsumer id) s.group
        }.setInstance i
          { s.instances i with phase := if answered then .next s.readBatch else .reading }
    | _ => s
  | .process i now =>
    match (s.instances i).phase with
    | .processing id todo =>
      { s with processed := s.processed ++ [id] }.setInstance i
        ((s.instances i).processEntry f (stream id) id todo now)
    | _ => s
  | .setEx i stored answered =>
    match (s.instances i).phase with
    | .persisting q retry id todo =>
      { s with
        setExs := if stored then s.setExs ++ [(quarantineRedisKey q.domain q.outIp, q.ttlSecs)]
          else s.setExs
        }.setInstance i ((s.instances i).afterSetEx q retry id todo (stored && answered))
    | _ => s
  | .publish i sent answered =>
    match (s.instances i).phase with
    | .publishing q retry id todo =>
      let b := (s.instances i).afterPublish q retry id todo (sent && answered)
      let instances := Function.update s.instances i b
      if sent then
        { s with
          instances := fun j => (instances j).receive q.message
          sent := s.sent ++ [q.message] }
      else { s with instances := instances }
    | _ => s
  | .xack i ok =>
    match (s.instances i).phase with
    | .acking id todo =>
      { s with group := if ok then s.group.ack [id] else s.group
        }.setInstance i { s.instances i with phase := .next todo }
    | _ => s
  | .subscribe i =>
    match (s.instances i).phase, (s.instances i).inbox with
    | .down, _ => s
    | _, [] => s.setInstance i { s.instances i with subscribed := true }
    | _, _ => s
  | .unsubscribe i received =>
    s.setInstance i { s.instances i with
      subscribed := false
      inbox := (s.instances i).inbox.take received }
  | .delta i now => s.setInstance i ((s.instances i).applyNext now)
  | .router i op =>
    match (s.instances i).phase with
    | .down => s
    | _ => s.setInstance i { s.instances i with router := (s.instances i).router.step op }

end BreakerSystem

end IPProxyPool
