import IPProxyPool.Model.SinkSystem

/-!
# From `emit` to ClickHouse

Any number of gateway processes, each with its telemetry bus, the stream that their pipes are
appended to, and the sink processes that read it. A process may be killed at any point. Redis may
take a part of a pipe, or all of it, and report an error.
-/

namespace IPProxyPool
open AssocTable Transition

/-! ### A gateway process -/

/-- The bus of one process. `handed` are the events that `emit` was called with, under the ids it
gave them, `refused` those that the channel did not take and `appended` what Redis took from the
pipes, all three as histories. What a process holds when it is killed is lost with it. -/
structure GatewayProcess where
  alive : Bool := true
  bus : TelemetryState := {}
  handed : List TelemetryMessage := []
  refused : List TelemetryMessage := []
  appended : List XAdd := []

/-- `stored` says of each command of a pipe whether Redis has executed it when it reports an
error. -/
inductive ProcessOp where
  | emit (event : TelemetryMessage) (nowMs : Nat)
  | countDropped
  | recv
  | tick
  | encode
  | attempt (stored : List Bool) (ok : Bool) (now : Nat)
  | kill

/-- The commands that are marked as executed. -/
def executedXAdds : List Bool → List XAdd → List XAdd
  | true :: stored, x :: pipe => x :: executedXAdds stored pipe
  | false :: stored, _ :: pipe => executedXAdds stored pipe
  | _, _ => []

lemma executedXAdds_sublist (stored : List Bool) (pipe : List XAdd) :
    (executedXAdds stored pipe).Sublist pipe := by
  fun_induction executedXAdds stored pipe with
  | case1 stored x pipe ih => exact ih.cons_cons x
  | case2 stored x pipe ih => exact ih.cons x
  | case3 => exact List.nil_sublist _

namespace GatewayProcess

/-- What Redis takes from the pipe that the worker sends. -/
def taken (p : GatewayProcess) : ProcessOp → List XAdd
  | .attempt stored ok _ =>
    match p.bus.phase with
    | .sending pipe _ _ => if ok then pipe else executedXAdds stored pipe
    | _ => []
  | _ => []

variable (c : TelemetryConfig) (serialize : TelemetryMessage → Option String)

def emit (p : GatewayProcess) (event : TelemetryMessage) (nowMs : Nat) : GatewayProcess :=
  let named := (p.bus.assignId c event nowMs).1
  { p with
    bus := p.bus.step c (.trySend event nowMs)
    handed := p.handed ++ [named]
    refused := if p.bus.channel.length < c.capacity then p.refused else p.refused ++ [named] }

def step (p : GatewayProcess) (op : ProcessOp) : GatewayProcess :=
  if p.alive then
    match op with
    | .emit event nowMs => p.emit c event nowMs
    | .countDropped => { p with bus := p.bus.step c .countDropped }
    | .recv => { p with bus := p.bus.step c .recv }
    | .tick => { p with bus := p.bus.step c .tick }
    | .encode => { p with bus := p.bus.step c (.encode serialize) }
    | .attempt stored ok now =>
      { p with
        bus := p.bus.step c (.attempt ok now)
        appended := p.appended ++ p.taken (.attempt stored ok now) }
    | .kill => { p with alive := false }
  else p

end GatewayProcess

/-! ### The whole path -/

/-- What the sink finds in the entry of an `XADD`. -/
def XAdd.toFields (x : XAdd) : Fields :=
  x.fields.foldl (fun t p => t.insert p.1 (.bulkString p.2.toByteArray.data.toList)) ∅

/-- `stream` holds the entries of the sinks' stream, as long as it ever was, and `rows` the rows in
ClickHouse. -/
structure TelemetryPath where
  processes : List GatewayProcess
  stream : List XAdd
  sinks : SinkSystem
  rows : List TelemetryRow

/-- A new process, a step of the process `i`, or a step of Redis or of a sink. -/
inductive PathEvent where
  | start
  | gateway (i : Nat) (op : ProcessOp)
  | sink (e : SinkSystemEvent)

namespace TelemetryPath

def init : TelemetryPath := ⟨[], [], .init, []⟩

def contentOf (stream : List XAdd) (id : Nat) : Fields := ((stream[id]?).map XAdd.toFields).getD ∅

/-- What a step of the process `i` appends to the stream that the sinks read. -/
def appends (s : TelemetryPath) (i : Nat) (op : ProcessOp) : List XAdd :=
  match s.processes[i]? with
  | some p =>
    if p.alive then (p.taken op).filter (fun x => sinkStreams.contains x.streamKey) else []
  | none => []

/-- The process whose batch an insert brings to ClickHouse. -/
def storing (s : SinkSystem) : SinkSystemEvent → Option ChSinkWorker
  | .insert name true _ => (s.workers.lookup name).filter (fun w => w.phase = .inserting)
  | _ => none

/-- Only the pipes of the gateways append to the stream. -/
def step (c : Nat → TelemetryConfig) (serialize : TelemetryMessage → Option String)
    (f : WireFormat) (s : TelemetryPath) : PathEvent → TelemetryPath
  | .start => { s with processes := s.processes ++ [{}] }
  | .gateway i op =>
    { s with
      processes := s.processes.modify i (fun p => p.step (c i) serialize op)
      stream := s.stream ++ s.appends i op
      sinks := run (SinkSystem.step f (contentOf s.stream)) s.sinks
        ((s.appends i op).map (fun _ => .append)) }
  | .sink .append => s
  | .sink e =>
    { s with
      sinks := s.sinks.step f (contentOf s.stream) e
      rows := s.rows ++ (storing s.sinks e).elim [] (fun w => w.cycle.rows) }

end TelemetryPath

end IPProxyPool
