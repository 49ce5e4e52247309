import IPProxyPool.Lib.Run
import IPProxyPool.Model.Breaker

/-!
# Telemetry bus

The way of an event from `TelemetryPublisher::emit` through the bounded channel and the buffer of
`TelemetryWorker` into the Redis streams, as the atomic steps of the publisher's callers and of the
worker. The hash of the domain, what the serialiser makes of an event and how an attempt to send a
pipe ends are inputs.
-/

namespace IPProxyPool
open RustText

/-- The whole telemetry event; the part that the breaker reads is its parent. -/
structure TelemetryMessage extends TelemetryEvent where
  eventId : String
  traceId : String
  clientIp : String
  provider : String
  tier : String
  country : String
  latencyMs : Nat
  transferredBytes : Nat
  retryCount : Nat
  tenantId : Option String
  errorType : Option String
  timestamp : Nat
  deriving DecidableEq

def telemetryChannelCap : Nat := 10000
def telemetryBatchSize : Nat := 200

/-! ### Shards -/

def redisStreamShardsDefault : Nat := 1
def telemetryStreamBase : String := "stream:proxy:telemetry"

structure RedisStreamSharder where
  shards : Nat
  shards_pos : 0 < shards

namespace RedisStreamSharder

def new (shards : Nat) : RedisStreamSharder := ⟨max shards 1, by omega⟩

def shardForDomain (s : RedisStreamSharder) (hash : String → Nat) (domain : String) : Nat :=
  hash domain % s.shards

def streamKeyFor (s : RedisStreamSharder) (i : Nat) : String :=
  if s.shards = 1 then telemetryStreamBase else telemetryStreamBase ++ ":" ++ toString i

end RedisStreamSharder

/-! ### The health of a backend -/

/-- The series of one backend; each is absent until it is first written. -/
structure SinkHealth where
  up : Option Nat := none
  lastOk : Option Nat := none
  failures : Option Nat := none

def SinkHealth.markSinkOk (h : SinkHealth) (now : Nat) : SinkHealth :=
  { h with up := some 1, lastOk := some now }

def SinkHealth.markSinkFailed (h : SinkHealth) : SinkHealth :=
  { h with
    up := some 0
    failures := some (h.failures.getD 0 + 1)
    lastOk := some (h.lastOk.getD 0) }

/-! ### Batches -/

/-- One `XADD` of a pipe, with the event it carries. -/
structure XAdd where
  streamKey : String
  fields : List (String × String)
  event : TelemetryMessage

def encodeEvent (streamKey : String) (serialize : TelemetryMessage → Option String)
    (event : TelemetryMessage) : Option XAdd :=
  (serialize event).map (fun json =>
    ⟨streamKey, [("payload", json), ("domain", event.targetDomain),
      ("status", toString event.statusCode)], event⟩)

/-- `encode_batch`: an event that does not serialise is left out of the pipe. -/
def encodeBatch (batch : List TelemetryMessage) (streamKey : String)
    (serialize : TelemetryMessage → Option String) : List XAdd :=
  batch.filterMap (encodeEvent streamKey serialize)

/-- The loop that gives an id to the events without one. -/
def fillEventIds : Nat → List TelemetryMessage → Nat × List TelemetryMessage
  | fallbackSeq, [] => (fallbackSeq, [])
  | fallbackSeq, event :: events =>
    if event.eventId = "" then
      let id := toString event.timestamp ++ "-fallback-" ++ toString (fallbackSeq + 1)
      let p := fillEventIds (fallbackSeq + 1) events
      (p.1, { event with eventId := id } :: p.2)
    else
      let p := fillEventIds fallbackSeq events
      (p.1, event :: p.2)

/-- The loop that distributes a batch over the shards. -/
def shardBatches (s : RedisStreamSharder) (hash : String → Nat) (batch : List TelemetryMessage) :
    List (List TelemetryMessage) :=
  batch.foldl
    (fun acc event => acc.modify (s.shardForDomain hash event.targetDomain) (· ++ [event]))
    (List.replicate s.shards [])

/-! ### Publisher and worker -/

structure TelemetryConfig where
  capacity : Nat
  batchSize : Nat
  streamShards : Nat
  pid : Nat
  hash : String → Nat

def TelemetryConfig.sharder (c : TelemetryConfig) : RedisStreamSharder := .new c.streamShards

/-- The stream that an event is written to. -/
def TelemetryConfig.flushKey (c : TelemetryConfig) (event : TelemetryMessage) : String :=
  c.sharder.streamKeyFor (c.sharder.shardForDomain c.hash event.targetDomain)

/-- What became of the events of one flush. -/
structure FlushRecord where
  batch : List TelemetryMessage := []
  dropped : List TelemetryMessage := []
  pipes : List (List XAdd) := []

/-- Where the worker stands: between two flushes, before the next shard, or with a pipe to send for
the first or for the second time. -/
inductive FlushPhase where
  | idle
  | encoding (todo : List (Nat × List TelemetryMessage))
  | sending (pipe : List XAdd) (retry : Bool) (todo : List (Nat × List TelemetryMessage))

/-- `emitted` counts the calls of `emit` that have returned, `failing` those that were refused by
the channel and have not counted the loss yet. -/
structure TelemetryState where
  seq : Nat := 0
  emitted : Nat := 0
  failing : Nat := 0
  channel : List TelemetryMessage := []
  channelDropped : Nat := 0
  buffer : List TelemetryMessage := []
  fallbackSeq : Nat := 0
  flushDropped : Nat := 0
  redis : SinkHealth := {}
  phase : FlushPhase := .idle
  current : FlushRecord := {}
  completed : List FlushRecord := []

inductive TelemetryOp where
  | trySend (event : TelemetryMessage) (nowMs : Nat)
  | countDropped
  | recv
  | tick
  | encode (serialize : TelemetryMessage → Option String)
  | attempt (ok : Bool) (now : Nat)

namespace TelemetryState

/-- The id that `emit` gives to an event without one. -/
def assignId (c : TelemetryConfig) (s : TelemetryState) (event : TelemetryMessage) (nowMs : Nat) :
    TelemetryMessage × TelemetryState :=
  if event.eventId = "" then
    ({ event with eventId := toString nowMs ++ "-" ++ toString c.pid ++ "-" ++ toString s.seq },
      { s with seq := s.seq + 1 })
  else (event, s)

/-- `flush` up to its loop over the shards. -/
def startFlush (c : TelemetryConfig) (s : TelemetryState) : TelemetryState :=
  if s.buffer.isEmpty then s
  else
    let p := fillEventIds s.fallbackSeq s.buffer
    { s with
      buffer := []
      fallbackSeq := p.1
      phase := .encoding ((List.range c.sharder.shards).zip (shardBatches c.sharder c.hash p.2))
      current := { batch := p.2 } }

/-- The end of one iteration of the loop over the shards, and of `flush` after the last one. -/
def nextShard (s : TelemetryState) (todo : List (Nat × List TelemetryMessage)) : TelemetryState :=
  match todo with
  | [] => { s with phase := .idle, current := {}, completed := s.completed ++ [s.current] }
  | _ => { s with phase := .encoding todo }

def drop (s : TelemetryState) (events : List TelemetryMessage) : TelemetryState :=
  { s with
    flushDropped := s.flushDropped + events.length
    current := { s.current with dropped := s.current.dropped ++ events } }

def landPipe (s : TelemetryState) (pipe : List XAdd) : TelemetryState :=
  { s with current := { s.current with pipes := s.current.pipes ++ [pipe] } }

def encodeShard (c : TelemetryConfig) (s : TelemetryState) (i : Nat)
    (shardBatch : List TelemetryMessage) (todo : List (Nat × List TelemetryMessage))
    (serialize : TelemetryMessage → Option String) : TelemetryState :=
  if shardBatch.isEmpty then s.nextShard todo
  else
    let pipe := encodeBatch shardBatch (c.sharder.streamKeyFor i) serialize
    let s := s.drop (shardBatch.filter (fun event => (serialize event).isNone))
    if pipe.isEmpty then s.nextShard todo else { s with phase := .sending pipe false todo }

/-- The result of sending a pipe. Only the first attempt is reported to the metrics. -/
def attemptPipe (s : TelemetryState) (pipe : List XAdd) (retry : Bool)
    (todo : List (Nat × List TelemetryMessage)) (ok : Bool) (now : Nat) : TelemetryState :=
  if retry then
    if ok then (s.landPipe pipe).nextShard todo
    else (s.drop (pipe.map XAdd.event)).nextShard todo
  else
    if ok then ({ s with redis := s.redis.markSinkOk now }.landPipe pipe).nextShard todo
    else { s with redis := s.redis.markSinkFailed, phase := .sending pipe true todo }

def step (c : TelemetryConfig) (s : TelemetryState) : TelemetryOp → TelemetryState
  | .trySend event nowMs =>
    let (event, s) := s.assignId c event nowMs
    if s.channel.length < c.capacity then
      { s with channel := s.channel ++ [event], emitted := s.emitted + 1 }
    else { s with failing := s.failing + 1 }
  | .countDropped =>
    if s.failing = 0 then s
    else
      { s with
        failing := s.failing - 1
        channelDropped := s.channelDropped + 1
        emitted := s.emitted + 1 }
  | .recv =>
    match s.phase, s.channel with
    | .idle, event :: rest =>
      let s := { s with channel := rest, buffer := s.buffer ++ [event] }
      if c.batchSize ≤ s.buffer.length then s.startFlush c else s
    | _, _ => s
  | .tick =>
    match s.phase with
    | .idle => s.startFlush c
    | _ => s
  | .encode serialize =>
    match s.phase with
    | .encoding ((i, shardBatch) :: todo) => s.encodeShard c i shardBatch todo serialize
    | _ => s
  | .attempt ok now =>
    match s.phase with
    | .sending pipe retry todo => s.attemptPipe pipe retry todo ok now
    | _ => s

end TelemetryState

/-! ### Wiring of the streams -/

/-- The key that `main` hands to the circuit breaker and to the ClickHouse sink. -/
def streamKey : String := "stream:proxy:telemetry"

def breakerStreams : List String := [streamKey]

def sinkStreams : List String := [streamKey]

/-- `REDIS_STREAM_SHARDS` as `main` reads it. -/
def redisStreamShards (var : Option String) : Nat :=
  ((var.bind (parseUnsigned (2 ^ 64))).filter (fun v => decide (0 < v))).getD
    redisStreamShardsDefault

end IPProxyPool
