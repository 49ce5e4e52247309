import IPProxyPool.Lib.ConsumerGroup
import IPProxyPool.Model.Headers
import IPProxyPool.Model.Telemetry

/-!
# ClickHouse sink

The consumer of the telemetry stream in `ch_sink.rs`: the dedupe window, the classification of one
entry, and the stages of `run` and `pump_once` as the steps between two network calls. The content
of the stream is a function from the number of an entry to its fields.
-/

namespace IPProxyPool
open RustText AssocTable ConsumerGroup

/-! ### Entries and rows -/

inductive RedisValue where
  | bulkString (bytes : List UInt8)
  | simpleString (s : String)
  | other

abbrev Fields := Table String RedisValue

def fieldText (fields : Fields) (key : String) : Option String :=
  match fields.lookup key with
  | some (.bulkString bytes) => stringFromUtf8 bytes
  | some (.simpleString s) => some s
  | _ => none

/-- The conversions of third-party crates that the sink calls: the JSON reader and the calendar. -/
structure WireFormat where
  fromStr : String → Option TelemetryMessage
  fromTimestampMillis : Int → Option Int

structure TelemetryRow where
  eventTime : Int
  clientIp : String
  tenantId : String
  targetDomain : String
  outIp : String
  provider : String
  tier : String
  country : String
  statusCode : Nat
  latencyMs : Nat
  transferredBytes : Nat
  retryCount : Nat
  errorMessage : String

/-- `n as i64` for a `u64`. -/
def asI64 (n : Nat) : Int := if n < 2 ^ 63 then n else (n : Int) - 2 ^ 64

def TelemetryRow.ofMessage (w : WireFormat) (e : TelemetryMessage) : TelemetryRow where
  eventTime := (w.fromTimestampMillis (asI64 e.timestamp)).getD 0
  clientIp := e.clientIp
  tenantId := e.tenantId.getD ""
  targetDomain := e.targetDomain
  outIp := e.outIp
  provider := e.provider
  tier := e.tier
  country := e.country
  statusCode := e.statusCode
  latencyMs := min e.latencyMs 4294967295
  transferredBytes := e.transferredBytes
  retryCount := e.retryCount
  errorMessage := e.errorType.getD ""

/-- `parse_entry`: the row and the event id; none for a poison entry. -/
def parseEntry (w : WireFormat) (fields : Fields) : Option (TelemetryRow × String) := do
  let payload ← fieldText fields "payload"
  let event ← w.fromStr payload
  some (.ofMessage w event, event.eventId)

/-! ### The dedupe window -/

def seenIdsCap : Nat := 10000

/-- The window holds the same ids as a set and as a queue. -/
structure SeenIds where
  set : Finset String
  order : List String
  cap : Nat
  cap_pos : 1 ≤ cap
  set_eq : set = order.toFinset
  nodup : order.Nodup
  length_le : order.length ≤ cap

namespace SeenIds

def new (cap : Nat) : SeenIds where
  set := ∅
  order := []
  cap := max cap 1
  cap_pos := Nat.le_max_right cap 1
  set_eq := rfl
  nodup := List.nodup_nil
  length_le := Nat.zero_le _

/-- What the queue and the set keep when room is made for one more id. -/
def makeRoom (s : SeenIds) : Finset String × List String :=
  if s.cap ≤ s.order.length then
    match s.order with
    | [] => (s.set, [])
    | old :: rest => (s.set.erase old, rest)
  else (s.set, s.order)

structure RoomFor (s : SeenIds) (p : Finset String × List String) : Prop where
  set_eq : p.1 = p.2.toFinset
  sublist : p.2.Sublist s.order
  length_lt : p.2.length < s.cap

lemma roomFor_makeRoom (s : SeenIds) : RoomFor s s.makeRoom := by
  have hlen := s.length_le
  unfold makeRoom
  split
  · rcases ho : s.order with _ | ⟨old, rest⟩
    · exact ⟨by rw [s.set_eq, ho], by rw [ho], s.cap_pos⟩
    · have hnodup := s.nodup
      rw [ho, List.length_cons] at hlen
      rw [ho] at hnodup
      refine ⟨?_, ?_, ?_⟩
      · dsimp only
        rw [s.set_eq, ho, List.toFinset_cons, Finset.erase_insert]
        simpa using (List.nodup_cons.mp hnodup).1
      · rw [ho]
        exact List.sublist_cons_self old rest
      · exact hlen
  · rename_i h
    exact ⟨s.set_eq, List.Sublist.refl _, Nat.lt_of_not_le h⟩

def insert (s : SeenIds) (id : String) (h : id ∉ s.set) : SeenIds where
  set := Insert.insert id s.makeRoom.1
  order := s.makeRoom.2 ++ [id]
  cap := s.cap
  cap_pos := s.cap_pos
  set_eq := by
    rw [s.roomFor_makeRoom.set_eq]
    ext x
    simp
  nodup := by
    have hroom := s.roomFor_makeRoom
    have hid : id ∉ s.makeRoom.2 := fun hmem => h (by
      rw [s.set_eq, List.mem_toFinset]
      exact hroom.sublist.mem hmem)
    rw [List.nodup_append]
    refine ⟨s.nodup.sublist hroom.sublist, List.nodup_singleton id, ?_⟩
    rintro x hx y hy rfl
    rw [List.mem_singleton.mp hy] at hx
    exact hid hx
  length_le := by
    have hroom := s.roomFor_makeRoom.length_lt
    rw [List.length_append, List.length_singleton]
    omega

/-- `check_and_insert`: whether the id was seen before. The empty id is never recorded. -/
def checkAndInsert (s : SeenIds) (id : String) : Bool × SeenIds :=
  if id = "" then (false, s)
  else if h : id ∈ s.set then (true, s)
  else (false, s.insert id h)

end SeenIds

/-! ### One entry -/

/-- The three vectors of a cycle. The last two fields record ids that the code only logs: those
skipped as duplicates, and those that the cap on `rows` held back. -/
structure SinkCycle where
  rows : List TelemetryRow := []
  validIds : List Nat := []
  skipIds : List Nat := []
  duplicateIds : List Nat := []
  heldIds : List Nat := []

namespace SinkCycle

def skip (c : SinkCycle) (id : Nat) : SinkCycle := { c with skipIds := c.skipIds ++ [id] }

def duplicate (c : SinkCycle) (id : Nat) : SinkCycle :=
  { c with skipIds := c.skipIds ++ [id], duplicateIds := c.duplicateIds ++ [id] }

def push (c : SinkCycle) (row : TelemetryRow) (id : Nat) : SinkCycle :=
  { c with rows := c.rows ++ [row], validIds := c.validIds ++ [id] }

def hold (c : SinkCycle) (id : Nat) : SinkCycle := { c with heldIds := c.heldIds ++ [id] }

/-- The row of a valid entry goes into `rows` below the cap. -/
def admitRow (c : SinkCycle) (row : TelemetryRow) (id rowsCap : Nat) : SinkCycle :=
  if c.rows.length < rowsCap then c.push row id else c.hold id

/-- The entries that the cycle has looked at. -/
def ids (c : SinkCycle) : List Nat := c.skipIds ++ c.validIds ++ c.heldIds

end SinkCycle

/-- `classify_entry`. An entry that was claimed back is not looked up in the window. -/
def classifyEntry (w : WireFormat) (seen : SeenIds) (id : Nat) (fields : Fields)
    (cycle : SinkCycle) (rowsCap : Nat) (isRedelivery : Bool) : SeenIds × SinkCycle :=
  match parseEntry w fields with
  | some (row, eventId) =>
    let (duplicate, seen) :=
      if !isRedelivery && eventId ≠ "" then seen.checkAndInsert eventId else (false, seen)
    if duplicate then (seen, cycle.duplicate id)
    else (seen, cycle.admitRow row id rowsCap)
  | none => (seen, cycle.skip id)

/-! ### The worker -/

/-- What the worker does next: look for stale consumers, delete the ones it found, or one of the
stages of `pump_once`. -/
inductive SinkPhase where
  | starting
  | cleaning (victims : List String)
  | reclaiming
  | reading
  | skipping
  | inserting
  | acking
  deriving DecidableEq

structure ChSinkWorker where
  batchSize : Nat
  seen : SeenIds
  phase : SinkPhase
  cycle : SinkCycle

/-- An entry of the reply to `XINFO CONSUMERS`; `idle` counts milliseconds. -/
structure ConsumerInfo where
  name : String
  idle : Nat

def reclaimIdleMs : Nat := 60000

/-- The consumers that `cleanup_stale_consumers` deletes. -/
def staleConsumers (consumer : String) (info : List ConsumerInfo) : List String :=
  (info.filter (fun c => c.name ≠ consumer && reclaimIdleMs < c.idle)).map ConsumerInfo.name

namespace ChSinkWorker

def new (batchSize : Nat) : ChSinkWorker where
  batchSize := batchSize
  seen := .new seenIdsCap
  phase := .starting
  cycle := {}

def rowsCap (w : ChSinkWorker) : Nat := max (min (w.batchSize * 2) (2 ^ 64 - 1)) 1

/-- The beginning of `pump_once`. -/
def newCycle (w : ChSinkWorker) : ChSinkWorker := { w with phase := .reclaiming, cycle := {} }

def classify (f : WireFormat) (stream : Nat → Fields) (isRedelivery : Bool) (w : ChSinkWorker)
    (id : Nat) : ChSinkWorker :=
  let p := classifyEntry f w.seen id (stream id) w.cycle w.rowsCap isRedelivery
  { w with seen := p.1, cycle := p.2 }

/-- After the skipped entries are acknowledged: nothing more to do without rows. -/
def afterSkips (w : ChSinkWorker) : ChSinkWorker :=
  if w.cycle.rows.isEmpty then w.newCycle else { w with phase := .inserting }

/-- After `insert_batch`; on an error the acknowledgements are held back. -/
def afterInsert (w : ChSinkWorker) (ok : Bool) : ChSinkWorker :=
  if ok then { w with phase := .acking } else w.newCycle

end ChSinkWorker

/-! ### A lifetime -/

/-- One worker from its first cycle on: what it was given, in order, the ids it passed to `XACK`,
those of them that it had skipped as duplicates, and the entries of its successful inserts. Of the
current cycle: the entries claimed back, the fresh ones, and the window when these arrived. -/
structure SinkLifetime where
  worker : ChSinkWorker
  claimed : List Nat := []
  fresh : List Nat := []
  window : List String := []
  delivered : List Nat := []
  xacked : List Nat := []
  duplicates : List Nat := []
  landed : List Nat := []
  landedRows : List TelemetryRow := []

/-- The stages of `pump_once` with the answers of the network; `ok` of an acknowledgement is not
looked at by the worker. -/
inductive SinkEvent where
  | reclaim (ids : List Nat)
  | read (ids : List Nat)
  | xackSkips (ok : Bool)
  | insert (ok : Bool)
  | xackValid (ok : Bool)

namespace SinkLifetime

def start (batchSize : Nat) : SinkLifetime := { worker := (ChSinkWorker.new batchSize).newCycle }

def deliver (f : WireFormat) (stream : Nat → Fields) (isRedelivery : Bool) (l : SinkLifetime)
    (id : Nat) : SinkLifetime :=
  { l with
    worker := l.worker.classify f stream isRedelivery id
    delivered := l.delivered ++ [id] }

def goto (l : SinkLifetime) (phase : SinkPhase) : SinkLifetime :=
  { l with worker := { l.worker with phase := phase } }

/-- A stage out of turn does not happen. -/
def step (f : WireFormat) (stream : Nat → Fields) (l : SinkLifetime) : SinkEvent → SinkLifetime
  | .reclaim ids =>
    if l.worker.phase = .reclaiming then
      (ids.foldl (deliver f stream true) { l with claimed := ids, fresh := [] }).goto .reading
    else l
  | .read ids =>
    if l.worker.phase = .reading then
      (ids.foldl (deliver f stream false)
        { l with fresh := ids, window := l.worker.seen.order }).goto .skipping
    else l
  | .xackSkips _ =>
    if l.worker.phase = .skipping then
      { l with
        worker := l.worker.afterSkips
        xacked := l.xacked ++ l.worker.cycle.skipIds
        duplicates := l.duplicates ++ l.worker.cycle.duplicateIds }
    else l
  | .insert ok =>
    if l.worker.phase = .inserting then
      { l with
        worker := l.worker.afterInsert ok
        landed := if ok then l.landed ++ l.worker.cycle.validIds else l.landed
        landedRows := if ok then l.landedRows ++ l.worker.cycle.rows else l.landedRows }
    else l
  | .xackValid _ =>
    if l.worker.phase = .acking then
      { l with
        worker := l.worker.newCycle
        xacked := l.xacked ++ l.worker.cycle.validIds }
    else l

end SinkLifetime

end IPProxyPool
