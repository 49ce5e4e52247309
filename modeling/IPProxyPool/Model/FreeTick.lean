import IPProxyPool.Model.FreePool

/-!
# Ticks of the free pool

The operations of the registry as one step function, and `run_once` of the worker: the fetched
candidates are deduplicated, capped and screened, then the results of the two checks are applied to
the registry in the order in which they arrive. What the sources list and how a check ends are
inputs.
-/

namespace IPProxyPool
open RustText AssocTable Transition

/-! ### Operations of the registry -/

inductive RegistryOp where
  | upsertFull (raw : RawNode) (fwdLatencyMs : Nat) (anon : AnonLevel) (exitIp : Option String)
      (now clock : Instant)
  | renewTtl (addr : String) (now : Instant)
  | noteVerifyFailed (addr : String) (now : Instant)
  | reverify (addr : String) (passed : Bool) (now : Instant)

namespace RegistryOp

def now : RegistryOp → Instant
  | upsertFull _ _ _ _ now _ => now
  | renewTtl _ now => now
  | noteVerifyFailed _ now => now
  | reverify _ _ now => now

def addr : RegistryOp → String
  | upsertFull raw _ _ _ _ _ => addrOf raw.ip raw.port
  | renewTtl addr _ => addr
  | noteVerifyFailed addr _ => addr
  | reverify addr _ _ => addr

end RegistryOp

def Registry.step (reg : Registry) : RegistryOp → Registry
  | .upsertFull raw fwdLatencyMs anon exitIp now clock =>
    (reg.upsertFull raw fwdLatencyMs anon exitIp now clock).2
  | .renewTtl addr now => reg.renewTtl addr now
  | .noteVerifyFailed addr now => reg.noteVerifyFailed addr now
  | .reverify addr passed now => reg.reverify addr passed now

/-! ### Candidates -/

/-- The derived `Debug` text of a protocol. -/
def FreeProto.debug : FreeProto → String
  | .http => "Http"
  | .https => "Https"
  | .socks4 => "Socks4"
  | .socks5 => "Socks5"

def RawNode.addr (raw : RawNode) : String := addrOf raw.ip raw.port

/-- The key under which `fetch_all` recognises a candidate. -/
def RawNode.fetchKey (raw : RawNode) : String := raw.addr ++ ":" ++ raw.proto.debug

/-- `retain` with a set of seen keys: the first candidate of each key stays. -/
def retainUnseen : List String → List RawNode → List RawNode
  | _, [] => []
  | seen, raw :: raws =>
    if raw.fetchKey ∈ seen then retainUnseen seen raws
    else raw :: retainUnseen (raw.fetchKey :: seen) raws

/-- `fetch_all`, from the nodes that each fetched source lists, in the order of the sources. -/
def fetchAll (outcomes : List (List RawNode)) : List RawNode := retainUnseen [] outcomes.flatten

def intakeCapLimit (maxNodes factor : Nat) : Nat :=
  max (min (maxNodes * max factor 1) (2 ^ 64 - 1)) 100

/-- `cap_intake`: a stable sort by elite history, then by the order of the sources; then the cap. -/
def capIntake (raws : List RawNode) (cap : Nat) (elite : String → Bool) : List RawNode :=
  if raws.length ≤ cap then raws
  else
    let order := (raws.map RawNode.source).eraseDups
    let rank := fun r : RawNode => toLex (!elite r.addr, order.idxOf r.source)
    (raws.insertionSort (fun a b => rank a ≤ rank b)).take cap

def Registry.elite (reg : Registry) (addr : String) : Bool :=
  match reg.entries.lookup addr with
  | some e => e.health.anon = .elite
  | none => false

/-! ### The worker -/

structure FreePoolConfig where
  ttl : Nat
  maxNodes : Nat
  intakeFactor : Nat
  fetchInterval : Nat
  geoEnforce : Bool

/-- `tcp` and `full` are the running checks of the tick, `baseline` whether its baseline was
reachable, `now` the instant that dates its results. `verified` is a history: the addresses and
egress protocols of the full checks that passed. -/
structure FreePoolWorker where
  registry : Registry
  tcp : List RawNode
  full : List RawNode
  baseline : Bool
  now : Instant
  verified : List (String × EgressProto)

/-- A tick begins, or a running check ends. `skipClock` dates the screening of failed addresses,
`clock` the eviction and `geoClock` the verdict on the exit country. -/
inductive TickEvent where
  | begin (outcomes : List (List RawNode)) (skipClock : Instant) (baseline : Bool) (now : Instant)
  | tcpDone (raw : RawNode) (passed : Bool)
  | fullPassed (raw : RawNode) (fwdLatencyMs : Nat) (anon : AnonLevel) (exitIp : Option String)
      (clock : Instant) (geoMismatch : Bool) (geoClock : Instant)
  | fullFailed (raw : RawNode)
  | joinFailed (raw : RawNode)

namespace FreePoolWorker

def new (c : FreePoolConfig) : FreePoolWorker where
  registry := .withCapacity c.ttl c.maxNodes
  tcp := []
  full := []
  baseline := false
  now := 0
  verified := []

/-- The candidates that the tick checks: those of `fetch_all` that the intake takes and that did not
fail within the last two intervals. -/
def screened (c : FreePoolConfig) (w : FreePoolWorker) (outcomes : List (List RawNode))
    (skipClock : Instant) : List RawNode :=
  (capIntake (fetchAll outcomes) (intakeCapLimit c.maxNodes c.intakeFactor) w.registry.elite).filter
    (fun raw => !w.registry.failedRecently raw.addr skipClock (c.fetchInterval * 2))

/-- What the result of a check does to the registry. -/
def resultOps (c : FreePoolConfig) (w : FreePoolWorker) : TickEvent → List RegistryOp
  | .begin _ _ _ _ => []
  | .joinFailed _ => []
  | .tcpDone raw true => if w.baseline then [] else [.renewTtl raw.addr w.now]
  | .tcpDone raw false => [.noteVerifyFailed raw.addr w.now]
  | .fullPassed raw fwdLatencyMs anon exitIp clock geoMismatch geoClock =>
    .upsertFull raw fwdLatencyMs anon exitIp w.now clock ::
      if geoMismatch && c.geoEnforce then [.noteVerifyFailed raw.addr geoClock] else []
  | .fullFailed raw => [.noteVerifyFailed raw.addr w.now]

/-- A result of a check that is not running does not arrive; the full checks are awaited when all
first checks have ended. -/
def step (c : FreePoolConfig) (w : FreePoolWorker) (e : TickEvent) : FreePoolWorker :=
  match e with
  | .begin outcomes skipClock baseline now =>
    if w.tcp = [] ∧ w.full = [] then
      { w with tcp := w.screened c outcomes skipClock, baseline := baseline, now := now }
    else w
  | .tcpDone raw passed =>
    if raw ∈ w.tcp then
      { w with
        registry := run Registry.step w.registry (w.resultOps c e)
        tcp := w.tcp.erase raw
        full := if passed && w.baseline then w.full ++ [raw] else w.full }
    else w
  | .fullPassed raw _ _ _ _ _ _ =>
    if w.tcp = [] ∧ raw ∈ w.full then
      { w with
        registry := run Registry.step w.registry (w.resultOps c e)
        full := w.full.erase raw
        verified := w.verified ++ [(raw.addr, egressOf raw.proto)] }
    else w
  | .fullFailed raw =>
    if w.tcp = [] ∧ raw ∈ w.full then
      { w with
        registry := run Registry.step w.registry (w.resultOps c e)
        full := w.full.erase raw }
    else w
  | .joinFailed raw =>
    if raw ∈ w.tcp then { w with tcp := w.tcp.erase raw }
    else if w.tcp = [] then { w with full := w.full.erase raw }
    else w

end FreePoolWorker

end IPProxyPool
