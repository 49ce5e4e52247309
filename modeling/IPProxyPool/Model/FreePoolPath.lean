import IPProxyPool.Model.FreeTick
import IPProxyPool.Model.GatewaySteps

/-!
# From the sources to the pool

The gateway with the worker of the free pool. A call of `run` goes through its ticks; the merge that
ends a tick takes its snapshot, reads one factor after the other and replaces the free nodes, and
all that the gateway and its operators do can fall between these steps. The worker may die at any
point, and the supervisor starts a new one with an empty registry.
-/

namespace IPProxyPool
open RustText AssocTable

/-- A result of a running check, or a tick for a worker without one. -/
def FreePoolWorker.awaits (w : FreePoolWorker) : TickEvent → Bool
  | .begin _ _ _ _ => w.tcp = [] ∧ w.full = []
  | .tcpDone raw _ => raw ∈ w.tcp
  | .fullPassed raw _ _ _ _ _ _ => w.tcp = [] ∧ raw ∈ w.full
  | .fullFailed raw => w.tcp = [] ∧ raw ∈ w.full
  | .joinFailed raw => raw ∈ w.tcp ∨ w.tcp = [] ∧ raw ∈ w.full

def TickEvent.begins : TickEvent → Bool
  | .begin _ _ _ _ => true
  | _ => false

/-- Where `run` stands: in the sleep before a tick, in the checks of a tick, or in `merge_once`,
with the instant of its snapshot, the factors that it has read and the nodes that are left. -/
inductive FreeRunPhase where
  | sleeping
  | checking
  | merging (now : Instant) (read : List (ProxyNode × ℚ)) (rest : List ProxyNode)

/-- A call of `run`. `events` is a history: what its ticks have seen. -/
structure FreeRun where
  worker : FreePoolWorker
  phase : FreeRunPhase
  events : List TickEvent

/-- History variable: a merge, with the events of its worker, and its snapshot and when it was
taken. -/
structure FreeMerge where
  events : List TickEvent
  now : Instant
  nodes : List ProxyNode

/-- `freeRun` is the running call of `run`. `given` and `merges` are histories: the nodes that the
pool was handed otherwise than by a merge, and the merges. -/
structure FreePoolPath where
  gateway : SmartProxyGateway
  freeRun : Option FreeRun
  given : List ProxyNode
  merges : List FreeMerge

/-- The nodes that an operation hands to the pool. -/
def RouterOp.given : RouterOp → List ProxyNode
  | .reloadNodes nodes => nodes
  | .replaceVendorNodes _ nodes => nodes
  | .addNode node => [node]
  | _ => []

def GatewayOp.given : GatewayOp → List ProxyNode
  | .addNode node => [node]
  | .replaceVendorNodes _ nodes => nodes
  | _ => []

/-- `takeSnapshot` comes with the order in which the hash map yields the entries. -/
inductive FreePathEvent where
  | start
  | die
  | tick (e : TickEvent)
  | takeSnapshot (now : Instant) (order : List ProxyNode)
  | readFactor
  | replaceVendorNodes
  | router (op : RouterOp)
  | gateway (op : GatewayOp)

namespace FreeRun

def new (c : FreePoolConfig) : FreeRun where
  worker := .new c
  phase := .sleeping
  events := []

/-- A tick begins in the sleep, and its results arrive in the checks. -/
def awaits (l : FreeRun) (e : TickEvent) : Bool :=
  l.worker.awaits e && match l.phase with
    | .sleeping => e.begins
    | .checking => !e.begins
    | .merging _ _ _ => false

end FreeRun

namespace FreePoolPath

/-- The pool at start, with the nodes of the registry file and the test nodes. -/
def initial (nodes : List ProxyNode) : FreePoolPath where
  gateway := .initial nodes
  freeRun := none
  given := nodes
  merges := []

/-- A step out of turn leaves the state as it is. -/
def step (c : FreePoolConfig) (requireElite : Bool) (ucb : BanditArm → VectorD → Nat → ℚ)
    (s : FreePoolPath) : FreePathEvent → FreePoolPath
  | .start =>
    match s.freeRun with
    | none => { s with freeRun := some (.new c) }
    | some _ => s
  | .die => { s with freeRun := none }
  | .tick e =>
    match s.freeRun with
    | some l =>
      if l.awaits e then
        { s with freeRun := some ⟨l.worker.step c e, .checking, l.events ++ [e]⟩ }
      else s
    | none => s
  | .takeSnapshot now order =>
    match s.freeRun with
    | some ⟨w, .checking, events⟩ =>
      if w.tcp = [] ∧ w.full = [] ∧ order.Perm (w.registry.snapshot now requireElite) then
        { s with freeRun := some ⟨w, .merging now [] order, events⟩ }
      else s
    | _ => s
  | .readFactor =>
    match s.freeRun with
    | some ⟨w, .merging now read (n :: rest), events⟩ =>
      let factor := s.gateway.router.freeFactor n.provider n.country
      { s with freeRun := some ⟨w, .merging now (read ++ [(n, factor)]) rest, events⟩ }
    | _ => s
  | .replaceVendorNodes =>
    match s.freeRun with
    | some ⟨w, .merging now read [], events⟩ =>
      let snap := read.map (fun p => RouterEngine.applyFactor p.2 p.1)
      { gateway := { s.gateway with router := s.gateway.router.replaceVendorNodes "free-" snap }
        freeRun := some ⟨w, .sleeping, events⟩
        given := s.given
        merges := s.merges ++ [⟨events, now, read.map Prod.fst⟩] }
    | _ => s
  | .router op =>
    { s with
      gateway := { s.gateway with router := s.gateway.router.step op }
      given := s.given ++ op.given }
  | .gateway op =>
    { s with gateway := s.gateway.step ucb op, given := s.given ++ op.given }

end FreePoolPath

end IPProxyPool
