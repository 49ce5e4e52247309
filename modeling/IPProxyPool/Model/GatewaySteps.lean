import IPProxyPool.Model.ArmUpdate
import IPProxyPool.Model.Writers

/-!
# Arms beside the pool

The table of bandit arms is written by selections and by `logging`, and pruned by a background
task, while the pool changes under its own lock. First the operations as a whole, then
`prune_stale_arms` as the atomic steps that other threads can fall between.
-/

namespace IPProxyPool
open AssocTable

/-- The reward that `logging` books on the arm of the node that served. -/
def rewardArm (arms : Table String BanditArm) (node : ProxyNode) (context : VectorD)
    (reward : ℚ) : Table String BanditArm :=
  let (arm, arms) := armFor arms node
  arms.insert node.addr (arm.update context reward)

/-- `removed_count` of `janitor.rs`, a saturating subtraction. -/
def removedCount (before after : Nat) : Nat := before - after

def poolAddrs (r : RouterEngine) : List String := r.pools.map ProxyNode.addr

def pruneStaleArms (arms : Table String BanditArm) (r : RouterEngine) :
    Nat × Table String BanditArm :=
  let alive := poolAddrs r
  let kept := retain (fun key _ => key ∈ alive) arms
  (removedCount (len arms) (len kept), kept)

/-! ### Whole operations -/

inductive GatewayOp where
  | addNode (node : ProxyNode)
  | removeNode (addr : String)
  | replaceVendorNodes (pre : String) (nodes : List ProxyNode)
  | select (spec : RoutingSpec) (excluded : List String) (context : VectorD) (now : Instant)
  | logUpdate (node : ProxyNode) (context : VectorD) (reward : ℚ)
  | pruneStaleArms

namespace SmartProxyGateway

/-- The gateway at start. -/
def initial (nodes : List ProxyNode) : SmartProxyGateway where
  router := .new nodes
  banditArms := ∅
  tierQuotaWindow := .empty
  selections := 0

/-- The candidates that the scoring pass of a selection goes through. -/
def scored (g : SmartProxyGateway) (spec : RoutingSpec) (excluded : List String) (now : Instant) :
    List ProxyNode :=
  let candidates := g.router.scan spec excluded now
  let forced := if excluded.isEmpty then
      tierQuotaForcedTier g.tierQuotaWindow (fun _ => candidates)
    else none
  quotaFilter forced candidates

def step (ucb : BanditArm → VectorD → Nat → ℚ) (g : SmartProxyGateway) :
    GatewayOp → SmartProxyGateway
  | .addNode node => { g with router := g.router.step (.addNode node) }
  | .removeNode addr => { g with router := g.router.step (.removeNode addr) }
  | .replaceVendorNodes pre nodes => { g with router := g.router.replaceVendorNodes pre nodes }
  | .select spec excluded context now =>
    (g.selectBanditNodeExcluding ucb spec excluded context now).2
  | .logUpdate node context reward =>
    { g with banditArms := rewardArm g.banditArms node context reward }
  | .pruneStaleArms => { g with banditArms := (IPProxyPool.pruneStaleArms g.banditArms g.router).2 }

end SmartProxyGateway

/-! ### The prune in steps -/

/-- Where a call of `prune_stale_arms` stands: it has taken the addresses of the pool, then it has
read the number of arms and goes through the keys, then it has returned. -/
inductive PrunePhase where
  | idle
  | snapshotted (alive : List String)
  | removing (alive : List String) (before : Nat)
  | returned (count : Nat)
  deriving DecidableEq

/-- The pool, the arms, and any number of calls of the prune. -/
structure PruneState where
  router : RouterEngine
  arms : Table String BanditArm
  phase : Nat → PrunePhase

/-- `visit` is the turn of one key in `retain`. -/
inductive PruneEvent where
  | snapshot (i : Nat)
  | readLen (i : Nat)
  | visit (i : Nat) (key : String)
  | finish (i : Nat)
  | addNode (node : ProxyNode)
  | removeNode (addr : String)
  | replaceVendorNodes (pre : String) (nodes : List ProxyNode)
  | armFor (node : ProxyNode)
  | update (addr : String) (context : VectorD) (reward : ℚ)

namespace PruneState

def initial (nodes : List ProxyNode) : PruneState where
  router := .new nodes
  arms := ∅
  phase := fun _ => .idle

def move (s : PruneState) (i : Nat) (p : PrunePhase) : PruneState :=
  { s with phase := Function.update s.phase i p }

/-- A step out of turn leaves the state as it is. -/
def step (s : PruneState) : PruneEvent → PruneState
  | .snapshot i =>
    match s.phase i with
    | .idle => s.move i (.snapshotted (poolAddrs s.router))
    | _ => s
  | .readLen i =>
    match s.phase i with
    | .snapshotted alive => s.move i (.removing alive (len s.arms))
    | _ => s
  | .visit i key =>
    match s.phase i with
    | .removing alive _ => if key ∈ alive then s else { s with arms := s.arms.erase key }
    | _ => s
  | .finish i =>
    match s.phase i with
    | .removing _ before => s.move i (.returned (removedCount before (len s.arms)))
    | _ => s
  | .addNode node => { s with router := s.router.step (.addNode node) }
  | .removeNode addr => { s with router := s.router.step (.removeNode addr) }
  | .replaceVendorNodes pre nodes => { s with router := s.router.replaceVendorNodes pre nodes }
  | .armFor node => { s with arms := (armFor s.arms node).2 }
  | .update addr context reward =>
    match s.arms.lookup addr with
    | some arm => { s with arms := s.arms.insert addr (arm.update context reward) }
    | none => s

end PruneState

end IPProxyPool
