import Mathlib.Algebra.Order.Floor.Ring
import Mathlib.Data.Rat.Floor
import IPProxyPool.Lib.BinaryFloat
import IPProxyPool.Lib.Run
import IPProxyPool.Model.Selection

/-!
# Pool writers and runs of the router

The control-plane and merge operations of `router.rs`, each atomic under `write_lock`, and the
step function of the whole router: every operation that changes it, with the arguments and the
instant it is called with. A run is a list of such operations.
-/

namespace IPProxyPool
open RustText AssocTable Transition BinaryFloat

/-- `x.round() as u32` for a finite `f64`: half away from zero, saturating at both ends. -/
def roundU32 (x : ℚ) : Nat := min ⌊x + 1 / 2⌋.toNat 4294967295

/-- Rounding exceeds `k` from the threshold `k + 1/2` on. -/
lemma lt_roundU32_iff (x : ℚ) (k : Nat) :
    k < roundU32 x ↔ (k : ℚ) + 1 / 2 ≤ x ∧ k < 4294967295 := by
  unfold roundU32
  rw [lt_min_iff, Int.lt_toNat, ← Int.add_one_le_iff, Int.le_floor]
  push_cast
  constructor
  · rintro ⟨hx, hk⟩
    exact ⟨by linarith, hk⟩
  · rintro ⟨hx, hk⟩
    exact ⟨by linarith, hk⟩

/-- The product is rounded to a double before it is rounded to an integer. -/
def scaledWeight (w : Nat) (factor : ℚ) : Nat :=
  if factor ≤ 0 then 0 else max (roundU32 (round64 (w * factor))) 1

/-- The weight that `set_paid_weight_boost` writes over a base weight, in saturating `u32`
arithmetic. -/
def boostedWeight (base boost : Nat) : Nat := max 1 (min (min (base * boost) 4294967295 / 100) 200)

namespace RouterEngine

def reloadNodes (r : RouterEngine) (newNodes : List ProxyNode) : RouterEngine :=
  r.storeNodes newNodes

def replaceVendorNodes (r : RouterEngine) (pre : String) (nodes : List ProxyNode) : RouterEngine :=
  let next := r.pools.filter (fun n => !startsWith n.provider pre) ++ nodes
  (r.storeNodes next).pruneFreeScales

/-- `add_node`; an address already in the pool is refused. -/
def addNode (r : RouterEngine) (node : ProxyNode) : Except String RouterEngine :=
  if r.pools.any (fun n => n.addr = node.addr) then
    .error ("node " ++ node.addr ++ " already exists")
  else .ok (r.storeNodes (r.pools ++ [node]))

/-- `remove_node` returns the first entry at the address and drops all of them. -/
def removeNode (r : RouterEngine) (addr : String) : Option ProxyNode × RouterEngine :=
  match r.pools.find? (fun n => n.addr = addr) with
  | none => (none, r)
  | some removed =>
    let next := r.pools.filter (fun n => n.addr ≠ addr)
    (some removed, { r.storeNodes next with paidBaseWeight := r.paidBaseWeight.erase addr })

/-- Whether the arbitrage operations on a vendor and a country reach the node. -/
def inVendorGroup (vendor country : String) (n : ProxyNode) : Bool :=
  n.provider = vendor && eqIgnoreAsciiCase n.country country

def adjustVendorWeight (r : RouterEngine) (vendor country : String) (weight : Nat) : RouterEngine :=
  r.storeNodes (r.pools.map (fun n =>
    if inVendorGroup vendor country n then { n with weight := weight } else n))

/-- One node of `set_paid_weight_boost`: the base weight is recorded on first sight. -/
def boostNode (boost : Nat) (base : Table String Nat) (n : ProxyNode) :
    Table String Nat × ProxyNode :=
  if startsWith n.provider "free" then (base, n)
  else
    match base.lookup n.addr with
    | some w => (base, { n with weight := boostedWeight w boost })
    | none => (base.insert n.addr n.weight, { n with weight := boostedWeight n.weight boost })

def boostNodes (boost : Nat) : Table String Nat → List ProxyNode →
    Table String Nat × List ProxyNode
  | base, [] => (base, [])
  | base, n :: ns =>
    let p := boostNode boost base n
    let q := boostNodes boost p.1 ns
    (q.1, p.2 :: q.2)

def setPaidWeightBoost (r : RouterEngine) (boostPercent : Nat) : RouterEngine :=
  let boost := max 1 (min boostPercent 500)
  let p := boostNodes boost r.paidBaseWeight r.pools
  { r.storeNodes p.2 with paidBaseWeight := p.1 }

/-- `scale_vendor_weights`. A factor of one is not recorded: it clears the entry. -/
def scaleVendorWeights (r : RouterEngine) (vendor country : String) (factor : ℚ) : RouterEngine :=
  let key := scaleKey vendor country
  let table := if factor = 1 then r.freeScale.erase key else r.freeScale.insert key factor
  { r.storeNodes (r.pools.map (fun n =>
      if inVendorGroup vendor country n then { n with weight := scaledWeight n.weight factor }
      else n)) with freeScale := table }

end RouterEngine

inductive RouterOp where
  | reloadNodes (nodes : List ProxyNode)
  | replaceVendorNodes (pre : String) (nodes : List ProxyNode)
  | addNode (node : ProxyNode)
  | removeNode (addr : String)
  | adjustVendorWeight (vendor country : String) (weight : Nat)
  | setPaidWeightBoost (boostPercent : Nat)
  | scaleVendorWeights (vendor country : String) (factor : ℚ)
  | setQuarantine (domain ip : String) (ttlSecs : Nat) (now : Instant)
  | removeQuarantine (domain ip : String)
  | sweepExpired (now : Instant)
  | select (spec : RoutingSpec) (excluded : List String) (now : Instant) (draw : Nat)

/-- A refused `add_node` leaves the router as it is. -/
def RouterEngine.step (r : RouterEngine) : RouterOp → RouterEngine
  | .reloadNodes nodes => r.reloadNodes nodes
  | .replaceVendorNodes pre nodes => r.replaceVendorNodes pre nodes
  | .addNode node => match r.addNode node with
    | .ok r' => r'
    | .error _ => r
  | .removeNode addr => (r.removeNode addr).2
  | .adjustVendorWeight vendor country weight => r.adjustVendorWeight vendor country weight
  | .setPaidWeightBoost boostPercent => r.setPaidWeightBoost boostPercent
  | .scaleVendorWeights vendor country factor => r.scaleVendorWeights vendor country factor
  | .setQuarantine domain ip ttlSecs now => r.setQuarantine domain ip ttlSecs now
  | .removeQuarantine domain ip => (r.removeQuarantine domain ip).2
  | .sweepExpired now => (r.sweepExpiredAt now).2
  | .select spec excluded now draw => (r.selectNodeExcluding spec excluded now draw).2

def RouterOp.writesPool : RouterOp → Bool
  | .reloadNodes _ => true
  | .replaceVendorNodes _ _ => true
  | .addNode _ => true
  | .removeNode _ => true
  | .adjustVendorWeight _ _ _ => true
  | .setPaidWeightBoost _ => true
  | .scaleVendorWeights _ _ _ => true
  | .setQuarantine _ _ _ _ => false
  | .removeQuarantine _ _ => false
  | .sweepExpired _ => false
  | .select _ _ _ _ => false

end IPProxyPool
