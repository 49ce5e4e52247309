import IPProxyPool.Lib.Mutex
import IPProxyPool.Model.Writers

/-!
# Pool writers as critical sections

Each writer takes `write_lock`, loads the snapshot of the pool, computes the next one, and stores
the pool and the two indexes one after the other; reads and writes of the side tables are steps of
their own. Undisturbed, the steps of a writer are the operation that `Writers` gives it.
-/

namespace IPProxyPool
open RustText AssocTable Mutex

inductive PoolWriter where
  | reloadNodes (nodes : List ProxyNode)
  | replaceVendorNodes (pre : String) (nodes : List ProxyNode)
  | addNode (node : ProxyNode)
  | removeNode (addr : String)
  | adjustVendorWeight (vendor country : String) (weight : Nat)
  | setPaidWeightBoost (boostPercent : Nat)
  | scaleVendorWeights (vendor country : String) (factor : ℚ)

inductive WriterResult where
  | unit
  | added (res : Except String Unit)
  | removed (node : Option ProxyNode)

namespace PoolWriter

/-- The operation as a whole. -/
def apply (r : RouterEngine) : PoolWriter → RouterEngine × WriterResult
  | .reloadNodes nodes => (r.reloadNodes nodes, .unit)
  | .replaceVendorNodes pre nodes => (r.replaceVendorNodes pre nodes, .unit)
  | .addNode node =>
    match r.addNode node with
    | .ok r' => (r', .added (.ok ()))
    | .error e => (r, .added (.error e))
  | .removeNode addr => ((r.removeNode addr).2, .removed (r.removeNode addr).1)
  | .adjustVendorWeight vendor country weight => (r.adjustVendorWeight vendor country weight, .unit)
  | .setPaidWeightBoost boostPercent => (r.setPaidWeightBoost boostPercent, .unit)
  | .scaleVendorWeights vendor country factor => (r.scaleVendorWeights vendor country factor, .unit)

end PoolWriter

/-! ### The steps -/

abbrev WriterProgram := Program RouterEngine WriterResult

def loadPools (next : List ProxyNode → WriterProgram) : WriterProgram :=
  .act id (fun r => next r.pools)

/-- `store_nodes`: three stores, the pool first. -/
def storeNodesSteps (nodes : List ProxyNode) (next : WriterProgram) : WriterProgram :=
  .act (fun r => { r with pools := nodes }) (fun _ =>
    .act (fun r => { r with buckets := buildBuckets nodes }) (fun _ =>
      .act (fun r => { r with hotNodes := buildHotNodes nodes }) (fun _ => next)))

/-- `prune_free_scales`: the pool is loaded again, and the factors without a node in it go. -/
def pruneFreeScalesSteps (next : WriterProgram) : WriterProgram :=
  loadPools (fun pools => .act (fun r => { r with
      freeScale := RouterEngine.pruneFreeScales { r with pools := pools } |>.freeScale })
    (fun _ => next))

/-- The pass of `set_paid_weight_boost`: one access to the table of base weights for each node. -/
def boostSteps (boost : Nat) : List ProxyNode → List ProxyNode → WriterProgram
  | [], boosted => storeNodesSteps boosted (.ret .unit)
  | n :: ns, boosted =>
    .act (fun r => { r with
        paidBaseWeight := (RouterEngine.boostNode boost r.paidBaseWeight n).1 })
      (fun r => boostSteps boost ns
        (boosted ++ [(RouterEngine.boostNode boost r.paidBaseWeight n).2]))

namespace PoolWriter

def program : PoolWriter → WriterProgram
  | .reloadNodes nodes => storeNodesSteps nodes (.ret .unit)
  | .replaceVendorNodes pre nodes => loadPools (fun pools =>
      storeNodesSteps (pools.filter (fun n => !startsWith n.provider pre) ++ nodes)
        (pruneFreeScalesSteps (.ret .unit)))
  | .addNode node => loadPools (fun pools =>
      if pools.any (fun n => n.addr = node.addr) then
        .ret (.added (.error ("node " ++ node.addr ++ " already exists")))
      else storeNodesSteps (pools ++ [node]) (.ret (.added (.ok ()))))
  | .removeNode addr => loadPools (fun pools =>
      match pools.find? (fun n => n.addr = addr) with
      | none => .ret (.removed none)
      | some removed => storeNodesSteps (pools.filter (fun n => n.addr ≠ addr))
          (.act (fun r => { r with paidBaseWeight := r.paidBaseWeight.erase addr })
            (fun _ => .ret (.removed (some removed)))))
  | .adjustVendorWeight vendor country weight => loadPools (fun pools =>
      storeNodesSteps (pools.map (fun n =>
        if RouterEngine.inVendorGroup vendor country n then { n with weight := weight } else n))
        (.ret .unit))
  | .setPaidWeightBoost boostPercent => loadPools (fun pools =>
      boostSteps (max 1 (min boostPercent 500)) pools [])
  | .scaleVendorWeights vendor country factor =>
    -- the factor is recorded before the snapshot is loaded
    .act (fun r => { r with
        freeScale := if factor = 1 then r.freeScale.erase (scaleKey vendor country)
          else r.freeScale.insert (scaleKey vendor country) factor })
      (fun _ => loadPools (fun pools =>
        storeNodesSteps (pools.map (fun n =>
          if RouterEngine.inVendorGroup vendor country n then
            { n with weight := scaledWeight n.weight factor }
          else n)) (.ret .unit)))

end PoolWriter

/-! ### Undisturbed writers -/

@[simp] lemma exec_loadPools (next : List ProxyNode → WriterProgram) (r : RouterEngine) :
    (loadPools next).exec r = (next r.pools).exec r := rfl

lemma exec_boostSteps (boost : Nat) (ns boosted : List ProxyNode) (r : RouterEngine) :
    (boostSteps boost ns boosted).exec r =
      ({ r.storeNodes (boosted ++ (RouterEngine.boostNodes boost r.paidBaseWeight ns).2) with
          paidBaseWeight := (RouterEngine.boostNodes boost r.paidBaseWeight ns).1 }, .unit) := by
  induction ns generalizing boosted r with
  | nil =>
    rw [RouterEngine.boostNodes, List.append_nil]
    rfl
  | cons n ns ih =>
    rw [boostSteps, Program.exec_act, ih, List.append_assoc]
    rfl

/-- Alone, the steps of a writer are its operation. -/
theorem exec_program (w : PoolWriter) (r : RouterEngine) : w.program.exec r = w.apply r := by
  cases w with
  | reloadNodes nodes => rfl
  | replaceVendorNodes pre nodes => rfl
  | addNode node =>
    rw [PoolWriter.program, PoolWriter.apply, exec_loadPools, RouterEngine.addNode]
    by_cases hdup : r.pools.any (fun n => n.addr = node.addr) = true
    · rw [if_pos hdup, if_pos hdup]
      rfl
    · rw [if_neg hdup, if_neg hdup]
      rfl
  | removeNode addr =>
    rw [PoolWriter.program, PoolWriter.apply, exec_loadPools, RouterEngine.removeNode]
    cases r.pools.find? (fun n => n.addr = addr) <;> rfl
  | adjustVendorWeight vendor country weight => rfl
  | setPaidWeightBoost boostPercent =>
    rw [PoolWriter.program, exec_loadPools, exec_boostSteps]
    rfl
  | scaleVendorWeights vendor country factor => rfl

end IPProxyPool
