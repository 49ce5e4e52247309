import IPProxyPool.Model.Admin
import IPProxyPool.Model.Arbitrage
import IPProxyPool.Model.FreePool

/-!
# The control plane beside the background tasks

Admin requests are checked against the live pool before they take the registry lock, and a call
that holds the lock writes the file, changes the router and updates the list in separate steps.
Merges, audits, autotune and traffic reach the router between any two of these steps; the router's
own lock makes each of their writes one step.
-/

namespace IPProxyPool
open RustText Transition

/-! ### Calls under the lock -/

/-- What the closure of a call does to the router. -/
inductive RouterEdit where
  | addNode (node : ProxyNode)
  | removeNode (addr : String)
  | adjustVendorWeight (provider country : String) (weight : Nat)

def RouterEngine.applyEdit (r : RouterEngine) : RouterEdit → Except String Unit × RouterEngine
  | .addNode node => r.applyAdd node
  | .removeNode addr => match r.applyRemove addr with
    | (true, r') => (.ok (), r')
    | (false, r') => (.error ("router no longer contains " ++ addr), r')
  | .adjustVendorWeight provider country weight => r.applyWeight provider country weight

/-- The writer of the router that an edit stands for. -/
def RouterEdit.op : RouterEdit → RouterOp
  | .addNode node => .addNode node
  | .removeNode addr => .removeNode addr
  | .adjustVendorWeight provider country weight => .adjustVendorWeight provider country weight

/-- The pools in which the router carries the edit out. -/
def RouterEdit.Fits (pool : List ProxyNode) : RouterEdit → Prop
  | .addNode node => ∀ n ∈ pool, n.addr ≠ node.addr
  | .removeNode addr => ∃ n ∈ pool, n.addr = addr
  | .adjustVendorWeight _ _ _ => True

/-- An edit leaves the router as it is, or it is the writer it stands for. -/
lemma applyEdit_cases (r : RouterEngine) (edit : RouterEdit) :
    (∃ e, r.applyEdit edit = (.error e, r)) ∨
      r.applyEdit edit = (.ok (), r.step edit.op) ∧ edit.Fits r.pools := by
  cases edit with
  | addNode node =>
    rw [RouterEngine.applyEdit, RouterEngine.applyAdd, RouterEdit.op, RouterEngine.step,
      RouterEngine.addNode]
    by_cases hdup : r.pools.any (fun n => n.addr = node.addr) = true
    · rw [if_pos hdup]
      exact .inl ⟨_, rfl⟩
    · rw [if_neg hdup]
      refine .inr ⟨rfl, fun n hn haddr => ?_⟩
      exact hdup (List.any_eq_true.mpr ⟨n, hn, decide_eq_true haddr⟩)
  | removeNode addr =>
    rw [RouterEngine.applyEdit, RouterEngine.applyRemove, RouterEdit.op, RouterEngine.step,
      RouterEngine.removeNode]
    cases hfind : r.pools.find? (fun n => n.addr = addr) with
    | none => exact .inl ⟨_, rfl⟩
    | some removed =>
      have haddr := List.find?_some hfind
      exact .inr ⟨rfl, removed, List.mem_of_find?_eq_some hfind, of_decide_eq_true haddr⟩
  | adjustVendorWeight provider country weight => exact .inr ⟨rfl, trivial⟩

lemma applyEdit_error {r r' : RouterEngine} {edit : RouterEdit} {e : String}
    (h : r.applyEdit edit = (.error e, r')) : r' = r := by
  rcases applyEdit_cases r edit with ⟨e', herr⟩ | ⟨hok, -⟩
  · rw [herr] at h
    exact (congrArg Prod.snd h).symm
  · rw [hok] at h
    cases h

lemma applyEdit_ok {r r' : RouterEngine} {edit : RouterEdit}
    (h : r.applyEdit edit = (.ok (), r')) : r' = r.step edit.op ∧ edit.Fits r.pools := by
  rcases applyEdit_cases r edit with ⟨e, herr⟩ | ⟨hok, hfits⟩
  · rw [herr] at h
    cases h
  · rw [hok] at h
    exact ⟨(congrArg Prod.snd h).symm, hfits⟩

/-- The plan of a call, with its edit of the router in place of the value it returns. -/
def RouterCall.plan (m : ManagedNodes) : RouterCall → Except RegistryError (Plan RouterEdit)
  | .add raw => (m.planAdd raw).map (fun p => ⟨.addNode p.value, p.next, p.writes⟩)
  | .remove addr => (m.planRemove addr).map (fun p => ⟨.removeNode addr, p.next, p.writes⟩)
  | .setGroupWeight provider country weight =>
    (m.planSetGroupWeight provider country weight).map
      (fun p => ⟨.adjustVendorWeight provider country weight, p.next, p.writes⟩)

inductive CallPhase where
  | planned
  | written
  | applied
  | refused (e : String)

structure LockedCall where
  plan : Plan RouterEdit
  phase : CallPhase

/-! ### Background writes -/

/-- A write or a read of the router without an operator: a merge with the factors it has read, a
result of either branch of an audit, autotune, or traffic. -/
inductive Background where
  | mergeOnce (snap : RegistrySnapshot) (factor : ProxyNode → ℚ)
  | paidResult (result : SlaResult)
  | freeResult (result : SlaResult) (hfree : startsWith result.vendor "free-" = true)
  | setPaidWeightBoost (boostPercent : Nat)
  | traffic (op : RouterOp) (hop : op.writesPool = false)

def RouterEngine.background (r : RouterEngine) : Background → RouterEngine
  | .mergeOnce snap factor =>
    r.replaceVendorNodes "free-" (snap.nodes.map (fun n => RouterEngine.applyFactor (factor n) n))
  | .paidResult result => r.applyPaidResult result
  | .freeResult result _ => r.applyFreeResult result
  | .setPaidWeightBoost boostPercent => r.setPaidWeightBoost boostPercent
  | .traffic op _ => r.step op

/-! ### The system -/

/-- The registry over the router, the requests that passed their checks and wait for the lock, and
the call that holds it. -/
structure ControlPlane where
  registry : NodeRegistry RouterEngine
  admitted : List RouterCall
  locked : Option LockedCall

inductive PlaneEvent where
  | addRequest (payload : Except String AddNodeRequest)
  | deleteRequest (addr : String)
  | weightRequest (addr : String) (body : Except String Nat)
  | lock (i : Nat)
  | persist (io : PersistIo)
  | apply
  | rollback (io : PersistIo)
  | finish
  | background (b : Background)

namespace ControlPlane

def router (s : ControlPlane) : RouterEngine := s.registry.world

def enqueue (s : ControlPlane) (call : RouterCall) : ControlPlane :=
  { s with admitted := s.admitted ++ [call] }

/-- The lock is taken for good by a call that can be planned; any other returns at once. -/
def takeLock (s : ControlPlane) (i : Nat) (call : RouterCall) : ControlPlane :=
  { s with
    admitted := s.admitted.eraseIdx i
    locked := match call.plan s.registry.nodes with
      | .ok plan => some ⟨plan, .planned⟩
      | .error _ => none }

variable (cfg : RegistryConfig)

def persistPlan (s : ControlPlane) (plan : Plan RouterEdit) (io : PersistIo) : ControlPlane :=
  match if plan.writes then cfg.persist s.registry.file plan.next io else .ok s.registry.file with
  | .ok file => { s with registry := { s.registry with file }, locked := some ⟨plan, .written⟩ }
  | .error _ => { s with locked := none }

/-- A refusal is rolled back where something was written. -/
def applyPlan (s : ControlPlane) (plan : Plan RouterEdit) : ControlPlane :=
  match s.router.applyEdit plan.value with
  | (.ok (), world) => { s with registry := { s.registry with world }, locked := some ⟨plan, .applied⟩ }
  | (.error e, world) =>
    { s with
      registry := { s.registry with world }
      locked := if plan.writes then some ⟨plan, .refused e⟩ else none }

def rollBack (s : ControlPlane) (io : PersistIo) : ControlPlane :=
  match cfg.persist s.registry.file s.registry.nodes io with
  | .ok file => { s with registry := { s.registry with file }, locked := none }
  | .error _ => { s with locked := none }

def finishPlan (s : ControlPlane) (plan : Plan RouterEdit) : ControlPlane :=
  { s with
    registry := { s.registry with nodes := if plan.writes then plan.next else s.registry.nodes }
    locked := none }

variable (debug : String → String)

/-- One step. A step of a call that is out of turn does nothing. -/
def step (s : ControlPlane) : PlaneEvent → ControlPlane
  | .addRequest payload =>
    match admitAdd debug s.router payload with
    | .ok raw => s.enqueue (.add raw)
    | .error _ => s
  | .deleteRequest addr =>
    match admitDelete s.router addr with
    | .ok () => s.enqueue (.remove addr)
    | .error _ => s
  | .weightRequest addr body =>
    match admitWeight s.router addr body with
    | .ok (target, weight) => s.enqueue (.setGroupWeight target.provider target.country weight)
    | .error _ => s
  | .lock i =>
    match s.locked, s.admitted[i]? with
    | none, some call => s.takeLock i call
    | _, _ => s
  | .persist io =>
    match s.locked with
    | some ⟨plan, .planned⟩ => s.persistPlan cfg plan io
    | _ => s
  | .apply =>
    match s.locked with
    | some ⟨plan, .written⟩ => s.applyPlan plan
    | _ => s
  | .rollback io =>
    match s.locked with
    | some ⟨_, .refused _⟩ => s.rollBack cfg io
    | _ => s
  | .finish =>
    match s.locked with
    | some ⟨plan, .applied⟩ => s.finishPlan plan
    | _ => s
  | .background b => { s with registry := { s.registry with world := s.router.background b } }

/-- After startup: the pool is the managed list followed by the test nodes. -/
def boot (m : ManagedNodes) (file : FileState) (testNodes : List ProxyNode) : ControlPlane where
  registry := ⟨m, file, .new (m.nodes ++ testNodes)⟩
  admitted := []
  locked := none

end ControlPlane

/-! ### Undisturbed calls -/

lemma execute_map_void {α β ω : Type} (cfg : RegistryConfig) (s : NodeRegistry ω)
    (plan : Except RegistryError (Plan α)) (f : Plan α → β) {apply : α → ω → Except String Unit × ω}
    {apply' : β → ω → Except String Unit × ω} (happly : ∀ p, apply' (f p) = apply p.value)
    (calls : CallIo) :
    (s.execute cfg (plan.map (fun p => ⟨f p, p.next, p.writes⟩)) apply' calls).void =
      (s.execute cfg plan apply calls).void := by
  cases plan with
  | error e => rfl
  | ok p =>
    change (s.carryOut cfg ⟨f p, p.next, p.writes⟩ (apply' (f p)) calls).void =
      (s.carryOut cfg p (apply p.value) calls).void
    rw [happly p]
    unfold NodeRegistry.carryOut
    dsimp only
    cases if p.writes then cfg.persist s.file p.next calls.write else .ok s.file with
    | error e => rfl
    | ok file =>
      dsimp only
      rcases apply p.value s.world with ⟨res, world⟩
      cases res with
      | ok u => rfl
      | error e =>
        dsimp only
        cases p.writes with
        | false => rfl
        | true => cases cfg.persist file s.nodes calls.rollback <;> rfl

/-- A call is the execution of its plan on the router. -/
lemma perform_toCall (cfg : RegistryConfig) (s : NodeRegistry RouterEngine) (call : RouterCall)
    (calls : CallIo) :
    s.perform cfg (call.toCall calls) =
      (s.execute cfg (call.plan s.nodes) (fun edit r => r.applyEdit edit) calls).void := by
  cases call with
  | add raw =>
    rw [RouterCall.toCall, NodeRegistry.perform, NodeRegistry.add, RouterCall.plan]
    symm
    apply execute_map_void
    intro p
    rfl
  | remove addr =>
    rw [RouterCall.toCall, NodeRegistry.perform, NodeRegistry.remove, RouterCall.plan]
    symm
    apply execute_map_void
    intro p
    funext r
    dsimp only [RouterEngine.applyEdit]
    generalize r.applyRemove addr = outcome
    rcases outcome with ⟨found, r'⟩
    cases found with
    | true => rfl
    | false => rfl
  | setGroupWeight provider country weight =>
    rw [RouterCall.toCall, NodeRegistry.perform, NodeRegistry.setGroupWeight,
      RouterCall.plan]
    symm
    apply execute_map_void
    intro p
    rfl

namespace ControlPlane

def callAlone (calls : CallIo) : List PlaneEvent :=
  [.lock 0, .persist calls.write, .apply, .rollback calls.rollback, .finish]

/-- Run without interruption, the steps of a call are the operation of the registry. -/
theorem run_callAlone (cfg : RegistryConfig) (debug : String → String)
    (s : NodeRegistry RouterEngine) (call : RouterCall) (calls : CallIo) :
    run (step cfg debug) ⟨s, [call], none⟩ (callAlone calls) =
      ⟨(s.perform cfg (call.toCall calls)).next, [], none⟩ := by
  rw [perform_toCall, Outcome.void_next]
  unfold callAlone NodeRegistry.execute
  simp only [run_cons, run_nil]
  have hlock : step cfg debug ⟨s, [call], none⟩ (.lock 0) = takeLock ⟨s, [call], none⟩ 0 call := rfl
  rw [hlock, takeLock]
  dsimp only [List.eraseIdx]
  cases call.plan s.nodes with
  | error e => rfl
  | ok plan =>
    dsimp only [step, persistPlan, NodeRegistry.carryOut]
    cases if plan.writes then cfg.persist s.file plan.next calls.write else .ok s.file with
    | error e => rfl
    | ok file =>
      dsimp only [applyPlan, router]
      rcases s.world.applyEdit plan.value with ⟨res, world⟩
      cases res with
      | ok u => rfl
      | error e =>
        dsimp only
        cases hw : plan.writes with
        | false => rfl
        | true =>
          dsimp only [if_true, rollBack]
          cases cfg.persist file s.nodes calls.rollback with
          | ok file' => rfl
          | error rb => rfl

lemma run_callAlone_idle (cfg : RegistryConfig) (debug : String → String)
    (s : NodeRegistry RouterEngine) (calls : CallIo) :
    run (step cfg debug) ⟨s, [], none⟩ (callAlone calls) = ⟨s, [], none⟩ := rfl

/-- A request by itself is its handler. -/
theorem run_addRequest (cfg : RegistryConfig) (debug : String → String)
    (s : NodeRegistry RouterEngine) (payload : Except String AddNodeRequest) (calls : CallIo) :
    run (step cfg debug) ⟨s, [], none⟩ (.addRequest payload :: callAlone calls) =
      ⟨(addNodeHandler cfg debug s payload calls).2, [], none⟩ := by
  rw [run_cons, step, addNodeHandler]
  change run _ (match admitAdd debug s.world payload with
    | .ok raw => _
    | .error _ => _) _ = _
  cases admitAdd debug s.world payload with
  | error e => exact run_callAlone_idle cfg debug s calls
  | ok raw =>
    refine (run_callAlone cfg debug s (.add raw) calls).trans ?_
    rw [RouterCall.toCall, NodeRegistry.perform, Outcome.void_next]
    dsimp only
    generalize s.add cfg raw RouterEngine.applyAdd calls = o
    rcases o with ⟨result, rollback, wrote, next⟩
    cases result <;> rfl

theorem run_deleteRequest (cfg : RegistryConfig) (debug : String → String)
    (s : NodeRegistry RouterEngine) (addr : String) (calls : CallIo) :
    run (step cfg debug) ⟨s, [], none⟩ (.deleteRequest addr :: callAlone calls) =
      ⟨(deleteNodeHandler cfg debug s addr calls).2, [], none⟩ := by
  rw [run_cons, step, deleteNodeHandler]
  change run _ (match admitDelete s.world addr with
    | .ok () => _
    | .error _ => _) _ = _
  cases admitDelete s.world addr with
  | error e => exact run_callAlone_idle cfg debug s calls
  | ok u =>
    refine (run_callAlone cfg debug s (.remove addr) calls).trans ?_
    rw [RouterCall.toCall, NodeRegistry.perform, Outcome.void_next]
    dsimp only
    generalize s.remove cfg addr RouterEngine.applyRemove calls = o
    rcases o with ⟨result, rollback, wrote, next⟩
    cases result <;> rfl

theorem run_weightRequest (cfg : RegistryConfig) (debug : String → String)
    (s : NodeRegistry RouterEngine) (addr : String) (body : Except String Nat) (calls : CallIo) :
    run (step cfg debug) ⟨s, [], none⟩ (.weightRequest addr body :: callAlone calls) =
      ⟨(patchNodeWeightHandler cfg debug s addr body calls).2, [], none⟩ := by
  rw [run_cons, step, patchNodeWeightHandler]
  change run _ (match admitWeight s.world addr body with
    | .ok (target, weight) => _
    | .error _ => _) _ = _
  cases admitWeight s.world addr body with
  | error e => exact run_callAlone_idle cfg debug s calls
  | ok p =>
    obtain ⟨target, weight⟩ := p
    refine (run_callAlone cfg debug s
      (.setGroupWeight target.provider target.country weight) calls).trans ?_
    rw [RouterCall.toCall, NodeRegistry.perform, Outcome.void_next]
    dsimp only
    generalize s.setGroupWeight cfg target.provider target.country weight RouterEngine.applyWeight
      calls = o
    rcases o with ⟨result, rollback, wrote, next⟩
    cases result with
    | error e => rfl
    | ok changed =>
      dsimp only
      cases next.world.getNodeByAddr addr <;> rfl

end ControlPlane

end IPProxyPool
