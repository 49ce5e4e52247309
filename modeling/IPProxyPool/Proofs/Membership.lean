import IPProxyPool.Model.ControlPlane
import IPProxyPool.Proofs.RegistryRoundTrip
import IPProxyPool.Proofs.NodeClasses
import IPProxyPool.Proofs.Indexes

/-!
# Membership of registry and pool

Background writes change weights and the free group only, and a call of the registry edits the list
and the pool alike. So whenever no call holds the lock every managed node leads its address in the
pool, and a removed address is in neither until an addition or a merge brings it back.
-/

namespace IPProxyPool
open RustText Transition

/-! ### Reweighted pools -/

/-- The same nodes in the same order, up to their weights. -/
def Reweighted : List ProxyNode → List ProxyNode → Prop :=
  List.Forall₂ (fun n k => ∃ w, k = { n with weight := w })

lemma reweighted_refl (l : List ProxyNode) : Reweighted l l :=
  List.forall₂_same.mpr (fun n _ => ⟨n.weight, rfl⟩)

/-- New weights for the nodes with a property. -/
lemma reweighted_map (p : ProxyNode → Bool) (weight : ProxyNode → Nat) (l : List ProxyNode) :
    Reweighted l (l.map (fun n => if p n then { n with weight := weight n } else n)) := by
  apply List.forall₂_map_right_iff.mpr
  apply List.forall₂_same.mpr
  intro n _
  split
  · exact ⟨weight n, rfl⟩
  · exact ⟨n.weight, rfl⟩

/-- A boost treats every node by itself, from the record as it stands when its turn comes. -/
lemma boostNodes_forall₂ (boost : Nat) (base : AssocTable.Table String Nat) (l : List ProxyNode) :
    List.Forall₂ (fun n k => ∃ base', k = RouterEngine.boosted boost base' n) l
      (RouterEngine.boostNodes boost base l).2 := by
  induction l generalizing base with
  | nil => exact List.Forall₂.nil
  | cons n ns ih =>
    exact List.Forall₂.cons ⟨base, RouterEngine.boostNode_snd boost base n⟩ (ih _)

lemma reweighted_boostNodes (boost : Nat) (base : AssocTable.Table String Nat)
    (l : List ProxyNode) : Reweighted l (RouterEngine.boostNodes boost base l).2 := by
  refine (boostNodes_forall₂ boost base l).imp ?_
  rintro n k ⟨base', rfl⟩
  unfold RouterEngine.boosted
  split
  · exact ⟨n.weight, rfl⟩
  · exact ⟨_, rfl⟩

namespace Reweighted

variable {l l' : List ProxyNode}

lemma find?_addr (h : Reweighted l l') {addr : String} {n : ProxyNode}
    (hn : l.find? (fun k => k.addr = addr) = some n) :
    ∃ w, l'.find? (fun k => k.addr = addr) = some { n with weight := w } := by
  induction h with
  | nil => cases hn
  | @cons a b l l' hab _ ih =>
    obtain ⟨w, rfl⟩ := hab
    by_cases ha : a.addr = addr
    · rw [List.find?_cons_of_pos (by simpa using ha), Option.some.injEq] at hn
      rw [List.find?_cons_of_pos (by simpa using ha), ← hn]
      exact ⟨w, rfl⟩
    · rw [List.find?_cons_of_neg (by simpa using ha)] at hn
      rw [List.find?_cons_of_neg (by simpa using ha)]
      exact ih hn

lemma map_addr (h : Reweighted l l') : l'.map ProxyNode.addr = l.map ProxyNode.addr := by
  induction h with
  | nil => rfl
  | cons hab _ ih =>
    obtain ⟨w, rfl⟩ := hab
    rw [List.map_cons, List.map_cons, ih]

end Reweighted

/-- A background write other than a merge changes weights only. -/
lemma background_cases (r : RouterEngine) (b : Background) :
    (∃ snap factor, b = .mergeOnce snap factor) ∨ Reweighted r.pools (r.background b).pools := by
  cases b with
  | mergeOnce snap factor => exact .inl ⟨snap, factor, rfl⟩
  | paidResult result =>
    right
    unfold RouterEngine.background RouterEngine.applyPaidResult
    dsimp only
    split
    · exact reweighted_refl _
    · split
      · exact reweighted_map _ _ _
      · exact reweighted_refl _
  | freeResult result hfree =>
    right
    unfold RouterEngine.background RouterEngine.applyFreeResult
    dsimp only
    split
    · exact reweighted_refl _
    · split
      · exact reweighted_map _ _ _
      · exact reweighted_refl _
  | setPaidWeightBoost boostPercent => exact .inr (reweighted_boostNodes _ _ _)
  | traffic op hop =>
    right
    change Reweighted r.pools (r.step op).pools
    rw [(RouterEngine.samePool_step r op hop).pools]
    exact reweighted_refl _

/-! ### Managed nodes lead their addresses -/

/-- Every managed node is, up to its weight, the first entry of the pool at its address. -/
def Leads (m : ManagedNodes) (pool : List ProxyNode) : Prop :=
  ∀ n ∈ m.nodes, ∃ w, pool.find? (fun k => k.addr = n.addr) = some { n with weight := w }

namespace Leads

variable {m : ManagedNodes} {pool pool' : List ProxyNode}

lemma reweighted (h : Leads m pool) (hpool : Reweighted pool pool') : Leads m pool' := by
  intro n hn
  obtain ⟨w, hw⟩ := h n hn
  obtain ⟨w', hw'⟩ := hpool.find?_addr hw
  exact ⟨w', hw'⟩

lemma append (h : Leads m pool) (nodes : List ProxyNode) : Leads m (pool ++ nodes) := by
  intro n hn
  obtain ⟨w, hw⟩ := h n hn
  exact ⟨w, by rw [List.find?_append, hw, Option.some_or]⟩

/-- Entries that go while a node stays do not come before it at its address. -/
lemma filter {p : ProxyNode → Bool} (h : Leads m pool)
    (hp : ∀ n ∈ m.nodes, ∀ w, p { n with weight := w } = true) : Leads m (pool.filter p) := by
  intro n hn
  obtain ⟨w, hw⟩ := h n hn
  refine ⟨w, ?_⟩
  have hkeep := hp n hn w
  clear h hn hp
  induction pool with
  | nil => cases hw
  | cons k pool ih =>
    by_cases hk : k.addr = n.addr
    · rw [List.find?_cons_of_pos (by simpa using hk), Option.some.injEq] at hw
      rw [List.filter_cons_of_pos (by rw [hw]; exact hkeep), List.find?_cons_of_pos (by simpa using hk),
        hw]
    · rw [List.find?_cons_of_neg (by simpa using hk)] at hw
      by_cases hpk : p k = true
      · rw [List.filter_cons_of_pos hpk, List.find?_cons_of_neg (by simpa using hk)]
        exact ih hw
      · rw [List.filter_cons_of_neg hpk]
        exact ih hw

end Leads

lemma leads_self (m : ManagedNodes) : Leads m m.nodes :=
  fun n hn => ⟨n.weight, find?_addr_of_nodup m.unique hn⟩

/-! ### Calls edit list and pool alike -/

/-- The plans of a call, by their edits of the router. -/
inductive Planned (m : ManagedNodes) : Plan RouterEdit → Prop
  | addNode (node : ProxyNode) (next : ManagedNodes) : Normal node →
      next.nodes = m.nodes ++ [node] → Planned m ⟨.addNode node, next, true⟩
  | removeNode (addr : String) (next : ManagedNodes) :
      next.nodes = m.nodes.filter (fun n => n.addr ≠ addr) → Planned m ⟨.removeNode addr, next, true⟩
  | adjustVendorWeight (provider country : String) (weight : Nat) (writes : Bool) :
      weight ≤ maxWeight → (writes = false → m.setWeight provider country weight = m) →
      Planned m ⟨.adjustVendorWeight provider country weight,
        m.setWeight provider country weight, writes⟩

lemma planned_of_plan {m : ManagedNodes} {call : RouterCall} {plan : Plan RouterEdit}
    (h : call.plan m = .ok plan) : Planned m plan := by
  cases call with
  | add raw =>
    rw [RouterCall.plan, except_map_eq_ok] at h
    obtain ⟨p, hp, rfl⟩ := h
    obtain ⟨hnode, hnext, hwrites⟩ := ManagedNodes.planAdd_eq_ok hp
    rw [hwrites]
    exact .addNode p.value p.next (normal_of_accepted hnode) hnext
  | remove addr =>
    rw [RouterCall.plan, except_map_eq_ok] at h
    obtain ⟨p, hp, rfl⟩ := h
    obtain ⟨-, -, hnext, hwrites⟩ := ManagedNodes.planRemove_eq_ok hp
    rw [hwrites]
    exact .removeNode addr p.next hnext
  | setGroupWeight provider country weight =>
    rw [RouterCall.plan, except_map_eq_ok] at h
    obtain ⟨p, hp, rfl⟩ := h
    obtain ⟨hweight, hnext, hsame⟩ := ManagedNodes.planSetGroupWeight_eq_ok hp
    rw [hnext] at hsame ⊢
    exact .adjustVendorWeight provider country weight p.writes hweight hsame

/-- A call that does not write has planned the list it found. -/
lemma Planned.unwritten {m : ManagedNodes} {plan : Plan RouterEdit}
    (h : Planned m plan) (hw : plan.writes = false) : plan.next = m := by
  cases h with
  | addNode node next hnormal hnext => cases hw
  | removeNode addr next hnext => cases hw
  | adjustVendorWeight provider country weight writes hweight hsame => exact hsame hw

/-- What an edit that succeeds makes of the pool. -/
inductive Edited (pool : List ProxyNode) : RouterEdit → List ProxyNode → Prop
  | addNode (node : ProxyNode) : pool.find? (fun k => k.addr = node.addr) = none →
      Edited pool (.addNode node) (pool ++ [node])
  | removeNode (addr : String) :
      Edited pool (.removeNode addr) (pool.filter (fun n => n.addr ≠ addr))
  | adjustVendorWeight (provider country : String) (weight : Nat) :
      Edited pool (.adjustVendorWeight provider country weight)
        (pool.map (fun n => if RouterEngine.inVendorGroup provider country n then
          { n with weight := weight } else n))

lemma edited_of_applyEdit {r r' : RouterEngine} {edit : RouterEdit}
    (h : r.applyEdit edit = (.ok (), r')) : Edited r.pools edit r'.pools := by
  obtain ⟨rfl, hfits⟩ := applyEdit_ok h
  cases edit with
  | addNode node =>
    have hne : ∀ n ∈ r.pools, n.addr ≠ node.addr := hfits
    have hnew : r.pools.find? (fun n => n.addr = node.addr) = none := by
      simpa using hne
    rw [RouterEdit.op, RouterEngine.pools_addNode, if_neg (by simpa using hne)]
    exact .addNode node hnew
  | removeNode addr =>
    rw [RouterEdit.op, RouterEngine.pools_removeNode]
    exact .removeNode addr
  | adjustVendorWeight provider country weight =>
    exact .adjustVendorWeight provider country weight

/-- A list and a pool that are edited alike stay aligned. -/
lemma Leads.edited {m : ManagedNodes} {pool pool' : List ProxyNode} (h : Leads m pool)
    {plan : Plan RouterEdit} (hplan : Planned m plan) (hedit : Edited pool plan.value pool') :
    Leads plan.next pool' := by
  cases hplan with
  | addNode node next hnormal hnext =>
    cases hedit with
    | addNode _ hfree =>
      intro n hn
      rw [hnext, List.mem_append, List.mem_singleton] at hn
      rcases hn with hn | rfl
      · exact h.append [node] n hn
      · refine ⟨n.weight, ?_⟩
        rw [List.find?_append, hfree, Option.none_or]
        exact List.find?_cons_of_pos (by simp)
  | removeNode addr next hnext =>
    cases hedit with
    | removeNode _ =>
      intro n hn
      rw [hnext, List.mem_filter] at hn
      -- the list without the address, as a list of managed nodes
      have hrest : Leads next pool := by
        intro k hk
        rw [hnext] at hk
        exact h k (List.mem_of_mem_filter hk)
      refine hrest.filter ?_ n (by rw [hnext]; exact List.mem_filter.mpr hn)
      intro k hk w
      rw [hnext, List.mem_filter] at hk
      exact hk.2
  | adjustVendorWeight provider country weight writes hweight hsame =>
    cases hedit with
    | adjustVendorWeight _ _ _ =>
      intro n hn
      obtain ⟨k, hk, rfl⟩ := List.mem_map.mp hn
      have hpool := reweighted_map (RouterEngine.inVendorGroup provider country) (fun _ => weight) pool
      obtain ⟨w, hw⟩ := h.reweighted hpool k hk
      refine ⟨w, ?_⟩
      split
      · exact hw
      · exact hw

/-! ### The invariant -/

namespace ControlPlane

/-- The list that the pool must match: that of the call in progress once it has changed the
router. -/
def managed (s : ControlPlane) : ManagedNodes :=
  match s.locked with
  | some ⟨plan, .applied⟩ => plan.next
  | _ => s.registry.nodes

structure Orderly (s : ControlPlane) : Prop where
  normal : s.registry.nodes.AllNormal
  planned : ∀ op, s.locked = some op → Planned s.registry.nodes op.plan

variable {cfg : RegistryConfig} {debug : String → String} {s : ControlPlane}

lemma allNormal_planned {m : ManagedNodes} (hm : m.AllNormal) {plan : Plan RouterEdit}
    (h : Planned m plan) : plan.next.AllNormal := by
  cases h with
  | addNode node next hnormal hnext => exact hm.append hnormal hnext
  | removeNode addr next hnext => exact hm.filter hnext
  | adjustVendorWeight provider country weight writes hweight hsame =>
    exact hm.setWeight provider country hweight

/-- The ways in which a step touches the list and the pool. -/
inductive Effect (s : ControlPlane) : PlaneEvent → ControlPlane → Prop
  | quiet (e : PlaneEvent) (s' : ControlPlane) : s'.managed = s.managed → s'.router = s.router →
      Effect s e s'
  | edit (plan : Plan RouterEdit) (s' : ControlPlane) : s.locked = some ⟨plan, .written⟩ →
      s.router.applyEdit plan.value = (.ok (), s'.router) → s'.managed = plan.next →
      Effect s .apply s'
  | background (b : Background) (s' : ControlPlane) : s'.managed = s.managed →
      s'.router = s.router.background b → Effect s (.background b) s'

lemma Orderly.of_eq {s' : ControlPlane} (h : s.Orderly) (hnodes : s'.registry.nodes = s.registry.nodes)
    (hlocked : ∀ op, s'.locked = some op → ∃ op', s.locked = some op' ∧ op'.plan = op.plan) :
    s'.Orderly := by
  refine ⟨hnodes ▸ h.normal, ?_⟩
  intro op hop
  obtain ⟨op', hop', hplan⟩ := hlocked op hop
  rw [hnodes, ← hplan]
  exact h.planned op' hop'

lemma effect_lock (h : s.Orderly) (i : Nat) :
    (step cfg debug s (.lock i)).Orderly ∧ Effect s (.lock i) (step cfg debug s (.lock i)) := by
  unfold step
  dsimp only
  split
  · rename_i call hfree hcall
    unfold takeLock
    cases hplan : call.plan s.registry.nodes with
    | error e =>
      refine ⟨⟨h.normal, fun op hop => nomatch hop⟩, .quiet _ _ ?_ rfl⟩
      unfold managed
      rw [hfree]
    | ok plan =>
      refine ⟨⟨h.normal, ?_⟩, .quiet _ _ ?_ rfl⟩
      · intro op hop
        cases hop
        exact planned_of_plan hplan
      · unfold managed
        rw [hfree]
  · exact ⟨h, .quiet _ _ rfl rfl⟩

lemma effect_persist (h : s.Orderly) (io : PersistIo) :
    (step cfg debug s (.persist io)).Orderly ∧
      Effect s (.persist io) (step cfg debug s (.persist io)) := by
  unfold step
  dsimp only
  split
  · rename_i plan hlocked
    have hmanaged : s.managed = s.registry.nodes := by
      unfold managed
      rw [hlocked]
    unfold persistPlan
    split
    · refine ⟨h.of_eq rfl ?_, .quiet _ _ hmanaged.symm rfl⟩
      intro op hop
      cases hop
      exact ⟨_, hlocked, rfl⟩
    · exact ⟨⟨h.normal, fun op hop => nomatch hop⟩, .quiet _ _ hmanaged.symm rfl⟩
  · exact ⟨h, .quiet _ _ rfl rfl⟩

lemma effect_apply (h : s.Orderly) :
    (step cfg debug s .apply).Orderly ∧ Effect s .apply (step cfg debug s .apply) := by
  unfold step
  dsimp only
  split
  · rename_i plan hlocked
    have hmanaged : s.managed = s.registry.nodes := by
      unfold managed
      rw [hlocked]
    unfold applyPlan
    split
    · rename_i world hok
      refine ⟨h.of_eq rfl ?_, .edit plan _ hlocked hok rfl⟩
      intro op hop
      cases hop
      exact ⟨_, hlocked, rfl⟩
    · rename_i e world herr
      have hsame : world = s.router := applyEdit_error herr
      cases hw : plan.writes with
      | true =>
        refine ⟨h.of_eq rfl ?_, .quiet _ _ hmanaged.symm hsame⟩
        intro op hop
        cases hop
        exact ⟨_, hlocked, rfl⟩
      | false =>
        exact ⟨⟨h.normal, fun op hop => nomatch hop⟩, .quiet _ _ hmanaged.symm hsame⟩
  · exact ⟨h, .quiet _ _ rfl rfl⟩

lemma effect_rollback (h : s.Orderly) (io : PersistIo) :
    (step cfg debug s (.rollback io)).Orderly ∧
      Effect s (.rollback io) (step cfg debug s (.rollback io)) := by
  unfold step
  dsimp only
  split
  · rename_i plan e hlocked
    have hmanaged : s.managed = s.registry.nodes := by
      unfold managed
      rw [hlocked]
    unfold rollBack
    split
    · exact ⟨⟨h.normal, fun op hop => nomatch hop⟩, .quiet _ _ hmanaged.symm rfl⟩
    · exact ⟨⟨h.normal, fun op hop => nomatch hop⟩, .quiet _ _ hmanaged.symm rfl⟩
  · exact ⟨h, .quiet _ _ rfl rfl⟩

lemma effect_finish (h : s.Orderly) :
    (step cfg debug s .finish).Orderly ∧ Effect s .finish (step cfg debug s .finish) := by
  unfold step
  dsimp only
  split
  · rename_i plan hlocked
    have hplanned := h.planned _ hlocked
    have hmanaged : s.managed = plan.next := by
      unfold managed
      rw [hlocked]
    unfold finishPlan
    cases hw : plan.writes with
    | true =>
      exact ⟨⟨allNormal_planned h.normal hplanned, fun op hop => nomatch hop⟩,
        .quiet _ _ hmanaged.symm rfl⟩
    | false =>
      have hsame := hplanned.unwritten hw
      exact ⟨⟨h.normal, fun op hop => nomatch hop⟩, .quiet _ _ (hmanaged.trans hsame).symm rfl⟩
  · exact ⟨h, .quiet _ _ rfl rfl⟩

lemma step_effect (cfg : RegistryConfig) (debug : String → String) (h : s.Orderly) (e : PlaneEvent) :
    (step cfg debug s e).Orderly ∧ Effect s e (step cfg debug s e) := by
  have henqueue : ∀ call, (s.enqueue call).Orderly := fun call => ⟨h.normal, h.planned⟩
  cases e with
  | addRequest payload =>
    unfold step
    dsimp only
    split
    · exact ⟨henqueue _, .quiet _ _ rfl rfl⟩
    · exact ⟨h, .quiet _ _ rfl rfl⟩
  | deleteRequest addr =>
    unfold step
    dsimp only
    split
    · exact ⟨henqueue _, .quiet _ _ rfl rfl⟩
    · exact ⟨h, .quiet _ _ rfl rfl⟩
  | weightRequest addr body =>
    unfold step
    dsimp only
    split
    · exact ⟨henqueue _, .quiet _ _ rfl rfl⟩
    · exact ⟨h, .quiet _ _ rfl rfl⟩
  | lock i => exact effect_lock h i
  | persist io => exact effect_persist h io
  | apply => exact effect_apply h
  | rollback io => exact effect_rollback h io
  | finish => exact effect_finish h
  | background b => exact ⟨⟨h.normal, h.planned⟩, .background b _ rfl rfl⟩

structure Consistent (s : ControlPlane) : Prop where
  orderly : s.Orderly
  leads : Leads s.managed s.router.pools

lemma Orderly.managed (h : s.Orderly) : s.managed.AllNormal := by
  unfold ControlPlane.managed
  split
  · rename_i plan hlocked
    exact allNormal_planned h.normal (h.planned _ hlocked)
  · exact h.normal

lemma consistent_boot {m : ManagedNodes} (hm : m.AllNormal) (file : FileState)
    (testNodes : List ProxyNode) : (boot m file testNodes).Consistent :=
  ⟨⟨hm, fun _ hop => nomatch hop⟩, (leads_self m).append testNodes⟩

/-- A merge drops no managed node and puts its own nodes last. -/
lemma leads_mergeOnce {m : ManagedNodes} (hm : m.AllNormal) {r : RouterEngine}
    (h : Leads m r.pools) (snap : RegistrySnapshot) (factor : ProxyNode → ℚ) :
    Leads m (r.background (.mergeOnce snap factor)).pools := by
  refine Leads.append (h.filter ?_) _
  intro n hn w
  have hkeep := not_startsWith_free (hm n hn)
  simpa using hkeep

theorem consistent_step (h : s.Consistent) (e : PlaneEvent) : (step cfg debug s e).Consistent := by
  obtain ⟨horderly, heffect⟩ := step_effect cfg debug h.orderly e
  refine ⟨horderly, ?_⟩
  generalize step cfg debug s e = s' at heffect horderly
  cases heffect with
  | quiet _ _ hmanaged hrouter =>
    rw [hmanaged, hrouter]
    exact h.leads
  | edit plan _ hlocked happly hmanaged =>
    rw [hmanaged]
    have hleads := h.leads
    unfold managed at hleads
    rw [hlocked] at hleads
    exact hleads.edited (h.orderly.planned _ hlocked) (edited_of_applyEdit happly)
  | background b _ hmanaged hrouter =>
    rw [hmanaged, hrouter]
    rcases background_cases s.router b with ⟨snap, factor, rfl⟩ | hweights
    · exact leads_mergeOnce h.orderly.managed h.leads snap factor
    · exact h.leads.reweighted hweights

lemma consistent_run (h : s.Consistent) (events : List PlaneEvent) :
    (run (step cfg debug) s events).Consistent :=
  run_invariant (J := Consistent) (fun _ e ht => consistent_step ht e) h events

/-! ### Removed addresses -/

/-- The call in progress is a delete that the router is about to accept: once it is applied, all
that is left is to return `Ok`. -/
def DeleteReady (addr : String) (s : ControlPlane) : Prop :=
  ∃ plan, s.locked = some ⟨plan, .written⟩ ∧ plan.value = .removeNode addr ∧
    (s.router.applyEdit plan.value).1 = .ok ()

/-- The event brings an address back: an addition of an admin request reaches the router, or a
merge delivers a free node. -/
def Reenters (addr : String) (s : ControlPlane) : PlaneEvent → Prop
  | .apply => ∃ plan node, s.locked = some ⟨plan, .written⟩ ∧ plan.value = .addNode node ∧
      node.addr = addr
  | .background (.mergeOnce snap _) => addr ∈ snap.nodes.map ProxyNode.addr
  | _ => False

structure Gone (addr : String) (s : ControlPlane) : Prop where
  pool : addr ∉ s.router.pools.map ProxyNode.addr
  list : addr ∉ s.managed.nodes.map ProxyNode.addr

lemma gone_edited {addr : String} {m : ManagedNodes} {pool pool' : List ProxyNode}
    (hpool : addr ∉ pool.map ProxyNode.addr) (hlist : addr ∉ m.nodes.map ProxyNode.addr)
    {plan : Plan RouterEdit} (hplan : Planned m plan) (hedit : Edited pool plan.value pool')
    (hnew : ∀ node, plan.value = .addNode node → node.addr ≠ addr) :
    addr ∉ pool'.map ProxyNode.addr ∧ addr ∉ plan.next.nodes.map ProxyNode.addr := by
  cases hplan with
  | addNode node next hnormal hnext =>
    have hne : addr ≠ node.addr := fun h => hnew node rfl h.symm
    cases hedit with
    | addNode _ hfree =>
      rw [hnext, List.map_append, List.map_append, List.mem_append, List.mem_append]
      exact ⟨fun h => h.elim hpool (by simpa using hne), fun h => h.elim hlist (by simpa using hne)⟩
  | removeNode addr' next hnext =>
    cases hedit with
    | removeNode _ =>
      rw [hnext]
      have hsub := fun l : List ProxyNode =>
        (List.filter_sublist (p := fun n => n.addr ≠ addr') (l := l)).map ProxyNode.addr
      exact ⟨fun h => hpool ((hsub pool).subset h), fun h => hlist ((hsub m.nodes).subset h)⟩
  | adjustVendorWeight provider country weight writes hweight hsame =>
    cases hedit with
    | adjustVendorWeight _ _ _ =>
      have haddr := fun l => (reweighted_map (RouterEngine.inVendorGroup provider country)
        (fun _ => weight) l).map_addr
      refine ⟨(haddr pool).symm ▸ hpool, ?_⟩
      unfold ManagedNodes.setWeight
      rw [haddr]
      exact hlist

lemma gone_step {addr : String} (h : s.Orderly) (hgone : Gone addr s) {e : PlaneEvent}
    (he : ¬s.Reenters addr e) : Gone addr (step cfg debug s e) := by
  obtain ⟨-, heffect⟩ := step_effect cfg debug h e
  generalize step cfg debug s e = s' at heffect
  cases heffect with
  | quiet _ _ hmanaged hrouter => exact ⟨hrouter ▸ hgone.pool, hmanaged ▸ hgone.list⟩
  | edit plan _ hlocked happly hmanaged =>
    have hlist := hgone.list
    unfold managed at hlist
    rw [hlocked] at hlist
    obtain ⟨hpool', hlist'⟩ := gone_edited hgone.pool hlist (h.planned _ hlocked)
      (edited_of_applyEdit happly)
      (fun node hvalue haddr => he ⟨plan, node, hlocked, hvalue, haddr⟩)
    exact ⟨hpool', hmanaged ▸ hlist'⟩
  | background b _ hmanaged hrouter =>
    refine ⟨?_, hmanaged ▸ hgone.list⟩
    rw [hrouter]
    rcases background_cases s.router b with ⟨snap, factor, rfl⟩ | hweights
    · change addr ∉ (_ ++ _ : List ProxyNode).map ProxyNode.addr
      rw [List.map_append, List.mem_append, List.map_map]
      rintro (hold | hnew)
      · exact hgone.pool ((List.filter_sublist.map ProxyNode.addr).subset hold)
      · exact he hnew
    · rw [hweights.map_addr]
      exact hgone.pool

lemma mem_filter_addr {l : List ProxyNode} {addr : String} :
    addr ∉ (l.filter (fun n => n.addr ≠ addr)).map ProxyNode.addr := by
  intro h
  obtain ⟨n, hn, haddr⟩ := List.mem_map.mp h
  have hne := (List.mem_filter.mp hn).2
  simp [haddr] at hne

lemma gone_of_deleteReady {addr : String} (h : s.Orderly) (hdel : s.DeleteReady addr) :
    Gone addr (step cfg debug s .apply) := by
  obtain ⟨plan, hlocked, hvalue, hok⟩ := hdel
  rcases happly : s.router.applyEdit plan.value with ⟨res, world⟩
  rw [happly] at hok
  dsimp only at hok
  rw [hok] at happly
  have hstep : step cfg debug s .apply =
      { s with registry := { s.registry with world }, locked := some ⟨plan, .applied⟩ } := by
    unfold step
    rw [hlocked]
    dsimp only
    unfold applyPlan
    rw [happly]
  have hedit : Edited s.router.pools (.removeNode addr) world.pools := by
    rw [← hvalue]
    exact edited_of_applyEdit happly
  rw [hstep]
  refine ⟨?_, ?_⟩
  · change addr ∉ world.pools.map ProxyNode.addr
    generalize world.pools = pool' at hedit
    cases hedit with
    | removeNode _ => exact mem_filter_addr
  · change addr ∉ plan.next.nodes.map ProxyNode.addr
    have hplanned := h.planned _ hlocked
    dsimp only at hplanned
    cases hplanned with
    | addNode node next hnormal hnext => cases hvalue
    | removeNode addr' next hnext =>
      cases hvalue
      rw [hnext]
      exact mem_filter_addr
    | adjustVendorWeight provider country weight writes hweight hsame => cases hvalue

/-- From startup with any managed list and any test nodes, through any interleaving of admin
requests, of the steps of the calls and of background writes: whenever no call holds the lock every
node of the registry is in the pool, up to its weight, and the address of an accepted delete is in
neither, from the moment it is applied until it is added again or a merge delivers it. -/
theorem membership_agrees {m : ManagedNodes} (hm : m.AllNormal) (file : FileState)
    (testNodes : List ProxyNode) (events : List PlaneEvent) :
    let s := run (step cfg debug) (boot m file testNodes) events
    (s.locked = none →
        ∀ n ∈ s.registry.nodes.nodes, ∃ w, { n with weight := w } ∈ s.router.pools) ∧
      ∀ addr, s.DeleteReady addr → ∀ later,
        Along (step cfg debug) (fun t e => ¬t.Reenters addr e) (step cfg debug s .apply) later →
          let t := run (step cfg debug) (step cfg debug s .apply) later
          t.locked = none → addr ∉ t.registry.nodes.nodes.map ProxyNode.addr ∧
            addr ∉ t.router.pools.map ProxyNode.addr := by
  intro s
  have hs : s.Consistent := consistent_run (consistent_boot hm file testNodes) events
  have hidle : ∀ t : ControlPlane, t.locked = none → t.managed = t.registry.nodes := by
    intro t ht
    unfold managed
    rw [ht]
  constructor
  · intro hfree n hn
    have hleads := hs.leads
    rw [hidle s hfree] at hleads
    obtain ⟨w, hw⟩ := hleads n hn
    exact ⟨w, List.mem_of_find?_eq_some hw⟩
  · intro addr hdel later hlater t ht
    have hstart : (step cfg debug s .apply).Orderly ∧ Gone addr (step cfg debug s .apply) :=
      ⟨(consistent_step hs .apply).orderly, gone_of_deleteReady hs.orderly hdel⟩
    have hstep : ∀ (u : ControlPlane) e, u.Orderly ∧ Gone addr u → ¬u.Reenters addr e →
        (step cfg debug u e).Orderly ∧ Gone addr (step cfg debug u e) :=
      fun u e hu he => ⟨(step_effect cfg debug hu.1 e).1, gone_step hu.1 hu.2 he⟩
    have hend := (run_of_along hstep hstart hlater).2
    have hlist := hend.list
    rw [hidle t ht] at hlist
    exact ⟨hlist, hend.pool⟩

def seedNodes : ManagedNodes := ⟨mainSeeds, by decide, by decide⟩

lemma seedNodes_normal : seedNodes.AllNormal := fun n hn => (mainSeeds_normal n hn).1

def memoryConfig : RegistryConfig := ⟨NodeRegistry.vendorText, none⟩

/-- A delete of the first seed, up to the point where it has to change the router. -/
def deleteRun : List PlaneEvent := [.deleteRequest "127.0.0.1:8888", .lock 0, .persist {}]

/-- The deleted seed is in neither place once the call has returned. -/
theorem deleted_seed_gone :
    let t := run (step memoryConfig id) (boot seedNodes .absent []) (deleteRun ++ [.apply, .finish])
    "127.0.0.1:8888" ∉ t.registry.nodes.nodes.map ProxyNode.addr ∧
      "127.0.0.1:8888" ∉ t.router.pools.map ProxyNode.addr := by
  have hlocked : (run (step memoryConfig id) (boot seedNodes .absent []) deleteRun).locked =
      some ⟨⟨.removeNode "127.0.0.1:8888", seedNodes.eraseAt 0, true⟩, .written⟩ := rfl
  have hready : DeleteReady "127.0.0.1:8888"
      (run (step memoryConfig id) (boot seedNodes .absent []) deleteRun) :=
    ⟨_, hlocked, rfl, rfl⟩
  rw [run_append]
  exact (membership_agrees seedNodes_normal .absent [] deleteRun).2 _ hready [.finish] ⟨id, trivial⟩ rfl

end ControlPlane

end IPProxyPool
