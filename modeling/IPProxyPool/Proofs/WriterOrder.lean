import IPProxyPool.Model.WriterSteps
import IPProxyPool.Proofs.Membership

/-!
# No pool update is lost

Any number of pool writers run at once, in any interleaving of their steps. Since each is one
critical section, the pool is at all times that of some of them run one after the other, and so are
the indexes and the side tables whenever none of them holds the lock.
-/

namespace IPProxyPool
open RustText AssocTable Transition Mutex

/-! ### One store of the pool -/

/-- The pool is the old one or the new one. -/
def Between (old new : List ProxyNode) (r : RouterEngine) : Prop := r.pools = old ∨ r.pools = new

section Stores

variable {old new : List ProxyNode} {r : RouterEngine}

lemma throughout_loadPools {next : List ProxyNode → WriterProgram} (hr : Between old new r)
    (hnext : (next r.pools).Throughout (Between old new) r) :
    (loadPools next).Throughout (Between old new) r :=
  ⟨hr, hnext⟩

lemma throughout_storeNodesSteps {next : WriterProgram} (hr : Between old new r)
    (hnext : next.Throughout (Between old new) (r.storeNodes new)) :
    (storeNodesSteps new next).Throughout (Between old new) r :=
  ⟨hr, .inr rfl, .inr rfl, hnext⟩

lemma throughout_boostSteps {boost : Nat} {ns boosted : List ProxyNode} (hr : Between old new r)
    (hnew : boosted ++ (RouterEngine.boostNodes boost r.paidBaseWeight ns).2 = new) :
    (boostSteps boost ns boosted).Throughout (Between old new) r := by
  induction ns generalizing boosted r with
  | nil =>
    rw [RouterEngine.boostNodes, List.append_nil] at hnew
    rw [boostSteps, hnew]
    exact throughout_storeNodesSteps hr (.inr rfl)
  | cons n ns ih =>
    refine ⟨hr, ih hr ?_⟩
    rw [List.append_assoc]
    exact hnew

end Stores

/-- While a writer runs the pool is the one it found or the one it leaves. -/
lemma throughout_program (w : PoolWriter) (r : RouterEngine) :
    w.program.Throughout (Between r.pools (w.apply r).1.pools) r := by
  have hold : Between r.pools (w.apply r).1.pools r := .inl rfl
  cases w with
  | reloadNodes nodes => exact throughout_storeNodesSteps hold (.inr rfl)
  | replaceVendorNodes pre nodes =>
    rw [PoolWriter.program]
    refine throughout_loadPools hold ?_
    apply throughout_storeNodesSteps hold
    exact ⟨.inr rfl, .inr rfl, .inr rfl⟩
  | addNode node =>
    rw [PoolWriter.program]
    refine throughout_loadPools hold ?_
    by_cases hdup : r.pools.any (fun n => n.addr = node.addr) = true
    · rw [if_pos hdup]
      exact hold
    · rw [if_neg hdup]
      have hnew : ((PoolWriter.addNode node).apply r).1.pools = r.pools ++ [node] := by
        rw [PoolWriter.apply, RouterEngine.addNode, if_neg hdup]
        rfl
      rw [hnew] at hold ⊢
      exact throughout_storeNodesSteps hold (.inr rfl)
  | removeNode addr =>
    rw [PoolWriter.program]
    refine throughout_loadPools hold ?_
    cases hfind : r.pools.find? (fun n => n.addr = addr) with
    | none => exact hold
    | some removed =>
      have hnew : ((PoolWriter.removeNode addr).apply r).1.pools =
          r.pools.filter (fun n => n.addr ≠ addr) := by
        rw [PoolWriter.apply, RouterEngine.removeNode, hfind]
        rfl
      rw [hnew] at hold ⊢
      exact throughout_storeNodesSteps hold ⟨.inr rfl, .inr rfl⟩
  | adjustVendorWeight vendor country weight =>
    rw [PoolWriter.program]
    refine throughout_loadPools hold ?_
    exact throughout_storeNodesSteps hold (.inr rfl)
  | setPaidWeightBoost boostPercent =>
    rw [PoolWriter.program]
    refine throughout_loadPools hold ?_
    apply throughout_boostSteps hold
    rfl
  | scaleVendorWeights vendor country factor =>
    rw [PoolWriter.program]
    refine ⟨hold, throughout_loadPools hold ?_⟩
    exact throughout_storeNodesSteps hold (.inr rfl)

/-! ### Writers one after the other -/

variable {ι : Type}

/-- The operations of a list of tasks in this order: the router they leave and what they return. -/
def runWriters (writer : ι → PoolWriter) : RouterEngine → List ι →
    RouterEngine × List (ι × WriterResult)
  | r, [] => (r, [])
  | r, i :: is =>
    let p := (writer i).apply r
    let q := runWriters writer p.1 is
    (q.1, (i, p.2) :: q.2)

lemma serial_eq_runWriters (writer : ι → PoolWriter) (r : RouterEngine) (is : List ι) :
    serial (fun i => (writer i).program) r is = runWriters writer r is := by
  induction is generalizing r with
  | nil => rfl
  | cons i is ih => simp only [serial, runWriters, exec_program, ih]

/-- The node is in the pool, whatever its weight. -/
def Present (node : ProxyNode) (pool : List ProxyNode) : Prop := ∃ w, { node with weight := w } ∈ pool

/-- The operation takes a node out: a removal at its address, or a replacement of its vendor group
or of the whole pool that does not bring it back. -/
def PoolWriter.Drops (node : ProxyNode) : PoolWriter → Prop
  | .reloadNodes nodes => ¬Present node nodes
  | .replaceVendorNodes pre nodes => startsWith node.provider pre = true ∧ ¬Present node nodes
  | .removeNode addr => node.addr = addr
  | _ => False

lemma Present.reweighted {node : ProxyNode} {pool pool' : List ProxyNode} (h : Present node pool)
    (hpool : Reweighted pool pool') : Present node pool' := by
  obtain ⟨w, hw⟩ := h
  induction hpool with
  | nil => cases hw
  | @cons a b l l' hab _ ih =>
    rcases List.mem_cons.mp hw with rfl | hw
    · obtain ⟨w', rfl⟩ := hab
      exact ⟨w', List.mem_cons_self⟩
    · obtain ⟨w', hw'⟩ := ih hw
      exact ⟨w', List.mem_cons_of_mem _ hw'⟩

lemma Present.mono {node : ProxyNode} {pool pool' : List ProxyNode} (h : Present node pool)
    (hsub : pool ⊆ pool') : Present node pool' := by
  obtain ⟨w, hw⟩ := h
  exact ⟨w, hsub hw⟩

lemma Present.filter {node : ProxyNode} {pool : List ProxyNode} {p : ProxyNode → Bool}
    (h : Present node pool) (hp : ∀ w, p { node with weight := w } = true) :
    Present node (pool.filter p) := by
  obtain ⟨w, hw⟩ := h
  exact ⟨w, List.mem_filter.mpr ⟨hw, hp w⟩⟩

lemma present_apply {node : ProxyNode} {r : RouterEngine} (h : Present node r.pools)
    {w : PoolWriter} (hw : ¬w.Drops node) : Present node (w.apply r).1.pools := by
  cases w with
  | reloadNodes nodes => exact not_not.mp hw
  | replaceVendorNodes pre nodes =>
    by_cases hpre : startsWith node.provider pre = true
    · exact Present.mono (not_not.mp (fun hnew => hw ⟨hpre, hnew⟩)) (List.subset_append_right _ _)
    · exact (h.filter (fun w => by simpa using hpre)).mono (List.subset_append_left _ _)
  | addNode new =>
    rw [PoolWriter.apply, RouterEngine.addNode]
    by_cases hdup : r.pools.any (fun n => n.addr = new.addr) = true
    · rw [if_pos hdup]
      exact h
    · rw [if_neg hdup]
      exact h.mono (List.subset_append_left _ _)
  | removeNode addr =>
    rw [PoolWriter.apply, RouterEngine.removeNode]
    cases r.pools.find? (fun n => n.addr = addr) with
    | none => exact h
    | some removed => exact h.filter (fun w => decide_eq_true hw)
  | adjustVendorWeight vendor country weight =>
    exact h.reweighted (reweighted_map _ (fun _ => weight) _)
  | setPaidWeightBoost boostPercent => exact h.reweighted (reweighted_boostNodes _ _ _)
  | scaleVendorWeights vendor country factor =>
    exact h.reweighted (reweighted_map _ (fun n => scaledWeight n.weight factor) _)

lemma present_runWriters {writer : ι → PoolWriter} {node : ProxyNode} {r : RouterEngine}
    (h : Present node r.pools) {is : List ι} (his : ∀ j ∈ is, ¬(writer j).Drops node) :
    Present node (runWriters writer r is).1.pools := by
  induction is generalizing r with
  | nil => exact h
  | cons i is ih =>
    exact ih (present_apply h (his i List.mem_cons_self))
      (fun j hj => his j (List.mem_cons_of_mem i hj))

lemma present_of_added {node : ProxyNode} {r : RouterEngine}
    (h : ((PoolWriter.addNode node).apply r).2 = .added (.ok ())) :
    Present node ((PoolWriter.addNode node).apply r).1.pools := by
  rw [PoolWriter.apply, RouterEngine.addNode] at h ⊢
  by_cases hdup : r.pools.any (fun n => n.addr = node.addr) = true
  · rw [if_pos hdup] at h
    cases h
  · rw [if_neg hdup]
    exact ⟨node.weight, List.mem_append_right _ (List.mem_singleton_self node)⟩

lemma runWriters_append (writer : ι → PoolWriter) (r : RouterEngine) (is js : List ι) :
    runWriters writer r (is ++ js) =
      ((runWriters writer (runWriters writer r is).1 js).1,
        (runWriters writer r is).2 ++ (runWriters writer (runWriters writer r is).1 js).2) := by
  rw [← serial_eq_runWriters, serial_append, serial_eq_runWriters, serial_eq_runWriters]

/-- For any number of writers and every interleaving of their steps: each writer that has returned
did so once, with the result that it has when they run one after the other in the order in which
they returned; when no writer holds the lock the router is the one they leave in this order, and at
any time the pool is, with or without the writer in progress at the end. So a node whose addition
was accepted is in the pool, up to its weight, as long as no later writer drops it. -/
theorem no_update_lost [DecidableEq ι] (writer : ι → PoolWriter) (r : RouterEngine)
    (schedule : List ι) :
    let t := run (Mutex.step (fun i => (writer i).program)) (start r) schedule
    t.returned.Nodup ∧
      (∀ i res, t.status i = .done res ↔ (i, res) ∈ (runWriters writer r t.returned).2) ∧
      (t.holder = none → t.shared = (runWriters writer r t.returned).1) ∧
      (∃ order, (order = t.returned ∨ order = t.returned ++ t.holder.toList) ∧
        t.shared.pools = (runWriters writer r order).1.pools) ∧
      ∀ i node pre post, writer i = .addNode node → t.status i = .done (.added (.ok ())) →
        t.returned = pre ++ i :: post →
          (∀ j ∈ post ++ t.holder.toList, ¬(writer j).Drops node) → Present node t.shared.pools := by
  intro t
  have hserial : Serial (fun i => (writer i).program)
      (fun i s => Between s.pools ((writer i).apply s).1.pools) r t :=
    serial_run (fun i s => throughout_program (writer i) s) r schedule
  have hresults := hserial.results
  have hfree := hserial.free
  rw [serial_eq_runWriters] at hresults hfree
  have hpools : ∃ order, (order = t.returned ∨ order = t.returned ++ t.holder.toList) ∧
      t.shared.pools = (runWriters writer r order).1.pools := by
    cases hholder : t.holder with
    | none => exact ⟨t.returned, .inl rfl, congrArg RouterEngine.pools (hfree hholder)⟩
    | some i =>
      have hcurrent := hserial.current hholder
      rw [serial_eq_runWriters] at hcurrent
      rcases hcurrent with hold | hnew
      · exact ⟨t.returned, .inl rfl, hold⟩
      · refine ⟨t.returned ++ [i], .inr rfl, ?_⟩
        rw [runWriters_append]
        exact hnew
  refine ⟨hserial.once, hresults, hfree, hpools, ?_⟩
  intro i node pre post hi hdone hreturned hlater
  -- the addition is accepted in the serial order, too
  have hadded : ((writer i).apply (runWriters writer r pre).1).2 = .added (.ok ()) := by
    have hmem : (i, ((writer i).apply (runWriters writer r pre).1).2) ∈
        (runWriters writer r t.returned).2 := by
      rw [hreturned, runWriters_append]
      exact List.mem_append_right _ List.mem_cons_self
    have hstatus := (hresults i _).mpr hmem
    rw [hdone, Status.done.injEq] at hstatus
    exact hstatus.symm
  obtain ⟨order, horder, hpool⟩ := hpools
  have hsplit : ∃ rest, order = pre ++ i :: rest ∧ ∀ j ∈ rest, j ∈ post ++ t.holder.toList := by
    rcases horder with rfl | rfl
    · exact ⟨post, hreturned, fun j hj => List.mem_append_left _ hj⟩
    · refine ⟨post ++ t.holder.toList, ?_, fun j hj => hj⟩
      rw [hreturned, List.append_assoc, List.cons_append]
  obtain ⟨rest, rfl, hrest⟩ := hsplit
  rw [hpool, runWriters_append]
  apply present_runWriters (r := ((writer i).apply (runWriters writer r pre).1).1)
  · rw [hi] at hadded ⊢
    exact present_of_added hadded
  · exact fun j hj => hlater j (hrest j hj)

end IPProxyPool
