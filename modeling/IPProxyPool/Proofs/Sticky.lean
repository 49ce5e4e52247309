import IPProxyPool.Proofs.BucketPath

/-!
# Sticky selection and stale bindings

A session keeps the node as it was when it was bound. The fast path compares that snapshot with
the live pool by address, weight and protocol only, and then returns the snapshot. Selections
are current in a run exactly when no accepted binding has been overtaken by a pool write.
-/

namespace IPProxyPool
open RustText AssocTable Transition

namespace RouterEngine

/-- A selected node is an entry of the current pool, is not excluded, and that entry matches the
normalised request at the instant of the selection. -/
def ServesCurrent (r : RouterEngine) (spec : RoutingSpec) (excluded : List String) (now : Instant)
    (draw : Nat) : Prop :=
  ∀ n, (r.selectNodeExcluding spec excluded now draw).1 = some n →
    n ∈ r.pools ∧ n.addr ∉ excluded ∧ r.matchesNode n (canonicalSpec spec) now

/-- A binding that passes the checks of the fast path is still an entry of the pool, with the
protocol asked for. -/
def BindingCurrent (r : RouterEngine) (spec : RoutingSpec) (excluded : List String)
    (now : Instant) : Prop :=
  ∀ node createdAt, r.sessionBinding spec = some (node, createdAt) →
    r.stickyAccepts (canonicalSpec spec) excluded now node createdAt →
    node ∈ r.pools ∧ node.proto = spec.proto.getD .http

def BoundPositive (r : RouterEngine) : Prop :=
  ∀ sessionId b, r.sessionStore.lookup sessionId = some b → 0 < b.1.weight

end RouterEngine

/-- The selections of a run return current entries; the other operations return no node. -/
def RouterOp.ServesCurrent (r : RouterEngine) : RouterOp → Prop
  | .select spec excluded now draw => r.ServesCurrent spec excluded now draw
  | _ => True

def RouterOp.BindingCurrent (r : RouterEngine) : RouterOp → Prop
  | .select spec excluded now _ => r.BindingCurrent spec excluded now
  | _ => True

namespace RouterEngine

variable {r : RouterEngine} {spec : RoutingSpec} {excluded : List String} {now : Instant}
  {draw : Nat}

@[simp] lemma sessionBinding_canonicalSpec (r : RouterEngine) (spec : RoutingSpec) :
    r.sessionBinding (canonicalSpec spec) = r.sessionBinding spec := rfl

lemma stickyAccepts_spec {node : ProxyNode} {createdAt : Instant}
    (h : r.stickyAccepts spec excluded now node createdAt = true) :
    node.addr ∉ excluded ∧
      (∀ c, spec.country = some c → eqIgnoreAsciiCase node.country c = true) ∧
      (∀ t, spec.tier = some t → node.tier = t) ∧
      r.isNodeQuarantined node spec.targetDomain now = false := by
  unfold stickyAccepts at h
  rcases spec with ⟨country, sessionId, tier, targetDomain, proto⟩
  simp only [Bool.and_eq_true, Bool.not_eq_true', decide_eq_false_iff_not, decide_eq_true_eq] at h
  obtain ⟨⟨⟨⟨⟨hex, -⟩, -⟩, hc⟩, ht⟩, hq⟩ := h
  refine ⟨hex, ?_, ?_, hq⟩
  · rintro c rfl
    exact hc
  · rintro t rfl
    simpa using ht

lemma selectFresh_mem_scan (hw : r.WellIndexed) {n : ProxyNode}
    (h : r.selectFresh spec excluded now draw = some n) : n ∈ r.scan spec excluded now := by
  rcases spec with ⟨country, sessionId, tier, targetDomain, proto⟩
  unfold selectFresh at h
  split at h
  · -- the bucket only holds pool nodes
    rename_i tier' country' proto' _ _ _
    unfold selectFromBucket at h
    rw [Option.bind_eq_some_iff] at h
    obtain ⟨l, hl, hpick⟩ := h
    have hmem : n ∈ (r.bucketScan ⟨tier', country', some proto'⟩
        ⟨country, sessionId, tier, targetDomain, proto⟩ excluded now).getD [] := by
      rw [hl]
      exact pickWeightedStreaming_mem hpick
    rw [bucketScan_getD hw, List.mem_filter, bucketMembers, List.mem_filter] at hmem
    rw [mem_scan_iff]
    simpa using And.intro hmem.1.1 hmem.2
  · exact pickWeightedStreaming_mem h

lemma selectNodeExcluding_cases (hw : r.WellIndexed) {n : ProxyNode}
    (h : (r.selectNodeExcluding spec excluded now draw).1 = some n) :
    r.stickyNode (canonicalSpec spec) excluded now = some n ∨
      r.stickyNode (canonicalSpec spec) excluded now = none ∧
        n ∈ r.scan (canonicalSpec spec) excluded now := by
  unfold selectNodeExcluding at h
  dsimp only at h
  cases hs : r.stickyNode (canonicalSpec spec) excluded now with
  | some m =>
    rw [hs] at h
    exact .inl h
  | none =>
    rw [hs] at h
    exact .inr ⟨rfl, selectFresh_mem_scan hw h⟩

lemma sessionBinding_positive (hp : r.BoundPositive) {node : ProxyNode} {createdAt : Instant}
    (h : r.sessionBinding spec = some (node, createdAt)) : 0 < node.weight := by
  unfold sessionBinding at h
  split at h
  · cases h
  · split at h
    · exact hp _ _ h
    · cases h

/-- One selection returns a current entry if and only if the binding it may rest on is current. -/
theorem servesCurrent_iff (hw : r.WellIndexed) (hp : r.BoundPositive) :
    r.ServesCurrent spec excluded now draw ↔ r.BindingCurrent spec excluded now := by
  constructor
  · intro hserves node createdAt hbind hacc
    have hsticky : r.stickyNode (canonicalSpec spec) excluded now = some node :=
      (stickyNode_eq_some_iff node).mpr ⟨createdAt, hbind, hacc⟩
    have hsel : (r.selectNodeExcluding spec excluded now draw).1 = some node := by
      unfold selectNodeExcluding
      simp only [hsticky]
    obtain ⟨hmem, -, hmatch⟩ := hserves node hsel
    exact ⟨hmem, ((matchesNode_iff r node _ now).mp hmatch).proto_eq⟩
  · intro hcur n hsel
    rcases selectNodeExcluding_cases hw hsel with hsticky | ⟨-, hscan⟩
    · obtain ⟨createdAt, hbind, hacc⟩ := (stickyNode_eq_some_iff n).mp hsticky
      obtain ⟨hmem, hproto⟩ := hcur n createdAt hbind hacc
      obtain ⟨hex, hcountry, htier, hq⟩ := stickyAccepts_spec hacc
      refine ⟨hmem, hex, (matchesNode_iff r n _ now).mpr ?_⟩
      exact ⟨sessionBinding_positive hp hbind, hproto, hcountry, htier, hq⟩
    · exact (mem_scan_iff r _ excluded now n).mp hscan

/-! ### Bound snapshots keep a positive weight -/

lemma boundPositive_new (nodes : List ProxyNode) : (new nodes).BoundPositive := by
  intro sessionId b h
  simp [new] at h

lemma BoundPositive.of_eq {r r' : RouterEngine} (h : r.BoundPositive)
    (hs : r'.sessionStore = r.sessionStore) : r'.BoundPositive := by
  unfold BoundPositive
  rw [hs]
  exact h

lemma selectFresh_weight_pos (hw : r.WellIndexed) {n : ProxyNode}
    (h : r.selectFresh spec excluded now draw = some n) : 0 < n.weight := by
  have hscan := (mem_scan_iff r spec excluded now n).mp (selectFresh_mem_scan hw h)
  exact ((matchesNode_iff r n spec now).mp hscan.2.2).weight_pos

lemma boundPositive_bindSession (h : r.BoundPositive) (selected : Option ProxyNode)
    (hsel : ∀ n, selected = some n → 0 < n.weight) :
    (r.bindSession spec selected now).BoundPositive := by
  unfold bindSession
  cases spec.sessionId with
  | none => exact h
  | some sessionId =>
    cases selected with
    | none => exact h
    | some node =>
      dsimp only
      split
      · intro sid b hb
        dsimp only at hb
        rw [lookup_insert_eq] at hb
        split at hb
        · cases hb
          exact hsel node rfl
        · exact h sid b hb
      · exact h

lemma sessionStore_sweep (r : RouterEngine) (now : Instant) :
    (r.sweepExpiredAt now).2.sessionStore =
      retain (fun _ b => secsSince now b.2 < sessionTtlSecs) r.sessionStore := rfl

lemma boundPositive_sweep (h : r.BoundPositive) : (r.sweepExpiredAt now).2.BoundPositive := by
  intro sid b hb
  rw [sessionStore_sweep, lookup_retain, Option.filter_eq_some_iff] at hb
  exact h sid b hb.1

lemma sessionStore_setQuarantine (r : RouterEngine) (domain ip : String) (ttlSecs : Nat)
    (now : Instant) : (r.setQuarantine domain ip ttlSecs now).sessionStore = r.sessionStore := by
  unfold setQuarantine
  dsimp only
  split
  · rfl
  · split <;> rfl

lemma sessionStore_removeQuarantine (r : RouterEngine) (domain ip : String) :
    (r.removeQuarantine domain ip).2.sessionStore = r.sessionStore := by
  rcases removeQuarantine_cases r domain ip with
    ⟨h, -⟩ | ⟨inner, -, -, -, h⟩ | ⟨inner, -, -, -, h⟩
  all_goals rw [h]

/-- A pool writer leaves sessions and quarantines alone. -/
lemma tables_writer (r : RouterEngine) (op : RouterOp) (h : op.writesPool = true) :
    (r.step op).sessionStore = r.sessionStore ∧ (r.step op).quarantineMap = r.quarantineMap := by
  cases op with
  | reloadNodes | replaceVendorNodes | adjustVendorWeight | setPaidWeightBoost
  | scaleVendorWeights => exact ⟨rfl, rfl⟩
  | addNode node =>
    rcases step_addNode r node with hr | hr
    · rw [hr]
      exact ⟨rfl, rfl⟩
    · rw [hr]
      exact ⟨rfl, rfl⟩
  | removeNode addr =>
    rcases step_removeNode r addr with hr | hr
    · rw [hr]
      exact ⟨rfl, rfl⟩
    · rw [hr]
      exact ⟨rfl, rfl⟩
  | setQuarantine | removeQuarantine | sweepExpired | select => simp [RouterOp.writesPool] at h

def StickyInv (r : RouterEngine) : Prop := r.WellIndexed ∧ r.BoundPositive

lemma stickyInv_step (r : RouterEngine) (op : RouterOp) (h : r.StickyInv) :
    (r.step op).StickyInv := by
  refine ⟨wellIndexed_step r op h.1, ?_⟩
  by_cases hwrite : op.writesPool = true
  · exact h.2.of_eq (tables_writer r op hwrite).1
  · cases op with
    | setQuarantine domain ip ttlSecs now =>
      exact h.2.of_eq (sessionStore_setQuarantine r domain ip ttlSecs now)
    | removeQuarantine domain ip => exact h.2.of_eq (sessionStore_removeQuarantine r domain ip)
    | sweepExpired now => exact boundPositive_sweep h.2
    | select spec excluded now draw =>
      unfold step selectNodeExcluding
      dsimp only
      split
      · exact h.2
      · exact boundPositive_bindSession h.2 _ (fun n hn => selectFresh_weight_pos h.1 hn)
    | reloadNodes | replaceVendorNodes | addNode | removeNode | adjustVendorWeight
    | setPaidWeightBoost | scaleVendorWeights => exact absurd rfl hwrite

end RouterEngine

/-- In every run from `RouterEngine::new`, with any pool writes, quarantines, sweeps, selections
and instants, all selections return current, matching pool entries if and only if no selection
accepts a binding whose snapshot is no longer in the pool. -/
theorem selections_current_iff (initial : List ProxyNode) (ops : List RouterOp) :
    Along RouterEngine.step RouterOp.ServesCurrent (.new initial) ops ↔
      Along RouterEngine.step RouterOp.BindingCurrent (.new initial) ops := by
  have hinit : (RouterEngine.new initial).StickyInv :=
    ⟨RouterEngine.wellIndexed_new initial, RouterEngine.boundPositive_new initial⟩
  refine along_congr RouterEngine.stickyInv_step (fun r op hinv => ?_) hinit ops
  cases op with
  | select spec excluded now draw => exact RouterEngine.servesCurrent_iff hinv.1 hinv.2
  | _ => exact Iff.rfl

/-- A free node as two successive merges deliver it, with the exit address measured anew. -/
def freeNodeWithExit (exitIp : String) : ProxyNode :=
  (ProxyNode.new "10.0.0.1" 8080 none none "ZZ" "free" "free-a" 10).withExitIp (some exitIp)

/-- A session is bound, the next merge rotates the exit address, the new exit is quarantined, and
the session is used again. -/
def rotatedExitRun : List RouterOp :=
  [.replaceVendorNodes "free-" [freeNodeWithExit "203.0.113.1"],
   .select { sessionId := some "t:s", targetDomain := "example.com" } [] 0 0,
   .replaceVendorNodes "free-" [freeNodeWithExit "203.0.113.2"],
   .setQuarantine "example.com" "203.0.113.2" 600 0,
   .select { sessionId := some "t:s", targetDomain := "example.com" } [] 0 0]

/-- The last selection returns the snapshot with the old exit address, which is not in the pool. -/
theorem sticky_returns_rotated_exit :
    ¬Along RouterEngine.step RouterOp.ServesCurrent (.new []) rotatedExitRun := by
  intro h
  have hlast := (along_iff_positions (P := RouterOp.ServesCurrent) _ _).mp h
    (rotatedExitRun.take 4) _ (List.prefix_refl _)
  have hmem := (hlast (freeNodeWithExit "203.0.113.1") (by decide)).1
  revert hmem
  decide

end IPProxyPool
