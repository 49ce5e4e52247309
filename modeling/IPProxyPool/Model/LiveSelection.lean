import IPProxyPool.Model.Bandit

/-!
# Selection while the router changes

A selection reads the router several times. The weighted path holds one snapshot of pool and
buckets and looks up the quarantines anew in each of its passes; the stateless path loads the pool
anew too. Here every pass has a router state of its own, and `view i` is the state that the `i`-th
pass of a selection reads.
-/

namespace IPProxyPool
open RustText AssocTable

namespace RouterEngine

/-- What one pass of a fresh selection yields: the nodes of the bucket or of the pool of the
`snapshot`, tested against the quarantines in `r`. -/
def livePass (snapshot r : RouterEngine) (spec : RoutingSpec) (excluded : List String)
    (now : Instant) : List ProxyNode :=
  match spec.tier, spec.country, spec.proto with
  | some tier, some country, some proto =>
    ((snapshot.buckets.lookup ⟨tier, country, some proto⟩).getD []).filter
      (fun n => n.addr ∉ excluded && r.matchesNode n spec now)
  | _, _, _ =>
    (snapshot.pools.filter (fun n => n.addr ∉ excluded)).filter (fun n => r.matchesNode n spec now)

/-- The two passes of a fresh selection. The snapshot is loaded for the first one. -/
def selectFreshOver (view : Nat → RouterEngine) (spec : RoutingSpec) (excluded : List String)
    (now : Instant) (draw : Nat) : Option ProxyNode :=
  pickWeightedStreaming (fun i => (view 0).livePass (view i) spec excluded now) draw

/-- The node that `select_node_excluding` returns: the sticky lookup, then the fresh selection. -/
def selectNodeExcludingOver (view : Nat → RouterEngine) (spec : RoutingSpec)
    (excluded : List String) (now : Instant) (draw : Nat) : Option ProxyNode :=
  match (view 0).stickyNode (canonicalSpec spec) excluded now with
  | some node => some node
  | none => selectFreshOver (fun i => view (i + 1)) (canonicalSpec spec) excluded now draw

variable {r : RouterEngine} {spec : RoutingSpec} {excluded : List String} {now : Instant}
  {draw : Nat}

lemma selectFreshOver_rest :
    selectFreshOver (fun _ => r) spec excluded now draw = r.selectFresh spec excluded now draw := by
  rcases spec with ⟨country, sessionId, tier, targetDomain, proto⟩
  unfold selectFreshOver selectFresh livePass
  rcases tier with _ | tier
  · rfl
  · rcases country with _ | country
    · rfl
    · rcases proto with _ | proto
      · rfl
      · unfold selectFromBucket bucketScan
        dsimp only
        cases r.buckets.lookup ⟨tier, country, some proto⟩ <;> rfl

/-- On a router at rest this is `select_node_excluding`. -/
theorem selectNodeExcludingOver_rest :
    selectNodeExcludingOver (fun _ => r) spec excluded now draw =
      (r.selectNodeExcluding spec excluded now draw).1 := by
  unfold selectNodeExcludingOver selectNodeExcluding
  dsimp only
  rw [selectFreshOver_rest]
  cases r.stickyNode (canonicalSpec spec) excluded now <;> rfl

lemma matchesNode_of_mem_livePass {snapshot : RouterEngine} {n : ProxyNode}
    (h : n ∈ snapshot.livePass r spec excluded now) : r.matchesNode n spec now = true := by
  unfold livePass at h
  split at h
  · have hn := (List.mem_filter.mp h).2
    rw [Bool.and_eq_true] at hn
    exact hn.2
  · exact (List.mem_filter.mp h).2

end RouterEngine

namespace SmartProxyGateway

/-- `select_bandit_node_excluding` with a state for each traversal of the quota check and one for
the scoring pass. -/
def selectBanditLive (g : SmartProxyGateway) (ucb : BanditArm → VectorD → Nat → ℚ)
    (view : Nat → RouterEngine) (scoring : RouterEngine) (spec : RoutingSpec)
    (excluded : List String) (context : VectorD) (now : Instant) : Option ProxyNode :=
  (g.selectBanditOver ucb excluded context (fun i => (view i).scan spec excluded now)
    (scoring.scan spec excluded now)).1

/-- The tier that the quota check of such a selection forces. A retry is not checked. -/
def forcedTierLive (g : SmartProxyGateway) (view : Nat → RouterEngine) (spec : RoutingSpec)
    (excluded : List String) (now : Instant) : Option String :=
  if excluded.isEmpty then
    tierQuotaForcedTier g.tierQuotaWindow (fun i => (view i).scan spec excluded now)
  else none

lemma selectBanditLive_rest (g : SmartProxyGateway) (ucb : BanditArm → VectorD → Nat → ℚ)
    (spec : RoutingSpec) (excluded : List String) (context : VectorD) (now : Instant) :
    g.selectBanditLive ucb (fun _ => g.router) g.router spec excluded context now =
      (g.selectBanditNodeExcluding ucb spec excluded context now).1 := rfl

end SmartProxyGateway

end IPProxyPool
