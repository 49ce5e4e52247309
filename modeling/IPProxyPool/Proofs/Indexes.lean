import IPProxyPool.Model.Writers

/-!
# The derived indexes follow the pool

Every pool writer replaces the buckets and the hot list together with the pool, so in every
state of every run both are functions of the pool.
-/

namespace IPProxyPool
open RustText AssocTable Transition

lemma find?_addr_of_nodup {l : List ProxyNode} (hnodup : (l.map ProxyNode.addr).Nodup)
    {n : ProxyNode} (hn : n ∈ l) : l.find? (fun k => k.addr = n.addr) = some n := by
  induction l with
  | nil => cases hn
  | cons k ks ih =>
    rw [List.map_cons, List.nodup_cons] at hnodup
    rcases List.mem_cons.mp hn with rfl | hn
    · exact List.find?_cons_of_pos (by simp)
    · have hne : k.addr ≠ n.addr := fun haddr =>
        hnodup.1 (List.mem_map.mpr ⟨n, hn, haddr.symm⟩)
      rw [List.find?_cons_of_neg (by simpa using hne)]
      exact ih hnodup.2 hn

/-- The indexes are those the builders compute from the pool. -/
def RouterEngine.WellIndexed (r : RouterEngine) : Prop :=
  r.buckets = buildBuckets r.pools ∧ r.hotNodes = buildHotNodes r.pools

namespace RouterEngine

lemma wellIndexed_new (nodes : List ProxyNode) : (new nodes).WellIndexed := ⟨rfl, rfl⟩

lemma wellIndexed_storeNodes (r : RouterEngine) (next : List ProxyNode) :
    (r.storeNodes next).WellIndexed := ⟨rfl, rfl⟩

lemma WellIndexed.of_eq {r r' : RouterEngine} (h : r.WellIndexed) (hp : r'.pools = r.pools)
    (hb : r'.buckets = r.buckets) (hh : r'.hotNodes = r.hotNodes) : r'.WellIndexed := by
  unfold WellIndexed
  rw [hp, hb, hh]
  exact h

structure SamePool (r r' : RouterEngine) : Prop where
  pools : r'.pools = r.pools
  buckets : r'.buckets = r.buckets
  hotNodes : r'.hotNodes = r.hotNodes
  paidBaseWeight : r'.paidBaseWeight = r.paidBaseWeight

lemma samePool_refl (r : RouterEngine) : r.SamePool r := ⟨rfl, rfl, rfl, rfl⟩

lemma samePool_setQuarantine (r : RouterEngine) (domain ip : String) (ttlSecs : Nat)
    (now : Instant) : r.SamePool (r.setQuarantine domain ip ttlSecs now) := by
  unfold setQuarantine
  dsimp only
  split
  · exact samePool_refl r
  · split
    · exact samePool_refl r
    · exact ⟨rfl, rfl, rfl, rfl⟩

lemma samePool_removeQuarantine (r : RouterEngine) (domain ip : String) :
    r.SamePool (r.removeQuarantine domain ip).2 := by
  rcases removeQuarantine_cases r domain ip with
    ⟨h, -⟩ | ⟨inner, -, -, -, h⟩ | ⟨inner, -, -, -, h⟩
  · rw [h]
    exact samePool_refl r
  · rw [h]
    exact ⟨rfl, rfl, rfl, rfl⟩
  · rw [h]
    exact ⟨rfl, rfl, rfl, rfl⟩

lemma samePool_bindSession (r : RouterEngine) (spec : RoutingSpec) (selected : Option ProxyNode)
    (now : Instant) : r.SamePool (r.bindSession spec selected now) := by
  unfold bindSession
  split
  · split
    · exact ⟨rfl, rfl, rfl, rfl⟩
    · exact samePool_refl r
  · exact samePool_refl r

lemma samePool_selectNodeExcluding (r : RouterEngine) (spec : RoutingSpec)
    (excluded : List String) (now : Instant) (draw : Nat) :
    r.SamePool (r.selectNodeExcluding spec excluded now draw).2 := by
  unfold selectNodeExcluding
  dsimp only
  split
  · exact samePool_refl r
  · exact samePool_bindSession r _ _ now

theorem samePool_step (r : RouterEngine) (op : RouterOp) (h : op.writesPool = false) :
    r.SamePool (r.step op) := by
  cases op with
  | setQuarantine domain ip ttlSecs now => exact samePool_setQuarantine r domain ip ttlSecs now
  | removeQuarantine domain ip => exact samePool_removeQuarantine r domain ip
  | sweepExpired now => exact ⟨rfl, rfl, rfl, rfl⟩
  | select spec excluded now draw => exact samePool_selectNodeExcluding r spec excluded now draw
  | reloadNodes | replaceVendorNodes | addNode | removeNode | adjustVendorWeight
  | setPaidWeightBoost | scaleVendorWeights => simp [RouterOp.writesPool] at h

lemma step_addNode (r : RouterEngine) (node : ProxyNode) :
    r.step (.addNode node) = r ∨ r.step (.addNode node) = r.storeNodes (r.pools ++ [node]) := by
  unfold step addNode
  dsimp only
  by_cases hdup : r.pools.any (fun n => n.addr = node.addr) = true
  · rw [if_pos hdup]
    exact .inl rfl
  · rw [if_neg hdup]
    exact .inr rfl

lemma pools_addNode (r : RouterEngine) (node : ProxyNode) :
    (r.step (.addNode node)).pools =
      if r.pools.any (fun n => n.addr = node.addr) = true then r.pools
      else r.pools ++ [node] := by
  unfold step addNode
  dsimp only
  by_cases hdup : r.pools.any (fun n => n.addr = node.addr) = true
  · rw [if_pos hdup, if_pos hdup]
  · rw [if_neg hdup, if_neg hdup]
    rfl

lemma step_removeNode (r : RouterEngine) (addr : String) :
    r.step (.removeNode addr) = r ∨ r.step (.removeNode addr) =
      { r.storeNodes (r.pools.filter (fun n => n.addr ≠ addr)) with
        paidBaseWeight := r.paidBaseWeight.erase addr } := by
  unfold step removeNode
  dsimp only
  cases r.pools.find? (fun n => n.addr = addr) with
  | none => exact .inl rfl
  | some removed => exact .inr rfl

lemma pools_removeNode (r : RouterEngine) (addr : String) :
    (r.step (.removeNode addr)).pools = r.pools.filter (fun n => n.addr ≠ addr) := by
  unfold step removeNode
  dsimp only
  cases hfind : r.pools.find? (fun n => n.addr = addr) with
  | none =>
    symm
    rw [List.filter_eq_self]
    intro n hn
    simpa using List.find?_eq_none.mp hfind n hn
  | some removed => rfl

theorem wellIndexed_step (r : RouterEngine) (op : RouterOp) (h : r.WellIndexed) :
    (r.step op).WellIndexed := by
  by_cases hw : op.writesPool = false
  · have hs := samePool_step r op hw
    exact h.of_eq hs.pools hs.buckets hs.hotNodes
  · cases op with
    | reloadNodes nodes => exact wellIndexed_storeNodes r nodes
    | replaceVendorNodes pre nodes => exact ⟨rfl, rfl⟩
    | addNode node =>
      rcases step_addNode r node with hr | hr
      · rw [hr]
        exact h
      · rw [hr]
        exact wellIndexed_storeNodes r _
    | removeNode addr =>
      rcases step_removeNode r addr with hr | hr
      · rw [hr]
        exact h
      · rw [hr]
        exact ⟨rfl, rfl⟩
    | adjustVendorWeight vendor country weight => exact wellIndexed_storeNodes r _
    | setPaidWeightBoost boostPercent => exact ⟨rfl, rfl⟩
    | scaleVendorWeights vendor country factor => exact ⟨rfl, rfl⟩
    | setQuarantine | removeQuarantine | sweepExpired | select => exact absurd rfl hw

theorem wellIndexed_run (initial : List ProxyNode) (ops : List RouterOp) :
    (run step (new initial) ops).WellIndexed :=
  run_invariant wellIndexed_step (wellIndexed_new initial) ops

end RouterEngine

/-! ### What the builders compute -/

lemma buildBuckets_eq_groupBy (pools : List ProxyNode) :
    buildBuckets pools = groupBy bucketKeyOf (pools.filter (fun n => 0 < n.weight)) := by
  have hgen : ∀ t : Table BucketKey (List ProxyNode),
      pools.foldl (fun map n => if n.weight = 0 then map else push bucketKeyOf map n) t =
        (pools.filter (fun n => 0 < n.weight)).foldl (push bucketKeyOf) t := by
    induction pools with
    | nil => intro t; rfl
    | cons n ns ih =>
      intro t
      by_cases hw : n.weight = 0
      · simp [hw, ih]
      · have hpos : 0 < n.weight := Nat.pos_of_ne_zero hw
        simp [hw, hpos, ih]
  exact hgen ∅

/-- The pool nodes that belong in a bucket, in pool order. -/
def bucketMembers (pools : List ProxyNode) (key : BucketKey) : List ProxyNode :=
  pools.filter (fun n => 0 < n.weight && bucketKeyOf n = key)

lemma lookup_buildBuckets (pools : List ProxyNode) (key : BucketKey) :
    (buildBuckets pools).lookup key =
      if bucketMembers pools key = [] then none else some (bucketMembers pools key) := by
  have hmem : (pools.filter (fun n => 0 < n.weight)).filter (fun n => bucketKeyOf n = key) =
      bucketMembers pools key := by
    simp only [List.filter_filter, bucketMembers, Bool.and_comm]
  rw [buildBuckets_eq_groupBy, lookup_groupBy, hmem]

/-- `hot` is the list sorted by descending weight, equal weights in their original order, cut
to the first `k` entries. -/
def IsTopByWeight (k : Nat) (pools hot : List ProxyNode) : Prop :=
  ∃ sorted : List ProxyNode, sorted.Perm pools ∧
    sorted.Pairwise (fun a b => b.weight ≤ a.weight) ∧
    (∀ w, sorted.filter (fun n => n.weight = w) = pools.filter (fun n => n.weight = w)) ∧
    hot = sorted.take k

instance : IsTrans ProxyNode (fun a b => b.weight ≤ a.weight) :=
  ⟨fun _ _ _ hab hbc => le_trans hbc hab⟩

instance : Std.Total (fun a b : ProxyNode => b.weight ≤ a.weight) :=
  ⟨fun a b => le_total b.weight a.weight⟩

lemma insertionSort_stable (pools : List ProxyNode) (w : Nat) :
    (pools.insertionSort (fun a b => b.weight ≤ a.weight)).filter (fun n => n.weight = w) =
      pools.filter (fun n => n.weight = w) := by
  have hperm := (List.perm_insertionSort (fun a b : ProxyNode => b.weight ≤ a.weight) pools).filter
    (fun n => decide (n.weight = w))
  -- nodes of one weight are in sorted order already, so the sort keeps them as a sublist
  have hpair : (pools.filter (fun n => n.weight = w)).Pairwise (fun a b => b.weight ≤ a.weight) := by
    rw [List.pairwise_iff_forall_sublist]
    intro a b hab
    have ha : a.weight = w := by simpa using List.of_mem_filter (hab.subset List.mem_cons_self)
    have hb : b.weight = w := by
      simpa using List.of_mem_filter (hab.subset (List.mem_cons_of_mem _ List.mem_cons_self))
    omega
  have hsub := (List.sublist_insertionSort hpair List.filter_sublist).filter
    (fun n => decide (n.weight = w))
  rw [List.filter_filter] at hsub
  simp only [Bool.and_self] at hsub
  exact (hsub.eq_of_length hperm.length_eq.symm).symm

lemma buildHotNodes_isTop (pools : List ProxyNode) :
    IsTopByWeight hotNodesK (pools.filter (fun n => 0 < n.weight)) (buildHotNodes pools) :=
  ⟨_, List.perm_insertionSort _ _, List.pairwise_insertionSort _ _, insertionSort_stable _, rfl⟩

/-- After every sequence of operations, a bucket holds exactly the positive-weight pool nodes
of its key, in pool order and with their multiplicity, there is no other bucket, and the hot
list is the top of the positive-weight nodes by weight. -/
theorem indexes_follow_pool (initial : List ProxyNode) (ops : List RouterOp) :
    (∀ key, (run RouterEngine.step (.new initial) ops).buckets.lookup key =
      if bucketMembers (run RouterEngine.step (.new initial) ops).pools key = [] then none
      else some (bucketMembers (run RouterEngine.step (.new initial) ops).pools key)) ∧
    IsTopByWeight hotNodesK
      ((run RouterEngine.step (.new initial) ops).pools.filter (fun n => 0 < n.weight))
      (run RouterEngine.step (.new initial) ops).hotNodes := by
  obtain ⟨hb, hh⟩ := RouterEngine.wellIndexed_run initial ops
  constructor
  · intro key
    rw [hb]
    exact lookup_buildBuckets _ key
  · rw [hh]
    exact buildHotNodes_isTop _

end IPProxyPool
