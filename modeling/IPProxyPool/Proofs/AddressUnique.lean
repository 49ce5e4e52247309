import IPProxyPool.Model.FreePool

/-!
# Addresses in the live pool

`add_node` refuses an address that is in the pool; the merge of a registry snapshot compares the
provider only. Addresses stay distinct in a run exactly when no merged snapshot holds the
address of a managed node.
-/

namespace IPProxyPool
open RustText AssocTable Transition

inductive PoolOp where
  | addNode (node : ProxyNode)
  | removeNode (addr : String)
  | mergeOnce (snap : RegistrySnapshot)
  | adjustVendorWeight (vendor country : String) (weight : Nat)
  | setPaidWeightBoost (boostPercent : Nat)
  | scaleVendorWeights (vendor country : String) (factor : ℚ)

namespace RouterEngine

/-- A refused `add_node` leaves the router as it is. -/
def poolStep (r : RouterEngine) : PoolOp → RouterEngine
  | .addNode node => match r.addNode node with
    | .ok r' => r'
    | .error _ => r
  | .removeNode addr => (r.removeNode addr).2
  | .mergeOnce snap => r.mergeOnce snap
  | .adjustVendorWeight vendor country weight => r.adjustVendorWeight vendor country weight
  | .setPaidWeightBoost boostPercent => r.setPaidWeightBoost boostPercent
  | .scaleVendorWeights vendor country factor => r.scaleVendorWeights vendor country factor

def DistinctAddrs (r : RouterEngine) : Prop := (r.pools.map ProxyNode.addr).Nodup

instance (r : RouterEngine) : Decidable r.DistinctAddrs :=
  inferInstanceAs (Decidable (r.pools.map ProxyNode.addr).Nodup)

end RouterEngine

/-- A merged snapshot holds no address of a node that the merge leaves in the pool. -/
def PoolOp.MergesDisjoint (r : RouterEngine) : PoolOp → Prop
  | .mergeOnce snap => ∀ m ∈ r.pools, startsWith m.provider "free-" = false →
      ∀ n ∈ snap.nodes, m.addr ≠ n.addr
  | _ => True

namespace RouterEngine

variable {r : RouterEngine}

lemma map_addr_of_weights {f : ProxyNode → ProxyNode} (hf : ∀ n, (f n).addr = n.addr)
    (l : List ProxyNode) : (l.map f).map ProxyNode.addr = l.map ProxyNode.addr := by
  rw [List.map_map]
  apply List.map_congr_left
  intro n _
  exact hf n

lemma addr_boostNode (boost : Nat) (base : Table String Nat) (n : ProxyNode) :
    (boostNode boost base n).2.addr = n.addr := by
  unfold boostNode
  split
  · rfl
  · split <;> rfl

lemma map_addr_boostNodes (boost : Nat) (base : Table String Nat) (l : List ProxyNode) :
    (boostNodes boost base l).2.map ProxyNode.addr = l.map ProxyNode.addr := by
  induction l generalizing base with
  | nil => rfl
  | cons n ns ih =>
    unfold boostNodes
    simp only [List.map_cons, addr_boostNode, ih]

lemma distinctAddrs_addNode (h : r.DistinctAddrs) (node : ProxyNode) :
    (r.poolStep (.addNode node)).DistinctAddrs := by
  unfold poolStep addNode
  dsimp only
  by_cases hdup : r.pools.any (fun n => n.addr = node.addr) = true
  · rw [if_pos hdup]
    exact h
  · rw [if_neg hdup]
    have hnew : node.addr ∉ r.pools.map ProxyNode.addr := by
      simpa [List.mem_map] using hdup
    simp only [DistinctAddrs, storeNodes_pools, List.map_append, List.map_cons, List.map_nil]
    rw [List.nodup_append]
    refine ⟨h, List.nodup_singleton _, ?_⟩
    intro a ha b hb hab
    rw [List.mem_singleton] at hb
    exact hnew (hb ▸ hab ▸ ha)

lemma distinctAddrs_removeNode (h : r.DistinctAddrs) (addr : String) :
    (r.poolStep (.removeNode addr)).DistinctAddrs := by
  unfold poolStep removeNode
  dsimp only
  cases r.pools.find? (fun n => n.addr = addr) with
  | none => exact h
  | some removed => exact h.sublist (List.filter_sublist.map _)

/-- A merge keeps the addresses distinct exactly when the snapshot shares none with the nodes
that stay. -/
lemma distinctAddrs_mergeOnce_iff (h : r.DistinctAddrs) (snap : RegistrySnapshot) :
    (r.mergeOnce snap).DistinctAddrs ↔ (PoolOp.mergeOnce snap).MergesDisjoint r := by
  have hpools : (r.mergeOnce snap).pools.map ProxyNode.addr =
      (r.pools.filter (fun n => !startsWith n.provider "free-")).map ProxyNode.addr ++
        snap.nodes.map ProxyNode.addr := by
    unfold mergeOnce replaceVendorNodes
    rw [pruneFreeScales_pools, storeNodes_pools, List.map_append]
    congr 1
    apply map_addr_of_weights
    intro n
    rfl
  have hstay : ((r.pools.filter (fun n => !startsWith n.provider "free-")).map
      ProxyNode.addr).Nodup := h.sublist (List.filter_sublist.map _)
  unfold DistinctAddrs
  rw [hpools, List.nodup_append]
  constructor
  · rintro ⟨-, -, hdisj⟩ m hm hmanaged n hn
    apply hdisj
    · exact List.mem_map_of_mem (List.mem_filter.mpr ⟨hm, by simp [hmanaged]⟩)
    · exact List.mem_map_of_mem hn
  · intro hdisj
    refine ⟨hstay, snap.addr_nodup, ?_⟩
    intro a ha b hb
    obtain ⟨m, hm, rfl⟩ := List.mem_map.mp ha
    obtain ⟨n, hn, rfl⟩ := List.mem_map.mp hb
    obtain ⟨hpool, hmanaged⟩ := List.mem_filter.mp hm
    exact hdisj m hpool (by simpa using hmanaged) n hn

lemma distinctAddrs_step_iff (r : RouterEngine) (op : PoolOp) (h : r.DistinctAddrs) :
    (r.poolStep op).DistinctAddrs ↔ op.MergesDisjoint r := by
  cases op with
  | addNode node => exact iff_of_true (distinctAddrs_addNode h node) trivial
  | removeNode addr => exact iff_of_true (distinctAddrs_removeNode h addr) trivial
  | mergeOnce snap => exact distinctAddrs_mergeOnce_iff h snap
  | adjustVendorWeight vendor country weight =>
    refine iff_of_true ?_ trivial
    unfold poolStep adjustVendorWeight DistinctAddrs
    rw [storeNodes_pools, map_addr_of_weights]
    · exact h
    · intro n
      split <;> rfl
  | setPaidWeightBoost boostPercent =>
    refine iff_of_true ?_ trivial
    unfold poolStep setPaidWeightBoost DistinctAddrs
    dsimp only
    rw [storeNodes_pools, map_addr_boostNodes]
    exact h
  | scaleVendorWeights vendor country factor =>
    refine iff_of_true ?_ trivial
    unfold poolStep scaleVendorWeights DistinctAddrs
    dsimp only
    rw [storeNodes_pools, map_addr_of_weights]
    · exact h
    · intro n
      split <;> rfl

end RouterEngine

/-- From a pool with distinct addresses, every state of a run has distinct addresses if and only
if every merge of the run brings no address of a node that stays in the pool. -/
theorem addresses_distinct_iff (r : RouterEngine) (h : r.DistinctAddrs) (ops : List PoolOp) :
    Along RouterEngine.poolStep (fun s op => (s.poolStep op).DistinctAddrs) r ops ↔
      Along RouterEngine.poolStep (fun s op => op.MergesDisjoint s) r ops :=
  along_keeps_iff RouterEngine.distinctAddrs_step_iff h ops

def listedManagedNode : ProxyNode := .new "203.0.113.1" 8080 none none "us" "dc" "mock-a" 100

def registryListingIt : Registry :=
  ((Registry.withCapacity (fromSecs 3600) 2000).upsertFull
    ⟨"203.0.113.1", 8080, .http, none, "a"⟩ 500 .anonymous none 0 0).2

def snapshotListingIt : RegistrySnapshot :=
  ⟨registryListingIt, 0, false, registryListingIt.snapshot 0 false, List.Perm.refl _⟩

/-- After the merge the pool holds two nodes at one address. -/
theorem merge_duplicates_managed_address :
    ¬Along RouterEngine.poolStep (fun s op => (s.poolStep op).DistinctAddrs)
      (.new [listedManagedNode]) [.mergeOnce snapshotListingIt] := by
  rintro ⟨hdup, -⟩
  revert hdup
  decide

/-- Merging the same snapshot into a pool without that address keeps the addresses distinct. -/
theorem addresses_distinct_other_pool :
    Along RouterEngine.poolStep (fun s op => (s.poolStep op).DistinctAddrs)
      (.new [.new "203.0.113.2" 8080 none none "us" "dc" "mock-a" 100])
      [.mergeOnce snapshotListingIt] :=
  (addresses_distinct_iff _ (by decide) _).mpr ⟨by
    intro m hm _ n hn
    have hpool : m.addr = "203.0.113.2:8080" := by
      rw [List.mem_singleton.mp hm]
      decide
    have hsnap : snapshotListingIt.nodes.map ProxyNode.addr = ["203.0.113.1:8080"] := by decide
    have haddr : n.addr = "203.0.113.1:8080" := by
      simpa [hsnap] using List.mem_map_of_mem (f := ProxyNode.addr) hn
    rw [hpool, haddr]
    decide, trivial⟩

end IPProxyPool
