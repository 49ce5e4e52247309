import IPProxyPool.Model.Admin
import IPProxyPool.Model.Arbitrage
import IPProxyPool.Model.FreePool
import IPProxyPool.Proofs.Autotune

/-!
# Free and managed nodes

Four consumers of the pool tell free nodes from managed ones, each by a predicate of its own on the
provider. They agree on all nodes of the free pool, and on all nodes the registry admits but those
whose provider begins with `free`.
-/

namespace IPProxyPool
open RustText AssocTable RouterEngine

/-- All four consumers treat the node as managed: merges keep it, boosts rescale it from its base,
no pair of the free audit reaches it, and the delete handler admits it. -/
structure TreatedAsManaged (n : ProxyNode) : Prop where
  survives : ∀ (r : RouterEngine) nodes, n ∈ r.pools → n ∈ (r.replaceVendorNodes "free-" nodes).pools
  rescaled : ∀ (r : RouterEngine) boostPercent, n ∈ r.pools → (r.pools.map ProxyNode.addr).Nodup →
    { n with weight := boostedWeight (baseOf r.paidBaseWeight n) (clampBoost boostPercent) } ∈
      (r.setPaidWeightBoost boostPercent).pools
  not_audited : ∀ (r : RouterEngine), ∀ p ∈ r.freePairs, inVendorGroup p.1 p.2 n = false
  deletable : ∀ (r : RouterEngine), r.getNodeByAddr n.addr = some n → admitDelete r n.addr = .ok ()

/-- All four consumers treat the node as free. -/
structure TreatedAsFree (n : ProxyNode) : Prop where
  replaced : ∀ (r : RouterEngine) nodes, n ∉ nodes → n ∉ (r.replaceVendorNodes "free-" nodes).pools
  not_rescaled : ∀ (r : RouterEngine) boostPercent, n ∈ r.pools → (r.pools.map ProxyNode.addr).Nodup →
    n ∈ (r.setPaidWeightBoost boostPercent).pools
  audited : ∀ (r : RouterEngine), n ∈ r.pools → (n.provider, n.country) ∈ r.freePairs
  refused : ∀ (r : RouterEngine), r.getNodeByAddr n.addr = some n →
    ∃ e, admitDelete r n.addr = .error e

/-! ### Prefixes -/

lemma startsWith_free_of_reserved {s : String} (h : startsWith s "free-" = true) :
    startsWith s "free" = true := by
  rw [startsWith_iff] at h ⊢
  exact List.IsPrefix.trans (by decide) h

lemma startsWith_lower_of_reserved {s : String} (h : startsWith s "free-" = true) :
    startsWith (toAsciiLowercase s) "free-" = true := by
  rw [startsWith_iff] at h ⊢
  obtain ⟨rest, hrest⟩ := h
  rw [toList_toAsciiLowercase, ← hrest, List.map_append]
  exact ⟨rest.map Char.toLower, rfl⟩

lemma refusesDelete_eq (provider : String) : refusesDelete provider = isReservedProvider provider := by
  unfold refusesDelete isReservedProvider reservedProviderPrefix
  exact Bool.or_comm _ _

lemma not_startsWith_free {n : ProxyNode} (h : Normal n) : startsWith n.provider "free-" = false := by
  rw [← Bool.not_eq_true]
  intro hfree
  have hres : isReservedProvider n.provider = true := by
    unfold isReservedProvider reservedProviderPrefix
    rw [startsWith_lower_of_reserved hfree, Bool.or_true]
  rw [h.not_reserved] at hres
  cases hres

/-! ### The four consumers -/

lemma mem_boosted {r : RouterEngine} {n : ProxyNode} (hn : n ∈ r.pools)
    (hnodup : (r.pools.map ProxyNode.addr).Nodup) (boostPercent : Nat) :
    boosted (clampBoost boostPercent) r.paidBaseWeight n ∈ (r.setPaidWeightBoost boostPercent).pools := by
  rw [pools_setPaidWeightBoost hnodup]
  exact List.mem_map_of_mem hn

lemma treatedAsManaged_of_normal {n : ProxyNode} (h : Normal n) (hprovider : isFreeForBoost n = false) :
    TreatedAsManaged n where
  survives := by
    intro r nodes hn
    have hkeep : n ∈ r.pools.filter (fun m => !startsWith m.provider "free-") :=
      List.mem_filter.mpr ⟨hn, by simp [not_startsWith_free h]⟩
    exact List.mem_append_left _ hkeep
  rescaled := by
    intro r boostPercent hn hnodup
    have hmem := mem_boosted hn hnodup boostPercent
    unfold boosted at hmem
    rwa [hprovider, if_neg Bool.false_ne_true] at hmem
  not_audited := by
    intro r p hp
    have hfree := freePairs_free hp
    have hne : n.provider ≠ p.1 := by
      intro heq
      rw [← heq, not_startsWith_free h] at hfree
      cases hfree
    simp [inVendorGroup, hne]
  deletable := by
    intro r hr
    unfold admitDelete
    rw [hr]
    dsimp only
    rw [refusesDelete_eq, h.not_reserved, if_neg Bool.false_ne_true]

/-- A boost tells a node of the free class: one of two boosts from a base of 100 would change it. -/
lemma paid_of_treatedAsManaged {n : ProxyNode} (h : TreatedAsManaged n) : isFreeForBoost n = false := by
  rw [← Bool.not_eq_true]
  intro hfree
  have hsame : ∀ boostPercent, boostedWeight 100 (clampBoost boostPercent) = n.weight := by
    intro boostPercent
    have hmem := h.rescaled { RouterEngine.new [n] with paidBaseWeight := AList.singleton n.addr 100 }
      boostPercent List.mem_cons_self (by simp [RouterEngine.new])
    rw [pools_setPaidWeightBoost (by simp [RouterEngine.new])] at hmem
    have hone : boosted (clampBoost boostPercent) (AList.singleton n.addr 100) n = n := by
      unfold boosted
      rw [if_pos hfree]
    have heq := (List.mem_singleton.mp hmem).trans hone
    have hbase : baseOf (AList.singleton n.addr 100) n = 100 := by
      unfold baseOf
      rw [lookup_singleton_eq, if_pos rfl]
      rfl
    rw [← hbase]
    exact congrArg ProxyNode.weight heq
  have hlow := hsame 1
  have hhigh := hsame 200
  rw [← hlow] at hhigh
  revert hhigh
  decide

lemma treatedAsFree_of_startsWith {n : ProxyNode} (h : startsWith n.provider "free-" = true) :
    TreatedAsFree n where
  replaced := by
    intro r nodes hnew hn
    rcases List.mem_append.mp hn with hold | hmem
    · have hkept := (List.mem_filter.mp hold).2
      rw [h] at hkept
      exact absurd hkept (by simp)
    · exact hnew hmem
  not_rescaled := by
    intro r boostPercent hn hnodup
    have hmem := mem_boosted hn hnodup boostPercent
    unfold boosted at hmem
    rwa [isFreeForBoost, startsWith_free_of_reserved h, if_pos rfl] at hmem
  audited := by
    intro r hn
    apply List.mem_dedup.mpr
    exact List.mem_map.mpr ⟨n, List.mem_filter.mpr ⟨hn, h⟩, rfl⟩
  refused := by
    intro r hr
    have hrefuse : refusesDelete n.provider = true := by
      unfold refusesDelete
      rw [startsWith_lower_of_reserved h, Bool.true_or]
    unfold admitDelete
    rw [hr]
    dsimp only
    rw [hrefuse, if_pos rfl]
    exact ⟨_, rfl⟩

/-- For every node the validator accepts, all consumers treat it as managed exactly when its
provider does not begin with `free`; the nodes of every snapshot of the free pool are treated as
free by all of them. -/
theorem node_classes_iff {raw n : ProxyNode} (h : normalizeAndValidate raw = .ok n) :
    (TreatedAsManaged n ∧ ∀ snap : RegistrySnapshot, ∀ m ∈ snap.nodes, TreatedAsFree m) ↔
      startsWith n.provider "free" = false := by
  constructor
  · rintro ⟨hmanaged, -⟩
    exact paid_of_treatedAsManaged hmanaged
  · intro hprovider
    exact ⟨treatedAsManaged_of_normal (normal_of_accepted h) hprovider,
      fun snap m hm => treatedAsFree_of_startsWith (snap.provider_free hm)⟩

def mockNode : ProxyNode := .new "203.0.113.1" 8080 none none "US" "residential" "mock-a" 100

/-- An ordinary vendor. -/
theorem mock_node_classes :
    TreatedAsManaged mockNode ∧ ∀ snap : RegistrySnapshot, ∀ m ∈ snap.nodes, TreatedAsFree m :=
  (@node_classes_iff mockNode mockNode (by decide +kernel)).mpr (by decide)

def freelanceNode : ProxyNode := .new "203.0.113.1" 8080 none none "US" "residential" "freelance" 100

/-- The validator accepts the provider `freelance`, and no boost rescales it. -/
theorem freelance_not_managed :
    normalizeAndValidate freelanceNode = .ok freelanceNode ∧ ¬TreatedAsManaged freelanceNode := by
  refine ⟨by decide +kernel, ?_⟩
  intro h
  have hpaid := paid_of_treatedAsManaged h
  revert hpaid
  decide

end IPProxyPool
