import IPProxyPool.Model.Admin
import IPProxyPool.Proofs.AddressUnique

/-!
# Reversing autotune

`set_paid_weight_boost` rescales a paid node from the base weight on record, recording its weight
on first sight. A boost of 100 therefore restores the weight that the record holds, raised to one:
that is the weight before the first boost only where the two agree.
-/

namespace IPProxyPool
open RustText AssocTable Transition

namespace RouterEngine

variable {r : RouterEngine} {base : Table String Nat} {boost : Nat} {n : ProxyNode}

/-- The predicate by which boosts leave a node alone. -/
def isFreeForBoost (n : ProxyNode) : Bool := startsWith n.provider "free"

/-- The base weight on record for a node, or the weight that would be recorded. -/
def baseOf (base : Table String Nat) (n : ProxyNode) : Nat := (base.lookup n.addr).getD n.weight

def boosted (boost : Nat) (base : Table String Nat) (n : ProxyNode) : ProxyNode :=
  if isFreeForBoost n then n else { n with weight := boostedWeight (baseOf base n) boost }

def clampBoost (boostPercent : Nat) : Nat := max 1 (min boostPercent 500)

lemma boostNode_snd (boost : Nat) (base : Table String Nat) (n : ProxyNode) :
    (boostNode boost base n).2 = boosted boost base n := by
  unfold boostNode boosted isFreeForBoost baseOf
  split
  · rfl
  · cases base.lookup n.addr <;> rfl

lemma lookup_boostNode (boost : Nat) (base : Table String Nat) (n : ProxyNode) (addr : String) :
    (boostNode boost base n).1.lookup addr =
      if isFreeForBoost n = false ∧ addr = n.addr then some (baseOf base n) else base.lookup addr := by
  unfold boostNode isFreeForBoost baseOf
  split
  · rename_i hfree
    rw [if_neg (by simp [hfree])]
  · rename_i hpaid
    have hpaid' : startsWith n.provider "free" = false := by simpa using hpaid
    cases hbase : base.lookup n.addr with
    | some w =>
      by_cases haddr : addr = n.addr
      · rw [if_pos ⟨hpaid', haddr⟩, haddr, hbase]
        rfl
      · rw [if_neg (fun h => haddr h.2)]
    | none =>
      dsimp only
      rw [lookup_insert_eq]
      by_cases haddr : addr = n.addr
      · rw [if_pos haddr, if_pos ⟨hpaid', haddr⟩]
        rfl
      · rw [if_neg haddr, if_neg (fun h => haddr h.2)]

/-- With distinct addresses every node is boosted from the record at hand when the call began. -/
lemma boostNodes_snd {l : List ProxyNode} (hnodup : (l.map ProxyNode.addr).Nodup) (boost : Nat)
    (base : Table String Nat) : (boostNodes boost base l).2 = l.map (boosted boost base) := by
  induction l generalizing base with
  | nil => rfl
  | cons n ns ih =>
    rw [List.map_cons, List.nodup_cons] at hnodup
    unfold boostNodes
    dsimp only
    rw [ih hnodup.2, boostNode_snd, List.map_cons]
    congr 1
    apply List.map_congr_left
    intro m hm
    have hne : m.addr ≠ n.addr := fun haddr =>
      hnodup.1 (List.mem_map.mpr ⟨m, hm, haddr⟩)
    have hsame : baseOf (boostNode boost base n).1 m = baseOf base m := by
      unfold baseOf
      rw [lookup_boostNode, if_neg (fun h => hne h.2)]
    unfold boosted
    rw [hsame]

/-- After a boost the record holds the base weight of every paid node. -/
lemma lookup_boostNodes {l : List ProxyNode} (hnodup : (l.map ProxyNode.addr).Nodup) (boost : Nat)
    (base : Table String Nat) {n : ProxyNode} (hn : n ∈ l) (hpaid : isFreeForBoost n = false) :
    (boostNodes boost base l).1.lookup n.addr = some (baseOf base n) := by
  have hkeep : ∀ (l : List ProxyNode) (base : Table String Nat) (addr : String),
      addr ∉ l.map ProxyNode.addr → (boostNodes boost base l).1.lookup addr = base.lookup addr := by
    intro l
    induction l with
    | nil => intro base addr _; rfl
    | cons m ms ih =>
      intro base addr haddr
      rw [List.map_cons, List.mem_cons, not_or] at haddr
      unfold boostNodes
      dsimp only
      rw [ih _ addr haddr.2, lookup_boostNode, if_neg (fun h => haddr.1 h.2)]
  induction l generalizing base with
  | nil => cases hn
  | cons m ms ih =>
    rw [List.map_cons, List.nodup_cons] at hnodup
    unfold boostNodes
    dsimp only
    rcases List.mem_cons.mp hn with rfl | hms
    · rw [hkeep ms _ n.addr hnodup.1, lookup_boostNode, if_pos ⟨hpaid, rfl⟩]
    · have hne : n.addr ≠ m.addr := fun haddr =>
        hnodup.1 (List.mem_map.mpr ⟨n, hms, haddr⟩)
      rw [ih hnodup.2 _ hms]
      unfold baseOf
      rw [lookup_boostNode, if_neg (fun h => hne h.2)]

/-! ### Sequences of boosts -/

lemma pools_setPaidWeightBoost (hnodup : (r.pools.map ProxyNode.addr).Nodup) (boostPercent : Nat) :
    (r.setPaidWeightBoost boostPercent).pools =
      r.pools.map (boosted (clampBoost boostPercent) r.paidBaseWeight) :=
  boostNodes_snd hnodup (clampBoost boostPercent) r.paidBaseWeight

lemma nodup_setPaidWeightBoost (hnodup : (r.pools.map ProxyNode.addr).Nodup) (boostPercent : Nat) :
    ((r.setPaidWeightBoost boostPercent).pools.map ProxyNode.addr).Nodup := by
  have haddr := map_addr_boostNodes (clampBoost boostPercent) r.paidBaseWeight r.pools
  change ((boostNodes (clampBoost boostPercent) r.paidBaseWeight r.pools).2.map
    ProxyNode.addr).Nodup
  rw [haddr]
  exact hnodup

/-- Of two boosts in a row the second decides. -/
lemma setPaidWeightBoost_twice (hnodup : (r.pools.map ProxyNode.addr).Nodup) (b b' : Nat) :
    ((r.setPaidWeightBoost b).setPaidWeightBoost b').pools = (r.setPaidWeightBoost b').pools := by
  rw [pools_setPaidWeightBoost (nodup_setPaidWeightBoost hnodup b), pools_setPaidWeightBoost hnodup,
    pools_setPaidWeightBoost hnodup, List.map_map]
  apply List.map_congr_left
  intro n hn
  dsimp only [Function.comp_apply]
  unfold boosted
  cases hfree : isFreeForBoost n with
  | true => simp [hfree]
  | false =>
    have hrecord : (r.setPaidWeightBoost b).paidBaseWeight.lookup n.addr =
        some (baseOf r.paidBaseWeight n) :=
      lookup_boostNodes hnodup (clampBoost b) r.paidBaseWeight hn hfree
    have hfree' : isFreeForBoost { n with
        weight := boostedWeight (baseOf r.paidBaseWeight n) (clampBoost b) } = false := hfree
    have hbase : baseOf (r.setPaidWeightBoost b).paidBaseWeight { n with
        weight := boostedWeight (baseOf r.paidBaseWeight n) (clampBoost b) } =
        baseOf r.paidBaseWeight n := by
      change ((r.setPaidWeightBoost b).paidBaseWeight.lookup n.addr).getD _ = _
      rw [hrecord]
      rfl
    simp only [Bool.false_eq_true, if_false, hfree', hbase]

/-- A sequence of boosts leaves the pool as its last boost alone would. -/
lemma pools_run_boosts (hnodup : (r.pools.map ProxyNode.addr).Nodup) (boosts : List Nat) (b : Nat) :
    (run setPaidWeightBoost r (boosts ++ [b])).pools = (r.setPaidWeightBoost b).pools := by
  induction boosts generalizing r with
  | nil => rfl
  | cons b' boosts ih =>
    rw [List.cons_append, run_cons, ih (nodup_setPaidWeightBoost hnodup b'),
      setPaidWeightBoost_twice hnodup]

/-- What autotune promises of a router: a final boost of 100 restores every node, free nodes never
change, and a node of weight zero stays out of service throughout. -/
structure AutotuneReversible (r : RouterEngine) : Prop where
  restores : ∀ boosts, (run setPaidWeightBoost r (boosts ++ [100])).pools = r.pools
  free_unchanged : ∀ boosts (i : Nat) n, r.pools[i]? = some n → isFreeForBoost n = true →
    (run setPaidWeightBoost r boosts).pools[i]? = some n
  zero_stays : ∀ boosts (i : Nat) n m, r.pools[i]? = some n → n.weight = 0 →
    (run setPaidWeightBoost r boosts).pools[i]? = some m → m.weight = 0

/-- The weight a paid node is restored to is the weight it has. -/
def AtBase (r : RouterEngine) (n : ProxyNode) : Prop :=
  n.weight = max 1 ((r.paidBaseWeight.lookup n.addr).getD n.weight)

lemma boostedWeight_full {base w : Nat} (hw : w ≤ 100) :
    boostedWeight base (clampBoost 100) = w ↔ w = max 1 base := by
  have hclamp : clampBoost 100 = 100 := rfl
  unfold boostedWeight
  rw [hclamp]
  omega

lemma boosted_full_eq_self_iff (hw : n.weight ≤ 100) (hpaid : isFreeForBoost n = false) :
    boosted (clampBoost 100) r.paidBaseWeight n = n ↔ r.AtBase n := by
  unfold boosted AtBase
  rw [hpaid, if_neg Bool.false_ne_true, ← baseOf, ← boostedWeight_full hw]
  constructor
  · intro h
    exact congrArg ProxyNode.weight h
  · intro h
    rw [h]

lemma free_unchanged_run (hnodup : (r.pools.map ProxyNode.addr).Nodup) (boosts : List Nat) (i : Nat)
    (n : ProxyNode) (hn : r.pools[i]? = some n) (hfree : isFreeForBoost n = true) :
    (run setPaidWeightBoost r boosts).pools[i]? = some n := by
  rcases List.eq_nil_or_concat boosts with rfl | ⟨pre, b, rfl⟩
  · exact hn
  · rw [List.concat_eq_append, pools_run_boosts hnodup, pools_setPaidWeightBoost hnodup,
      List.getElem?_map, hn, Option.map_some]
    unfold boosted
    rw [if_pos hfree]

lemma setPaidWeightBoost_full (hweights : ∀ n ∈ r.pools, n.weight ≤ 100)
    (hnodup : (r.pools.map ProxyNode.addr).Nodup) :
    (r.setPaidWeightBoost 100).pools = r.pools ↔
      ∀ n ∈ r.pools, isFreeForBoost n = false → r.AtBase n := by
  have hself := List.map_id r.pools
  constructor
  · intro h n hn hpaid
    rw [pools_setPaidWeightBoost hnodup] at h
    rw [← boosted_full_eq_self_iff (hweights n hn) hpaid]
    exact List.map_inj_left.mp (h.trans hself.symm) n hn
  · intro h
    have hfixed : ∀ n ∈ r.pools, boosted (clampBoost 100) r.paidBaseWeight n = id n := by
      intro n hn
      cases hfree : isFreeForBoost n with
      | true =>
        unfold boosted
        rw [if_pos hfree]
        rfl
      | false => exact (boosted_full_eq_self_iff (hweights n hn) hfree).mpr (h n hn hfree)
    rw [pools_setPaidWeightBoost hnodup, List.map_congr_left hfixed, hself]

lemma run_boosts_full (hweights : ∀ n ∈ r.pools, n.weight ≤ 100)
    (hnodup : (r.pools.map ProxyNode.addr).Nodup)
    (hbase : ∀ n ∈ r.pools, isFreeForBoost n = false → r.AtBase n) (boosts : List Nat) :
    (run setPaidWeightBoost r (boosts ++ [100])).pools = r.pools := by
  rw [pools_run_boosts hnodup]
  exact (setPaidWeightBoost_full hweights hnodup).mpr hbase

/-- On a pool with weights up to 100 and distinct addresses, autotune is reversible exactly when
every paid node has at least weight one and the weight that is on record for it, if any. -/
theorem autotune_reversible_iff (r : RouterEngine) (hweights : ∀ n ∈ r.pools, n.weight ≤ 100)
    (hnodup : (r.pools.map ProxyNode.addr).Nodup) :
    r.AutotuneReversible ↔ ∀ n ∈ r.pools, isFreeForBoost n = false → r.AtBase n := by
  constructor
  · intro h
    exact (setPaidWeightBoost_full hweights hnodup).mp (h.restores [])
  · intro hbase
    refine ⟨run_boosts_full hweights hnodup hbase, free_unchanged_run hnodup, ?_⟩
    intro boosts i n m hn hzero hm
    cases hfree : isFreeForBoost n with
    | true =>
      rw [free_unchanged_run hnodup boosts i n hn hfree, Option.some.injEq] at hm
      rw [← hm]
      exact hzero
    | false =>
      -- a paid node of weight zero is not at its base
      have hatBase := hbase n (List.mem_of_getElem? hn) hfree
      unfold AtBase at hatBase
      omega

/-- The initial pool is at its base. -/
theorem autotune_reversible_mainSeeds : (RouterEngine.new mainSeeds).AutotuneReversible :=
  (autotune_reversible_iff (.new mainSeeds) (by decide) (by decide)).mpr (by
    intro n hn hpaid
    have hweight : ∀ m ∈ mainSeeds, m.weight = max 1 m.weight := by decide
    exact hweight n hn)

def deratedNode : ProxyNode := .new "203.0.113.1" 8080 none none "US" "residential" "mock-a" 0

/-- A node out of service comes back with weight one, and stays. -/
theorem derated_node_revived :
    ¬(RouterEngine.new [deratedNode]).AutotuneReversible ∧
      ((RouterEngine.new [deratedNode]).setPaidWeightBoost 100).pools.map ProxyNode.weight = [1] := by
  refine ⟨?_, by decide⟩
  intro h
  have hpools := h.restores []
  have hweight : (run setPaidWeightBoost (.new [deratedNode]) [100]).pools.map ProxyNode.weight =
      [1] := by decide
  rw [List.nil_append] at hpools
  rw [hpools] at hweight
  revert hweight
  decide

/-- Switching autotune off by the handler restores such a pool after any boosts. -/
theorem autotune_off_restores (hweights : ∀ n ∈ r.pools, n.weight ≤ 100)
    (hnodup : (r.pools.map ProxyNode.addr).Nodup)
    (hbase : ∀ n ∈ r.pools, isFreeForBoost n = false → r.AtBase n) (autotune : AutotuneConfig)
    (boosts : List Nat) :
    (postFreePoolAutotuneHandler autotune (run setPaidWeightBoost r boosts) ⟨some false, none⟩).2.pools =
      r.pools := by
  have hrestores := run_boosts_full hweights hnodup hbase boosts
  rw [run_append] at hrestores
  exact hrestores

end RouterEngine

end IPProxyPool
