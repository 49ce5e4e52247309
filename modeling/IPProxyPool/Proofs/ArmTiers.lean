import IPProxyPool.Lib.FirstLeast
import IPProxyPool.Model.GatewaySteps
import IPProxyPool.Proofs.Indexes

/-!
# Arms and tiers

An arm is made for the node that is scored or rewarded first at an address, and takes its tier.
Another node may stand at the address later, or beside it. Whether arm and node then agree is
decided when a node enters the pool and when an arm is made.
-/

namespace IPProxyPool
open RustText AssocTable Transition FirstLeast

/-- The arm has the tier of the node, with the cost weight and the forgetting period of that
tier. -/
structure ArmOf (arm : BanditArm) (node : ProxyNode) : Prop where
  tier_eq : arm.tier = node.tier
  costWeight_eq : arm.costWeight = costWeightForTier node.tier
  period_eq : forgetEveryForTier arm.tier = forgetEveryForTier node.tier

/-- The arms that a scoring pass uses, each with the node that it is used for. -/
def armsUsed : Table String BanditArm → List ProxyNode → List (ProxyNode × BanditArm)
  | _, [] => []
  | arms, n :: ns => (n, (armFor arms n).1) :: armsUsed (armFor arms n).2 ns

/-- The table after a scoring pass. -/
def armsAfter (arms : Table String BanditArm) (nodes : List ProxyNode) : Table String BanditArm :=
  nodes.foldl (fun arms n => (armFor arms n).2) arms

namespace SmartProxyGateway

/-- Every arm carries the cost weight of its own tier. -/
def ArmsMade (g : SmartProxyGateway) : Prop :=
  ∀ addr arm, g.banditArms.lookup addr = some arm → arm.costWeight = costWeightForTier arm.tier

/-- The arm at the address of a pool node, if there is one, is an arm of that node. -/
def ArmsMatch (g : SmartProxyGateway) : Prop :=
  ∀ n ∈ g.router.pools, ∀ arm, g.banditArms.lookup n.addr = some arm → arm.tier = n.tier

/-- A node that is scored, or rewarded while it is in the pool, has an arm of its own. -/
def UsesOwnArms (g : SmartProxyGateway) (op : GatewayOp) : Prop :=
  match op with
  | .select spec excluded _ now =>
    ∀ p ∈ armsUsed g.banditArms (g.scored spec excluded now), ArmOf p.2 p.1
  | .logUpdate node _ _ => node ∈ g.router.pools → ArmOf (armFor g.banditArms node).1 node
  | _ => True

/-- The node may enter the pool: an arm that is still at its address has its tier. -/
def Enters (g : SmartProxyGateway) (node : ProxyNode) : Prop :=
  ∀ arm, g.banditArms.lookup node.addr = some arm → arm.tier = node.tier

/-- The node may have an arm made: the pool nodes at its address have its tier. -/
def Makes (g : SmartProxyGateway) (node : ProxyNode) : Prop :=
  g.banditArms.lookup node.addr = none →
    ∀ m ∈ g.router.pools, m.addr = node.addr → m.tier = node.tier

/-- What the operations have to respect. A node that is refused does not enter. -/
def KeepsTiers (g : SmartProxyGateway) (op : GatewayOp) : Prop :=
  match op with
  | .addNode node => (∀ n ∈ g.router.pools, n.addr ≠ node.addr) → g.Enters node
  | .replaceVendorNodes _ nodes => ∀ node ∈ nodes, g.Enters node
  | .select spec excluded _ now => ∀ node ∈ g.scored spec excluded now, g.Makes node
  | .logUpdate node _ _ => g.Makes node
  | .removeNode _ => True
  | .pruneStaleArms => True

end SmartProxyGateway

/-! ### The table of arms -/

variable {arms : Table String BanditArm} {node : ProxyNode} {addr : String}

lemma armFor_of_some {arm : BanditArm} (h : arms.lookup node.addr = some arm) :
    armFor arms node = (arm, arms) := by
  unfold armFor
  rw [h]

lemma armFor_of_none (h : arms.lookup node.addr = none) :
    armFor arms node = (BanditArm.new node.addr node.tier,
      arms.insert node.addr (BanditArm.new node.addr node.tier)) := by
  unfold armFor
  rw [h]

/-- The arm that is used is the one in the table afterwards. -/
lemma lookup_armFor_self : (armFor arms node).2.lookup node.addr = some (armFor arms node).1 := by
  cases h : arms.lookup node.addr with
  | some arm => rw [armFor_of_some h, h]
  | none => rw [armFor_of_none h, AList.lookup_insert]

lemma lookup_armFor_of_some {arm : BanditArm} (h : arms.lookup addr = some arm) :
    (armFor arms node).2.lookup addr = some arm := by
  cases hnode : arms.lookup node.addr with
  | some arm' => rwa [armFor_of_some hnode]
  | none =>
    have hne : addr ≠ node.addr := by
      rintro rfl
      rw [h] at hnode
      cases hnode
    rw [armFor_of_none hnode, AList.lookup_insert_ne hne, h]

/-- An entry is an old one or the new arm of the node. -/
lemma lookup_armFor_cases {arm : BanditArm} (h : (armFor arms node).2.lookup addr = some arm) :
    arms.lookup addr = some arm ∨
      arms.lookup addr = none ∧ addr = node.addr ∧ arm = BanditArm.new node.addr node.tier := by
  cases hnode : arms.lookup node.addr with
  | some arm' =>
    rw [armFor_of_some hnode] at h
    exact .inl h
  | none =>
    rw [armFor_of_none hnode, lookup_insert_eq] at h
    split at h
    · rename_i haddr
      cases h
      exact .inr ⟨haddr ▸ hnode, haddr, rfl⟩
    · exact .inl h

lemma lookup_armsAfter_of_some {arm : BanditArm} (nodes : List ProxyNode)
    (h : arms.lookup addr = some arm) : (armsAfter arms nodes).lookup addr = some arm := by
  induction nodes generalizing arms with
  | nil => exact h
  | cons n ns ih => exact ih (lookup_armFor_of_some h)

lemma lookup_armsAfter_cases {arm : BanditArm} (nodes : List ProxyNode)
    (h : (armsAfter arms nodes).lookup addr = some arm) :
    arms.lookup addr = some arm ∨
      arms.lookup addr = none ∧ ∃ n ∈ nodes, addr = n.addr ∧ arm = BanditArm.new n.addr n.tier := by
  induction nodes generalizing arms with
  | nil => exact .inl h
  | cons n ns ih =>
    rcases ih h with hmid | ⟨hnone, m, hm, haddr, harm⟩
    · rcases lookup_armFor_cases hmid with hold | ⟨hnone, haddr, harm⟩
      · exact .inl hold
      · exact .inr ⟨hnone, n, List.mem_cons_self, haddr, harm⟩
    · refine .inr ⟨?_, m, List.mem_cons_of_mem n hm, haddr, harm⟩
      cases hold : arms.lookup addr with
      | none => rfl
      | some arm' =>
        rw [lookup_armFor_of_some hold] at hnone
        cases hnone

/-- Every arm used in a pass is in the table after it. -/
lemma lookup_of_mem_armsUsed {nodes : List ProxyNode} {p : ProxyNode × BanditArm}
    (h : p ∈ armsUsed arms nodes) :
    p.1 ∈ nodes ∧ (armsAfter arms nodes).lookup p.1.addr = some p.2 := by
  induction nodes generalizing arms with
  | nil => cases h
  | cons n ns ih =>
    rcases List.mem_cons.mp h with rfl | hrest
    · exact ⟨List.mem_cons_self, lookup_armsAfter_of_some ns lookup_armFor_self⟩
    · obtain ⟨hmem, hlook⟩ := ih hrest
      exact ⟨List.mem_cons_of_mem n hmem, hlook⟩

/-- A node of the pass has an entry after it, made for the first node at its address if there was
none before. -/
lemma exists_lookup_armsAfter {nodes : List ProxyNode} (h : node ∈ nodes) :
    ∃ arm, (armsAfter arms nodes).lookup node.addr = some arm := by
  induction nodes generalizing arms with
  | nil => cases h
  | cons n ns ih =>
    rcases List.mem_cons.mp h with rfl | hrest
    · exact ⟨_, lookup_armsAfter_of_some ns lookup_armFor_self⟩
    · exact ih hrest

section Scores

variable (ucb : BanditArm → VectorD → Nat → ℚ) (context : VectorD) (t : Nat)

/-- The nodes of a scoring pass with their scores. -/
def scoredNodes (arms : Table String BanditArm) (nodes : List ProxyNode) : List (ProxyNode × ℚ) :=
  (armsUsed arms nodes).map (fun p => (p.1, ucb p.2 context t))

lemma scoreStep_eq (acc : Table String BanditArm × Option (ProxyNode × ℚ)) (n : ProxyNode) :
    scoreStep ucb context t acc n = ((armFor acc.1 n).2,
      keepLess (fun p => OrderDual.toDual p.2) acc.2 (n, ucb (armFor acc.1 n).1 context t)) := by
  obtain ⟨arms, best⟩ := acc
  cases best with
  | none => rfl
  | some b =>
    unfold scoreStep keepLess
    dsimp only
    by_cases hless : b.2 < ucb (armFor arms n).1 context t
    · rw [if_pos hless, if_pos (OrderDual.toDual_lt_toDual.mpr hless)]
    · rw [if_neg hless, if_neg (fun h => hless (OrderDual.toDual_lt_toDual.mp h))]

/-- Scoring reads the arms, leaves the table that the nodes alone determine, and keeps the best
node. -/
lemma foldl_scoreStep (nodes : List ProxyNode)
    (acc : Table String BanditArm × Option (ProxyNode × ℚ)) :
    nodes.foldl (scoreStep ucb context t) acc = (armsAfter acc.1 nodes,
      (scoredNodes ucb context t acc.1 nodes).foldl
        (keepLess (fun p => OrderDual.toDual p.2)) acc.2) := by
  induction nodes generalizing acc with
  | nil => rfl
  | cons n ns ih =>
    rw [List.foldl_cons, ih, scoreStep_eq]
    rfl

lemma scorePass_arms (arms : Table String BanditArm) (nodes : List ProxyNode) :
    (scorePass ucb context t arms nodes).1 = armsAfter arms nodes :=
  congrArg Prod.fst (foldl_scoreStep ucb context t nodes (arms, none))

variable {ucb context t}

/-- The pass picks the first node of the greatest score. -/
theorem scorePass_eq_some_iff {nodes : List ProxyNode} {best : ProxyNode × ℚ} :
    (scorePass ucb context t arms nodes).2 = some best ↔
      IsFirstLeast (fun p => OrderDual.toDual p.2) (scoredNodes ucb context t arms nodes) best := by
  rw [scorePass, foldl_scoreStep]
  exact foldl_keepLess_eq_some_iff

end Scores

/-- The reward leaves the tier and the cost weight of the arm as they were. -/
lemma lookup_rewardArm_self (context : VectorD) (reward : ℚ) :
    (rewardArm arms node context reward).lookup node.addr =
      some ((armFor arms node).1.update context reward) := by
  unfold rewardArm
  rw [AList.lookup_insert]

lemma lookup_rewardArm_cases {context : VectorD} {reward : ℚ} {arm : BanditArm}
    (h : (rewardArm arms node context reward).lookup addr = some arm) :
    arms.lookup addr = some arm ∨
      addr = node.addr ∧ arm = (armFor arms node).1.update context reward := by
  unfold rewardArm at h
  rw [lookup_insert_eq] at h
  split at h
  · rename_i haddr
    cases h
    exact .inr ⟨haddr, rfl⟩
  · rename_i haddr
    rcases lookup_armFor_cases h with hold | ⟨-, hself, -⟩
    · exact .inl hold
    · exact absurd hself haddr

lemma armFor_cases (arms : Table String BanditArm) (node : ProxyNode) :
    arms.lookup node.addr = some (armFor arms node).1 ∨
      arms.lookup node.addr = none ∧ (armFor arms node).1 = BanditArm.new node.addr node.tier := by
  cases h : arms.lookup node.addr with
  | some arm => exact .inl (by rw [armFor_of_some h])
  | none => exact .inr ⟨rfl, by rw [armFor_of_none h]⟩

namespace SmartProxyGateway

variable {ucb : BanditArm → VectorD → Nat → ℚ} {g : SmartProxyGateway}

lemma mem_pools_of_mem_scored {spec : RoutingSpec} {excluded : List String} {now : Instant}
    {n : ProxyNode} (h : n ∈ g.scored spec excluded now) : n ∈ g.router.pools :=
  ((RouterEngine.mem_scan_iff _ _ _ _ n).mp (quotaFilter_subset _ _ h)).1

lemma banditArms_select (spec : RoutingSpec) (excluded : List String) (context : VectorD)
    (now : Instant) : (g.step ucb (.select spec excluded context now)).banditArms =
      armsAfter g.banditArms (g.scored spec excluded now) :=
  scorePass_arms ucb context _ _ _

/-! ### What a step does to the table of arms -/

/-- An arm after a step is one from before, the rewarded one, or new. -/
lemma lookup_step_cases {op : GatewayOp} {addr : String} {arm : BanditArm}
    (h : (g.step ucb op).banditArms.lookup addr = some arm) :
    g.banditArms.lookup addr = some arm ∨
      (∃ n : ProxyNode, arm = BanditArm.new n.addr n.tier) ∨
      ∃ (old : BanditArm) (context : VectorD) (reward : ℚ), arm = old.update context reward ∧
        (g.banditArms.lookup addr = some old ∨
          ∃ n : ProxyNode, old = BanditArm.new n.addr n.tier) := by
  cases op with
  | addNode node => exact .inl h
  | removeNode addr => exact .inl h
  | replaceVendorNodes pre nodes => exact .inl h
  | select spec excluded context now =>
    rw [banditArms_select] at h
    rcases lookup_armsAfter_cases _ h with hold | ⟨-, n, -, -, hnew⟩
    · exact .inl hold
    · exact .inr (.inl ⟨n, hnew⟩)
  | logUpdate node context reward =>
    rcases lookup_rewardArm_cases h with hold | ⟨rfl, harm⟩
    · exact .inl hold
    · refine .inr (.inr ⟨_, context, reward, harm, ?_⟩)
      rcases armFor_cases g.banditArms node with hsome | ⟨-, hnew⟩
      · exact .inl hsome
      · exact .inr ⟨node, hnew⟩
  | pruneStaleArms =>
    refine .inl ?_
    change (retain _ g.banditArms).lookup addr = some arm at h
    rw [lookup_retain, Option.filter_eq_some_iff] at h
    exact h.1

lemma armsMade_step (op : GatewayOp) (h : g.ArmsMade) : (g.step ucb op).ArmsMade := by
  intro addr arm hlook
  rcases lookup_step_cases hlook with hold | ⟨n, rfl⟩ | ⟨old, context, reward, rfl, hold | ⟨n, rfl⟩⟩
  · exact h addr arm hold
  · rfl
  · rw [costWeight_update, tier_update]
    exact h addr old hold
  · rw [costWeight_update, tier_update]
    rfl

/-! ### One step -/

lemma armsMatch_addNode_iff (h : g.ArmsMatch) (node : ProxyNode) :
    (g.step ucb (.addNode node)).ArmsMatch ↔ g.KeepsTiers (.addNode node) := by
  have hpools : (g.step ucb (.addNode node)).router.pools =
      (g.router.step (.addNode node)).pools := rfl
  unfold ArmsMatch KeepsTiers
  rw [hpools, RouterEngine.pools_addNode]
  by_cases hdup : g.router.pools.any (fun n => n.addr = node.addr) = true
  · have hclash : ¬∀ n ∈ g.router.pools, n.addr ≠ node.addr := by
      obtain ⟨n, hn, haddr⟩ := List.any_eq_true.mp hdup
      exact fun hall => hall n hn (by simpa using haddr)
    rw [if_pos hdup]
    exact iff_of_true h (fun hall => absurd hall hclash)
  · have hfresh : ∀ n ∈ g.router.pools, n.addr ≠ node.addr := by simpa using hdup
    rw [if_neg hdup]
    constructor
    · intro hnext _ arm hlook
      exact hnext node (by simp) arm hlook
    · intro henter n hn arm hlook
      rcases List.mem_append.mp hn with hold | hnew
      · exact h n hold arm hlook
      · obtain rfl := List.mem_singleton.mp hnew
        exact henter hfresh arm hlook

lemma armsMatch_replaceVendorNodes_iff (h : g.ArmsMatch) (pre : String) (nodes : List ProxyNode) :
    (g.step ucb (.replaceVendorNodes pre nodes)).ArmsMatch ↔
      g.KeepsTiers (.replaceVendorNodes pre nodes) := by
  have hpools : (g.step ucb (.replaceVendorNodes pre nodes)).router.pools =
      g.router.pools.filter (fun n => !startsWith n.provider pre) ++ nodes := rfl
  unfold ArmsMatch KeepsTiers
  rw [hpools]
  constructor
  · intro hnext node hnode arm hlook
    exact hnext node (List.mem_append_right _ hnode) arm hlook
  · intro henter n hn arm hlook
    rcases List.mem_append.mp hn with hold | hnew
    · exact h n (List.mem_filter.mp hold).1 arm hlook
    · exact henter n hnew arm hlook

/-- The arm that a pass makes at an address carries the tier of a scored node, and the nodes at
that address have to agree on it. -/
lemma armsMatch_select_iff (h : g.ArmsMatch) (spec : RoutingSpec) (excluded : List String)
    (context : VectorD) (now : Instant) :
    (g.step ucb (.select spec excluded context now)).ArmsMatch ↔
      g.KeepsTiers (.select spec excluded context now) := by
  have hpools : (g.step ucb (.select spec excluded context now)).router = g.router := rfl
  unfold ArmsMatch KeepsTiers
  rw [hpools, banditArms_select]
  constructor
  · intro hnext node hnode hnone m hm haddr
    obtain ⟨arm, harm⟩ :
        ∃ arm, (armsAfter g.banditArms (g.scored spec excluded now)).lookup node.addr = some arm :=
      exists_lookup_armsAfter hnode
    have hself : arm.tier = node.tier := hnext node (mem_pools_of_mem_scored hnode) arm harm
    have hother : arm.tier = m.tier := hnext m hm arm (haddr ▸ harm)
    rw [← hself, hother]
  · intro hmakes m hm arm hlook
    rcases lookup_armsAfter_cases _ hlook with hold | ⟨hnone, node, hnode, haddr, rfl⟩
    · exact h m hm arm hold
    · exact (hmakes node hnode (haddr ▸ hnone) m hm haddr).symm

lemma armsMatch_logUpdate_iff (h : g.ArmsMatch) (node : ProxyNode) (context : VectorD)
    (reward : ℚ) : (g.step ucb (.logUpdate node context reward)).ArmsMatch ↔
      g.KeepsTiers (.logUpdate node context reward) := by
  have hpools : (g.step ucb (.logUpdate node context reward)).router = g.router := rfl
  have harms : (g.step ucb (.logUpdate node context reward)).banditArms =
      rewardArm g.banditArms node context reward := rfl
  unfold ArmsMatch KeepsTiers
  rw [hpools, harms]
  constructor
  · intro hnext hnone m hm haddr
    have hnew : (armFor g.banditArms node).1 = BanditArm.new node.addr node.tier := by
      rw [armFor_of_none hnone]
    have hlook : (rewardArm g.banditArms node context reward).lookup m.addr =
        some ((armFor g.banditArms node).1.update context reward) := by
      rw [haddr, lookup_rewardArm_self]
    have htier := hnext m hm _ hlook
    rw [tier_update, hnew] at htier
    exact htier.symm
  · intro hmakes m hm arm hlook
    rcases lookup_rewardArm_cases hlook with hold | ⟨haddr, rfl⟩
    · exact h m hm arm hold
    · rw [tier_update]
      rcases armFor_cases g.banditArms node with hsome | ⟨hnone, hnew⟩
      · exact h m hm _ (haddr ▸ hsome)
      · rw [hnew]
        exact (hmakes hnone m hm haddr).symm

/-- A step keeps arms and pool nodes in agreement exactly when it respects the tiers. -/
lemma armsMatch_step_iff (h : g.ArmsMatch) (op : GatewayOp) :
    (g.step ucb op).ArmsMatch ↔ g.KeepsTiers op := by
  cases op with
  | addNode node => exact armsMatch_addNode_iff h node
  | removeNode addr =>
    refine iff_of_true (fun n hn arm hlook => h n ?_ arm hlook) trivial
    change n ∈ (g.router.step (.removeNode addr)).pools at hn
    rcases RouterEngine.step_removeNode g.router addr with hr | hr
    · rwa [hr] at hn
    · rw [hr] at hn
      exact (List.mem_filter.mp hn).1
  | replaceVendorNodes pre nodes => exact armsMatch_replaceVendorNodes_iff h pre nodes
  | select spec excluded context now => exact armsMatch_select_iff h spec excluded context now
  | logUpdate node context reward => exact armsMatch_logUpdate_iff h node context reward
  | pruneStaleArms =>
    refine iff_of_true (fun n hn arm hlook => h n hn arm ?_) trivial
    change (retain _ g.banditArms).lookup n.addr = some arm at hlook
    rw [lookup_retain, Option.filter_eq_some_iff] at hlook
    exact hlook.1

lemma armOf_of_tier {arm : BanditArm} {addr : String} {n : ProxyNode} (hmade : g.ArmsMade)
    (hlook : g.banditArms.lookup addr = some arm) (htier : arm.tier = n.tier) : ArmOf arm n where
  tier_eq := htier
  costWeight_eq := by rw [hmade addr arm hlook, htier]
  period_eq := by rw [htier]

/-- The arms that a step uses are in the table after it, so they can be judged there. -/
lemma usesOwnArms_of_next {op : GatewayOp} (hmade : (g.step ucb op).ArmsMade)
    (hmatch : (g.step ucb op).ArmsMatch) : g.UsesOwnArms op := by
  cases op with
  | addNode | removeNode | replaceVendorNodes | pruneStaleArms => trivial
  | select spec excluded context now =>
    intro p hp
    obtain ⟨hmem, hlook⟩ := lookup_of_mem_armsUsed hp
    have hpool : p.1 ∈ g.router.pools := mem_pools_of_mem_scored hmem
    have hnext : (g.step ucb (.select spec excluded context now)).banditArms.lookup p.1.addr =
        some p.2 := by
      rw [banditArms_select, hlook]
    exact armOf_of_tier hmade hnext (hmatch p.1 hpool p.2 hnext)
  | logUpdate node context reward =>
    intro hpool
    have hlook : (g.step ucb (.logUpdate node context reward)).banditArms.lookup node.addr =
        some ((armFor g.banditArms node).1.update context reward) :=
      lookup_rewardArm_self context reward
    have htier := hmatch node hpool _ hlook
    have hcost := hmade node.addr _ hlook
    rw [tier_update] at htier
    rw [costWeight_update, tier_update] at hcost
    exact ⟨htier, by rw [hcost, htier], by rw [htier]⟩

lemma armsMatch_initial (nodes : List ProxyNode) : (initial nodes).ArmsMatch := by
  intro n _ arm hlook
  cases hlook

lemma armsMade_initial (nodes : List ProxyNode) : (initial nodes).ArmsMade := by
  intro addr arm hlook
  cases hlook

/-! ### Whole runs -/

/-- In every run whose steps respect the tiers, a node is scored and rewarded with an arm of its
own. The steps respect the tiers exactly when, after each of them, the arms at the addresses of
pool nodes are arms of these nodes. -/
theorem own_arms_while_tiers_kept (ucb : BanditArm → VectorD → Nat → ℚ) (nodes : List ProxyNode)
    (ops : List GatewayOp) :
    (Along (step ucb) KeepsTiers (initial nodes) ops →
        Along (step ucb) UsesOwnArms (initial nodes) ops) ∧
      (Along (step ucb) (fun g op => (g.step ucb op).ArmsMatch) (initial nodes) ops ↔
        Along (step ucb) KeepsTiers (initial nodes) ops) := by
  constructor
  · apply along_of_along (J := fun g => g.ArmsMade ∧ g.ArmsMatch)
    · rintro g op ⟨hmade, hmatch⟩ hkeeps
      exact ⟨armsMade_step op hmade, (armsMatch_step_iff hmatch op).mpr hkeeps⟩
    · rintro g op ⟨hmade, hmatch⟩ hkeeps
      have hmade' : (g.step ucb op).ArmsMade := armsMade_step op hmade
      exact usesOwnArms_of_next hmade' ((armsMatch_step_iff hmatch op).mpr hkeeps)
    · exact ⟨armsMade_initial nodes, armsMatch_initial nodes⟩
  · apply along_keeps_iff (J := ArmsMatch)
    · exact fun g op h => armsMatch_step_iff h op
    · exact armsMatch_initial nodes

/-- A managed node at an address, and a free one at the same address. -/
def managedTenant : ProxyNode :=
  .new "10.0.0.1" 8080 none none "US" "residential" "acme" 100

def freeTenant : ProxyNode :=
  .new "10.0.0.1" 8080 none none "US" "free" "free-list" 10

def openSpec : RoutingSpec where
  country := none
  sessionId := none
  tier := none
  targetDomain := "example.com"
  proto := none

/-- The managed node is scored and removed, and the next merge brings the free one. -/
def readdressing : List GatewayOp :=
  [.addNode managedTenant, .select openSpec [] 0 0, .removeNode managedTenant.addr,
    .replaceVendorNodes "free-" [freeTenant]]

/-- The free node is then scored with the residential arm. -/
theorem free_node_takes_managed_arm :
    ¬Along (step (fun _ _ _ => 0)) UsesOwnArms (initial [])
      (readdressing ++ [.select openSpec [] 0 0]) := by
  rw [along_append]
  rintro ⟨-, huses, -⟩
  have hpair : ∃ p ∈ armsUsed (run (step (fun _ _ _ => 0)) (initial []) readdressing).banditArms
      ((run (step (fun _ _ _ => 0)) (initial []) readdressing).scored openSpec [] 0),
      p.1.tier = "free" ∧ p.2.tier = "residential" := by
    decide +kernel
  obtain ⟨p, hp, hnode, harm⟩ := hpair
  have htier := (huses p hp).tier_eq
  rw [hnode, harm] at htier
  exact absurd htier (by decide)

end SmartProxyGateway

end IPProxyPool
