import IPProxyPool.Lib.IndexPolicy
import IPProxyPool.Model.UcbScore
import IPProxyPool.Proofs.ArmAlgebra
import IPProxyPool.Proofs.ArmTiers

/-!
# Who starves

Endless runs of a gateway with a fixed pool. The score of an arm is an upper confidence index, up to
the rounding of its computation, and the quota forces a tier only while that tier is missing from
the window. So a node that stays a candidate is observed again and again, whatever the rewards are
and however selections and observations interleave, unless some node is picked again and again and
hardly ever observed, as one whose attempts all end in a retry elsewhere.
-/

namespace IPProxyPool
open RustText AssocTable SlidingWindow Matrix RankOne IndexPolicy

/-! ### The arms of a run -/

/-- What is known of an arm from its number of observations alone. -/
structure BanditArm.Spread (arm : BanditArm) : Prop where
  shrunk : Shrunk arm.state.aInv
  floor : ∀ v : VectorD, v ⬝ᵥ v ≤ 5 ^ arm.state.updates * (v ⬝ᵥ arm.state.aInv *ᵥ v)
  costWeight_nonneg : 0 ≤ arm.costWeight
  costWeight_le : arm.costWeight ≤ 3

lemma costWeightForTier_mem (tier : String) :
    0 ≤ costWeightForTier tier ∧ costWeightForTier tier ≤ 3 := by
  unfold costWeightForTier
  split <;> norm_num

lemma BanditArm.spread_new (key tier : String) : (BanditArm.new key tier).Spread where
  shrunk := Shrunk.one
  floor v := by simp [BanditArm.new]
  costWeight_nonneg := (costWeightForTier_mem tier).1
  costWeight_le := (costWeightForTier_mem tier).2

/-- An observation takes at most the factor 5 from the form of the matrix, and a blend takes
nothing below the identity. -/
lemma BanditArm.Spread.update {arm : BanditArm} (h : arm.Spread) {context : VectorD}
    (hcontext : IsContext context) (reward : ℚ) : (arm.update context reward).Spread := by
  have hlearn : ∀ v : VectorD, v ⬝ᵥ v ≤
      5 ^ (arm.state.updates + 1) * (v ⬝ᵥ (arm.state.learn context reward).aInv *ᵥ v) := by
    intro v
    have hden : denominator arm.state.aInv context ≤ 5 := by
      have hle := (h.shrunk.dotProduct_le context).trans hcontext.dotProduct_self.2
      unfold denominator
      linarith
    have hnonneg : 0 ≤ v ⬝ᵥ downdate arm.state.aInv context *ᵥ v :=
      (h.shrunk.downdate context).dotProduct_nonneg v
    calc v ⬝ᵥ v ≤ 5 ^ arm.state.updates * (v ⬝ᵥ arm.state.aInv *ᵥ v) := h.floor v
      _ ≤ 5 ^ arm.state.updates * (5 * (v ⬝ᵥ downdate arm.state.aInv context *ᵥ v)) := by
        refine mul_le_mul_of_nonneg_left ?_ (by positivity)
        exact (h.shrunk.dotProduct_le_downdate context v).trans
          (mul_le_mul_of_nonneg_right hden hnonneg)
      _ = 5 ^ (arm.state.updates + 1) *
          (v ⬝ᵥ (arm.state.learn context reward).aInv *ᵥ v) := by
        rw [aInv_learn]
        ring
  refine ⟨shrunk_update h.shrunk context reward, fun v => ?_, ?_, ?_⟩
  · rw [updates_update]
    by_cases hblend : forgetEveryForTier arm.tier ∣ arm.state.updates + 1
    · rw [state_update_of_forget arm hblend, aInv_applyForgetting, dotProduct_blend]
      have hself : v ⬝ᵥ v ≤ 5 ^ (arm.state.updates + 1) * (v ⬝ᵥ v) := by
        refine le_mul_of_one_le_left ?_ (one_le_pow₀ (by norm_num))
        exact Finset.sum_nonneg (fun i _ => mul_self_nonneg (v i))
      have hv := hlearn v
      unfold forgetKeep
      linarith
    · rw [state_update_of_not_forget arm hblend]
      exact hlearn v
  · rw [costWeight_update]
    exact h.costWeight_nonneg
  · rw [costWeight_update]
    exact h.costWeight_le

/-! ### The score as an index -/

/-- The estimate part of the score. -/
noncomputable def BanditArm.mean (arm : BanditArm) (context : VectorD) : ℝ :=
  max 0 (min (((arm.state.aInv *ᵥ arm.state.b) ⬝ᵥ context : ℚ) : ℝ) maxMeanReward) -
    0.05 * (arm.costWeight : ℝ) - if eqIgnoreAsciiCase arm.tier "free" then freeRiskPremium else 0

/-- The `variance` of the score. -/
noncomputable def BanditArm.width (arm : BanditArm) (context : VectorD) : ℝ :=
  √(max ((context ⬝ᵥ arm.state.aInv *ᵥ context : ℚ) : ℝ) 0)

lemma BanditArm.computeUcbScore_eq_index (arm : BanditArm) (context : VectorD) (alpha : ℝ)
    (t : ℕ) : arm.computeUcbScore context alpha t =
      index alpha (arm.mean context) (arm.width context) arm.state.updates t := by
  unfold computeUcbScore index mean width
  dsimp only
  split <;> ring

lemma BanditArm.Spread.mean_mem {arm : BanditArm} (h : arm.Spread) (context : VectorD) :
    -3 / 10 ≤ arm.mean context ∧ arm.mean context ≤ 1 := by
  have hnonneg : (0 : ℝ) ≤ arm.costWeight := by exact_mod_cast h.costWeight_nonneg
  have hle : (arm.costWeight : ℝ) ≤ 3 := by exact_mod_cast h.costWeight_le
  have hpremium : 0 ≤ (if eqIgnoreAsciiCase arm.tier "free" then freeRiskPremium else 0) ∧
      (if eqIgnoreAsciiCase arm.tier "free" then freeRiskPremium else 0) ≤ 3 / 20 := by
    unfold freeRiskPremium
    split <;> norm_num
  have hclamp : max 0 (min (((arm.state.aInv *ᵥ arm.state.b) ⬝ᵥ context : ℚ) : ℝ)
      maxMeanReward) ≤ 1 := max_le zero_le_one (min_le_right _ _)
  have hclamp' := le_max_left 0 (min (((arm.state.aInv *ᵥ arm.state.b) ⬝ᵥ context : ℚ) : ℝ)
    maxMeanReward)
  unfold mean
  constructor <;> linarith

/-- The width falls with the number of observations at most, never to zero. -/
lemma BanditArm.Spread.le_width {arm : BanditArm} (h : arm.Spread) {context : VectorD}
    (hcontext : IsContext context) {N : ℕ} (hN : arm.state.updates ≤ N) :
    √(1 / 5 ^ N) ≤ arm.width context := by
  have hfloor : 1 ≤ 5 ^ N * (context ⬝ᵥ arm.state.aInv *ᵥ context) := by
    have hform := h.shrunk.dotProduct_nonneg context
    have hpow : (5 : ℚ) ^ arm.state.updates ≤ 5 ^ N := pow_le_pow_right₀ (by norm_num) hN
    exact (hcontext.dotProduct_self.1.trans (h.floor context)).trans
      (mul_le_mul_of_nonneg_right hpow hform)
  have hcast : (1 : ℝ) ≤ 5 ^ N * ((context ⬝ᵥ arm.state.aInv *ᵥ context : ℚ) : ℝ) := by
    exact_mod_cast hfloor
  apply Real.sqrt_le_sqrt
  refine le_max_of_le_left ?_
  rw [div_le_iff₀ (by positivity)]
  linarith

lemma BanditArm.Spread.width_le {arm : BanditArm} (h : arm.Spread) {context : VectorD}
    (hcontext : IsContext context) : arm.width context ≤ 2 := by
  have hform : context ⬝ᵥ arm.state.aInv *ᵥ context ≤ 4 :=
    (h.shrunk.dotProduct_le context).trans hcontext.dotProduct_self.2
  have hcast : ((context ⬝ᵥ arm.state.aInv *ᵥ context : ℚ) : ℝ) ≤ 4 := by exact_mod_cast hform
  unfold width
  rw [Real.sqrt_le_left (by norm_num)]
  exact max_le (by linarith) (by norm_num)

/-! ### The best of a pass -/

section Pass

variable {ucb : BanditArm → VectorD → Nat → ℚ} {context : VectorD} {t : Nat}
  {arms : Table String BanditArm}

lemma exists_mem_armsUsed (arms : Table String BanditArm) {nodes : List ProxyNode}
    {n : ProxyNode} (h : n ∈ nodes) : ∃ arm, (n, arm) ∈ armsUsed arms nodes := by
  induction nodes generalizing arms with
  | nil => cases h
  | cons m ns ih =>
    rcases List.mem_cons.mp h with rfl | hrest
    · exact ⟨_, List.mem_cons_self⟩
    · obtain ⟨arm, harm⟩ := ih (armFor arms m).2 hrest
      exact ⟨arm, List.mem_cons_of_mem _ harm⟩

/-- The picked node was scored with an arm that no other arm of the pass beats. -/
lemma scorePass_best {nodes : List ProxyNode} {m : ProxyNode}
    (h : (scorePass ucb context t arms nodes).2.map Prod.fst = some m) :
    ∃ arm, (m, arm) ∈ armsUsed arms nodes ∧
      ∀ p ∈ armsUsed arms nodes, ucb p.2 context t ≤ ucb arm context t := by
  obtain ⟨b, hb, rfl⟩ := Option.map_eq_some_iff.mp h
  have hfirst := scorePass_eq_some_iff.mp hb
  obtain ⟨⟨n, arm⟩, harm, rfl⟩ := List.mem_map.mp hfirst.mem
  exact ⟨arm, harm, fun p hp => hfirst.le _ (List.mem_map_of_mem hp)⟩

end Pass

/-! ### Endless runs -/

/-- The pool is only read: requests are routed and logged, and stale arms are pruned. -/
def GatewayOp.Steady : GatewayOp → Prop
  | .select _ _ context _ => IsContext context
  | .logUpdate _ context _ => IsContext context
  | .pruneStaleArms => True
  | _ => False

/-- The first selection of a request, not one of its retries. -/
def GatewayOp.Initial : GatewayOp → Prop
  | .select _ excluded _ _ => excluded = []
  | _ => False

namespace SmartProxyGateway

/-- The gateway after `k` operations of an endless run. -/
def stateAt (ucb : BanditArm → VectorD → Nat → ℚ) (g : SmartProxyGateway) (ops : ℕ → GatewayOp) :
    ℕ → SmartProxyGateway
  | 0 => g
  | k + 1 => (stateAt ucb g ops k).step ucb (ops k)

/-- The node that a selection picks. -/
def picked (ucb : BanditArm → VectorD → Nat → ℚ) (g : SmartProxyGateway) :
    GatewayOp → Option ProxyNode
  | .select spec excluded context now =>
    (g.selectBanditNodeExcluding ucb spec excluded context now).1
  | _ => none

/-- The node takes part in the scoring pass. -/
def Scores (g : SmartProxyGateway) (n : ProxyNode) : GatewayOp → Prop
  | .select spec excluded _ now => n ∈ g.scored spec excluded now
  | _ => False

/-- The node is a candidate, where the operation is the first selection of a request. -/
def Offers (g : SmartProxyGateway) (n : ProxyNode) : GatewayOp → Prop
  | .select spec excluded _ now => excluded = [] → n ∈ g.router.scan spec excluded now
  | _ => True

/-- The scores that a selection computes are the exact ones up to `ε`. -/
def ScoresWithin (ucb : BanditArm → VectorD → Nat → ℚ) (alpha ε : ℝ) (g : SmartProxyGateway) :
    GatewayOp → Prop
  | .select spec excluded context now =>
    ∀ p ∈ armsUsed g.banditArms (g.scored spec excluded now),
      |(ucb p.2 context (g.selections + 1) : ℝ) -
        p.2.computeUcbScore context alpha (g.selections + 1)| ≤ ε
  | _ => True

/-- How many observations the arm at an address has. -/
def observed (g : SmartProxyGateway) (addr : String) : Nat :=
  ((g.banditArms.lookup addr).map (fun arm => arm.state.updates)).getD 0

/-- Every arm in the table is one that observations in context have made. -/
def ArmsSpread (g : SmartProxyGateway) : Prop :=
  ∀ addr arm, g.banditArms.lookup addr = some arm → arm.Spread

variable {ucb : BanditArm → VectorD → Nat → ℚ} {g : SmartProxyGateway}

lemma router_step {op : GatewayOp} (hsteady : op.Steady) : (g.step ucb op).router = g.router := by
  cases op with
  | select | logUpdate | pruneStaleArms => rfl
  | addNode | removeNode | replaceVendorNodes => exact absurd hsteady id

variable (ucb) in
lemma armsSpread_step {op : GatewayOp} (hsteady : op.Steady) (h : g.ArmsSpread) :
    (g.step ucb op).ArmsSpread := by
  intro addr arm hlook
  cases op with
  | addNode | removeNode | replaceVendorNodes => exact absurd hsteady id
  | select spec excluded context now =>
    rw [banditArms_select] at hlook
    rcases lookup_armsAfter_cases _ hlook with hold | ⟨-, n, -, -, rfl⟩
    · exact h addr arm hold
    · exact BanditArm.spread_new _ _
  | logUpdate node context reward =>
    rcases lookup_rewardArm_cases hlook with hold | ⟨-, rfl⟩
    · exact h addr arm hold
    · rcases armFor_cases g.banditArms node with hsome | ⟨-, hnew⟩
      · exact (h _ _ hsome).update hsteady reward
      · rw [hnew]
        exact (BanditArm.spread_new _ _).update hsteady reward
  | pruneStaleArms =>
    change (retain _ g.banditArms).lookup addr = some arm at hlook
    rw [lookup_retain, Option.filter_eq_some_iff] at hlook
    exact h addr arm hlook.1

lemma observed_of_lookup {addr : String} {arm : BanditArm}
    (h : g.banditArms.lookup addr = some arm) : g.observed addr = arm.state.updates := by
  unfold observed
  rw [h]
  rfl

/-- An arm that a pass uses has been observed as often as the gateway says before the pass. -/
lemma updates_of_mem_armsUsed {nodes : List ProxyNode} {p : ProxyNode × BanditArm}
    (h : p ∈ armsUsed g.banditArms nodes) : p.2.state.updates = g.observed p.1.addr := by
  obtain ⟨-, hlook⟩ := lookup_of_mem_armsUsed h
  rcases lookup_armsAfter_cases _ hlook with hold | ⟨hnone, n, -, -, hnew⟩
  · rw [observed_of_lookup hold]
  · unfold observed
    rw [hnone, hnew]
    rfl

/-- Observations are only lost with the node. -/
lemma observed_le_step {op : GatewayOp} (hsteady : op.Steady) {n : ProxyNode}
    (hn : n ∈ g.router.pools) : g.observed n.addr ≤ (g.step ucb op).observed n.addr := by
  cases hlook : g.banditArms.lookup n.addr with
  | none =>
    have hzero : g.observed n.addr = 0 := by
      unfold observed
      rw [hlook]
      rfl
    rw [hzero]
    exact Nat.zero_le _
  | some arm =>
    rw [observed_of_lookup hlook]
    cases op with
    | addNode | removeNode | replaceVendorNodes => exact absurd hsteady id
    | select spec excluded context now =>
      refine (observed_of_lookup ?_).ge
      rw [banditArms_select]
      exact lookup_armsAfter_of_some _ hlook
    | logUpdate node context reward =>
      by_cases haddr : n.addr = node.addr
      · have hafter : (g.step ucb (.logUpdate node context reward)).banditArms.lookup n.addr =
            some (arm.update context reward) := by
          rw [haddr]
          rw [haddr] at hlook
          exact (lookup_rewardArm_self context reward).trans (by rw [armFor_of_some hlook])
        rw [observed_of_lookup hafter, updates_update]
        exact Nat.le_succ _
      · refine (observed_of_lookup ?_).ge
        change (rewardArm g.banditArms node context reward).lookup n.addr = some arm
        unfold rewardArm
        rw [lookup_insert_eq, if_neg haddr]
        exact lookup_armFor_of_some hlook
    | pruneStaleArms =>
      refine (observed_of_lookup ?_).ge
      change (retain _ g.banditArms).lookup n.addr = some arm
      rw [lookup_retain, Option.filter_eq_some_iff]
      exact ⟨hlook, by simpa [poolAddrs] using ⟨n, hn, rfl⟩⟩

/-! ### The race for a pick -/

variable (ucb) in
/-- From some selection on, a node that is picked where a node with few observations is scored has
few observations itself. -/
lemma exists_race_bound {alpha : ℝ} (ε : ℝ) (hα : 0 < alpha) (N : ℕ) :
    ∃ K T : ℕ, ∀ g : SmartProxyGateway, g.ArmsSpread → T ≤ g.selections → ∀ op : GatewayOp,
      op.Steady → g.ScoresWithin ucb alpha ε op → ∀ n m : ProxyNode, g.Scores n op →
      g.observed n.addr ≤ N → g.picked ucb op = some m → g.observed m.addr ≤ K := by
  obtain ⟨K, T, hK⟩ := exists_pulls_le (w := √(1 / 5 ^ N)) 2 (-3 / 10) 1 (2 * ε) hα
    (Real.sqrt_pos.mpr (by positivity)) N
  refine ⟨K, T, fun g hspread hT op hsteady hwithin n m hscores hfew hpicked => ?_⟩
  cases op with
  | addNode | removeNode | replaceVendorNodes | logUpdate | pruneStaleArms =>
    exact absurd hscores id
  | select spec excluded context now =>
    have hnext := armsSpread_step ucb hsteady hspread
    have hused : ∀ p ∈ armsUsed g.banditArms (g.scored spec excluded now), p.2.Spread := by
      intro p hp
      refine hnext p.1.addr p.2 ?_
      rw [banditArms_select]
      exact (lookup_of_mem_armsUsed hp).2
    obtain ⟨armN, hn⟩ := exists_mem_armsUsed g.banditArms hscores
    obtain ⟨armM, hm, hbest⟩ := scorePass_best hpicked
    have hwins : armN.computeUcbScore context alpha (g.selections + 1) ≤
        armM.computeUcbScore context alpha (g.selections + 1) + 2 * ε := by
      have hle : (ucb armN context (g.selections + 1) : ℝ) ≤
          ucb armM context (g.selections + 1) := by exact_mod_cast hbest _ hn
      have hN := abs_le.mp (hwithin _ hn)
      have hM := abs_le.mp (hwithin _ hm)
      linarith [hN.1, hM.2]
    have hfew' : armN.state.updates ≤ N := by
      rw [updates_of_mem_armsUsed hn]
      exact hfew
    have hN := hused _ hn
    have hM := hused _ hm
    rw [BanditArm.computeUcbScore_eq_index, BanditArm.computeUcbScore_eq_index] at hwins
    rw [← updates_of_mem_armsUsed hm]
    exact hK _ (hT.trans (Nat.le_succ _)) _ _ _ _ _ _ hfew' (hN.le_width hsteady hfew')
      (hM.width_le hsteady) (hN.mean_mem context).1 (hM.mean_mem context).2 hwins

lemma selections_le_step (op : GatewayOp) : g.selections ≤ (g.step ucb op).selections := by
  cases op with
  | select => exact Nat.le_succ _
  | addNode | removeNode | replaceVendorNodes | logUpdate | pruneStaleArms => exact le_rfl

lemma selections_step_of_initial {op : GatewayOp} (h : op.Initial) :
    (g.step ucb op).selections = g.selections + 1 := by
  cases op with
  | select => rfl
  | addNode | removeNode | replaceVendorNodes | logUpdate | pruneStaleArms => exact absurd h id

lemma picked_mem_scored {op : GatewayOp} {m : ProxyNode} (h : g.picked ucb op = some m) :
    g.Scores m op := by
  cases op with
  | select => exact scorePass_mem h
  | addNode | removeNode | replaceVendorNodes | logUpdate | pruneStaleArms => cases h

variable (ucb) in
lemma exists_picked (op : GatewayOp) {n : ProxyNode} (h : g.Scores n op) :
    ∃ m, g.picked ucb op = some m := by
  cases op with
  | select spec excluded context now =>
    apply Option.isSome_iff_exists.mp
    change Option.isSome (Option.map Prod.fst _) = true
    rw [Option.isSome_map, scorePass_isSome_iff]
    exact List.ne_nil_of_mem h
  | addNode | removeNode | replaceVendorNodes | logUpdate | pruneStaleArms => exact absurd h id

lemma mem_pools_of_scores {op : GatewayOp} {n : ProxyNode} (h : g.Scores n op) :
    n ∈ g.router.pools := by
  cases op with
  | select => exact mem_pools_of_mem_scored h
  | addNode | removeNode | replaceVendorNodes | logUpdate | pruneStaleArms => exact absurd h id

/-! ### The quota -/

lemma tierQuotaWindow_step {op : GatewayOp} (h : ¬op.Initial) :
    (g.step ucb op).tierQuotaWindow = g.tierQuotaWindow := by
  cases op with
  | addNode | removeNode | replaceVendorNodes | logUpdate | pruneStaleArms => rfl
  | select spec excluded context now =>
    have hne : excluded.isEmpty = false := by
      rw [← Bool.not_eq_true, List.isEmpty_iff]
      exact h
    change (g.selectBanditNodeExcluding ucb spec excluded context now).2.tierQuotaWindow = _
    unfold selectBanditNodeExcluding selectBanditOver
    dsimp only
    split
    · rw [hne]
      rfl
    · rfl

lemma scored_nil (spec : RoutingSpec) (now : Instant) : g.scored spec [] now =
    quotaFilter (tierQuotaForcedTier g.tierQuotaWindow (fun _ => g.router.scan spec [] now))
      (g.router.scan spec [] now) := by
  unfold scored
  dsimp only
  rw [if_pos List.isEmpty_nil]

variable (ucb) in
/-- A candidate that is not scored gives way to a tier that was missing from the window, and which
then enters it. -/
lemma tierQuotaWindow_of_not_scores {op : GatewayOp} {n : ProxyNode} (hinit : op.Initial)
    (hoffers : g.Offers n op) (hscores : ¬g.Scores n op) :
    ∃ ft, ft ∉ g.tierQuotaWindow.items ∧ ft ≠ n.tier ∧ (∃ m ∈ g.router.pools, m.tier = ft) ∧
      (g.step ucb op).tierQuotaWindow = g.tierQuotaWindow.push ft := by
  cases op with
  | addNode | removeNode | replaceVendorNodes | logUpdate | pruneStaleArms =>
    exact absurd hinit id
  | select spec excluded context now =>
    obtain rfl : excluded = [] := hinit
    have hscan : n ∈ g.router.scan spec [] now := hoffers rfl
    cases hforced : tierQuotaForcedTier g.tierQuotaWindow
        (fun _ => g.router.scan spec [] now) with
    | none =>
      refine absurd ?_ hscores
      change n ∈ g.scored spec [] now
      rw [scored_nil, hforced]
      exact hscan
    | some ft =>
      obtain ⟨habsent, m, hm, htier⟩ := tierQuotaForcedTier_spec hforced
      have hscored : g.scored spec [] now =
          (g.router.scan spec [] now).filter (fun n => n.tier = ft) := by
        rw [scored_nil, hforced]
        rfl
      refine ⟨ft, habsent, ?_, ⟨m, ((RouterEngine.mem_scan_iff _ _ _ _ m).mp hm).1, htier⟩, ?_⟩
      · rintro rfl
        refine hscores ?_
        change n ∈ g.scored spec [] now
        rw [hscored]
        simpa using hscan
      · have hmem : m ∈ g.scored spec [] now := by
          rw [hscored]
          simpa [htier] using hm
        obtain ⟨w, hw⟩ := exists_picked ucb (.select spec [] context now) hmem
        have hwmem : w ∈ g.scored spec [] now := picked_mem_scored hw
        have hwtier : w.tier = ft := by
          rw [hscored] at hwmem
          simpa using (List.mem_filter.mp hwmem).2
        change (g.selectBanditNodeExcluding ucb spec [] context now).2.tierQuotaWindow = _
        change (g.selectBanditNodeExcluding ucb spec [] context now).1 = some w at hw
        unfold selectBanditNodeExcluding selectBanditOver at hw ⊢
        dsimp only at hw ⊢
        rw [hw, ← hwtier]
        rfl

/-! ### Whole runs -/

/-- An endless run of requests over a fixed pool, with scores computed up to `ε`. -/
structure EndlessRun (ucb : BanditArm → VectorD → Nat → ℚ) (alpha ε : ℝ) (nodes : List ProxyNode)
    (ops : ℕ → GatewayOp) : Prop where
  steady : ∀ k, (ops k).Steady
  within : ∀ k, (stateAt ucb (initial nodes) ops k).ScoresWithin ucb alpha ε (ops k)
  requests : {k | (ops k).Initial}.Infinite

section Endless

variable {nodes : List ProxyNode} {ops : ℕ → GatewayOp} {alpha ε : ℝ}

lemma router_stateAt (hsteady : ∀ k, (ops k).Steady) (k : ℕ) :
    (stateAt ucb (initial nodes) ops k).router = .new nodes := by
  induction k with
  | zero => rfl
  | succ k ih =>
    unfold stateAt
    rw [router_step (hsteady k), ih]

lemma pools_stateAt (hsteady : ∀ k, (ops k).Steady) (k : ℕ) :
    (stateAt ucb (initial nodes) ops k).router.pools = nodes := by
  rw [router_stateAt hsteady]
  rfl

lemma armsSpread_stateAt (hsteady : ∀ k, (ops k).Steady) (k : ℕ) :
    (stateAt ucb (initial nodes) ops k).ArmsSpread := by
  induction k with
  | zero =>
    intro addr arm hlook
    cases hlook
  | succ k ih => exact armsSpread_step ucb (hsteady k) ih

lemma monotone_observed (hsteady : ∀ k, (ops k).Steady) {n : ProxyNode} (hn : n ∈ nodes) :
    Monotone (fun k => (stateAt ucb (initial nodes) ops k).observed n.addr) := by
  apply monotone_nat_of_le_succ
  intro k
  refine observed_le_step (hsteady k) ?_
  rwa [pools_stateAt hsteady]

lemma monotone_selections (g : SmartProxyGateway) :
    Monotone (fun k => (stateAt ucb g ops k).selections) :=
  monotone_nat_of_le_succ (fun _ => selections_le_step _)

variable (ucb) in
/-- The step counter passes every bound. -/
lemma exists_selections_ge (hrequests : {k | (ops k).Initial}.Infinite) (g : SmartProxyGateway)
    (T : ℕ) : ∃ k, T ≤ (stateAt ucb g ops k).selections := by
  induction T with
  | zero => exact ⟨0, Nat.zero_le _⟩
  | succ T ih =>
    obtain ⟨k, hk⟩ := ih
    obtain ⟨j, hinit, hkj⟩ := hrequests.exists_gt k
    refine ⟨j + 1, ?_⟩
    unfold stateAt
    rw [selections_step_of_initial hinit]
    exact Nat.succ_le_succ (hk.trans (monotone_selections g hkj.le))

/-- The newest entries of the window are distinct tiers of the pool, none of them the tier of the
node. -/
def DisplacedBy (g : SmartProxyGateway) (n : ProxyNode) (m : ℕ) : Prop :=
  (g.tierQuotaWindow.newest m).length = m ∧ (n.tier :: g.tierQuotaWindow.newest m).Nodup ∧
    ∀ t ∈ g.tierQuotaWindow.newest m, ∃ w ∈ g.router.pools, w.tier = t

lemma displacedBy_step {op : GatewayOp} {n : ProxyNode} {m : ℕ} (hsteady : op.Steady)
    (hm : m < tierQuotaWindowLen) (hinit : op.Initial) (hoffers : g.Offers n op)
    (hscores : ¬g.Scores n op) (h : g.DisplacedBy n m) : (g.step ucb op).DisplacedBy n (m + 1) := by
  obtain ⟨ft, habsent, hne, hft, hpush⟩ := tierQuotaWindow_of_not_scores ucb hinit hoffers
    hscores
  obtain ⟨hlen, hnodup, hpools⟩ := h
  have hnewest : (g.step ucb op).tierQuotaWindow.newest (m + 1) =
      g.tierQuotaWindow.newest m ++ [ft] := by rw [hpush, Window.newest_push _ _ hm]
  have hfresh : ft ∉ g.tierQuotaWindow.newest m :=
    fun hmem => habsent (Window.mem_of_mem_newest hmem)
  unfold DisplacedBy
  rw [hnewest, router_step hsteady]
  refine ⟨by simp [hlen], ?_, ?_⟩
  · rw [← List.cons_append, List.nodup_append]
    refine ⟨hnodup, List.nodup_singleton ft, ?_⟩
    rintro t ht t' ht' rfl
    obtain rfl := List.mem_singleton.mp ht'
    rcases List.mem_cons.mp ht with hself | hold
    · exact hne hself
    · exact hfresh hold
  · intro t ht
    rcases List.mem_append.mp ht with hold | hnew
    · exact hpools t hold
    · exact List.mem_singleton.mp hnew ▸ hft

lemma displacedBy_keep {op : GatewayOp} {n : ProxyNode} {m : ℕ} (hsteady : op.Steady)
    (hinit : ¬op.Initial) (h : g.DisplacedBy n m) : (g.step ucb op).DisplacedBy n m := by
  unfold DisplacedBy
  rw [tierQuotaWindow_step hinit, router_step hsteady]
  exact h

/-- Until the next request comes, its window waits. -/
lemma exists_request_displacedBy (hsteady : ∀ k, (ops k).Steady) {n : ProxyNode} {m : ℕ} (d k : ℕ)
    (hinit : (ops (k + d)).Initial) (h : (stateAt ucb g ops k).DisplacedBy n m) :
    ∃ j ≥ k, (ops j).Initial ∧ (stateAt ucb g ops j).DisplacedBy n m := by
  induction d generalizing k with
  | zero => exact ⟨k, le_rfl, hinit, h⟩
  | succ d ih =>
    by_cases hnow : (ops k).Initial
    · exact ⟨k, le_rfl, hnow, h⟩
    · have hnext : (stateAt ucb g ops (k + 1)).DisplacedBy n m :=
        displacedBy_keep (hsteady k) hnow h
      obtain ⟨j, hj, hj'⟩ := ih (k + 1) (by rwa [Nat.add_assoc, Nat.add_comm 1]) hnext
      exact ⟨j, (Nat.le_succ k).trans hj, hj'⟩

/-- A node that is offered and never scored is displaced by more and more tiers, up to the length of
the window. -/
lemma exists_displacedBy (hsteady : ∀ k, (ops k).Steady)
    (hrequests : {k | (ops k).Initial}.Infinite) {n : ProxyNode} {start : ℕ}
    (hoffers : ∀ k ≥ start, (stateAt ucb g ops k).Offers n (ops k))
    (hnever : ∀ k ≥ start, ¬(stateAt ucb g ops k).Scores n (ops k)) (m : ℕ)
    (hm : m ≤ tierQuotaWindowLen) : ∃ k ≥ start, (stateAt ucb g ops k).DisplacedBy n m := by
  induction m with
  | zero => exact ⟨start, le_rfl, by simp [DisplacedBy]⟩
  | succ m ih =>
    obtain ⟨k, hk, hdisplaced⟩ := ih (Nat.le_of_succ_le hm)
    obtain ⟨i, hi, hki⟩ := hrequests.exists_gt k
    obtain ⟨d, rfl⟩ := Nat.exists_eq_add_of_le hki.le
    obtain ⟨j, hj, hinit, hat⟩ := exists_request_displacedBy hsteady d k hi hdisplaced
    have hstart : start ≤ j := hk.trans hj
    exact ⟨j + 1, hstart.trans (Nat.le_succ j), displacedBy_step (hsteady j) hm hinit
      (hoffers j hstart) (hnever j hstart) hat⟩

/-- With no more tiers in the pool than the window is long, a node that stays a candidate is scored
again and again. -/
lemma infinite_scores (hsteady : ∀ k, (ops k).Steady) (hrequests : {k | (ops k).Initial}.Infinite)
    (htiers : (nodes.map ProxyNode.tier).toFinset.card ≤ tierQuotaWindowLen) {n : ProxyNode}
    (hn : n ∈ nodes)
    (hoffers : ∃ start, ∀ k ≥ start, (stateAt ucb (initial nodes) ops k).Offers n (ops k)) :
    {k | (stateAt ucb (initial nodes) ops k).Scores n (ops k)}.Infinite := by
  obtain ⟨start, hoffers⟩ := hoffers
  by_contra hfin
  rw [Set.not_infinite] at hfin
  obtain ⟨last, hlast⟩ := hfin.bddAbove
  have hnever : ∀ k ≥ max start (last + 1),
      ¬(stateAt ucb (initial nodes) ops k).Scores n (ops k) := by
    intro k hk hscores
    have hle := hlast hscores
    have hge := (le_max_right start (last + 1)).trans hk
    omega
  obtain ⟨k, -, hlen, hnodup, hpools⟩ := exists_displacedBy hsteady hrequests
    (fun k hk => hoffers k ((le_max_left _ _).trans hk)) hnever tierQuotaWindowLen le_rfl
  rw [pools_stateAt hsteady] at hpools
  generalize (stateAt ucb (initial nodes) ops k).tierQuotaWindow.newest tierQuotaWindowLen = tiers
    at hlen hnodup hpools
  have hsub : (n.tier :: tiers).toFinset ⊆ (nodes.map ProxyNode.tier).toFinset := by
    intro t ht
    rw [List.mem_toFinset] at ht ⊢
    rcases List.mem_cons.mp ht with rfl | hold
    · exact List.mem_map_of_mem hn
    · obtain ⟨w, hw, rfl⟩ := hpools t hold
      exact List.mem_map_of_mem hw
  have hcard := Finset.card_le_card hsub
  rw [List.toFinset_card_of_nodup hnodup, List.length_cons, hlen] at hcard
  omega

/-- In an endless run over a fixed pool with at most as many tiers as the window is long, a node
that stays a candidate is observed without bound, or it loses again and again to a node that is
picked without end and hardly ever observed. -/
theorem starved_only_by_unobserved (hα : 0 < alpha) (hrun : EndlessRun ucb alpha ε nodes ops)
    (htiers : (nodes.map ProxyNode.tier).toFinset.card ≤ tierQuotaWindowLen) {n : ProxyNode}
    (hn : n ∈ nodes)
    (hoffers : ∃ start, ∀ k ≥ start, (stateAt ucb (initial nodes) ops k).Offers n (ops k)) :
    (∀ N, ∃ k, N < (stateAt ucb (initial nodes) ops k).observed n.addr) ∨
      ∃ m ∈ nodes, {k | (stateAt ucb (initial nodes) ops k).Scores n (ops k) ∧
          (stateAt ucb (initial nodes) ops k).picked ucb (ops k) = some m}.Infinite ∧
        ∃ K, ∀ k, (stateAt ucb (initial nodes) ops k).observed m.addr ≤ K := by
  by_cases hmany : ∀ N, ∃ k, N < (stateAt ucb (initial nodes) ops k).observed n.addr
  · exact .inl hmany
  right
  push Not at hmany
  obtain ⟨N, hfew⟩ := hmany
  obtain ⟨K, T, hK⟩ := exists_race_bound ucb ε hα N
  obtain ⟨late, hlate⟩ := exists_selections_ge ucb hrun.requests (initial nodes) T
  refine exists_silent_winner (fun k => (stateAt ucb (initial nodes) ops k).picked ucb (ops k))
    (fun m k => (stateAt ucb (initial nodes) ops k).observed m.addr)
    (fun m hm => monotone_observed hrun.steady hm)
    (infinite_scores hrun.steady hrun.requests htiers hn hoffers) nodes.finite_toSet ?_
    ⟨K, late, ?_⟩
  · intro k hscores
    obtain ⟨m, hm⟩ := exists_picked ucb (ops k) hscores
    refine ⟨m, ?_, hm⟩
    have hpool := mem_pools_of_scores (picked_mem_scored hm)
    rwa [pools_stateAt hrun.steady] at hpool
  · intro k hscores hk m hm
    exact hK _ (armsSpread_stateAt hrun.steady k)
      (hlate.trans (monotone_selections _ hk)) _ (hrun.steady k) (hrun.within k) n m hscores
      (hfew k) hm

end Endless

/-- The score, rounded down to 52 binary places. -/
noncomputable def roundedScore (arm : BanditArm) (context : VectorD) (t : ℕ) : ℚ :=
  ⌊arm.computeUcbScore context (2 / 5) t * 2 ^ 52⌋ / 2 ^ 52

lemma roundedScore_within (arm : BanditArm) (context : VectorD) (t : ℕ) :
    |(roundedScore arm context t : ℝ) - arm.computeUcbScore context (2 / 5) t| ≤ 1 / 2 ^ 52 := by
  generalize hx : arm.computeUcbScore context (2 / 5) t = x
  have hcast : (roundedScore arm context t : ℝ) = ⌊x * 2 ^ 52⌋ / 2 ^ 52 := by
    unfold roundedScore
    rw [hx]
    push_cast
    rfl
  have hle := Int.floor_le (x * 2 ^ 52)
  have hlt := Int.lt_floor_add_one (x * 2 ^ 52)
  rw [hcast, abs_le]
  constructor
  · rw [neg_le_sub_iff_le_add, ← add_div, le_div_iff₀ (by positivity)]
    exact hlt.le
  · rw [sub_le_iff_le_add, div_le_iff₀ (by positivity), add_mul, div_mul_cancel₀ 1 (by positivity)]
    exact hle.trans (le_add_of_nonneg_left zero_le_one)

/-- A datacenter node beside the managed residential one. -/
def datacenterTenant : ProxyNode :=
  .new "10.0.0.2" 8080 none none "US" "datacenter" "acme" 100

/-- Each request fails on the datacenter node, is retried elsewhere and succeeds, and the arms are
pruned before the next one. -/
def retriedRequests (k : ℕ) : GatewayOp :=
  match k % 5 with
  | 0 => .select openSpec [] (extractContext (1 / 2) "example.com") 0
  | 1 => .logUpdate datacenterTenant (extractContext (1 / 2) "example.com") 0
  | 2 => .select openSpec [datacenterTenant.addr] (extractContext (1 / 2) "example.com") 0
  | 3 => .logUpdate managedTenant (extractContext (1 / 2) "example.com") 1
  | _ => .pruneStaleArms

lemma retriedRequests_steady (k : ℕ) : (retriedRequests k).Steady := by
  have hcontext : IsContext (extractContext (1 / 2) "example.com") :=
    ⟨1 / 2, "example.com", by norm_num, by norm_num, rfl⟩
  unfold retriedRequests
  split
  · exact hcontext
  · exact hcontext
  · exact hcontext
  · exact hcontext
  · trivial

lemma retriedRequests_run :
    EndlessRun roundedScore (2 / 5) (1 / 2 ^ 52) [datacenterTenant, managedTenant]
      retriedRequests where
  steady := retriedRequests_steady
  within k := by
    unfold retriedRequests
    split
    · exact fun p _ => roundedScore_within _ _ _
    · trivial
    · exact fun p _ => roundedScore_within _ _ _
    · trivial
    · trivial
  requests := by
    refine Set.infinite_of_injective_forall_mem (f := fun k => 5 * k)
      (fun a b (h : 5 * a = 5 * b) => by omega) (fun k => ?_)
    change (retriedRequests (5 * k)).Initial
    unfold retriedRequests
    rw [Nat.mul_mod_right]
    rfl

lemma retriedRequests_offers (k : ℕ) :
    (stateAt roundedScore (initial [datacenterTenant, managedTenant]) retriedRequests k).Offers
      managedTenant (retriedRequests k) := by
  have hscan : managedTenant ∈
      (RouterEngine.new [datacenterTenant, managedTenant]).scan openSpec [] 0 := by decide
  generalize hg : stateAt roundedScore (initial [datacenterTenant, managedTenant])
    retriedRequests k = g
  have hrouter : g.router = .new [datacenterTenant, managedTenant] :=
    hg ▸ router_stateAt retriedRequests_steady k
  unfold retriedRequests
  split
  · intro _
    rwa [hrouter]
  · trivial
  · intro hinitial
    cases hinitial
  · trivial
  · trivial

theorem retried_node_is_observed :
    (∀ N, ∃ k, N < (stateAt roundedScore (initial [datacenterTenant, managedTenant])
        retriedRequests k).observed managedTenant.addr) ∨
      ∃ m ∈ [datacenterTenant, managedTenant],
        {k | (stateAt roundedScore (initial [datacenterTenant, managedTenant])
              retriedRequests k).Scores managedTenant (retriedRequests k) ∧
          (stateAt roundedScore (initial [datacenterTenant, managedTenant])
              retriedRequests k).picked roundedScore (retriedRequests k) = some m}.Infinite ∧
        ∃ K, ∀ k, (stateAt roundedScore (initial [datacenterTenant, managedTenant])
          retriedRequests k).observed m.addr ≤ K :=
  starved_only_by_unobserved (by norm_num) retriedRequests_run (by decide)
    (List.mem_cons_of_mem _ List.mem_cons_self) ⟨0, fun k _ => retriedRequests_offers k⟩

end SmartProxyGateway

end IPProxyPool
