import Mathlib.LinearAlgebra.Matrix.Notation
import Mathlib.Data.Rat.Floor
import IPProxyPool.Lib.Window
import IPProxyPool.Model.Selection

/-!
# Stateless selection

The LinUCB path of `gateway.rs`: one streaming pass over the candidates that keeps the best
score, with the exploration quota that forces a tier missing from the window of recent picks.
The score itself is floating-point arithmetic on the arm, so it is a parameter `ucb` that
assigns a finite value to an arm, a context and a step; the rest of the pass is modelled.
-/

namespace IPProxyPool
open RustText AssocTable SlidingWindow

def contextDim : Nat := 4
def tierQuotaWindowLen : Nat := 100

abbrev VectorD := Fin contextDim → ℚ

/-- Covariance inverse, bias vector and number of updates of an arm. -/
structure ArmState where
  aInv : Matrix (Fin contextDim) (Fin contextDim) ℚ
  b : VectorD
  updates : Nat

structure BanditArm where
  key : String
  tier : String
  state : ArmState
  costWeight : ℚ

def costWeightForTier (tier : String) : ℚ :=
  match toAsciiLowercase tier with
  | "datacenter" => 1 / 10
  | "dc" => 1 / 10
  | "mobile" => 3
  | "free" => 0
  | _ => 1

def BanditArm.new (key tier : String) : BanditArm where
  key := key
  tier := tier
  state := { aInv := 1, b := 0, updates := 0 }
  costWeight := costWeightForTier tier

/-- `arm_for`: the arm at the node's address, created on first sight. -/
def armFor (arms : Table String BanditArm) (node : ProxyNode) : BanditArm × Table String BanditArm :=
  match arms.lookup node.addr with
  | some arm => (arm, arms)
  | none =>
    let arm := BanditArm.new node.addr node.tier
    (arm, arms.insert node.addr arm)

/-- The part of the gateway that stateless selection reads and writes. -/
structure SmartProxyGateway where
  router : RouterEngine
  banditArms : Table String BanditArm
  tierQuotaWindow : Window String tierQuotaWindowLen
  selections : Nat

/-- The tiers of a list of candidates, in the order of their first occurrence. -/
def candidateTiers (candidates : List ProxyNode) : List String :=
  candidates.foldl (fun tiers n => if n.tier ∈ tiers then tiers else tiers ++ [n.tier]) []

/-- A tier with strictly fewer candidates displaces the best one. -/
def keepRarer (best : Option (String × Nat)) (p : String × Nat) : Option (String × Nat) :=
  match best with
  | some b => if p.2 < b.2 then some p else some b
  | none => some p

def tierCount (candidates : List ProxyNode) (tier : String) : Nat :=
  (candidates.filter (fun n => n.tier = tier)).length

/-- The absent tier with the fewest candidates, the first one on a tie. Each tier is counted in
a traversal of its own, numbered from `i`. -/
def rarestTier (makeIter : Nat → List ProxyNode) :
    Nat → List String → Option (String × Nat) → Option (String × Nat)
  | _, [], best => best
  | i, t :: ts, best =>
    rarestTier makeIter (i + 1) ts (keepRarer best (t, tierCount (makeIter i) t))

def absentTiers (window : Window String tierQuotaWindowLen) (tiers : List String) : List String :=
  tiers.filter (fun t => t ∉ window.items)

/-- `tier_quota_forced_tier`; `makeIter i` is what the `i`-th traversal of the pool yields. -/
def tierQuotaForcedTier (window : Window String tierQuotaWindowLen)
    (makeIter : Nat → List ProxyNode) : Option String :=
  let tiers := candidateTiers (makeIter 0)
  if tiers.length ≤ 1 then none
  else
    let absent := absentTiers window tiers
    if absent.isEmpty then none else (rarestTier makeIter 1 absent none).map Prod.fst

section Scoring

variable (ucb : BanditArm → VectorD → Nat → ℚ) (context : VectorD) (t : Nat)

/-- One candidate of the scoring pass: a strictly better score replaces the best so far. -/
def scoreStep (acc : Table String BanditArm × Option (ProxyNode × ℚ)) (n : ProxyNode) :
    Table String BanditArm × Option (ProxyNode × ℚ) :=
  let (arm, arms) := armFor acc.1 n
  let score := ucb arm context t
  match acc.2 with
  | some (_, bestScore) => if bestScore < score then (arms, some (n, score)) else (arms, acc.2)
  | none => (arms, some (n, score))

def scorePass (arms : Table String BanditArm) (candidates : List ProxyNode) :
    Table String BanditArm × Option (ProxyNode × ℚ) :=
  candidates.foldl (scoreStep ucb context t) (arms, none)

end Scoring

/-- The candidates that the quota leaves to the scoring pass. -/
def quotaFilter (forced : Option String) (candidates : List ProxyNode) : List ProxyNode :=
  match forced with
  | some ft => candidates.filter (fun n => n.tier = ft)
  | none => candidates

namespace SmartProxyGateway

/-- `select_bandit_node_excluding` over explicit traversals: `quotaIter` feeds the quota check
and `candidates` the scoring pass. -/
def selectBanditOver (g : SmartProxyGateway) (ucb : BanditArm → VectorD → Nat → ℚ)
    (excluded : List String) (context : VectorD) (quotaIter : Nat → List ProxyNode)
    (candidates : List ProxyNode) : Option ProxyNode × SmartProxyGateway :=
  let forced := if excluded.isEmpty then tierQuotaForcedTier g.tierQuotaWindow quotaIter else none
  let t := g.selections + 1
  let pass := scorePass ucb context t g.banditArms (quotaFilter forced candidates)
  let picked := pass.2.map Prod.fst
  -- a retry belongs to the same request and is not entered in the window
  let window := match picked with
    | some node => if excluded.isEmpty then g.tierQuotaWindow.push node.tier
        else g.tierQuotaWindow
    | none => g.tierQuotaWindow
  (picked, { g with banditArms := pass.1, tierQuotaWindow := window, selections := t })

/-- `select_bandit_node_excluding` with the router at rest during the call. The spec is matched
as it is given. -/
def selectBanditNodeExcluding (g : SmartProxyGateway) (ucb : BanditArm → VectorD → Nat → ℚ)
    (spec : RoutingSpec) (excluded : List String) (context : VectorD) (now : Instant) :
    Option ProxyNode × SmartProxyGateway :=
  g.selectBanditOver ucb excluded context (fun _ => g.router.scan spec excluded now)
    (g.router.scan spec excluded now)

end SmartProxyGateway

/-! ### The scoring pass -/

section Scoring

variable {ucb : BanditArm → VectorD → Nat → ℚ} {context : VectorD} {t : Nat}

lemma scoreStep_isSome (acc : Table String BanditArm × Option (ProxyNode × ℚ)) (n : ProxyNode) :
    (scoreStep ucb context t acc n).2.isSome := by
  obtain ⟨arms, best⟩ := acc
  cases best with
  | none => rfl
  | some b =>
    unfold scoreStep
    dsimp only
    split <;> rfl

lemma scoreStep_cases (acc : Table String BanditArm × Option (ProxyNode × ℚ)) (n : ProxyNode) :
    (scoreStep ucb context t acc n).2.map Prod.fst = some n ∨
      (scoreStep ucb context t acc n).2 = acc.2 := by
  obtain ⟨arms, best⟩ := acc
  cases best with
  | none => exact .inl rfl
  | some b =>
    unfold scoreStep
    dsimp only
    split
    · exact .inl rfl
    · exact .inr rfl

lemma scoreFold_isSome (acc : Table String BanditArm × Option (ProxyNode × ℚ))
    (l : List ProxyNode) :
    (l.foldl (scoreStep ucb context t) acc).2.isSome ↔ acc.2.isSome ∨ l ≠ [] := by
  induction l generalizing acc with
  | nil => simp
  | cons n l ih =>
    rw [List.foldl_cons, ih]
    simp [scoreStep_isSome]

lemma scoreFold_mem (acc : Table String BanditArm × Option (ProxyNode × ℚ)) (l : List ProxyNode)
    {m : ProxyNode} (h : (l.foldl (scoreStep ucb context t) acc).2.map Prod.fst = some m) :
    acc.2.map Prod.fst = some m ∨ m ∈ l := by
  induction l generalizing acc with
  | nil => exact .inl h
  | cons n l ih =>
    rcases ih _ h with hacc | hl
    · have hcases : (scoreStep ucb context t acc n).2.map Prod.fst = some n ∨
          (scoreStep ucb context t acc n).2 = acc.2 := scoreStep_cases acc n
      rcases hcases with hn | hkeep
      · rw [hn] at hacc
        cases hacc
        exact .inr List.mem_cons_self
      · rw [hkeep] at hacc
        exact .inl hacc
    · exact .inr (List.mem_cons_of_mem _ hl)

lemma scorePass_isSome_iff (arms : Table String BanditArm) (l : List ProxyNode) :
    (scorePass ucb context t arms l).2.isSome ↔ l ≠ [] := by
  rw [scorePass, scoreFold_isSome]
  simp

lemma scorePass_mem {arms : Table String BanditArm} {l : List ProxyNode} {m : ProxyNode}
    (h : (scorePass ucb context t arms l).2.map Prod.fst = some m) : m ∈ l := by
  rcases scoreFold_mem (arms, none) l h with hacc | hl
  · cases hacc
  · exact hl

end Scoring

/-! ### The tier quota -/

lemma mem_foldl_candidateTiers (candidates : List ProxyNode) (tiers : List String) (t : String) :
    t ∈ candidates.foldl (fun tiers n => if n.tier ∈ tiers then tiers else tiers ++ [n.tier]) tiers ↔
      t ∈ tiers ∨ ∃ n ∈ candidates, n.tier = t := by
  induction candidates generalizing tiers with
  | nil => simp
  | cons n candidates ih =>
    rw [List.foldl_cons, ih]
    by_cases hin : n.tier ∈ tiers
    · simp only [hin, if_true, List.mem_cons, exists_eq_or_imp]
      constructor
      · rintro (h | h)
        · exact .inl h
        · exact .inr (.inr h)
      · rintro (h | rfl | h)
        · exact .inl h
        · exact .inl hin
        · exact .inr h
    · have hsym : t = n.tier ↔ n.tier = t := eq_comm
      simp [hin, hsym, or_assoc]

lemma mem_candidateTiers (candidates : List ProxyNode) (t : String) :
    t ∈ candidateTiers candidates ↔ ∃ n ∈ candidates, n.tier = t := by
  simp [candidateTiers, mem_foldl_candidateTiers]

lemma keepRarer_cases (best : Option (String × Nat)) (p : String × Nat) :
    keepRarer best p = some p ∨ keepRarer best p = best := by
  cases best with
  | none => exact .inl rfl
  | some b =>
    unfold keepRarer
    by_cases h : p.2 < b.2
    · simp [h]
    · simp [h]

lemma rarestTier_mem (makeIter : Nat → List ProxyNode) (ts : List String) (i : Nat)
    (best : Option (String × Nat)) {p : String × Nat} (h : rarestTier makeIter i ts best = some p) :
    best = some p ∨ p.1 ∈ ts := by
  induction ts generalizing i best with
  | nil => exact .inl h
  | cons t ts ih =>
    unfold rarestTier at h
    rcases ih _ _ h with hbest | hts
    · rcases keepRarer_cases best (t, tierCount (makeIter i) t) with hnew | hkeep
      · rw [hnew] at hbest
        cases hbest
        exact .inr List.mem_cons_self
      · exact .inl (hkeep.symm.trans hbest)
    · exact .inr (List.mem_cons_of_mem _ hts)

lemma tierQuotaForcedTier_spec {window : Window String tierQuotaWindowLen} {makeIter : Nat → List ProxyNode}
    {ft : String} (h : tierQuotaForcedTier window makeIter = some ft) :
    ft ∉ window.items ∧ ∃ n ∈ makeIter 0, n.tier = ft := by
  unfold tierQuotaForcedTier at h
  dsimp only at h
  split at h
  · cases h
  · split at h
    · cases h
    · rw [Option.map_eq_some_iff] at h
      obtain ⟨p, hp, rfl⟩ := h
      rcases rarestTier_mem makeIter _ 1 none hp with hnone | hmem
      · cases hnone
      · rw [absentTiers, List.mem_filter] at hmem
        exact ⟨by simpa using hmem.2, (mem_candidateTiers _ _).mp hmem.1⟩

namespace SmartProxyGateway

variable {g : SmartProxyGateway} {ucb : BanditArm → VectorD → Nat → ℚ} {spec : RoutingSpec}
  {excluded : List String} {context : VectorD} {now : Instant}

lemma quotaFilter_ne_nil {candidates : List ProxyNode} {forced : Option String}
    (h : ∀ ft, forced = some ft → ∃ n ∈ candidates, n.tier = ft) :
    quotaFilter forced candidates ≠ [] ↔ candidates ≠ [] := by
  cases forced with
  | none => rfl
  | some ft =>
    obtain ⟨n, hn, htier⟩ := h ft rfl
    have hfilter : n ∈ quotaFilter (some ft) candidates := by
      simpa [quotaFilter] using ⟨hn, htier⟩
    exact ⟨fun _ => List.ne_nil_of_mem hn, fun _ => List.ne_nil_of_mem hfilter⟩

lemma quotaFilter_subset (forced : Option String) (candidates : List ProxyNode) :
    quotaFilter forced candidates ⊆ candidates := by
  cases forced with
  | none => exact List.Subset.refl _
  | some ft => exact List.filter_sublist.subset

/-- The stateless path picks a node exactly when the scan of the pool finds one. -/
theorem selectBandit_isSome_iff :
    (g.selectBanditNodeExcluding ucb spec excluded context now).1.isSome ↔
      g.router.scan spec excluded now ≠ [] := by
  unfold selectBanditNodeExcluding selectBanditOver
  simp only [Option.isSome_map, scorePass_isSome_iff]
  apply quotaFilter_ne_nil
  intro ft hft
  split at hft
  · exact (tierQuotaForcedTier_spec hft).2
  · cases hft

theorem selectBandit_mem {n : ProxyNode}
    (h : (g.selectBanditNodeExcluding ucb spec excluded context now).1 = some n) :
    n ∈ g.router.scan spec excluded now :=
  quotaFilter_subset _ _ (scorePass_mem h)

end SmartProxyGateway

end IPProxyPool
