import IPProxyPool.Proofs.ArmTiers

/-!
# Exploration quota

Runs of initial stateless selections, over routers, requests, contexts and scores that change
freely from one selection to the next. A tier that was available throughout and is missing from
the newest 99 picks is due. Every tier that is available for 100 selections is picked in one of
them exactly if each due tier is picked at once, which the window, the candidates and the scores
of that selection decide.
-/

namespace IPProxyPool
open RustText AssocTable SlidingWindow FirstLeast

/-- One initial selection: the router it meets, the request and the scores. -/
structure SelectionInput where
  router : RouterEngine
  spec : RoutingSpec
  context : VectorD
  now : Instant
  ucb : BanditArm → VectorD → Nat → ℚ

def SelectionInput.candidates (i : SelectionInput) : List ProxyNode :=
  i.router.scan i.spec [] i.now

def SelectionInput.Available (i : SelectionInput) (tier : String) : Prop :=
  ∃ n ∈ i.candidates, n.tier = tier

namespace SmartProxyGateway

def selectInitial (g : SmartProxyGateway) (i : SelectionInput) :
    Option ProxyNode × SmartProxyGateway :=
  selectBanditNodeExcluding { g with router := i.router } i.ucb i.spec [] i.context i.now

variable (g : SmartProxyGateway) (inputs : ℕ → SelectionInput)

/-- The gateway before selection `k` of a run. -/
def gatewayAt : ℕ → SmartProxyGateway
  | 0 => g
  | k + 1 => (selectInitial (gatewayAt k) (inputs k)).2

def pickAt (k : ℕ) : Option ProxyNode := (selectInitial (gatewayAt g inputs k) (inputs k)).1

/-- Among the first `len` selections, 100 consecutive ones at each of which a tier has a candidate
include one that picks the tier. -/
def ExploresEveryTier (len : ℕ) : Prop :=
  ∀ tier j, j + tierQuotaWindowLen ≤ len →
    (∀ k, j ≤ k → k < j + tierQuotaWindowLen → (inputs k).Available tier) →
    ∃ k n, j ≤ k ∧ k < j + tierQuotaWindowLen ∧ pickAt g inputs k = some n ∧ n.tier = tier

/-- The tier had a candidate at each of the last 100 selections, this one included, and is none
of the 99 tiers picked before this one. -/
def Due (k : ℕ) (tier : String) : Prop :=
  tierQuotaWindowLen ≤ k + 1 ∧
    (∀ i, k + 1 - tierQuotaWindowLen ≤ i → i ≤ k → (inputs i).Available tier) ∧
    tier ∉ (gatewayAt g inputs k).tierQuotaWindow.newest (tierQuotaWindowLen - 1)

end SmartProxyGateway

/-- Among the tiers that the window lacks, this one has the fewest candidates, and fewer than
those that come before it. -/
def WinsQuota (window : Window String tierQuotaWindowLen) (candidates : List ProxyNode)
    (tier : String) : Prop :=
  IsFirstLeast (tierCount candidates) (absentTiers window (candidateTiers candidates)) tier

namespace SmartProxyGateway

/-- No tier on offer is missing from the window, and the first of the best scores belongs to the
tier. -/
def ScoresBest (g : SmartProxyGateway) (i : SelectionInput) (tier : String) : Prop :=
  absentTiers g.tierQuotaWindow (candidateTiers i.candidates) = [] ∧
    ∃ best, IsFirstLeast (fun p => OrderDual.toDual p.2)
      (scoredNodes i.ucb i.context (g.selections + 1) g.banditArms i.candidates) best ∧
      best.1.tier = tier

/-- Every due tier is the only tier on offer, wins the quota check, or wins by its score where
the quota forces none. -/
def QuotaStep (g : SmartProxyGateway) (inputs : ℕ → SelectionInput) (k : ℕ) : Prop :=
  ∀ tier, g.Due inputs k tier →
    (∀ n ∈ (inputs k).candidates, n.tier = tier) ∨
      WinsQuota (g.gatewayAt inputs k).tierQuotaWindow (inputs k).candidates tier ∨
      (g.gatewayAt inputs k).ScoresBest (inputs k) tier

end SmartProxyGateway

/-! ### The quota check -/

section Quota

variable {window : Window String tierQuotaWindowLen} {candidates : List ProxyNode} {tier : String}

lemma rarestTier_eq_foldl (ts : List String) (i : Nat) (best : Option String) :
    rarestTier (fun _ => candidates) i ts (best.map (fun t => (t, tierCount candidates t))) =
      (ts.foldl (keepLess (tierCount candidates)) best).map
        (fun t => (t, tierCount candidates t)) := by
  induction ts generalizing i best with
  | nil => rfl
  | cons t ts ih =>
    have hkeep : keepRarer (best.map (fun t => (t, tierCount candidates t)))
        (t, tierCount candidates t) =
        (keepLess (tierCount candidates) best t).map (fun t => (t, tierCount candidates t)) := by
      cases best with
      | none => rfl
      | some b =>
        by_cases hless : tierCount candidates t < tierCount candidates b
        · simp [keepRarer, keepLess, hless]
        · simp [keepRarer, keepLess, hless]
    rw [rarestTier, hkeep, ih (i + 1), List.foldl_cons]

/-- The quota forces the winner where more than one tier is on offer. -/
lemma forcedTier_eq_some_iff :
    tierQuotaForcedTier window (fun _ => candidates) = some tier ↔
      1 < (candidateTiers candidates).length ∧ WinsQuota window candidates tier := by
  unfold tierQuotaForcedTier
  dsimp only
  by_cases hlen : (candidateTiers candidates).length ≤ 1
  · rw [if_pos hlen]
    exact ⟨fun h => (by cases h), fun h => absurd h.1 (Nat.not_lt.mpr hlen)⟩
  · rw [if_neg hlen]
    by_cases habsent : absentTiers window (candidateTiers candidates) = []
    · rw [habsent]
      refine ⟨fun h => (by cases h), fun h => ?_⟩
      have hmem := h.2.mem
      rw [habsent] at hmem
      cases hmem
    · rw [if_neg (by simpa using habsent), ← Option.map_none, rarestTier_eq_foldl,
        Option.map_map]
      have hfst : (Prod.fst ∘ fun t => (t, tierCount candidates t)) = id := rfl
      rw [hfst, Option.map_id, id, foldl_keepLess_eq_some_iff]
      exact ⟨fun h => ⟨Nat.not_le.mp hlen, h⟩, fun h => h.2⟩

lemma forcedTier_eq_none_iff :
    tierQuotaForcedTier window (fun _ => candidates) = none ↔
      (candidateTiers candidates).length ≤ 1 ∨
        absentTiers window (candidateTiers candidates) = [] := by
  constructor
  · intro h
    by_contra hboth
    rw [not_or, Nat.not_le] at hboth
    obtain ⟨ft, hft⟩ := exists_isFirstLeast (tierCount candidates) hboth.2
    rw [forcedTier_eq_some_iff.mpr ⟨hboth.1, hft⟩] at h
    cases h
  · intro h
    rw [Option.eq_none_iff_forall_ne_some]
    intro ft hft
    obtain ⟨hlen, hwins⟩ := forcedTier_eq_some_iff.mp hft
    rcases h with hle | habsent
    · exact absurd hlen (Nat.not_lt.mpr hle)
    · have hmem := hwins.mem
      rw [habsent] at hmem
      cases hmem

lemma candidateTiers_two {t u : String} (ht : t ∈ candidateTiers candidates)
    (hu : u ∈ candidateTiers candidates) (hne : t ≠ u) :
    ¬(candidateTiers candidates).length ≤ 1 := by
  intro hlen
  rcases h : candidateTiers candidates with _ | ⟨a, _ | ⟨b, l⟩⟩
  · rw [h] at ht
    cases ht
  · rw [h, List.mem_singleton] at ht hu
    exact hne (ht.trans hu.symm)
  · rw [h] at hlen
    simp at hlen

lemma only_tier_of_length {n : ProxyNode} (hlen : (candidateTiers candidates).length ≤ 1)
    (hn : n ∈ candidates) : ∀ m ∈ candidates, m.tier = n.tier := by
  intro m hm
  by_contra hne
  exact candidateTiers_two ((mem_candidateTiers _ _).mpr ⟨m, hm, rfl⟩)
    ((mem_candidateTiers _ _).mpr ⟨n, hn, rfl⟩) hne hlen

end Quota

namespace SmartProxyGateway

variable {g : SmartProxyGateway} {inputs : ℕ → SelectionInput} {i : SelectionInput}
  {n : ProxyNode} {tier : String}

lemma selectInitial_spec (h : (g.selectInitial i).1 = some n) :
    n ∈ i.candidates ∧ ∀ ft,
      tierQuotaForcedTier g.tierQuotaWindow (fun _ => i.candidates) = some ft → n.tier = ft := by
  have hmem : n ∈ quotaFilter (tierQuotaForcedTier g.tierQuotaWindow (fun _ => i.candidates))
      i.candidates := scorePass_mem h
  refine ⟨quotaFilter_subset _ _ hmem, fun ft hft => ?_⟩
  rw [hft] at hmem
  simpa [quotaFilter] using (List.mem_filter.mp hmem).2

/-- Where the quota forces no tier, the first of the best scores is picked. -/
lemma selectInitial_unforced
    (hforced : tierQuotaForcedTier g.tierQuotaWindow (fun _ => i.candidates) = none) :
    (g.selectInitial i).1 = some n ↔
      ∃ best, IsFirstLeast (fun p => OrderDual.toDual p.2)
        (scoredNodes i.ucb i.context (g.selections + 1) g.banditArms i.candidates) best ∧
        best.1 = n := by
  have hpass : (g.selectInitial i).1 = ((scorePass i.ucb i.context (g.selections + 1)
      g.banditArms (quotaFilter (tierQuotaForcedTier g.tierQuotaWindow (fun _ => i.candidates))
        i.candidates)).2).map Prod.fst := rfl
  rw [hpass, hforced, Option.map_eq_some_iff]
  simp only [quotaFilter, scorePass_eq_some_iff]

lemma selectInitial_isSome (h : i.Available tier) : ∃ n, (g.selectInitial i).1 = some n := by
  obtain ⟨n, hn, -⟩ := h
  apply Option.isSome_iff_exists.mp
  exact selectBandit_isSome_iff.mpr (List.ne_nil_of_mem hn)

lemma selectInitial_window (h : (g.selectInitial i).1 = some n) :
    (g.selectInitial i).2.tierQuotaWindow = g.tierQuotaWindow.push n.tier := by
  unfold selectInitial selectBanditNodeExcluding selectBanditOver at h ⊢
  dsimp only at h ⊢
  rw [h]
  rfl

/-- The three ways in which a selection comes to pick a node of the tier. -/
lemma picks_tier_iff (havail : i.Available tier) :
    (∃ n, (g.selectInitial i).1 = some n ∧ n.tier = tier) ↔
      (∀ n ∈ i.candidates, n.tier = tier) ∨
        WinsQuota g.tierQuotaWindow i.candidates tier ∨ g.ScoresBest i tier := by
  obtain ⟨n, hn⟩ := selectInitial_isSome (g := g) havail
  obtain ⟨hmem, hft⟩ := selectInitial_spec hn
  have hpick : (∃ m, (g.selectInitial i).1 = some m ∧ m.tier = tier) ↔ n.tier = tier := by
    simp [hn]
  rw [hpick]
  constructor
  · rintro rfl
    cases hforced : tierQuotaForcedTier g.tierQuotaWindow (fun _ => i.candidates) with
    | some ft =>
      rw [hft ft hforced]
      exact .inr (.inl (forcedTier_eq_some_iff.mp hforced).2)
    | none =>
      rcases forcedTier_eq_none_iff.mp hforced with hlen | habsent
      · exact .inl (only_tier_of_length hlen hmem)
      · obtain ⟨best, hbest, hfst⟩ := (selectInitial_unforced hforced).mp hn
        exact .inr (.inr ⟨habsent, best, hbest, congrArg ProxyNode.tier hfst⟩)
  · rintro (honly | hwins | ⟨habsent, best, hbest, htier⟩)
    · exact honly n hmem
    · by_cases hlen : (candidateTiers i.candidates).length ≤ 1
      · obtain ⟨m, hm, rfl⟩ := havail
        exact only_tier_of_length hlen hm n hmem
      · exact hft tier (forcedTier_eq_some_iff.mpr ⟨Nat.not_le.mp hlen, hwins⟩)
    · have hforced := forcedTier_eq_none_iff.mpr (.inr habsent)
      have hpicked := (selectInitial_unforced hforced).mpr ⟨best, hbest, rfl⟩
      obtain rfl := Option.some.inj (hn.symm.trans hpicked)
      exact htier

/-- While a tier is available every selection picks, so the newest entries of the window are the
tiers of these picks. -/
lemma mem_newest_iff {j m : ℕ} (hm : m ≤ tierQuotaWindowLen)
    (havail : ∀ k, j ≤ k → k < j + m → (inputs k).Available tier) (t : String) :
    t ∈ (g.gatewayAt inputs (j + m)).tierQuotaWindow.newest m ↔
      ∃ k n, j ≤ k ∧ k < j + m ∧ g.pickAt inputs k = some n ∧ n.tier = t := by
  induction m with
  | zero =>
    have hempty : ∀ k, ¬(j ≤ k ∧ k < j + 0) := fun k => by omega
    simp only [Window.newest_zero, List.not_mem_nil, false_iff, not_exists]
    exact fun k n h => hempty k ⟨h.1, h.2.1⟩
  | succ m ih =>
    obtain ⟨n, hn⟩ := selectInitial_isSome (g := g.gatewayAt inputs (j + m))
      (havail (j + m) (Nat.le_add_right j m) (by omega))
    have hpick : g.pickAt inputs (j + m) = some n := hn
    have hwindow : (g.gatewayAt inputs (j + (m + 1))).tierQuotaWindow =
        (g.gatewayAt inputs (j + m)).tierQuotaWindow.push n.tier := selectInitial_window hn
    rw [hwindow, Window.newest_push _ _ (by omega), List.mem_append, List.mem_singleton,
      ih (by omega) (fun k hj hk => havail k hj (by omega))]
    constructor
    · rintro (⟨k, n', hj, hk, hpick', htier⟩ | rfl)
      · exact ⟨k, n', hj, by omega, hpick', htier⟩
      · exact ⟨j + m, n, by omega, by omega, hpick, rfl⟩
    · rintro ⟨k, n', hj, hk, hpick', htier⟩
      rcases (show k < j + m ∨ k = j + m by omega) with hold | rfl
      · exact .inl ⟨k, n', hj, hold, hpick', htier⟩
      · obtain rfl := Option.some.inj (hpick.symm.trans hpick')
        exact .inr htier.symm

/-- A due tier is one that the 99 selections before this one did not pick, each of which had it
on offer. -/
lemma due_iff {k : ℕ} (hk : tierQuotaWindowLen ≤ k + 1)
    (havail : ∀ i, k + 1 - tierQuotaWindowLen ≤ i → i ≤ k → (inputs i).Available tier) :
    g.Due inputs k tier ↔ ∀ i n, k + 1 - tierQuotaWindowLen ≤ i → i < k →
      g.pickAt inputs i = some n → n.tier ≠ tier := by
  have hpos : 0 < tierQuotaWindowLen := by decide
  have hback : k + 1 - tierQuotaWindowLen + (tierQuotaWindowLen - 1) = k := by omega
  have hnewest := mem_newest_iff (g := g) (j := k + 1 - tierQuotaWindowLen)
    (m := tierQuotaWindowLen - 1) (Nat.sub_le _ _) (fun i hi hik => havail i hi (by omega)) tier
  rw [hback] at hnewest
  unfold Due
  rw [hnewest]
  constructor
  · rintro ⟨-, -, hnone⟩ i n hi hik hpick htier
    exact hnone ⟨i, n, hi, hik, hpick, htier⟩
  · rintro hnone
    refine ⟨hk, havail, ?_⟩
    rintro ⟨i, n, hi, hik, hpick, htier⟩
    exact hnone i n hi hik hpick htier

end SmartProxyGateway

/-- In every run of initial selections, of any length and with any scores and any changes of the
router between them, every tier available for 100 consecutive selections is picked in one of them
exactly if at every step each due tier is alone, wins the quota check, or wins by its score where
the quota forces none. -/
theorem tier_quota_explores_iff (g : SmartProxyGateway) (inputs : ℕ → SelectionInput) (len : ℕ) :
    g.ExploresEveryTier inputs len ↔ ∀ k < len, g.QuotaStep inputs k := by
  have hwin : tierQuotaWindowLen = 100 := rfl
  constructor
  · intro h k hk tier hdue
    have hlen := hdue.1
    have havail := hdue.2.1
    have hunpicked := (SmartProxyGateway.due_iff hlen havail).mp hdue
    obtain ⟨i, n, hi, hik, hpick, htier⟩ := h tier (k + 1 - tierQuotaWindowLen) (by omega)
      (fun i hi hik => havail i hi (by omega))
    -- the 99 selections before this one did not pick the tier, so this one does
    rcases (show i < k ∨ i = k by omega) with hold | rfl
    · exact absurd htier (hunpicked i n hi hold hpick)
    · exact (SmartProxyGateway.picks_tier_iff (havail i (by omega) le_rfl)).mp ⟨n, hpick, htier⟩
  · intro hstep tier j hlen havail
    by_contra hnone
    push Not at hnone
    -- 99 picks of other tiers make the tier due at the last of the 100 selections
    have hdue : g.Due inputs (j + 99) tier := by
      refine (SmartProxyGateway.due_iff (by omega)
        (fun i hi hik => havail i (by omega) (by omega))).mpr ?_
      exact fun i n hi hik hpick => hnone i n (by omega) (by omega) hpick
    obtain ⟨n, hpick, htier⟩ := (SmartProxyGateway.picks_tier_iff
      (havail (j + 99) (by omega) (by omega))).mpr (hstep (j + 99) (by omega) tier hdue)
    exact hnone (j + 99) n (by omega) (by omega) hpick htier

/-! ### Two tiers with equal scores -/

def quotaPaidNode : ProxyNode := .new "203.0.113.1" 8080 none none "us" "res" "mock-a" 100

def quotaFreeNode : ProxyNode := .new "203.0.113.2" 8080 none none "us" "free" "free-a" 10

def evenInput : SelectionInput :=
  ⟨.new [quotaPaidNode, quotaFreeNode], {}, 0, 0, fun _ _ _ => 0⟩

def evenGateway : SmartProxyGateway := ⟨.new [quotaPaidNode, quotaFreeNode], ∅, .empty, 0⟩

lemma evenInput_candidates : evenInput.candidates = [quotaPaidNode, quotaFreeNode] := by decide

lemma evenInput_available : evenInput.Available "free" :=
  ⟨quotaFreeNode, by decide, rfl⟩

/-- The selection picks the paid node as long as the free tier is in the window. -/
def SelectionInput.PicksPaid (i : SelectionInput) : Prop :=
  ∀ g : SmartProxyGateway, "free" ∈ g.tierQuotaWindow.items →
    (g.selectInitial i).1 = some quotaPaidNode

lemma evenInput_picksPaid : evenInput.PicksPaid := by
  intro g hfree
  have htiers : candidateTiers evenInput.candidates = ["residential", "free"] := by decide
  by_cases hpaid : "residential" ∈ g.tierQuotaWindow.items
  · have habsent : absentTiers g.tierQuotaWindow (candidateTiers evenInput.candidates) = [] := by
      simp [absentTiers, htiers, hfree, hpaid]
    refine (SmartProxyGateway.selectInitial_unforced
      (forcedTier_eq_none_iff.mpr (.inr habsent))).mpr ⟨(quotaPaidNode, 0), ?_, rfl⟩
    rw [evenInput_candidates]
    exact ⟨[], [(quotaFreeNode, 0)], rfl, by simp, by simp⟩
  · have hwins : WinsQuota g.tierQuotaWindow evenInput.candidates "residential" :=
      ⟨[], [], by simp [absentTiers, htiers, hfree, hpaid], by simp, by simp⟩
    have havail : evenInput.Available "residential" := ⟨quotaPaidNode, by decide, rfl⟩
    obtain ⟨n, hn, htier⟩ := (SmartProxyGateway.picks_tier_iff havail).mpr (.inr (.inl hwins))
    have hmem := (SmartProxyGateway.selectInitial_spec hn).1
    rw [hn]
    rw [evenInput_candidates] at hmem
    rcases List.mem_pair.mp hmem with rfl | rfl
    · rfl
    · exact absurd htier (by decide)

section Starved

variable {inputs : ℕ → SelectionInput} (hfirst : ∀ k < 2, inputs k = evenInput)
  (hpaid : ∀ k, 2 ≤ k → k < 102 → (inputs k).PicksPaid)

include hfirst hpaid

/-- The free tier is picked second and then stays in the window for 100 selections. -/
lemma newest_of_picksPaid (i : ℕ) (hi : i ≤ 99) :
    (evenGateway.gatewayAt inputs (i + 2)).tierQuotaWindow.newest (i + 1) =
      "free" :: List.replicate i "residential" := by
  induction i with
  | zero =>
    rw [SmartProxyGateway.gatewayAt, SmartProxyGateway.gatewayAt, SmartProxyGateway.gatewayAt,
      hfirst 0 (by omega), hfirst 1 (by omega)]
    decide
  | succ i ih =>
    have hnewest := ih (by omega)
    have hfree : "free" ∈ (evenGateway.gatewayAt inputs (i + 2)).tierQuotaWindow.items :=
      Window.mem_of_mem_newest (n := i + 1) (by simp [hnewest])
    have hcap : i + 1 < tierQuotaWindowLen := by
      have hwin : tierQuotaWindowLen = 100 := rfl
      omega
    have htier : quotaPaidNode.tier = "residential" := by decide
    have hpush := SmartProxyGateway.selectInitial_window
      (hpaid (i + 2) (by omega) (by omega) _ hfree)
    have hnext : i + 1 + 2 = i + 2 + 1 := by omega
    rw [hnext, SmartProxyGateway.gatewayAt, hpush, htier, Window.newest_push _ _ hcap, hnewest,
      List.cons_append, List.replicate_succ']

lemma picks_of_picksPaid {k : ℕ} (hk : 2 ≤ k) (hk' : k < 102) :
    evenGateway.pickAt inputs k = some quotaPaidNode := by
  obtain ⟨i, rfl⟩ := Nat.exists_eq_add_of_le' hk
  have hnewest := newest_of_picksPaid hfirst hpaid i (by omega)
  exact hpaid (i + 2) hk hk' _ (Window.mem_of_mem_newest (n := i + 1) (by simp [hnewest]))

end Starved

/-- The selections 2 to 101 all pick the paid node, although the free one is always available. -/
theorem even_scores_starve_free_tier :
    ¬evenGateway.ExploresEveryTier (fun _ => evenInput) 102 := by
  intro h
  obtain ⟨k, n, hk2, hk102, hpick, htier⟩ :=
    h "free" 2 (by decide) (fun _ _ _ => evenInput_available)
  have hwin : tierQuotaWindowLen = 100 := rfl
  have hpaid : evenGateway.pickAt (fun _ => evenInput) k = some quotaPaidNode :=
    picks_of_picksPaid (fun _ _ => rfl) (fun _ _ _ => evenInput_picksPaid) hk2 (by omega)
  have hsame : n = quotaPaidNode := Option.some.inj (hpick.symm.trans hpaid)
  rw [hsame] at htier
  exact absurd htier (by decide)

/-! ### A tier that was away -/

def quotaMobileNodes : List ProxyNode :=
  [.new "203.0.113.3" 8080 none none "us" "mobile" "mock-b" 100,
    .new "203.0.113.4" 8080 none none "us" "mobile" "mock-b" 100]

/-- The free node is away at selection 2, and two mobile nodes are there from selection 102. -/
def returningInputs (k : ℕ) : SelectionInput :=
  if k = 2 then { evenInput with router := .new [quotaPaidNode] }
  else if k < 102 then evenInput
  else { evenInput with router := .new (quotaPaidNode :: quotaMobileNodes ++ [quotaFreeNode]) }

lemma returningInputs_even {k : ℕ} (h2 : k ≠ 2) (hk : k < 102) : returningInputs k = evenInput := by
  rw [returningInputs, if_neg h2, if_pos hk]

lemma returningInputs_picksPaid (k : ℕ) (_ : 2 ≤ k) (hk : k < 102) :
    (returningInputs k).PicksPaid := by
  by_cases h2 : k = 2
  · intro g _
    have havail : (returningInputs k).Available "residential" := by
      rw [h2]
      exact ⟨quotaPaidNode, by decide, rfl⟩
    obtain ⟨n, hn⟩ := SmartProxyGateway.selectInitial_isSome (g := g) havail
    have hcandidates : (returningInputs k).candidates = [quotaPaidNode] := by
      rw [h2]
      decide
    have hmem := (SmartProxyGateway.selectInitial_spec hn).1
    rw [hcandidates, List.mem_singleton] at hmem
    exact hmem ▸ hn
  · rw [returningInputs_even h2 hk]
    exact evenInput_picksPaid

lemma returningInputs_pick {k : ℕ} (hk2 : 2 ≤ k) (hk : k < 102) :
    evenGateway.pickAt returningInputs k = some quotaPaidNode :=
  picks_of_picksPaid (fun _ _ => returningInputs_even (by omega) (by omega))
    returningInputs_picksPaid hk2 hk

lemma returningInputs_available (k : ℕ) : (returningInputs k).Available "residential" := by
  refine ⟨quotaPaidNode, ?_, by decide⟩
  unfold returningInputs
  split
  · decide
  · split <;> decide

lemma returningInputs_window (t : String) :
    t ∈ (evenGateway.gatewayAt returningInputs 102).tierQuotaWindow.items ↔ t = "residential" := by
  have hpaid : quotaPaidNode.tier = "residential" := by decide
  rw [← Window.newest_cap]
  refine (SmartProxyGateway.mem_newest_iff (j := 2) le_rfl
    (fun k _ _ => returningInputs_available k) t).trans ?_
  constructor
  · rintro ⟨k, n, hk2, hk, hpick, rfl⟩
    obtain rfl := Option.some.inj (hpick.symm.trans (returningInputs_pick hk2 hk))
    exact hpaid
  · rintro rfl
    exact ⟨2, quotaPaidNode, le_rfl, by decide, returningInputs_pick le_rfl (by decide), hpaid⟩

/-- At selection 102 the free tier and the mobile tier are both missing from the window; the free
one is due and has the fewer candidates. -/
lemma returningInputs_quotaStep (k : ℕ) (hk : k < 103) :
    evenGateway.QuotaStep returningInputs k := by
  intro tier hdue
  have hwin : tierQuotaWindowLen = 100 := rfl
  have hlen := hdue.1
  have hunpicked := (SmartProxyGateway.due_iff hlen hdue.2.1).mp hdue 98 quotaPaidNode (by omega)
    (by omega) (returningInputs_pick (by omega) (by omega))
  have hpaid : quotaPaidNode.tier = "residential" := by decide
  obtain ⟨n, hn, rfl⟩ := hdue.2.1 3 (by omega) (by omega)
  rw [returningInputs_even (by omega) (by omega), evenInput_candidates] at hn
  rcases List.mem_pair.mp hn with rfl | rfl
  · exact absurd rfl hunpicked
  · rcases (show k ≤ 101 ∨ k = 102 by omega) with hold | rfl
    · -- up to selection 101 the free tier was away within the last 100 selections
      obtain ⟨m, hm, htier⟩ := hdue.2.1 2 (by omega) (by omega)
      have hcandidates : (returningInputs 2).candidates = [quotaPaidNode] := by decide
      rw [hcandidates, List.mem_singleton] at hm
      exact absurd (hm ▸ htier) hunpicked
    · right
      left
      have htiers : candidateTiers (returningInputs 102).candidates =
          ["residential", "mobile", "free"] := by decide
      have habsent : absentTiers (evenGateway.gatewayAt returningInputs 102).tierQuotaWindow
          ["residential", "mobile", "free"] = ["mobile", "free"] := by
        simp [absentTiers, returningInputs_window]
      unfold WinsQuota
      rw [htiers, habsent]
      exact ⟨["mobile"], [], rfl, by decide, by simp⟩

/-- Three tiers compete at selection 102, and the free node that was away gets it. -/
theorem returning_tier_explored :
    evenGateway.ExploresEveryTier returningInputs 103 ∧
      ∃ k n, 3 ≤ k ∧ k < 103 ∧ evenGateway.pickAt returningInputs k = some n ∧ n.tier = "free" := by
  have hexplores := (tier_quota_explores_iff evenGateway returningInputs 103).mpr
    returningInputs_quotaStep
  refine ⟨hexplores, hexplores "free" 3 (by decide) (fun k hk3 hk => ?_)⟩
  by_cases hk' : k < 102
  · rw [returningInputs_even (by omega) hk']
    exact evenInput_available
  · have hlast : k = 102 := by
      have hwin : tierQuotaWindowLen = 100 := rfl
      omega
    rw [hlast]
    exact ⟨quotaFreeNode, by decide, rfl⟩

end IPProxyPool
