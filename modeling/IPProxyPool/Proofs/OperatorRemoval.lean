import IPProxyPool.Model.Bandit
import IPProxyPool.Proofs.Membership
import IPProxyPool.Proofs.MergeRace
import IPProxyPool.Proofs.Sticky

/-!
# Vendor groups taken out of service

An operator takes a group out of service by setting its weight to zero. The group stays out until
a background write raises its weight again, and two kinds do: autotune, which never writes a weight
below one, and an audit result that restores the full weight.
-/

namespace IPProxyPool
open RustText Transition RouterEngine

/-! ### The router of the control plane -/

lemma background_eq_run (r : RouterEngine) (b : Background) :
    ∃ ops : List RouterOp, r.background b = run RouterEngine.step r ops := by
  cases b with
  | mergeOnce snap factor => exact ⟨[.replaceVendorNodes "free-" _], rfl⟩
  | paidResult result =>
    unfold RouterEngine.background applyPaidResult
    dsimp only
    split
    · exact ⟨[], rfl⟩
    · split
      · exact ⟨[.adjustVendorWeight result.vendor result.country _], rfl⟩
      · exact ⟨[], rfl⟩
  | freeResult result hfree =>
    unfold RouterEngine.background applyFreeResult
    dsimp only
    split
    · exact ⟨[], rfl⟩
    · split
      · exact ⟨[.scaleVendorWeights result.vendor result.country _], rfl⟩
      · exact ⟨[], rfl⟩
  | setPaidWeightBoost boostPercent => exact ⟨[.setPaidWeightBoost boostPercent], rfl⟩
  | traffic op hop => exact ⟨[op], rfl⟩

namespace ControlPlane

variable {cfg : RegistryConfig} {debug : String → String} {s : ControlPlane}

/-- Every step of the system acts on the router by operations of the router. -/
theorem router_step (cfg : RegistryConfig) (debug : String → String) (h : s.Orderly) (e : PlaneEvent) :
    ∃ ops : List RouterOp, (step cfg debug s e).router = run RouterEngine.step s.router ops := by
  obtain ⟨-, heffect⟩ := step_effect cfg debug h e
  generalize step cfg debug s e = s' at heffect
  cases heffect with
  | quiet _ _ hmanaged hrouter => exact ⟨[], hrouter⟩
  | edit plan _ hlocked happly hmanaged =>
    exact ⟨[plan.value.op], (applyEdit_ok happly).1⟩
  | background b _ hmanaged hrouter =>
    rw [hrouter]
    exact background_eq_run s.router b

/-- Whatever the operations of the router keep, the system keeps. -/
lemma router_invariant {J : RouterEngine → Prop} (hJ : ∀ r op, J r → J (r.step op))
    (h : s.Orderly) (hs : J s.router) (e : PlaneEvent) : J (step cfg debug s e).router := by
  obtain ⟨ops, hops⟩ := router_step cfg debug h e
  rw [hops]
  exact run_invariant hJ hs ops

/-! ### Steps without an operator -/

/-- What goes on by itself: background writes, and the return of the call in progress. -/
inductive Automatic where
  | background (b : Background)
  | finish

def Automatic.event : Automatic → PlaneEvent
  | .background b => .background b
  | .finish => .finish

def autoStep (cfg : RegistryConfig) (debug : String → String) (s : ControlPlane) (a : Automatic) :
    ControlPlane :=
  step cfg debug s a.event

/-- A write after which the group has a positive weight: a boost, unless it takes the provider for
a free one, and an audit result for the group whose action is not the cut. -/
def Automatic.Revives (provider country : String) : Automatic → Prop
  | .background (.setPaidWeightBoost _) => startsWith provider "free" = false
  | .background (.paidResult result) =>
    scaleKey result.vendor result.country = scaleKey provider country ∧
      ∃ raw weight, result.outcome = .ok raw ∧
        arbitrageAction (normalizeSlaRate raw) = some weight ∧ weight ≠ 0
  | _ => False

/-- Every node of the group has weight zero. -/
def ZeroWeights (provider country : String) (pool : List ProxyNode) : Prop :=
  ∀ n ∈ pool, inVendorGroup provider country n = true → n.weight = 0

/-- The group serves nobody: its nodes have weight zero in the pool, no weighted or sticky
selection returns a node of the group at the address of a managed one, and no stateless selection
returns a node of the group. -/
structure OutOfService (provider country : String) (s : ControlPlane) : Prop where
  weights : ZeroWeights provider country s.router.pools
  unselected : ∀ g ∈ s.managed.nodes, inVendorGroup provider country g = true →
    ∀ spec excluded now draw n, (s.router.selectNodeExcluding spec excluded now draw).1 = some n →
      inVendorGroup provider country n = true → n.addr ≠ g.addr
  unpicked : ∀ g : SmartProxyGateway, g.router = s.router → ∀ ucb spec excluded context now n,
    (g.selectBanditNodeExcluding ucb spec excluded context now).1 = some n →
      inVendorGroup provider country n = false

/-- The invariant of the steps without an operator. -/
structure Settled (provider country : String) (s : ControlPlane) : Prop where
  consistent : s.Consistent
  sticky : s.router.StickyInv
  group : ∃ g ∈ s.managed.nodes, inVendorGroup provider country g = true

variable {provider country : String}

lemma autoStep_managed (h : s.Orderly) (a : Automatic) :
    (autoStep cfg debug s a).managed = s.managed := by
  obtain ⟨-, heffect⟩ := step_effect cfg debug h a.event
  unfold autoStep
  generalize step cfg debug s a.event = s' at heffect
  generalize hevent : a.event = e at heffect
  cases heffect with
  | quiet _ _ hmanaged hrouter => exact hmanaged
  | edit plan _ hlocked happly hmanaged => cases a <;> cases hevent
  | background b _ hmanaged hrouter => exact hmanaged

lemma settled_autoStep (h : s.Settled provider country) (a : Automatic) :
    (autoStep cfg debug s a).Settled provider country := by
  refine ⟨consistent_step h.consistent a.event, ?_, ?_⟩
  · exact router_invariant stickyInv_step h.consistent.orderly h.sticky a.event
  · rw [autoStep_managed h.consistent.orderly]
    exact h.group

lemma provider_of_inVendorGroup {n : ProxyNode} (h : inVendorGroup provider country n = true) :
    n.provider = provider := by
  unfold inVendorGroup at h
  simpa using (Bool.and_eq_true_iff.mp h).1

lemma Settled.provider_not_reserved (h : s.Settled provider country) :
    startsWith provider "free-" = false := by
  obtain ⟨g, hg, hgroup⟩ := h.group
  rw [← provider_of_inVendorGroup hgroup]
  exact not_startsWith_free (h.consistent.orderly.managed g hg)

/-- The group has a node in the pool. -/
lemma Settled.exists_mem (h : s.Settled provider country) :
    ∃ n ∈ s.router.pools, inVendorGroup provider country n = true := by
  obtain ⟨g, hg, hgroup⟩ := h.group
  obtain ⟨w, hw⟩ := h.consistent.leads g hg
  exact ⟨_, List.mem_of_find?_eq_some hw, hgroup⟩

/-! ### Selections -/

lemma stickyAccepts_live {r : RouterEngine} {spec : RoutingSpec} {excluded : List String}
    {now createdAt : Instant} {node : ProxyNode}
    (h : r.stickyAccepts spec excluded now node createdAt = true) :
    ∃ k, r.pools.find? (fun n => n.addr = node.addr) = some k ∧ 0 < k.weight := by
  unfold stickyAccepts at h
  simp only [Bool.and_eq_true] at h
  obtain ⟨⟨⟨⟨-, hlive⟩, -⟩, -⟩, -⟩ := h
  cases hfind : r.pools.find? (fun n => n.addr = node.addr) with
  | none => rw [hfind] at hlive; cases hlive
  | some k =>
    rw [hfind] at hlive
    simp only [Bool.and_eq_true, decide_eq_true_eq] at hlive
    exact ⟨k, rfl, hlive.1⟩

lemma scan_weight_pos {r : RouterEngine} {spec : RoutingSpec} {excluded : List String}
    {now : Instant} {n : ProxyNode} (h : n ∈ r.scan spec excluded now) :
    n ∈ r.pools ∧ 0 < n.weight := by
  obtain ⟨hmem, -, hmatch⟩ := (mem_scan_iff r spec excluded now n).mp h
  exact ⟨hmem, ((matchesNode_iff r n spec now).mp hmatch).weight_pos⟩

/-- In a settled state it is the weights in the pool that decide. -/
lemma outOfService_iff (h : s.Settled provider country) :
    OutOfService provider country s ↔ ZeroWeights provider country s.router.pools := by
  refine ⟨fun hout => hout.weights, fun hzero => ⟨hzero, ?_, ?_⟩⟩
  · intro g hg hgroup spec excluded now draw n hsel hn haddr
    rcases selectNodeExcluding_cases h.sticky.1 hsel with hsticky | ⟨-, hscan⟩
    · -- the fast path has read the weight of the managed node
      obtain ⟨createdAt, -, hacc⟩ := (stickyNode_eq_some_iff n).mp hsticky
      obtain ⟨k, hk, hpos⟩ := stickyAccepts_live hacc
      obtain ⟨w, hw⟩ := h.consistent.leads g hg
      rw [haddr, hw, Option.some.injEq] at hk
      have hzero' := hzero k (List.mem_of_find?_eq_some (hk ▸ hw)) (hk ▸ hgroup)
      omega
    · obtain ⟨hmem, hpos⟩ := scan_weight_pos hscan
      have hzero' := hzero n hmem hn
      omega
  · intro g hg ucb spec excluded context now n hpick
    obtain ⟨hmem, hpos⟩ := scan_weight_pos (SmartProxyGateway.selectBandit_mem hpick)
    rw [hg] at hmem
    rw [← Bool.not_eq_true]
    intro hn
    have hzero' := hzero n hmem hn
    omega

/-! ### What a write does to the weights of the group -/

lemma zeroWeights_of_untouched {pool pool' : List ProxyNode} (h : ZeroWeights provider country pool)
    (hpool : ∀ k ∈ pool', inVendorGroup provider country k = true → k ∈ pool) :
    ZeroWeights provider country pool' :=
  fun k hk hgroup => h k (hpool k hk hgroup) hgroup

lemma zeroWeights_adjust_iff {r : RouterEngine} (h : ZeroWeights provider country r.pools)
    (hgroup : ∃ n ∈ r.pools, inVendorGroup provider country n = true) (vendor country' : String)
    (weight : Nat) :
    ZeroWeights provider country (r.adjustVendorWeight vendor country' weight).pools ↔
      ¬(scaleKey vendor country' = scaleKey provider country ∧ weight ≠ 0) := by
  have hkey : ∀ v c n, inVendorGroup v c n = true ↔ n.factorKey = scaleKey v c := inVendorGroup_iff
  change ZeroWeights provider country (r.pools.map _) ↔ _
  constructor
  · rintro hzero ⟨hsame, hw⟩
    obtain ⟨n, hn, hin⟩ := hgroup
    have htouched : inVendorGroup vendor country' n = true :=
      (hkey vendor country' n).mpr (((hkey provider country n).mp hin).trans hsame.symm)
    apply hw
    have hn' := hzero _ (List.mem_map_of_mem hn)
    rw [if_pos htouched] at hn'
    exact hn' hin
  · intro hkeep k hk hin
    obtain ⟨n, hn, rfl⟩ := List.mem_map.mp hk
    by_cases htouched : inVendorGroup vendor country' n = true
    · rw [if_pos htouched] at hin ⊢
      have hin' : inVendorGroup provider country n = true := hin
      by_contra hw
      exact hkeep ⟨((hkey vendor country' n).mp htouched).symm.trans
        ((hkey provider country n).mp hin'), hw⟩
    · rw [if_neg htouched] at hin ⊢
      exact h n hn hin

lemma forall₂_exists_left {α β : Type} {R : α → β → Prop} {l : List α} {l' : List β}
    (h : List.Forall₂ R l l') {b : β} (hb : b ∈ l') : ∃ a ∈ l, R a b := by
  induction h with
  | nil => cases hb
  | @cons a b' l l' hab _ ih =>
    rcases List.mem_cons.mp hb with rfl | hb
    · exact ⟨a, List.mem_cons_self, hab⟩
    · obtain ⟨a', ha', hR⟩ := ih hb
      exact ⟨a', List.mem_cons_of_mem _ ha', hR⟩

lemma one_le_boostedWeight (base boost : Nat) : 1 ≤ boostedWeight base boost := le_max_left _ _

lemma zeroWeights_boost_iff {r : RouterEngine} (h : ZeroWeights provider country r.pools)
    (hgroup : ∃ n ∈ r.pools, inVendorGroup provider country n = true) (boostPercent : Nat) :
    ZeroWeights provider country (r.setPaidWeightBoost boostPercent).pools ↔
      ¬startsWith provider "free" = false := by
  have hall := boostNodes_forall₂ (clampBoost boostPercent) r.paidBaseWeight r.pools
  change ZeroWeights provider country (boostNodes (clampBoost boostPercent) r.paidBaseWeight
    r.pools).2 ↔ _
  constructor
  · intro hzero hpaid
    obtain ⟨n, hn, hin⟩ := hgroup
    obtain ⟨k, hk, base, rfl⟩ := forall₂_exists_left hall.flip hn
    have hboosted : boosted (clampBoost boostPercent) base n =
        { n with weight := boostedWeight (baseOf base n) (clampBoost boostPercent) } := by
      unfold boosted isFreeForBoost
      rw [provider_of_inVendorGroup hin, hpaid, if_neg Bool.false_ne_true]
    rw [hboosted] at hk
    have hweight := hzero _ hk hin
    have hpos := one_le_boostedWeight (baseOf base n) (clampBoost boostPercent)
    dsimp only at hweight
    omega
  · intro hfree
    rw [Bool.not_eq_false] at hfree
    refine zeroWeights_of_untouched h ?_
    intro k hk hin
    obtain ⟨n, hn, base, rfl⟩ := forall₂_exists_left hall hk
    unfold boosted at hin ⊢
    split at hin
    · rename_i hboost
      rw [if_pos hboost]
      exact hn
    · rename_i hboost
      have hn' := provider_of_inVendorGroup hin
      unfold isFreeForBoost at hboost
      rw [hn', hfree] at hboost
      exact absurd rfl hboost

/-- The free group and a group with another provider do not meet. -/
lemma not_inVendorGroup_of_free {n : ProxyNode} (hprovider : startsWith provider "free-" = false)
    (hfree : startsWith n.provider "free-" = true) : inVendorGroup provider country n = false := by
  rw [← Bool.not_eq_true]
  intro hin
  rw [provider_of_inVendorGroup hin, hprovider] at hfree
  cases hfree

lemma zeroWeights_mergeOnce {r : RouterEngine} (h : ZeroWeights provider country r.pools)
    (hprovider : startsWith provider "free-" = false) (snap : RegistrySnapshot)
    (factor : ProxyNode → ℚ) :
    ZeroWeights provider country (r.background (.mergeOnce snap factor)).pools := by
  refine zeroWeights_of_untouched h ?_
  intro k hk hin
  rcases List.mem_append.mp hk with hold | hnew
  · exact List.mem_of_mem_filter hold
  · obtain ⟨n, hn, rfl⟩ := List.mem_map.mp hnew
    have hfree : startsWith n.provider "free-" = true := snap.provider_free hn
    have hout : inVendorGroup provider country (RouterEngine.applyFactor (factor n) n) = false :=
      not_inVendorGroup_of_free hprovider hfree
    rw [hout] at hin
    cases hin

lemma revives_paidResult_iff {result : SlaResult} {raw : SlaValue}
    (hout : result.outcome = .ok raw) :
    (Automatic.background (.paidResult result)).Revives provider country ↔
      scaleKey result.vendor result.country = scaleKey provider country ∧
        ∃ weight, arbitrageAction (normalizeSlaRate raw) = some weight ∧ weight ≠ 0 := by
  unfold Automatic.Revives
  constructor
  · rintro ⟨hkey, raw', weight, hraw, hact⟩
    rw [hout, Except.ok.injEq] at hraw
    exact ⟨hkey, weight, hraw ▸ hact⟩
  · rintro ⟨hkey, weight, hact⟩
    exact ⟨hkey, raw, weight, hout, hact⟩

lemma zeroWeights_paidResult_iff {r : RouterEngine} (h : ZeroWeights provider country r.pools)
    (hgroup : ∃ n ∈ r.pools, inVendorGroup provider country n = true) (result : SlaResult) :
    ZeroWeights provider country (r.background (.paidResult result)).pools ↔
      ¬(Automatic.background (.paidResult result)).Revives provider country := by
  unfold RouterEngine.background applyPaidResult
  dsimp only
  cases hout : result.outcome with
  | error e =>
    refine iff_of_true h ?_
    rintro ⟨-, raw, weight, hraw, -⟩
    rw [hout] at hraw
    cases hraw
  | ok raw =>
    rw [revives_paidResult_iff hout]
    dsimp only
    cases hact : arbitrageAction (normalizeSlaRate raw) with
    | none => exact iff_of_true h (fun ⟨_, weight, hweight, _⟩ => nomatch hweight)
    | some weight =>
      dsimp only
      rw [zeroWeights_adjust_iff h hgroup]
      simp

/-- The free branch reaches groups of free providers alone. -/
lemma zeroWeights_freeResult {r : RouterEngine} (h : ZeroWeights provider country r.pools)
    (hprovider : startsWith provider "free-" = false) (result : SlaResult)
    (hfree : startsWith result.vendor "free-" = true) :
    ZeroWeights provider country (r.background (.freeResult result hfree)).pools := by
  unfold RouterEngine.background applyFreeResult
  dsimp only
  split
  · exact h
  · split
    · refine zeroWeights_of_untouched h ?_
      intro k hk hin
      obtain ⟨n, hn, rfl⟩ := List.mem_map.mp hk
      have hother : inVendorGroup result.vendor result.country n = false := by
        rw [← Bool.not_eq_true]
        intro htouched
        rw [if_pos htouched] at hin
        have hvendor : result.vendor = provider :=
          (provider_of_inVendorGroup htouched).symm.trans (provider_of_inVendorGroup hin)
        rw [hvendor, hprovider] at hfree
        cases hfree
      rw [hother, if_neg Bool.false_ne_true]
      exact hn
    · exact h

/-- One background write on a group out of service. -/
lemma zeroWeights_background_iff {r : RouterEngine} (h : ZeroWeights provider country r.pools)
    (hgroup : ∃ n ∈ r.pools, inVendorGroup provider country n = true)
    (hprovider : startsWith provider "free-" = false) (b : Background) :
    ZeroWeights provider country (r.background b).pools ↔
      ¬(Automatic.background b).Revives provider country := by
  cases b with
  | mergeOnce snap factor => exact iff_of_true (zeroWeights_mergeOnce h hprovider snap factor) id
  | paidResult result => exact zeroWeights_paidResult_iff h hgroup result
  | freeResult result hfree =>
    exact iff_of_true (zeroWeights_freeResult h hprovider result hfree) id
  | setPaidWeightBoost boostPercent => exact zeroWeights_boost_iff h hgroup boostPercent
  | traffic op hop =>
    refine iff_of_true ?_ id
    change ZeroWeights provider country (r.step op).pools
    rw [(samePool_step r op hop).pools]
    exact h

lemma outOfService_autoStep_iff (h : s.Settled provider country)
    (hout : s.OutOfService provider country) (a : Automatic) :
    (autoStep cfg debug s a).OutOfService provider country ↔ ¬a.Revives provider country := by
  rw [outOfService_iff (settled_autoStep h a)]
  cases a with
  | background b =>
    exact zeroWeights_background_iff hout.weights h.exists_mem h.provider_not_reserved b
  | finish =>
    refine iff_of_true ?_ id
    have hrouter : (autoStep cfg debug s .finish).router = s.router := by
      unfold autoStep Automatic.event step
      dsimp only
      split <;> rfl
    rw [hrouter]
    exact hout.weights

/-! ### Runs -/

/-- The call in progress is about to set the weight of the group to zero in the router. -/
def RemovalReady (provider country : String) (s : ControlPlane) : Prop :=
  ∃ plan, s.locked = some ⟨plan, .written⟩ ∧ plan.value = .adjustVendorWeight provider country 0

lemma settled_of_removalReady (h : s.Consistent) (hsticky : s.router.StickyInv)
    (hready : s.RemovalReady provider country)
    (hgroup : ∃ g ∈ s.registry.nodes.nodes, inVendorGroup provider country g = true) :
    (step cfg debug s .apply).Settled provider country ∧
      (step cfg debug s .apply).OutOfService provider country := by
  obtain ⟨plan, hlocked, hvalue⟩ := hready
  have hstep : step cfg debug s .apply =
      { s with
        registry := { s.registry with world := s.router.adjustVendorWeight provider country 0 }
        locked := some ⟨plan, .applied⟩ } := by
    unfold step
    rw [hlocked]
    dsimp only
    unfold applyPlan
    rw [hvalue]
    rfl
  have hsettled : (step cfg debug s .apply).Settled provider country := by
    refine ⟨consistent_step h .apply, router_invariant stickyInv_step h.orderly hsticky .apply, ?_⟩
    rw [hstep]
    change ∃ g ∈ plan.next.nodes, inVendorGroup provider country g = true
    have hplanned := h.orderly.planned _ hlocked
    dsimp only at hplanned
    obtain ⟨g, hg, hin⟩ := hgroup
    cases hplanned with
    | addNode node next hnormal hnext => cases hvalue
    | removeNode addr next hnext => cases hvalue
    | adjustVendorWeight provider' country' weight writes hweight hsame =>
      cases hvalue
      refine ⟨_, List.mem_map_of_mem hg, ?_⟩
      rw [if_pos hin]
      exact hin
  refine ⟨hsettled, (outOfService_iff hsettled).mpr ?_⟩
  rw [hstep]
  intro k hk hin
  obtain ⟨n, hn, rfl⟩ := List.mem_map.mp hk
  by_cases hn' : inVendorGroup provider country n = true
  · rw [if_pos hn']
  · rw [if_neg hn'] at hin
    exact absurd hin hn'

/-- From startup, through any interleaving of requests, calls and background writes, up to a call
that takes a group with a managed node out of service: the group is then out of service, and it is
so in every later state of a run without an operator if and only if no write of that run revives
it. -/
theorem removal_in_force_iff {m : ManagedNodes} (hm : m.AllNormal) (file : FileState)
    (testNodes : List ProxyNode) (events : List PlaneEvent) (provider country : String) :
    let s := run (step cfg debug) (boot m file testNodes) events
    s.RemovalReady provider country →
      (∃ g ∈ s.registry.nodes.nodes, inVendorGroup provider country g = true) →
        (step cfg debug s .apply).OutOfService provider country ∧
          ∀ later : List Automatic,
            Along (autoStep cfg debug) (fun t a => (autoStep cfg debug t a).OutOfService provider country)
                (step cfg debug s .apply) later ↔
              Along (autoStep cfg debug) (fun _ a => ¬a.Revives provider country)
                (step cfg debug s .apply) later := by
  intro s hready hgroup
  have hinv : s.Consistent ∧ s.router.StickyInv := by
    have hboot : (boot m file testNodes).router.StickyInv :=
      ⟨wellIndexed_new _, boundPositive_new _⟩
    exact run_invariant (J := fun t : ControlPlane => t.Consistent ∧ t.router.StickyInv)
      (fun t e ht => ⟨consistent_step ht.1 e, router_invariant stickyInv_step ht.1.orderly ht.2 e⟩)
      ⟨consistent_boot hm file testNodes, hboot⟩ events
  obtain ⟨hsettled, hout⟩ : (step cfg debug s .apply).Settled provider country ∧
      (step cfg debug s .apply).OutOfService provider country :=
    settled_of_removalReady hinv.1 hinv.2 hready hgroup
  refine ⟨hout, fun later => ?_⟩
  have hkeeps : ∀ (t : ControlPlane) (a : Automatic),
      t.Settled provider country ∧ t.OutOfService provider country →
        ((autoStep cfg debug t a).Settled provider country ∧
          (autoStep cfg debug t a).OutOfService provider country ↔ ¬a.Revives provider country) := by
    intro t a ht
    rw [outOfService_autoStep_iff ht.1 ht.2]
    exact and_iff_right (settled_autoStep ht.1 a)
  rw [← along_keeps_iff hkeeps ⟨hsettled, hout⟩ later]
  exact along_congr (J := Settled provider country) (fun t a ht => settled_autoStep ht a)
    (fun t a ht => (and_iff_right (settled_autoStep ht a)).symm) hsettled later

/-- The operator takes the first seed's group out of service. -/
def patchRun : List PlaneEvent :=
  [.weightRequest "127.0.0.1:8888" (.ok 0), .lock 0, .persist {}]

lemma patchRun_locked : (run (step memoryConfig id) (boot seedNodes .absent []) patchRun).locked =
    some ⟨⟨.adjustVendorWeight "mock-a" "US" 0, seedNodes.setWeight "mock-a" "US" 0, true⟩,
      .written⟩ := rfl

/-- A bad window confirms the removal. -/
theorem low_window_keeps_removal :
    Along (autoStep memoryConfig id) (fun t a =>
        (autoStep memoryConfig id t a).OutOfService "mock-a" "US")
      (step memoryConfig id (run (step memoryConfig id) (boot seedNodes .absent []) patchRun) .apply)
      [.finish, .background (.paidResult ⟨"mock-a", "US", .ok (.finite 70)⟩)] := by
  have hruns := removal_in_force_iff seedNodes_normal .absent [] patchRun "mock-a" "US"
    ⟨_, patchRun_locked, rfl⟩ ⟨_, List.mem_cons_self, rfl⟩
  refine (hruns.2 _).mpr ⟨id, ?_, trivial⟩
  rintro ⟨-, raw, weight, hraw, hact, hne⟩
  cases hraw
  have hcut : arbitrageAction (normalizeSlaRate (.finite 70)) = some 0 := by decide +kernel
  rw [hcut, Option.some.injEq] at hact
  exact hne hact.symm

/-- An audit of the group that finds no traffic in its window. -/
def emptyWindow : Automatic := .background (.paidResult ⟨"mock-a", "US", .ok .nan⟩)

/-- The audit takes the empty window for full health, and the next selection returns the node. -/
theorem empty_window_revives :
    let s := run (step memoryConfig id) (boot seedNodes .absent []) patchRun
    s.RemovalReady "mock-a" "US" ∧
      (∃ g ∈ s.registry.nodes.nodes, inVendorGroup "mock-a" "US" g = true) ∧
      ¬Along (autoStep memoryConfig id) (fun t a =>
          (autoStep memoryConfig id t a).OutOfService "mock-a" "US")
        (step memoryConfig id s .apply) [.finish, emptyWindow] ∧
      ((run (autoStep memoryConfig id) (step memoryConfig id s .apply)
        [.finish, emptyWindow]).router.selectNodeExcluding {} [] 0 0).1.map ProxyNode.addr =
          some "127.0.0.1:8888" := by
  intro s
  have hserves : ((run (autoStep memoryConfig id) (step memoryConfig id s .apply)
      [.finish, emptyWindow]).router.pools.map (fun n => (n.provider, n.country, n.weight))).head? =
        some ("mock-a", "US", 100) := by decide +kernel
  refine ⟨⟨_, patchRun_locked, rfl⟩, ⟨_, List.mem_cons_self, rfl⟩, ?_, by decide +kernel⟩
  rintro ⟨-, hout, -⟩
  obtain ⟨n, hn, hfields⟩ := List.mem_map.mp (List.mem_of_mem_head? hserves)
  rw [Prod.mk.injEq, Prod.mk.injEq] at hfields
  obtain ⟨hprovider, hcountry, hweight⟩ := hfields
  have hzero := hout.weights n hn (by simp [inVendorGroup, hprovider, hcountry])
  omega

end ControlPlane

end IPProxyPool
