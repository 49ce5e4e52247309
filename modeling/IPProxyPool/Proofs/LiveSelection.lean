import IPProxyPool.Model.LiveSelection

/-!
# Selections that outlive a change

A selection carries a decision from one pass to the next: the weighted path the total weight its
roll is drawn below, the stateless path the tier it is forced to. A node that is available in every
pass is no guarantee; the selection succeeds exactly when the decision still fits the last pass.
-/

namespace IPProxyPool
open RustText AssocTable

/-- The first pass finds a candidate, and the roll drawn below its total weight lies below the total
weight of the second pass. -/
def RollFits (first second : List ProxyNode) (draw : Nat) : Prop :=
  first ≠ [] ∧
    genRange draw (first.map ProxyNode.weight).sum < (second.map ProxyNode.weight).sum

/-- The tier that is forced, if any, still has a candidate in the scoring pass. -/
def TierFits (forced : Option String) (candidates : List ProxyNode) : Prop :=
  ∀ ft ∈ forced, ∃ n ∈ candidates, n.tier = ft

lemma pickByRoll_isSome_iff (l : List ProxyNode) (roll : Nat) :
    (pickByRoll l roll).isSome ↔ roll < (l.map ProxyNode.weight).sum := by
  refine ⟨fun h => ?_, pickByRoll_isSome l roll⟩
  induction l generalizing roll with
  | nil => cases h
  | cons n ns ih =>
    rw [List.map_cons, List.sum_cons]
    unfold pickByRoll at h
    by_cases hlt : roll < n.weight
    · omega
    · rw [if_neg hlt] at h
      have hrest := ih _ h
      omega

lemma sum_weight_pos {l : List ProxyNode} (hpos : ∀ n ∈ l, 0 < n.weight) (hne : l ≠ []) :
    0 < (l.map ProxyNode.weight).sum := by
  obtain ⟨n, ns, rfl⟩ := List.exists_cons_of_ne_nil hne
  rw [List.map_cons, List.sum_cons]
  exact Nat.add_pos_left (hpos n List.mem_cons_self) _

lemma pickWeightedStreaming_isSome_iff_rollFits {makeIter : Nat → List ProxyNode}
    (hpos : ∀ n ∈ makeIter 0, 0 < n.weight) (draw : Nat) :
    (pickWeightedStreaming makeIter draw).isSome ↔ RollFits (makeIter 0) (makeIter 1) draw := by
  unfold pickWeightedStreaming RollFits
  dsimp only
  by_cases hnil : makeIter 0 = []
  · simp [hnil]
  · have htotal := sum_weight_pos hpos hnil
    rw [if_neg (by simpa using hnil), if_neg (by omega), pickByRoll_isSome_iff]
    exact (and_iff_right hnil).symm

namespace RouterEngine

variable {view : Nat → RouterEngine} {spec : RoutingSpec} {excluded : List String} {now : Instant}
  {draw : Nat}

lemma selectFreshOver_isSome_iff :
    (selectFreshOver view spec excluded now draw).isSome ↔
      RollFits ((view 0).livePass (view 0) spec excluded now)
        ((view 0).livePass (view 1) spec excluded now) draw :=
  pickWeightedStreaming_isSome_iff_rollFits
    (fun n hn => ((matchesNode_iff _ n spec now).mp (matchesNode_of_mem_livePass hn)).weight_pos) draw

lemma selectNodeExcludingOver_isSome_iff :
    (selectNodeExcludingOver view spec excluded now draw).isSome ↔
      ((view 0).stickyNode (canonicalSpec spec) excluded now).isSome ∨
        RollFits ((view 1).livePass (view 1) (canonicalSpec spec) excluded now)
          ((view 1).livePass (view 2) (canonicalSpec spec) excluded now) draw := by
  unfold selectNodeExcludingOver
  rcases (view 0).stickyNode (canonicalSpec spec) excluded now with _ | node
  · have hfresh : (selectFreshOver (fun i => view (i + 1)) (canonicalSpec spec) excluded now
        draw).isSome ↔ _ := selectFreshOver_isSome_iff
    simpa using hfresh
  · simp

end RouterEngine

lemma quotaFilter_ne_nil_iff {candidates : List ProxyNode} (hne : candidates ≠ [])
    (forced : Option String) : quotaFilter forced candidates ≠ [] ↔ TierFits forced candidates := by
  rcases forced with _ | ft
  · simp [quotaFilter, TierFits, hne]
  · simp [quotaFilter, TierFits, List.filter_eq_nil_iff]

/-- A node that is in the pool, not excluded and matching in every pass of a selection. -/
def AlwaysAvailable (view : Nat → RouterEngine) (spec : RoutingSpec) (excluded : List String)
    (now : Instant) (n : ProxyNode) : Prop :=
  ∀ i, n ∈ (view i).scan spec excluded now

/-- For every sequence of router states that the passes see and every node that is available in all
of them, the weighted path selects a node if and only if the sticky lookup does or the roll fits the
second pass, and the stateless path if and only if the forced tier fits the scoring pass. -/
theorem live_selection_iff (view : Nat → RouterEngine) (excluded : List String) (now : Instant) :
    (∀ spec draw n, AlwaysAvailable view (canonicalSpec spec) excluded now n →
      ((RouterEngine.selectNodeExcludingOver view spec excluded now draw).isSome ↔
        ((view 0).stickyNode (canonicalSpec spec) excluded now).isSome ∨
          RollFits ((view 1).livePass (view 1) (canonicalSpec spec) excluded now)
            ((view 1).livePass (view 2) (canonicalSpec spec) excluded now) draw)) ∧
      ∀ (g : SmartProxyGateway) ucb (scoring : RouterEngine) spec context n,
        AlwaysAvailable view spec excluded now n → n ∈ scoring.scan spec excluded now →
        ((g.selectBanditLive ucb view scoring spec excluded context now).isSome ↔
          TierFits (g.forcedTierLive view spec excluded now) (scoring.scan spec excluded now)) := by
  constructor
  · intro spec draw n _
    exact RouterEngine.selectNodeExcludingOver_isSome_iff
  · intro g ucb scoring spec context n _ hscoring
    unfold SmartProxyGateway.selectBanditLive SmartProxyGateway.selectBanditOver
    simp only [Option.isSome_map, scorePass_isSome_iff]
    exact quotaFilter_ne_nil_iff (List.ne_nil_of_mem hscoring) _

/-- A light node beside a heavy one. -/
def unevenRouter : RouterEngine :=
  .new [.new "10.0.0.1" 8080 none none "US" "datacenter" "p" 1,
    .new "10.0.0.2" 8080 none none "US" "datacenter" "p" 99]

/-- The heavy node is quarantined between the two passes. -/
def unevenView (i : Nat) : RouterEngine :=
  if i ≤ 1 then unevenRouter else unevenRouter.setQuarantine "a.com" "10.0.0.2" 60 0

lemma lightNode_available :
    AlwaysAvailable unevenView (canonicalSpec { targetDomain := "a.com" }) [] 0
      (.new "10.0.0.1" 8080 none none "US" "datacenter" "p" 1) := by
  intro i
  unfold unevenView
  split
  · decide
  · decide

def cheapNode : ProxyNode := .new "10.0.0.1" 8080 none none "US" "datacenter" "p" 1

/-- Two nodes of one tier and a node of a rarer one. -/
def tieredRouter : RouterEngine :=
  .new [.new "10.0.0.3" 8080 none none "US" "isp" "p" 1, cheapNode,
    .new "10.0.0.2" 8080 none none "US" "datacenter" "p" 1]

/-- The node of the rare tier is quarantined before the scoring pass. -/
def scoringRouter : RouterEngine := tieredRouter.setQuarantine "a.com" "10.0.0.3" 60 0

def tieredGateway : SmartProxyGateway := ⟨tieredRouter, ∅, .empty, 0⟩

lemma cheapNode_available :
    AlwaysAvailable (fun _ => tieredRouter) { targetDomain := "a.com" } [] 0 cheapNode := by
  have hscan : cheapNode ∈ tieredRouter.scan { targetDomain := "a.com" } [] 0 := by decide
  exact fun _ => hscan

/-- On the weighted path the first pass weighs both nodes and the second one the light node alone;
on the stateless path the tier that is forced has no candidate left. -/
theorem live_selection_uneven :
    ((RouterEngine.selectNodeExcludingOver unevenView { targetDomain := "a.com" } [] 0 50).isSome ↔
      ((unevenView 0).stickyNode (canonicalSpec { targetDomain := "a.com" }) [] 0).isSome ∨
        RollFits
          ((unevenView 1).livePass (unevenView 1) (canonicalSpec { targetDomain := "a.com" }) [] 0)
          ((unevenView 1).livePass (unevenView 2) (canonicalSpec { targetDomain := "a.com" }) [] 0)
          50) ∧
      ((tieredGateway.selectBanditLive (fun _ _ _ => 0) (fun _ => tieredRouter) scoringRouter
        { targetDomain := "a.com" } [] 0 0).isSome ↔
          TierFits (tieredGateway.forcedTierLive (fun _ => tieredRouter)
            { targetDomain := "a.com" } [] 0)
              (scoringRouter.scan { targetDomain := "a.com" } [] 0)) :=
  ⟨(live_selection_iff unevenView [] 0).1 _ 50 _ lightNode_available,
    (live_selection_iff (fun _ => tieredRouter) [] 0).2 tieredGateway _ scoringRouter
      { targetDomain := "a.com" } 0 cheapNode cheapNode_available (by decide)⟩

/-- The light node is available throughout, and the request is turned away. -/
theorem available_node_not_selected :
    ¬∀ (view : Nat → RouterEngine) (spec : RoutingSpec) (excluded : List String) (now : Instant)
      (draw : Nat) (n : ProxyNode), AlwaysAvailable view (canonicalSpec spec) excluded now n →
      (RouterEngine.selectNodeExcludingOver view spec excluded now draw).isSome := by
  intro h
  have hpicked := h unevenView { targetDomain := "a.com" } [] 0 50 _ lightNode_available
  revert hpicked
  decide

end IPProxyPool
