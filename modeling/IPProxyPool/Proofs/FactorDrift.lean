import IPProxyPool.Proofs.MergeRace

/-!
# Live weights and stored factors

A merge computes the weight of a free node from its health weight and the stored factor. A call of
`scale_vendor_weights` between two merges multiplies the live weight instead, on which an earlier
factor may have acted already.
-/

namespace IPProxyPool
open RustText AssocTable Transition BinaryFloat

/-- The router together with the snapshot of the last merge. -/
structure AuditState where
  router : RouterEngine
  snap : RegistrySnapshot

inductive AuditEvent where
  | scaleVendorWeights (vendor country : String) (factor : ℚ)
  | mergeOnce (snap : RegistrySnapshot)

def auditStep (s : AuditState) : AuditEvent → AuditState
  | .scaleVendorWeights vendor country factor =>
    { s with router := s.router.scaleVendorWeights vendor country factor }
  | .mergeOnce snap => ⟨s.router.mergeOnce snap, snap⟩

def isFreeNode (n : ProxyNode) : Bool := startsWith n.provider "free-"

/-- The free nodes of the pool are those the merge would write from the last snapshot under the
factors now stored. -/
def LiveWeightsCurrent (s : AuditState) : Prop :=
  s.router.pools.filter isFreeNode =
    s.snap.nodes.map (fun n =>
      RouterEngine.applyFactor (s.router.freeFactor n.provider n.country) n)

instance (s : AuditState) : Decidable (LiveWeightsCurrent s) :=
  inferInstanceAs (Decidable (_ = _))

/-- The live weight and the health weight, each times the factor in doubles, pass the same rounding
thresholds above one; a factor that removes the node needs nothing. -/
def ScalesAlike (live health : Nat) (factor : ℚ) : Prop :=
  factor ≤ 0 ∨ ∀ k : Nat, 1 ≤ k → k < 4294967295 →
    ((k : ℚ) + 1 / 2 ≤ round64 (live * factor) ↔ (k : ℚ) + 1 / 2 ≤ round64 (health * factor))

/-- A merge, or a call on a pair all of whose nodes scale alike; the stored factor has already acted
on their live weights. -/
def AuditEvent.KeepsCurrent (s : AuditState) : AuditEvent → Prop
  | .scaleVendorWeights vendor country factor =>
    ∀ n ∈ s.snap.nodes, RouterEngine.inVendorGroup vendor country n = true →
      ScalesAlike (scaledWeight n.weight (s.router.freeFactor vendor country)) n.weight factor
  | .mergeOnce _ => True

lemma scalesAlike_iff (live health : Nat) (factor : ℚ) :
    ScalesAlike live health factor ↔ scaledWeight live factor = scaledWeight health factor := by
  unfold ScalesAlike
  by_cases hf : factor ≤ 0
  · simp [hf, scaledWeight_zero]
  · have hexpand : ∀ w : Nat, scaledWeight w factor = max (roundU32 (round64 (w * factor))) 1 :=
      fun w => if_neg hf
    rw [hexpand, hexpand, or_iff_right hf]
    constructor
    · intro h
      refine eq_of_forall_lt_iff (fun k => ?_)
      rw [lt_max_iff, lt_max_iff, lt_roundU32_iff, lt_roundU32_iff]
      rcases Nat.lt_or_ge k 1 with hk | hk
      · exact iff_of_true (Or.inr hk) (Or.inr hk)
      · rw [or_iff_left (by omega), or_iff_left (by omega)]
        exact and_congr_left (fun hcap => h k hk hcap)
    · intro h k hk hcap
      have hlt : k < max (roundU32 (round64 (live * factor))) 1 ↔
          k < max (roundU32 (round64 (health * factor))) 1 := by
        rw [h]
      rw [lt_max_iff, lt_max_iff, or_iff_left (by omega), or_iff_left (by omega),
        lt_roundU32_iff, lt_roundU32_iff, and_iff_left hcap, and_iff_left hcap] at hlt
      exact hlt

lemma freeFactor_scaleVendorWeights (r : RouterEngine) (vendor country : String) (factor : ℚ)
    (n : ProxyNode) :
    (r.scaleVendorWeights vendor country factor).freeFactor n.provider n.country =
      if RouterEngine.inVendorGroup vendor country n then factor
      else r.freeFactor n.provider n.country := by
  have hkey : RouterEngine.inVendorGroup vendor country n = true ↔
      scaleKey n.provider n.country = scaleKey vendor country := inVendorGroup_iff vendor country n
  unfold RouterEngine.freeFactor
  rw [freeScale_scaleVendorWeights]
  by_cases hgroup : RouterEngine.inVendorGroup vendor country n = true
  · rw [if_pos (hkey.mp hgroup), if_pos hgroup]
    by_cases hf : factor = 1
    · rw [if_pos hf, hf]
      rfl
    · rw [if_neg hf]
      rfl
  · rw [if_neg (fun h => hgroup (hkey.mpr h)), if_neg hgroup]

lemma freeFactor_of_group {r : RouterEngine} {vendor country : String} {n : ProxyNode}
    (h : RouterEngine.inVendorGroup vendor country n = true) :
    r.freeFactor n.provider n.country = r.freeFactor vendor country := by
  have hkey : scaleKey n.provider n.country = scaleKey vendor country :=
    (inVendorGroup_iff vendor country n).mp h
  unfold RouterEngine.freeFactor
  rw [hkey]

/-- Pruning keeps the factor of every pair in the pool. -/
lemma freeFactor_replaceVendorNodes {r : RouterEngine} {pre : String} {nodes : List ProxyNode}
    {n : ProxyNode} (h : n ∈ nodes) :
    (r.replaceVendorNodes pre nodes).freeFactor n.provider n.country =
      r.freeFactor n.provider n.country := by
  have hlive : scaleKey n.provider n.country ∈
      (r.pools.filter (fun m => !startsWith m.provider pre) ++ nodes).map
        (fun m => scaleKey m.provider m.country) :=
    List.mem_map.mpr ⟨n, List.mem_append_right _ h, rfl⟩
  have hlookup : (r.replaceVendorNodes pre nodes).freeScale.lookup (scaleKey n.provider n.country) =
      r.freeScale.lookup (scaleKey n.provider n.country) := by
    refine (lookup_retain _ _ _).trans ?_
    change (r.freeScale.lookup (scaleKey n.provider n.country)).filter _ = _
    cases r.freeScale.lookup (scaleKey n.provider n.country) with
    | none => rfl
    | some f => exact Option.filter_eq_some_iff.mpr ⟨rfl, decide_eq_true hlive⟩
  unfold RouterEngine.freeFactor
  rw [hlookup]

/-- A merge makes the live weights current. -/
lemma liveWeightsCurrent_mergeOnce (r : RouterEngine) (snap : RegistrySnapshot) :
    LiveWeightsCurrent ⟨r.mergeOnce snap, snap⟩ := by
  have hfactor : ∀ n ∈ snap.nodes, (r.mergeOnce snap).freeFactor n.provider n.country =
      r.freeFactor n.provider n.country := by
    intro n hn
    exact freeFactor_replaceVendorNodes (n := RouterEngine.applyFactor
      (r.freeFactor n.provider n.country) n) (List.mem_map.mpr ⟨n, hn, rfl⟩)
  have hold : (r.pools.filter (fun m => !startsWith m.provider "free-")).filter isFreeNode = [] := by
    rw [List.filter_eq_nil_iff]
    intro n hn hfree
    have hkept := (List.mem_filter.mp hn).2
    unfold isFreeNode at hfree
    rw [hfree] at hkept
    exact absurd hkept (by simp)
  have hnew : (snap.nodes.map (fun n => RouterEngine.applyFactor
      (r.freeFactor n.provider n.country) n)).filter isFreeNode =
      snap.nodes.map (fun n => RouterEngine.applyFactor (r.freeFactor n.provider n.country) n) := by
    rw [List.filter_eq_self]
    intro m hm
    obtain ⟨n, hn, rfl⟩ := List.mem_map.mp hm
    have hfree : startsWith n.provider "free-" = true := snap.provider_free hn
    exact hfree
  have hpools : (r.mergeOnce snap).pools =
      r.pools.filter (fun m => !startsWith m.provider "free-") ++
        snap.nodes.map (fun n => RouterEngine.applyFactor (r.freeFactor n.provider n.country) n) :=
    rfl
  unfold LiveWeightsCurrent
  dsimp only
  rw [hpools, List.filter_append, hold, hnew, List.nil_append]
  apply List.map_congr_left
  intro n hn
  rw [hfactor n hn]

/-- One call on current weights keeps them current exactly when its pair scales alike. -/
lemma liveWeightsCurrent_scale_iff {s : AuditState} (h : LiveWeightsCurrent s)
    (vendor country : String) (factor : ℚ) :
    LiveWeightsCurrent (auditStep s (.scaleVendorWeights vendor country factor)) ↔
      AuditEvent.KeepsCurrent s (.scaleVendorWeights vendor country factor) := by
  have hfree : ((s.router.scaleVendorWeights vendor country factor).pools.filter isFreeNode) =
      (s.router.pools.filter isFreeNode).map (fun n =>
        if RouterEngine.inVendorGroup vendor country n then
          { n with weight := scaledWeight n.weight factor } else n) := by
    change (s.router.pools.map _).filter isFreeNode = _
    rw [List.filter_map]
    congr 1
    apply List.filter_congr
    intro n _
    dsimp only [Function.comp_apply]
    split <;> rfl
  unfold LiveWeightsCurrent at h ⊢
  dsimp only [auditStep]
  rw [hfree, h, List.map_map, List.map_inj_left]
  apply forall₂_congr
  intro n hn
  obtain ⟨h1, h20⟩ := s.snap.weight_range hn
  dsimp only [Function.comp_apply]
  rw [freeFactor_scaleVendorWeights]
  have hgroup : RouterEngine.inVendorGroup vendor country
      (RouterEngine.applyFactor (s.router.freeFactor n.provider n.country) n) =
      RouterEngine.inVendorGroup vendor country n := rfl
  rw [hgroup]
  by_cases hin : RouterEngine.inVendorGroup vendor country n = true
  · rw [if_pos hin, if_pos hin, freeFactor_of_group hin, scalesAlike_iff]
    unfold RouterEngine.applyFactor
    dsimp only
    rw [mergedWeight_eq_scaledWeight h1 h20, mergedWeight_eq_scaledWeight h1 h20]
    simp [hin]
  · rw [if_neg hin, if_neg hin]
    simp [hin]

/-- After a merge, through any further merges and scaling calls, the live weights of the free nodes
are what a merge would write under the stored factors, in every state, if and only if every call
meets pairs that scale alike. -/
theorem live_weights_current_iff (r : RouterEngine) (snap : RegistrySnapshot)
    (events : List AuditEvent) :
    Along auditStep (fun s e => LiveWeightsCurrent (auditStep s e)) ⟨r.mergeOnce snap, snap⟩ events ↔
      Along auditStep AuditEvent.KeepsCurrent ⟨r.mergeOnce snap, snap⟩ events := by
  have hstep : ∀ s e, LiveWeightsCurrent s →
      (LiveWeightsCurrent (auditStep s e) ↔ AuditEvent.KeepsCurrent s e) := by
    intro s e hs
    cases e with
    | scaleVendorWeights vendor country factor =>
      exact liveWeightsCurrent_scale_iff hs vendor country factor
    | mergeOnce snap' =>
      exact iff_of_true (liveWeightsCurrent_mergeOnce s.router snap') trivial
  exact along_keeps_iff hstep (liveWeightsCurrent_mergeOnce r snap) events

/-- A node of health weight four, scaled by one half. -/
def halvedState : AuditState :=
  auditStep ⟨(RouterEngine.new []).mergeOnce raceSnapshot, raceSnapshot⟩
    (.scaleVendorWeights "free-a" "ZZ" (1 / 2))

/-- The same verdict, given again before the next merge, halves the weight once more: the node is
left with one, where a merge would write two. -/
theorem repeated_verdict_drifts :
    LiveWeightsCurrent halvedState ∧
      ¬LiveWeightsCurrent (auditStep halvedState (.scaleVendorWeights "free-a" "ZZ" (1 / 2))) := by
  decide +kernel

end IPProxyPool
