import IPProxyPool.Model.MergeSteps

/-!
# Verdicts and concurrent merges

A merge applies the factors it read, not those in the table when it replaces the free group. A
verdict of the audit is in force after the merge when the factor of its pair was read as stored
or the pair is scaled once more.
-/

namespace IPProxyPool
open RustText AssocTable Transition BinaryFloat

def ProxyNode.factorKey (n : ProxyNode) : String × String := scaleKey n.provider n.country

/-- Every free node whose pair has a stored factor carries the weight the factor prescribes: zero
and out of selection for a factor that is not positive, at least one otherwise, computed with that
very factor. -/
def VerdictsInForce (s : MergeState) : Prop :=
  ∀ n ∈ s.router.pools, startsWith n.provider "free-" = true →
    ∀ f, s.router.freeScale.lookup n.factorKey = some f →
      (f ≤ 0 → n.weight = 0 ∧ ∀ spec now, s.router.matchesNode n spec now = false) ∧
        (0 < f → 1 ≤ n.weight) ∧
        ∃ weighed, s.phase = .merged weighed ∧
          ∃ x ∈ weighed, x.node = n ∧ x.factor = f ∧ n.weight = scaledWeight x.base f

/-- When the free group is replaced, the factor stored for the pair of a merged node, if any, is
the one the merge read, or a later call scales the pair again. -/
def FactorsCurrent (snap : RegistrySnapshot) : MergeState → List MergeEvent → Prop
  | _, [] => True
  | s, e :: es =>
    (e = .replaceVendorNodes → ∀ read, s.phase = .reading read [] → ∀ p ∈ read,
      ∀ f, s.router.freeScale.lookup p.1.factorKey = some f →
        f = p.2 ∨ ∃ vendor country factor,
          .scaleVendorWeights vendor country factor ∈ es ∧ scaleKey vendor country = p.1.factorKey) ∧
      FactorsCurrent snap (mergeStep snap s e) es

/-! ### Weights -/

/-- A factor next to one moves a small weight by less than the rounding takes back. -/
lemma scaledWeight_near_one {w : Nat} (h1 : 1 ≤ w) (h20 : w ≤ freePoolWeightTrustedMax) {f : ℚ}
    (hf : |f - 1| ≤ RouterEngine.epsilon) : scaledWeight w f = w := by
  have hmax : freePoolWeightTrustedMax = 20 := rfl
  have heps : RouterEngine.epsilon = 1 / 4503599627370496 := rfl
  rw [hmax] at h20
  rw [heps, abs_le] at hf
  have hw1 : (1 : ℚ) ≤ w := by exact_mod_cast h1
  have hw20 : (w : ℚ) ≤ 20 := by exact_mod_cast h20
  have hlow : (w : ℚ) - 1 / 4 ≤ w * f := by nlinarith [hf.1]
  have hhigh : (w : ℚ) * f ≤ w + 1 / 8 := by nlinarith [hf.2]
  have hround := abs_round64_sub_le (x := (w : ℚ) * f) (by linarith)
  rw [abs_le] at hround
  have hfloor : ⌊round64 ((w : ℚ) * f) + 1 / 2⌋ = (w : ℤ) := by
    rw [Int.floor_eq_iff, Int.cast_natCast]
    constructor
    · linarith [hround.1]
    · linarith [hround.2]
  have hpos : ¬f ≤ 0 := by linarith [hf.1]
  unfold scaledWeight roundU32
  rw [if_neg hpos, hfloor, Int.toNat_natCast]
  omega

lemma mergedWeight_eq_scaledWeight {w : Nat} (h1 : 1 ≤ w) (h20 : w ≤ freePoolWeightTrustedMax)
    (f : ℚ) : RouterEngine.mergedWeight w f = scaledWeight w f := by
  unfold RouterEngine.mergedWeight
  by_cases hf : RouterEngine.epsilon < |f - 1|
  · rw [if_pos hf]
  · rw [if_neg hf, scaledWeight_near_one h1 h20 (not_lt.mp hf)]

lemma scaledWeight_zero (w : Nat) {f : ℚ} (hf : f ≤ 0) : scaledWeight w f = 0 := by
  unfold scaledWeight
  rw [if_pos hf]

lemma one_le_scaledWeight (w : Nat) {f : ℚ} (hf : 0 < f) : 1 ≤ scaledWeight w f := by
  unfold scaledWeight
  rw [if_neg (not_le.mpr hf)]
  exact le_max_right _ _

lemma matchesNode_of_weight_zero (r : RouterEngine) {n : ProxyNode} (h : n.weight = 0)
    (spec : RoutingSpec) (now : Instant) : r.matchesNode n spec now = false := by
  unfold RouterEngine.matchesNode
  simp [h]

lemma inVendorGroup_iff (vendor country : String) (n : ProxyNode) :
    RouterEngine.inVendorGroup vendor country n = true ↔ n.factorKey = scaleKey vendor country := by
  simp [RouterEngine.inVendorGroup, ProxyNode.factorKey, scaleKey, eqIgnoreAsciiCase_iff]

@[simp] lemma factorKey_scale (vendor country : String) (factor : ℚ) (x : WeighedNode) :
    (x.scale vendor country factor).node.factorKey = x.node.factorKey := by
  unfold WeighedNode.scale
  split <;> rfl

/-! ### What the steps keep -/

/-- The history variable covers the free nodes of the pool and accounts for their weights. -/
def MergeInv (snap : RegistrySnapshot) (s : MergeState) : Prop :=
  match s.phase with
  | .idle => True
  | .reading read rest => read.map Prod.fst ++ rest = snap.nodes
  | .merged weighed =>
    (∀ n ∈ s.router.pools, startsWith n.provider "free-" = true → ∃ x ∈ weighed, x.node = n) ∧
      ∀ x ∈ weighed, x.node.weight = scaledWeight x.base x.factor

lemma mergeInv_replace {snap : RegistrySnapshot} {r : RouterEngine} {read : List (ProxyNode × ℚ)}
    (h : read.map Prod.fst = snap.nodes) :
    MergeInv snap (mergeStep snap ⟨r, .reading read []⟩ .replaceVendorNodes) := by
  constructor
  · intro n hn hfree
    have hpool : n ∈ r.pools.filter (fun m => !startsWith m.provider "free-") ++
        read.map (fun p => (mergedNode p).node) := hn
    rcases List.mem_append.mp hpool with hold | hnew
    · have hkept := (List.mem_filter.mp hold).2
      rw [hfree] at hkept
      exact absurd hkept (by simp)
    · obtain ⟨p, hp, rfl⟩ := List.mem_map.mp hnew
      exact ⟨mergedNode p, List.mem_map_of_mem hp, rfl⟩
  · intro x hx
    obtain ⟨p, hp, rfl⟩ := List.mem_map.mp hx
    have hsnap : p.1 ∈ snap.nodes := h ▸ List.mem_map_of_mem hp
    obtain ⟨h1, h20⟩ := snap.weight_range hsnap
    exact mergedWeight_eq_scaledWeight h1 h20 p.2

lemma mergeInv_scale {snap : RegistrySnapshot} {s : MergeState} (h : MergeInv snap s)
    (vendor country : String) (factor : ℚ) :
    MergeInv snap (mergeStep snap s (.scaleVendorWeights vendor country factor)) := by
  obtain ⟨r, phase⟩ := s
  cases phase with
  | idle => trivial
  | reading read rest => exact h
  | merged weighed =>
    obtain ⟨hcover, hweights⟩ := h
    constructor
    · intro n hn hfree
      obtain ⟨m, hm, rfl⟩ := List.mem_map.mp hn
      have hprovider : startsWith m.provider "free-" = true := by
        split at hfree
        · exact hfree
        · exact hfree
      obtain ⟨x, hx, rfl⟩ := hcover m hm hprovider
      refine ⟨x.scale vendor country factor, List.mem_map_of_mem hx, ?_⟩
      unfold WeighedNode.scale
      split <;> rfl
    · intro y hy
      obtain ⟨x, hx, rfl⟩ := List.mem_map.mp hy
      unfold WeighedNode.scale
      split
      · rfl
      · exact hweights x hx

lemma mergeInv_step {snap : RegistrySnapshot} (s : MergeState) (e : MergeEvent)
    (h : MergeInv snap s) : MergeInv snap (mergeStep snap s e) := by
  obtain ⟨r, phase⟩ := s
  cases e with
  | takeSnapshot =>
    cases phase with
    | idle => exact List.nil_append _
    | reading read rest => exact h
    | merged weighed => exact h
  | readFactor =>
    cases phase with
    | idle => exact h
    | merged weighed => exact h
    | reading read rest =>
      cases rest with
      | nil => exact h
      | cons n rest =>
        have hread : read.map Prod.fst ++ n :: rest = snap.nodes := h
        have hnext : (read ++ [(n, r.freeFactor n.provider n.country)]).map Prod.fst ++ rest =
            snap.nodes := by
          rw [← hread]
          simp
        exact hnext
  | replaceVendorNodes =>
    cases phase with
    | idle => exact h
    | merged weighed => exact h
    | reading read rest =>
      cases rest with
      | cons n rest => exact h
      | nil =>
        have hread : read.map Prod.fst ++ [] = snap.nodes := h
        rw [List.append_nil] at hread
        exact mergeInv_replace hread
  | scaleVendorWeights vendor country factor => exact mergeInv_scale h vendor country factor

/-! ### One pair at a time -/

/-- The merged nodes of a pair were last weighed with the factor stored for it, if any. -/
def Agrees (key : String × String) (s : MergeState) : Prop :=
  ∀ weighed, s.phase = .merged weighed → ∀ x ∈ weighed, x.node.factorKey = key →
    ∀ f, s.router.freeScale.lookup key = some f → x.factor = f

lemma freeScale_scaleVendorWeights (r : RouterEngine) (vendor country : String) (factor : ℚ)
    (key : String × String) :
    (r.scaleVendorWeights vendor country factor).freeScale.lookup key =
      if key = scaleKey vendor country then (if factor = 1 then none else some factor)
      else r.freeScale.lookup key := by
  unfold RouterEngine.scaleVendorWeights
  dsimp only
  by_cases hf : factor = 1
  · rw [if_pos hf, if_pos hf, lookup_erase_eq]
  · rw [if_neg hf, if_neg hf, lookup_insert_eq]

lemma agrees_scale {snap : RegistrySnapshot} {s : MergeState} {key : String × String}
    {vendor country : String} {factor : ℚ} (h : key = scaleKey vendor country ∨ Agrees key s) :
    Agrees key (mergeStep snap s (.scaleVendorWeights vendor country factor)) := by
  obtain ⟨r, phase⟩ := s
  intro weighed' hphase x' hx' hkey f hf
  cases phase with
  | idle => cases hphase
  | reading read rest => cases hphase
  | merged weighed =>
    cases hphase
    obtain ⟨x, hx, rfl⟩ := List.mem_map.mp hx'
    rw [factorKey_scale] at hkey
    have hstored : (r.scaleVendorWeights vendor country factor).freeScale.lookup key = some f := hf
    rw [freeScale_scaleVendorWeights] at hstored
    unfold WeighedNode.scale
    by_cases hpair : key = scaleKey vendor country
    · have hgroup : RouterEngine.inVendorGroup vendor country x.node = true :=
        (inVendorGroup_iff vendor country x.node).mpr (hkey.trans hpair)
      rw [if_pos hpair] at hstored
      rw [if_pos hgroup]
      split at hstored
      · cases hstored
      · exact Option.some.inj hstored
    · have hgroup : ¬RouterEngine.inVendorGroup vendor country x.node = true := by
        rw [inVendorGroup_iff, hkey]
        exact hpair
      rw [if_neg hpair] at hstored
      rw [if_neg hgroup]
      rcases h with heq | hagree
      · exact absurd heq hpair
      · exact hagree weighed rfl x hx hkey f hstored

lemma agrees_of_not_merged {s : MergeState} {key : String × String}
    (h : ∀ weighed, s.phase ≠ .merged weighed) : Agrees key s :=
  fun weighed hphase => absurd hphase (h weighed)

/-- A replacement makes a pair agree when the factors read for it are the stored ones. -/
lemma agrees_replace {snap : RegistrySnapshot} {s : MergeState} {key : String × String}
    (h : Agrees key s)
    (hread : ∀ read, s.phase = .reading read [] → ∀ p ∈ read, p.1.factorKey = key →
      ∀ f, s.router.freeScale.lookup key = some f → f = p.2) :
    Agrees key (mergeStep snap s .replaceVendorNodes) := by
  obtain ⟨r, phase⟩ := s
  cases phase with
  | idle => exact h
  | merged weighed => exact h
  | reading read rest =>
    cases rest with
    | cons n rest => exact h
    | nil =>
      intro weighed hphase x hx hkey f hf
      cases hphase
      obtain ⟨p, hp, rfl⟩ := List.mem_map.mp hx
      -- pruning only drops factors
      have hstored : r.freeScale.lookup key = some f := by
        have hpruned : ((r.freeScale.lookup key).filter _) = some f :=
          (lookup_retain _ _ _).symm.trans hf
        exact (Option.filter_eq_some_iff.mp hpruned).1
      exact (hread read rfl p hp hkey f hstored).symm

lemma agrees_step_other {snap : RegistrySnapshot} {s : MergeState} {key : String × String}
    {e : MergeEvent} (he : e = .takeSnapshot ∨ e = .readFactor) (h : Agrees key s) :
    Agrees key (mergeStep snap s e) := by
  obtain ⟨r, phase⟩ := s
  rcases he with rfl | rfl
  · cases phase with
    | idle => exact agrees_of_not_merged (by simp [mergeStep])
    | reading read rest => exact h
    | merged weighed => exact h
  · cases phase with
    | idle => exact h
    | merged weighed => exact h
    | reading read rest =>
      cases rest with
      | nil => exact h
      | cons n rest => exact agrees_of_not_merged (by simp [mergeStep])

/-- Run lemma: a pair that agrees, or is scaled later, agrees at the end. -/
lemma agrees_run {snap : RegistrySnapshot} {key : String × String} (es : List MergeEvent)
    {s : MergeState} (hcurrent : FactorsCurrent snap s es)
    (h : Agrees key s ∨ ∃ vendor country factor,
      MergeEvent.scaleVendorWeights vendor country factor ∈ es ∧ scaleKey vendor country = key) :
    Agrees key (run (mergeStep snap) s es) := by
  induction es generalizing s with
  | nil =>
    rcases h with hagree | ⟨_, _, _, hmem, -⟩
    · exact hagree
    · cases hmem
  | cons e es ih =>
    obtain ⟨hreplace, hrest⟩ := hcurrent
    rw [run_cons]
    by_cases hlater : ∃ vendor country factor,
        MergeEvent.scaleVendorWeights vendor country factor ∈ es ∧ scaleKey vendor country = key
    · exact ih hrest (.inr hlater)
    · -- nothing later scales the pair: it agrees already, or this call scales it
      have hnow : Agrees key s ∨ ∃ vendor country factor,
          e = .scaleVendorWeights vendor country factor ∧ scaleKey vendor country = key := by
        rcases h with hagree | ⟨v, c, f, hmem, hkey⟩
        · exact .inl hagree
        · rcases List.mem_cons.mp hmem with heq | htail
          · exact .inr ⟨v, c, f, heq.symm, hkey⟩
          · exact absurd ⟨v, c, f, htail, hkey⟩ hlater
      refine ih hrest (.inl ?_)
      cases e with
      | takeSnapshot => exact agrees_step_other (.inl rfl) (hnow.resolve_right (by simp))
      | readFactor => exact agrees_step_other (.inr rfl) (hnow.resolve_right (by simp))
      | replaceVendorNodes =>
        refine agrees_replace (hnow.resolve_right (by simp)) (fun read hphase p hp hkey f hf => ?_)
        rcases hreplace rfl read hphase p hp f (hkey ▸ hf) with heq | ⟨v, c, g, hmem, hpair⟩
        · exact heq
        · exact absurd ⟨v, c, g, hmem, hpair.trans hkey⟩ hlater
      | scaleVendorWeights vendor country factor =>
        apply agrees_scale
        rcases hnow with hagree | ⟨v, c, f, heq, hkey⟩
        · exact .inr hagree
        · cases heq
          exact .inl hkey.symm

/-! ### An outdated factor -/

/-- A merged node of the pair was last weighed with another factor than the stored one. -/
def Stale (key : String × String) (f : ℚ) (s : MergeState) : Prop :=
  s.router.freeScale.lookup key = some f ∧ ∃ weighed, s.phase = .merged weighed ∧
    (weighed.map (fun x => x.node.addr)).Nodup ∧ ∃ x ∈ weighed, x.node ∈ s.router.pools ∧
      startsWith x.node.provider "free-" = true ∧ x.node.factorKey = key ∧ x.factor ≠ f

lemma not_verdicts_of_stale {s : MergeState} {key : String × String} {f : ℚ} (h : Stale key f s) :
    ¬VerdictsInForce s := by
  obtain ⟨hf, weighed, hphase, hnodup, x, hx, hpool, hfree, hkey, hne⟩ := h
  intro hall
  obtain ⟨-, -, weighed', hphase', y, hy, hnode, hfactor, -⟩ :=
    hall x.node hpool hfree f (hkey ▸ hf)
  have hweighed : weighed' = weighed := MergePhase.merged.inj (hphase'.symm.trans hphase)
  rw [hweighed] at hy
  have hsame : y = x := List.inj_on_of_nodup_map hnodup hy hx (congrArg ProxyNode.addr hnode)
  exact hne (hsame ▸ hfactor)

/-- A replacement with an outdated factor leaves the pair stale. -/
lemma stale_replace {snap : RegistrySnapshot} {r : RouterEngine} {read : List (ProxyNode × ℚ)}
    (h : read.map Prod.fst = snap.nodes) {p : ProxyNode × ℚ} (hp : p ∈ read) {f : ℚ}
    (hf : r.freeScale.lookup p.1.factorKey = some f) (hne : f ≠ p.2) :
    Stale p.1.factorKey f (mergeStep snap ⟨r, .reading read []⟩ .replaceVendorNodes) := by
  have hpool : (mergedNode p).node ∈ r.pools.filter (fun m => !startsWith m.provider "free-") ++
      read.map (fun q => (mergedNode q).node) :=
    List.mem_append_right _ (List.mem_map_of_mem hp)
  have hfree : startsWith (mergedNode p).node.provider "free-" = true :=
    snap.provider_free (n := p.1) (h ▸ List.mem_map_of_mem hp)
  refine ⟨?_, read.map mergedNode, rfl, ?_, mergedNode p, List.mem_map_of_mem hp, hpool, hfree,
    rfl, hne.symm⟩
  · -- the pair is in the pool, so its factor survives the pruning
    have hlive : p.1.factorKey ∈ (r.pools.filter (fun m => !startsWith m.provider "free-") ++
        read.map (fun q => (mergedNode q).node)).map (fun n => scaleKey n.provider n.country) :=
      List.mem_map.mpr ⟨(mergedNode p).node, hpool, rfl⟩
    refine (lookup_retain _ _ _).trans ?_
    exact Option.filter_eq_some_iff.mpr ⟨hf, decide_eq_true hlive⟩
  · have haddr : (read.map mergedNode).map (fun x => x.node.addr) =
        snap.nodes.map ProxyNode.addr := by
      rw [← h, List.map_map, List.map_map]
      rfl
    rw [haddr]
    exact snap.addr_nodup

/-- Only a scaling call on the pair ends its being stale. -/
lemma stale_step {snap : RegistrySnapshot} {s : MergeState} {key : String × String} {f : ℚ}
    {e : MergeEvent} (h : Stale key f s)
    (he : ∀ vendor country factor, e = .scaleVendorWeights vendor country factor →
      scaleKey vendor country ≠ key) : Stale key f (mergeStep snap s e) := by
  obtain ⟨r, phase⟩ := s
  obtain ⟨hf, weighed, rfl, hnodup, x, hx, hpool, hfree, hkey, hne⟩ := h
  cases e with
  | takeSnapshot => exact ⟨hf, weighed, rfl, hnodup, x, hx, hpool, hfree, hkey, hne⟩
  | readFactor => exact ⟨hf, weighed, rfl, hnodup, x, hx, hpool, hfree, hkey, hne⟩
  | replaceVendorNodes => exact ⟨hf, weighed, rfl, hnodup, x, hx, hpool, hfree, hkey, hne⟩
  | scaleVendorWeights vendor country factor =>
    have hother : key ≠ scaleKey vendor country := (he vendor country factor rfl).symm
    have hgroup : ¬RouterEngine.inVendorGroup vendor country x.node = true := by
      rw [inVendorGroup_iff, hkey]
      exact hother
    have hkept : x.scale vendor country factor = x := if_neg hgroup
    refine ⟨?_, weighed.map (WeighedNode.scale vendor country factor), rfl, ?_, x, ?_, ?_, hfree,
      hkey, hne⟩
    · exact (freeScale_scaleVendorWeights r vendor country factor key).trans
        ((if_neg hother).trans hf)
    · have haddr : (fun y : WeighedNode => (y.scale vendor country factor).node.addr) =
          fun y => y.node.addr := by
        funext y
        unfold WeighedNode.scale
        split <;> rfl
      rw [List.map_map, Function.comp_def, haddr]
      exact hnodup
    · exact hkept ▸ List.mem_map_of_mem hx
    · exact List.mem_map.mpr ⟨x.node, hpool, if_neg hgroup⟩

/-- A pair that is stale and never scaled again stays stale. -/
lemma stale_run {snap : RegistrySnapshot} {key : String × String} {f : ℚ} (es : List MergeEvent)
    {s : MergeState} (h : Stale key f s)
    (hes : ¬∃ vendor country factor,
      MergeEvent.scaleVendorWeights vendor country factor ∈ es ∧ scaleKey vendor country = key) :
    Stale key f (run (mergeStep snap) s es) := by
  induction es generalizing s with
  | nil => exact h
  | cons e es ih =>
    rw [run_cons]
    refine ih (stale_step h (fun v c g heq hkey => ?_)) (fun hlater => ?_)
    · exact hes ⟨v, c, g, heq ▸ List.mem_cons_self, hkey⟩
    · obtain ⟨v, c, g, hmem, hkey⟩ := hlater
      exact hes ⟨v, c, g, List.mem_cons_of_mem _ hmem, hkey⟩

lemma factorsCurrent_of_verdicts {snap : RegistrySnapshot} (es : List MergeEvent) {s : MergeState}
    (hinv : MergeInv snap s) (h : VerdictsInForce (run (mergeStep snap) s es)) :
    FactorsCurrent snap s es := by
  induction es generalizing s with
  | nil => trivial
  | cons e es ih =>
    refine ⟨?_, ih (mergeInv_step s e hinv) h⟩
    rintro rfl read hphase p hp f hf
    by_contra hnot
    push Not at hnot
    obtain ⟨hne, hlater⟩ := hnot
    obtain ⟨r, phase⟩ := s
    cases hphase
    have hread : read.map Prod.fst ++ [] = snap.nodes := hinv
    rw [List.append_nil] at hread
    refine not_verdicts_of_stale (stale_run es (stale_replace hread hp hf hne) ?_) h
    rintro ⟨v, c, g, hmem, hkey⟩
    exact hlater v c g hmem hkey

/-- Verdicts are in force after a complete schedule whose factors are current. -/
lemma verdicts_of_factorsCurrent {snap : RegistrySnapshot} {s : MergeState} (es : List MergeEvent)
    (hinv : MergeInv snap s) (hstart : ∀ weighed, s.phase ≠ .merged weighed)
    (hdone : ∃ weighed, (run (mergeStep snap) s es).phase = .merged weighed)
    (hcurrent : FactorsCurrent snap s es) : VerdictsInForce (run (mergeStep snap) s es) := by
  have hend := run_invariant mergeInv_step hinv es
  obtain ⟨weighed, hphase⟩ := hdone
  rw [MergeInv, hphase] at hend
  intro n hn hfree f hf
  obtain ⟨x, hx, rfl⟩ := hend.1 n hn hfree
  have hagree : Agrees x.node.factorKey (run (mergeStep snap) s es) :=
    agrees_run es hcurrent (.inl (agrees_of_not_merged hstart))
  have hfactor : x.factor = f := hagree weighed hphase x hx rfl f hf
  have hweight : x.node.weight = scaledWeight x.base f := hfactor ▸ hend.2 x hx
  refine ⟨fun hle => ?_, fun hpos => ?_, weighed, hphase, x, hx, rfl, hfactor, hweight⟩
  · have hzero : x.node.weight = 0 := hweight.trans (scaledWeight_zero x.base hle)
    exact ⟨hzero, fun spec now => matchesNode_of_weight_zero _ hzero spec now⟩
  · rw [hweight]
    exact one_le_scaledWeight x.base hpos

/-- For every interleaving of one merge with any scaling calls in which the merge completes, all
verdicts are in force at the end if and only if the factors the merge read are current when it
replaces the free group, or superseded by a later call. -/
theorem verdicts_in_force_iff (r : RouterEngine) (snap : RegistrySnapshot) (es : List MergeEvent)
    (hdone : ∃ weighed, (run (mergeStep snap) ⟨r, .idle⟩ es).phase = .merged weighed) :
    VerdictsInForce (run (mergeStep snap) ⟨r, .idle⟩ es) ↔ FactorsCurrent snap ⟨r, .idle⟩ es := by
  have hidle : MergeInv snap ⟨r, .idle⟩ := trivial
  constructor
  · exact factorsCurrent_of_verdicts es hidle
  · exact verdicts_of_factorsCurrent es hidle (by simp) hdone

/-! ### A verdict that the merge overwrites -/

def raceRegistry : Registry :=
  ((Registry.withCapacity (fromSecs 3600) 2000).upsertFull
    ⟨"203.0.113.9", 8080, .http, none, "a"⟩ 500 .anonymous none 0 0).2

def raceSnapshot : RegistrySnapshot :=
  ⟨raceRegistry, 0, false, raceRegistry.snapshot 0 false, List.Perm.refl _⟩

/-- The pair is removed after its factor was read and before the group is replaced. -/
def lostVerdict : List MergeEvent :=
  [.takeSnapshot, .readFactor, .scaleVendorWeights "free-a" "ZZ" 0, .replaceVendorNodes]

/-- The removed node is back in the pool with its full weight. -/
theorem merge_overwrites_verdict :
    ¬VerdictsInForce (run (mergeStep raceSnapshot) ⟨.new raceSnapshot.nodes, .idle⟩ lostVerdict) := by
  intro h
  have hstored : ∀ n ∈ (run (mergeStep raceSnapshot) ⟨.new raceSnapshot.nodes, .idle⟩
      lostVerdict).router.pools, startsWith n.provider "free-" = true ∧
        (run (mergeStep raceSnapshot) ⟨.new raceSnapshot.nodes, .idle⟩
          lostVerdict).router.freeScale.lookup n.factorKey = some 0 := by decide
  have hzero : ∀ n ∈ (run (mergeStep raceSnapshot) ⟨.new raceSnapshot.nodes, .idle⟩
      lostVerdict).router.pools, n.weight = 0 := by
    intro n hn
    obtain ⟨hfree, hf⟩ := hstored n hn
    exact ((h n hn hfree 0 hf).1 le_rfl).1
  revert hzero
  decide +kernel

/-- The same call before the merge is honoured. -/
theorem verdicts_in_force_before_merge :
    VerdictsInForce (run (mergeStep raceSnapshot) ⟨.new raceSnapshot.nodes, .idle⟩
      [.scaleVendorWeights "free-a" "ZZ" 0, .takeSnapshot, .readFactor, .replaceVendorNodes]) :=
  (verdicts_in_force_iff _ _ _ ⟨_, rfl⟩).mpr ⟨by simp, by simp, by simp, by
    intro _ read hread p hp f hf
    left
    have hphase : (run (mergeStep raceSnapshot) ⟨.new raceSnapshot.nodes, .idle⟩
        [.scaleVendorWeights "free-a" "ZZ" 0, .takeSnapshot, .readFactor]).phase =
          .reading (raceSnapshot.nodes.map (fun n => (n, 0))) [] := rfl
    obtain ⟨rfl, -⟩ := MergePhase.reading.inj (hphase.symm.trans hread)
    obtain ⟨n, hn, rfl⟩ := List.mem_map.mp hp
    have hstored : ∀ m ∈ raceSnapshot.nodes, (run (mergeStep raceSnapshot)
        ⟨.new raceSnapshot.nodes, .idle⟩ [.scaleVendorWeights "free-a" "ZZ" 0, .takeSnapshot,
          .readFactor]).router.freeScale.lookup m.factorKey = some 0 := by decide
    exact Option.some.inj (hf.symm.trans (hstored n hn)), trivial⟩

end IPProxyPool
