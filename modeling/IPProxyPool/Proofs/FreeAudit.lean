import IPProxyPool.Model.Arbitrage
import IPProxyPool.Proofs.FactorDrift

/-!
# One pass of the free audit

The audited pairs are told apart by the spelling of the country, and a verdict is applied to all
nodes whose country agrees ignoring case. A node that shares its provider with another spelling
of its country is scaled by both verdicts.
-/

namespace IPProxyPool
open RustText AssocTable BinaryFloat

/-! ### Factors on a weight -/

/-- The weight that a verdict prescribes; without a factor it is kept. -/
def prescribed (own : Option ℚ) (weight : Nat) : Nat :=
  match own with
  | some f => scaledWeight weight f
  | none => weight

/-- Beside the node's own verdict, a factor of another spelling makes no difference: it repeats the
own factor where repeating it is idle, or does nothing to a weight that is held. -/
def Harmless (own : Option ℚ) (weight : Nat) (other : ℚ) : Prop :=
  match own with
  | some f => other = f ∧ (f = 0 ∨ weight ≤ 2)
  | none => other = 0 ∧ weight = 0 ∨ other = 1 / 2 ∧ weight = 1

/-- Halving is exact in doubles up to `2 ^ 53`, and beyond that the conversion saturates. -/
lemma scaledWeight_half (w : Nat) :
    scaledWeight w (1 / 2) = max (min ((w + 1) / 2) 4294967295) 1 := by
  have hpos : ¬(1 / 2 : ℚ) ≤ 0 := by norm_num
  unfold scaledWeight roundU32
  rw [if_neg hpos]
  rcases Nat.lt_or_ge w (2 ^ 53) with hw | hw
  · have hexact : round64 ((w : ℚ) * (1 / 2)) = w * (1 / 2) :=
      round64_eq_self (k := w) (e := -1) (by norm_num) (by exact_mod_cast hw) (by norm_num)
    have hfloor : ⌊(w : ℚ) * (1 / 2) + 1 / 2⌋ = (((w + 1) / 2 : Nat) : ℤ) := by
      have hlow : 2 * ((w + 1) / 2) ≤ w + 1 := by omega
      have hhigh : w + 1 < 2 * ((w + 1) / 2) + 2 := by omega
      have hlow' : (2 : ℚ) * ((w + 1) / 2 : Nat) ≤ w + 1 := by exact_mod_cast hlow
      have hhigh' : (w : ℚ) + 1 < 2 * ((w + 1) / 2 : Nat) + 2 := by exact_mod_cast hhigh
      rw [Int.floor_eq_iff, Int.cast_natCast]
      constructor
      · linarith
      · linarith
    rw [hexact, hfloor, Int.toNat_natCast]
  · have hw' : (2 : ℚ) ^ 53 ≤ w := by exact_mod_cast hw
    have hround := abs_round64_sub_le (x := (w : ℚ) * (1 / 2)) (by linarith)
    have hlarge : (4294967295 : ℤ) ≤ ⌊round64 ((w : ℚ) * (1 / 2)) + 1 / 2⌋ := by
      rw [Int.le_floor]
      push_cast
      linarith [(abs_le.mp hround).1]
    have hsaturated : 4294967295 ≤ (w + 1) / 2 := by omega
    rw [min_eq_right (by omega), min_eq_right hsaturated]

lemma scaledWeight_zero_factor (w : Nat) : scaledWeight w 0 = 0 := scaledWeight_zero w le_rfl

/-- Harmless factors are those that fix the prescribed weight. -/
lemma harmless_iff {own : Option ℚ} {w : Nat} {f : ℚ} (hown : ∀ g ∈ own, g = 0 ∨ g = 1 / 2)
    (hf : f = 0 ∨ f = 1 / 2) :
    Harmless own w f ↔ scaledWeight (prescribed own w) f = prescribed own w := by
  cases own with
  | none =>
    unfold Harmless prescribed
    rcases hf with rfl | rfl
    · rw [scaledWeight_zero_factor]
      norm_num
      exact eq_comm
    · rw [scaledWeight_half]
      norm_num
      omega
  | some g =>
    unfold Harmless prescribed
    rcases hown g rfl with rfl | rfl <;> rcases hf with rfl | rfl
    · simp [scaledWeight_zero_factor]
    · simp only [scaledWeight_zero_factor, scaledWeight_half]
      norm_num
    · simp only [scaledWeight_zero_factor, scaledWeight_half]
      norm_num
      omega
    · simp only [scaledWeight_half]
      norm_num
      omega

lemma foldl_scaled_fixed {w : Nat} {fs : List ℚ} (h : ∀ f ∈ fs, scaledWeight w f = w) :
    fs.foldl scaledWeight w = w := by
  induction fs with
  | nil => rfl
  | cons f fs ih =>
    rw [List.foldl_cons, h f List.mem_cons_self]
    exact ih (fun g hg => h g (List.mem_cons_of_mem f hg))

/-- The own factor among harmless ones, in any order, comes to the prescribed weight. -/
lemma foldl_scaled_of_harmless {own : Option ℚ} {w : Nat} {others fs : List ℚ}
    (hfs : fs.Perm (own.toList ++ others)) (hown : ∀ g ∈ own, g = 0 ∨ g = 1 / 2)
    (hothers : ∀ f ∈ others, f = 0 ∨ f = 1 / 2) (h : ∀ f ∈ others, Harmless own w f) :
    fs.foldl scaledWeight w = prescribed own w := by
  have hfixed : ∀ f ∈ others, scaledWeight (prescribed own w) f = prescribed own w :=
    fun f hf => (harmless_iff hown (hothers f hf)).mp (h f hf)
  cases own with
  | none => exact foldl_scaled_fixed (fun f hf => hfixed f (hfs.mem_iff.mp hf))
  | some g =>
    -- all factors are the own one, and the first of them does the work
    have hsame : ∀ f ∈ others, f = g := fun f hf => (h f hf).1
    have hall : ∀ f ∈ fs, f = g := by
      intro f hf
      rcases List.mem_cons.mp (hfs.mem_iff.mp hf) with hg | hother
      · exact hg
      · exact hsame f hother
    cases fs with
    | nil => exact absurd hfs.length_eq (by simp)
    | cons f fs =>
      obtain rfl := hall f List.mem_cons_self
      have hrest : fs.Perm others := List.Perm.cons_inv hfs
      rw [List.foldl_cons]
      exact foldl_scaled_fixed (fun f' hf' => hfixed f' (hrest.mem_iff.mp hf'))

lemma halved_le {w : Nat} (hw : 1 ≤ w) : scaledWeight w (1 / 2) ≤ w := by
  rw [scaledWeight_half]
  omega

/-- From one on, halving never raises a weight. -/
lemma foldl_halves_le {w : Nat} (hw : 1 ≤ w) {fs : List ℚ} (h : ∀ f ∈ fs, f = 1 / 2) :
    fs.foldl scaledWeight w ≤ w := by
  induction fs generalizing w with
  | nil => exact le_rfl
  | cons f fs ih =>
    obtain rfl := h f List.mem_cons_self
    have hnext : 1 ≤ scaledWeight w (1 / 2) := one_le_scaledWeight w (by norm_num)
    have hfold := ih hnext (fun g hg => h g (List.mem_cons_of_mem _ hg))
    exact hfold.trans (halved_le hw)

/-- A weight that comes back after one halving and any more of them is not changed by halving. -/
lemma halved_eq_of_foldl {w : Nat} (hw : 1 ≤ w) {fs : List ℚ} (h : ∀ f ∈ fs, f = 1 / 2)
    (hfold : fs.foldl scaledWeight (scaledWeight w (1 / 2)) = w) :
    scaledWeight w (1 / 2) = w := by
  have hnext : 1 ≤ scaledWeight w (1 / 2) := one_le_scaledWeight w (by norm_num)
  have hup : w ≤ scaledWeight w (1 / 2) := by
    calc w = fs.foldl scaledWeight (scaledWeight w (1 / 2)) := hfold.symm
      _ ≤ scaledWeight w (1 / 2) := foldl_halves_le hnext h
  exact le_antisymm (halved_le hw) hup

/-! ### Verdicts on a pool -/

namespace RouterEngine

variable (query : String → String → QueryOutcome)

/-- The factor that the outcome of a pair's query calls for; an error or a timeout holds. -/
def verdictFactor (p : String × String) : Option ℚ :=
  match query p.1 p.2 with
  | .rate raw => freePoolAction (normalizeSlaRate raw)
  | .failed _ => none
  | .timedOut => none
  | .joinFailed => none

def ownPair (n : ProxyNode) : String × String := (n.provider, n.country)

/-- The weight after a pass: a free node is scaled once, by the verdict of its own pair. -/
def auditedNode (n : ProxyNode) : ProxyNode :=
  if isFreeNode n then { n with weight := prescribed (verdictFactor query (ownPair n)) n.weight }
  else n

/-- However the queries end, each free node is scaled exactly once, by its own verdict, nothing else
changes, and neither the pool nor the stored factors depend on the order. -/
def AuditedOnce (perQueryTimeout : String) (r : RouterEngine) : Prop :=
  (∀ completed, completed.Perm r.freePairs →
      (r.auditFreeWith perQueryTimeout query completed).pools =
        r.pools.map (auditedNode query)) ∧
    ∀ completed completed', completed.Perm r.freePairs → completed'.Perm r.freePairs →
      (r.auditFreeWith perQueryTimeout query completed).pools =
          (r.auditFreeWith perQueryTimeout query completed').pools ∧
        ∀ key, (r.auditFreeWith perQueryTimeout query completed).freeScale.lookup key =
          (r.auditFreeWith perQueryTimeout query completed').freeScale.lookup key

/-- A verdict for another spelling of a node's country is harmless to the node. -/
def SpellingsHarmless (r : RouterEngine) : Prop :=
  ∀ n ∈ r.pools, isFreeNode n = true → ∀ p ∈ r.freePairs, p ≠ ownPair n →
    inVendorGroup p.1 p.2 n = true → ∀ f, verdictFactor query p = some f →
      Harmless (verdictFactor query (ownPair n)) n.weight f

variable {query} {r : RouterEngine} {perQueryTimeout : String}

lemma verdictFactor_cases {p : String × String} {f : ℚ} (h : verdictFactor query p = some f) :
    f = 0 ∨ f = 1 / 2 := by
  unfold verdictFactor at h
  split at h
  · unfold freePoolAction at h
    split at h
    · exact .inl (Option.some.inj h).symm
    · split at h
      · exact .inr (Option.some.inj h).symm
      · cases h
  · cases h
  · cases h
  · cases h

lemma auditFreeWith_cons (r : RouterEngine) (p : String × String) (ps : List (String × String)) :
    r.auditFreeWith perQueryTimeout query (p :: ps) =
      (match verdictFactor query p with
        | some f => r.scaleVendorWeights p.1 p.2 f
        | none => r).auditFreeWith perQueryTimeout query ps := by
  unfold auditFreeWith slaQueryConcurrent verdictFactor
  cases hq : query p.1 p.2 with
  | rate raw =>
    simp only [List.filterMap_cons, hq, QueryOutcome.mapped, Option.map_some, List.foldl_cons]
    rfl
  | failed debug =>
    simp only [List.filterMap_cons, hq, QueryOutcome.mapped, Option.map_some, List.foldl_cons]
    rfl
  | timedOut =>
    simp only [List.filterMap_cons, hq, QueryOutcome.mapped, Option.map_some, List.foldl_cons]
    rfl
  | joinFailed => simp only [List.filterMap_cons, hq, QueryOutcome.mapped, Option.map_none]

/-- The factor by which the verdict of a pair scales a node. -/
def scaling (query : String → String → QueryOutcome) (n : ProxyNode) (p : String × String) :
    Option ℚ :=
  if inVendorGroup p.1 p.2 n then verdictFactor query p else none

/-- A pass scales each node by the verdicts that reach it, one after the other. -/
lemma pools_auditFreeWith (r : RouterEngine) (completed : List (String × String)) :
    (r.auditFreeWith perQueryTimeout query completed).pools = r.pools.map (fun n =>
      { n with
        weight := (completed.filterMap (scaling query n)).foldl scaledWeight n.weight }) := by
  induction completed generalizing r with
  | nil =>
    change r.pools = _
    conv_lhs => rw [← List.map_id r.pools]
    rfl
  | cons p ps ih =>
    rw [auditFreeWith_cons, ih]
    cases hp : verdictFactor query p with
    | none =>
      apply List.map_congr_left
      intro n _
      have hscaling : scaling query n p = none := by
        unfold scaling
        rw [hp, ite_self]
      rw [List.filterMap_cons_none hscaling]
    | some f =>
      change (r.pools.map _).map _ = _
      rw [List.map_map]
      apply List.map_congr_left
      intro n _
      dsimp only [Function.comp_apply]
      by_cases hgroup : inVendorGroup p.1 p.2 n = true
      · have hscaling : scaling query n p = some f := by
          unfold scaling
          rw [if_pos hgroup, hp]
        rw [if_pos hgroup, List.filterMap_cons_some hscaling, List.foldl_cons]
        rfl
      · have hscaling : scaling query n p = none := if_neg hgroup
        rw [if_neg hgroup, List.filterMap_cons_none hscaling]

lemma mem_freePairs_iff {p : String × String} :
    p ∈ r.freePairs ↔ ∃ n ∈ r.pools, isFreeNode n = true ∧ ownPair n = p := by
  unfold freePairs
  rw [List.mem_dedup, List.mem_map]
  constructor
  · rintro ⟨n, hn, rfl⟩
    obtain ⟨hpool, hfree⟩ := List.mem_filter.mp hn
    exact ⟨n, hpool, hfree, rfl⟩
  · rintro ⟨n, hpool, hfree, rfl⟩
    exact ⟨n, List.mem_filter.mpr ⟨hpool, hfree⟩, rfl⟩

/-- The other spellings: the audited pairs without the node's own. -/
lemma mem_others_iff {n : ProxyNode} {p : String × String} :
    p ∈ r.freePairs.erase (ownPair n) ↔ p ≠ ownPair n ∧ p ∈ r.freePairs :=
  (List.nodup_dedup _).mem_erase_iff

lemma scaling_own (n : ProxyNode) :
    scaling query n (ownPair n) = verdictFactor query (ownPair n) :=
  if_pos (by simp [inVendorGroup, ownPair])

lemma scaling_eq_some {n : ProxyNode} {p : String × String} {f : ℚ}
    (h : scaling query n p = some f) :
    inVendorGroup p.1 p.2 n = true ∧ verdictFactor query p = some f := by
  unfold scaling at h
  split at h
  · rename_i hgroup
    exact ⟨hgroup, h⟩
  · cases h

lemma factors_own_first {n : ProxyNode} {ps : List (String × String)} :
    (ownPair n :: ps).filterMap (scaling query n) =
      (verdictFactor query (ownPair n)).toList ++ ps.filterMap (scaling query n) := by
  rw [List.filterMap_cons, scaling_own]
  cases verdictFactor query (ownPair n) <;> rfl

lemma freePairs_perm {n : ProxyNode} (hn : n ∈ r.pools) (hfree : isFreeNode n = true) :
    r.freePairs.Perm (ownPair n :: r.freePairs.erase (ownPair n)) :=
  List.perm_cons_erase (mem_freePairs_iff.mpr ⟨n, hn, hfree, rfl⟩)

/-! ### The exact condition -/

lemma auditedNode_of_harmless (h : SpellingsHarmless query r) {completed : List (String × String)}
    (hperm : completed.Perm r.freePairs) {n : ProxyNode} (hn : n ∈ r.pools) :
    { n with weight := (completed.filterMap (scaling query n)).foldl scaledWeight n.weight } =
      auditedNode query n := by
  unfold auditedNode
  by_cases hfree : isFreeNode n = true
  · have hfactors : (completed.filterMap (scaling query n)).Perm
        ((verdictFactor query (ownPair n)).toList ++
          (r.freePairs.erase (ownPair n)).filterMap (scaling query n)) := by
      rw [← factors_own_first]
      exact (hperm.trans (freePairs_perm hn hfree)).filterMap _
    rw [if_pos hfree]
    congr 1
    apply foldl_scaled_of_harmless hfactors
    · exact fun g hg => verdictFactor_cases hg
    · intro f hf
      obtain ⟨p, -, hp⟩ := List.mem_filterMap.mp hf
      exact verdictFactor_cases (scaling_eq_some hp).2
    · intro f hf
      obtain ⟨p, hmem, hp⟩ := List.mem_filterMap.mp hf
      obtain ⟨hne, haudited⟩ := mem_others_iff.mp hmem
      obtain ⟨hgroup, hverdict⟩ := scaling_eq_some hp
      exact h n hn hfree p haudited hne hgroup f hverdict
  · have hnone : completed.filterMap (scaling query n) = [] := by
      rw [List.filterMap_eq_nil_iff]
      intro p hp
      refine if_neg (fun hgroup => hfree ?_)
      have hprovider : n.provider = p.1 := by
        unfold inVendorGroup at hgroup
        simp only [Bool.and_eq_true, decide_eq_true_eq] at hgroup
        exact hgroup.1
      unfold isFreeNode
      rw [hprovider]
      exact freePairs_free (hperm.mem_iff.mp hp)
    rw [if_neg hfree, hnone]
    rfl

/-- Verdicts on spellings of one country that all scale, scale by the same factor. -/
lemma factor_unique_of_harmless (h : SpellingsHarmless query r) {p p' : String × String} {f f' : ℚ}
    (hp : p ∈ r.freePairs) (hp' : p' ∈ r.freePairs)
    (hkey : scaleKey p.1 p.2 = scaleKey p'.1 p'.2) (hf : verdictFactor query p = some f)
    (hf' : verdictFactor query p' = some f') : f' = f := by
  by_cases hsame : p' = p
  · subst hsame
    exact Option.some.inj (hf'.symm.trans hf)
  · obtain ⟨n, hn, hfree, rfl⟩ := mem_freePairs_iff.mp hp
    have hgroup : inVendorGroup p'.1 p'.2 n = true := (inVendorGroup_iff _ _ n).mpr hkey
    have hharmless := h n hn hfree p' hp' hsame hgroup f' hf'
    rw [hf] at hharmless
    exact hharmless.1

/-- The factor stored for a key is that of the last verdict on it. -/
lemma freeScale_auditFreeWith (r : RouterEngine) (completed : List (String × String))
    (key : String × String) :
    (r.auditFreeWith perQueryTimeout query completed).freeScale.lookup key =
      (completed.filterMap (fun p =>
        if scaleKey p.1 p.2 = key then verdictFactor query p else none)).foldl
          (fun _ f => some f) (r.freeScale.lookup key) := by
  induction completed generalizing r with
  | nil => rfl
  | cons p ps ih =>
    rw [auditFreeWith_cons, ih]
    cases hp : verdictFactor query p with
    | none => rw [List.filterMap_cons_none (by rw [hp, ite_self])]
    | some f =>
      have hne : f ≠ 1 := by
        rcases verdictFactor_cases hp with rfl | rfl <;> norm_num
      dsimp only
      rw [freeScale_scaleVendorWeights]
      by_cases hkey : scaleKey p.1 p.2 = key
      · rw [if_pos hkey.symm, if_neg hne, List.filterMap_cons_some (by rw [if_pos hkey, hp]),
          List.foldl_cons]
      · rw [if_neg (fun heq => hkey heq.symm), List.filterMap_cons_none (by rw [if_neg hkey])]

lemma freeScale_of_harmless (h : SpellingsHarmless query r)
    {completed completed' : List (String × String)} (hperm : completed.Perm r.freePairs)
    (hperm' : completed'.Perm r.freePairs) (key : String × String) :
    (r.auditFreeWith perQueryTimeout query completed).freeScale.lookup key =
      (r.auditFreeWith perQueryTimeout query completed').freeScale.lookup key := by
  rw [freeScale_auditFreeWith, freeScale_auditFreeWith]
  congr 1
  generalize hpick : (fun p : String × String =>
    if scaleKey p.1 p.2 = key then verdictFactor query p else none) = pick
  have hfactors : (completed.filterMap pick).Perm (completed'.filterMap pick) :=
    (hperm.trans hperm'.symm).filterMap _
  cases hlist : completed'.filterMap pick with
  | nil => exact List.perm_nil.mp (hlist ▸ hfactors)
  | cons f fs =>
    -- all factors on the key are equal, so that the order cannot show
    have hsame : ∀ g ∈ completed'.filterMap pick, g = f := by
      have hf : f ∈ completed'.filterMap pick := hlist ▸ List.mem_cons_self
      intro g hg
      obtain ⟨p, hp, hpf⟩ := List.mem_filterMap.mp hf
      obtain ⟨p', hp', hpg⟩ := List.mem_filterMap.mp hg
      rw [← hpick] at hpf hpg
      dsimp only at hpf hpg
      split at hpf
      · split at hpg
        · rename_i hkey hkey'
          exact factor_unique_of_harmless h (hperm'.mem_iff.mp hp) (hperm'.mem_iff.mp hp')
            (hkey.trans hkey'.symm) hpf hpg
        · cases hpg
      · cases hpf
    have hrep' := List.eq_replicate_of_mem hsame
    have hrep := List.eq_replicate_of_mem (fun g hg => hsame g (hfactors.mem_iff.mp hg))
    rw [← hlist, hrep, hrep', hfactors.length_eq]

lemma foldl_own (own : Option ℚ) (w : Nat) (others : List ℚ) :
    (own.toList ++ others).foldl scaledWeight w = others.foldl scaledWeight (prescribed own w) := by
  cases own <;> rfl

/-- With its own verdict applied first, a node must keep its weight through the others, in any
order. -/
lemma foldl_others {n : ProxyNode} (hn : n ∈ r.pools) (hfree : isFreeNode n = true)
    (h : ∀ completed, completed.Perm r.freePairs →
      (r.auditFreeWith perQueryTimeout query completed).pools = r.pools.map (auditedNode query))
    {ps : List (String × String)} (hps : ps.Perm (r.freePairs.erase (ownPair n))) :
    (ps.filterMap (scaling query n)).foldl scaledWeight
        (prescribed (verdictFactor query (ownPair n)) n.weight) =
      prescribed (verdictFactor query (ownPair n)) n.weight := by
  have hperm : (ownPair n :: ps).Perm r.freePairs :=
    (hps.cons _).trans (freePairs_perm hn hfree).symm
  have hpools := h _ hperm
  rw [pools_auditFreeWith, List.map_inj_left] at hpools
  have hweight := congrArg ProxyNode.weight (hpools n hn)
  unfold auditedNode at hweight
  rw [if_pos hfree, factors_own_first, foldl_own] at hweight
  exact hweight

lemma harmless_of_audited (h : ∀ completed, completed.Perm r.freePairs →
      (r.auditFreeWith perQueryTimeout query completed).pools = r.pools.map (auditedNode query)) :
    SpellingsHarmless query r := by
  intro n hn hfree p hp hne hgroup f hf
  have hscaling : scaling query n p = some f := by
    unfold scaling
    rw [if_pos hgroup, hf]
  have hmem : p ∈ r.freePairs.erase (ownPair n) := mem_others_iff.mpr ⟨hne, hp⟩
  rw [harmless_iff (fun g hg => verdictFactor_cases hg) (verdictFactor_cases hf)]
  have hrest : ∀ ps : List (String × String), ps.Perm (r.freePairs.erase (ownPair n)) →
      (ps.filterMap (scaling query n)).foldl scaledWeight
          (prescribed (verdictFactor query (ownPair n)) n.weight) =
        prescribed (verdictFactor query (ownPair n)) n.weight :=
    fun ps hps => foldl_others hn hfree h hps
  generalize prescribed (verdictFactor query (ownPair n)) n.weight = v at hrest ⊢
  -- the verdict that is applied last has the last word
  have hlast : ∀ q ∈ r.freePairs.erase (ownPair n), ∀ g, scaling query n q = some g →
      ∃ x, scaledWeight x g = v := by
    intro q hq g hg
    have hfold := hrest ((r.freePairs.erase (ownPair n)).erase q ++ [q])
      ((List.perm_append_singleton _ _).trans (List.perm_cons_erase hq).symm)
    rw [List.filterMap_append, List.foldl_append, List.filterMap_cons_some hg] at hfold
    exact ⟨_, hfold⟩
  obtain ⟨x, hx⟩ := hlast p hmem f hscaling
  rcases verdictFactor_cases hf with rfl | rfl
  · rw [← hx, scaledWeight_zero_factor, scaledWeight_zero_factor]
  · -- no other verdict removes the node, and halving cannot be made good by the rest
    have hpos : 1 ≤ v := hx ▸ one_le_scaledWeight x (by norm_num)
    have hhalves : ∀ g ∈ ((r.freePairs.erase (ownPair n)).erase p).filterMap (scaling query n),
        g = 1 / 2 := by
      intro g hg
      obtain ⟨q, hq, hqg⟩ := List.mem_filterMap.mp hg
      obtain ⟨y, hy⟩ := hlast q (List.mem_of_mem_erase hq) g hqg
      rcases verdictFactor_cases (scaling_eq_some hqg).2 with rfl | rfl
      · rw [scaledWeight_zero_factor] at hy
        omega
      · rfl
    have hfirst := hrest (p :: (r.freePairs.erase (ownPair n)).erase p)
      (List.perm_cons_erase hmem).symm
    rw [List.filterMap_cons_some hscaling, List.foldl_cons] at hfirst
    exact halved_eq_of_foldl hpos hhalves hfirst

/-- In every order of completion, a pass scales each free node once, by the verdict on its own pair,
exactly when the verdicts on other spellings of its country are harmless to it. -/
theorem audited_once_iff (perQueryTimeout : String) (query : String → String → QueryOutcome)
    (r : RouterEngine) : AuditedOnce query perQueryTimeout r ↔ SpellingsHarmless query r := by
  constructor
  · exact fun h => harmless_of_audited h.1
  · intro h
    have hpools : ∀ completed, completed.Perm r.freePairs →
        (r.auditFreeWith perQueryTimeout query completed).pools =
          r.pools.map (auditedNode query) := by
      intro completed hperm
      rw [pools_auditFreeWith]
      exact List.map_congr_left (fun n hn => auditedNode_of_harmless h hperm hn)
    refine ⟨hpools, fun completed completed' hperm hperm' => ⟨?_, ?_⟩⟩
    · rw [hpools completed hperm, hpools completed' hperm']
    · exact freeScale_of_harmless h hperm hperm'

/-- Two nodes of one source, which spells their country in two ways. -/
def twoSpellings : RouterEngine :=
  .new [.new "10.0.0.1" 8080 none none "us" "free" "free-list" 10,
    .new "10.0.0.2" 8080 none none "US" "free" "free-list" 10]

/-- Both pairs are at sixty per cent, and both nodes are halved twice. -/
theorem halved_twice :
    ¬AuditedOnce (fun _ _ => .rate (.finite 60)) "5s" twoSpellings := by
  rintro ⟨hpools, -⟩
  have hweights := congrArg (List.map ProxyNode.weight) (hpools _ (List.Perm.refl _))
  revert hweights
  decide +kernel

end RouterEngine

end IPProxyPool
