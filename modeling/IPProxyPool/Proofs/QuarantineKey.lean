import IPProxyPool.Model.Breaker
import IPProxyPool.Model.Bandit
import IPProxyPool.Model.Headers
import IPProxyPool.Proofs.Sticky

/-!
# The key of a quarantine

A quarantine is stored under the domain normalised twice. The weighted path looks it up under
the domain normalised twice, the stateless path under the domain normalised once.
-/

namespace IPProxyPool
open RustText AssocTable Transition SlidingWindow

namespace RouterEngine

/-- The entry of one address under one key of the quarantine table. -/
def quarantineEntry (r : RouterEngine) (key ip : String) : Option Instant :=
  (r.quarantineMap.lookup key).bind (fun inner => inner.lookup ip)

/-- `set_quarantine` accepts the domain: it is within the length limit, and the table is below
its watermark or holds the domain already. -/
def Accepts (r : RouterEngine) (domain : String) : Prop :=
  byteLen (normalizeDomain domain) ≤ quarantineDomainMaxBytes ∧
    (len r.quarantineMap < quarantineMaxDomains ∨ normalizeDomain domain ∈ r.quarantineMap)

/-- The entry is there and does not expire before `expiry`. -/
def HeldUntil (r : RouterEngine) (key ip : String) (expiry : Instant) : Prop :=
  ∃ t, r.quarantineEntry key ip = some t ∧ expiry ≤ t

end RouterEngine

/-- The operations that shorten or drop the entry of an address under a key, or sweep it at or
after its expiry. -/
def RouterOp.Overrides (key ip : String) (expiry : Instant) : RouterOp → Prop
  | .setQuarantine domain ip' ttlSecs now => normalizeDomain domain = key ∧ ip' = ip ∧
      RouterEngine.quarantineExpiry now ttlSecs < expiry
  | .removeQuarantine domain ip' => normalizeDomain domain = key ∧ ip' = ip
  | .sweepExpired now => expiry ≤ now
  | _ => False

namespace RouterEngine

variable {r : RouterEngine} {key ip : String} {expiry : Instant}

lemma isQuarantinedNormalized_eq (r : RouterEngine) (key ip : String) (now : Instant) :
    r.isQuarantinedNormalized key ip now =
      match r.quarantineEntry key ip with
      | some expiry => decide (now < expiry)
      | none => false := by
  unfold isQuarantinedNormalized quarantineEntry
  cases r.quarantineMap.lookup key with
  | none => rfl
  | some inner =>
    rw [Option.bind_some]
    dsimp only
    cases inner.lookup ip <;> rfl

lemma isQuarantinedNormalized_of_entry (h : r.quarantineEntry key ip = some expiry) {now : Instant}
    (hnow : now < expiry) : r.isQuarantinedNormalized key ip now = true := by
  obtain ⟨inner, hinner, hip⟩ := Option.bind_eq_some_iff.mp h
  exact (isQuarantinedNormalized_iff r key ip now).mpr ⟨inner, expiry, hinner, hip, hnow⟩

lemma ne_of_not_quarantined (h : r.HeldUntil key ip expiry) {now : Instant}
    (hnow : now < expiry) {n : ProxyNode} (hn : r.isNodeQuarantined n key now = false) :
    n.ip ≠ ip ∧ n.exitIp ≠ some ip := by
  obtain ⟨t, ht, hle⟩ := h
  have hq := isQuarantinedNormalized_of_entry ht (hnow.trans_le hle)
  unfold isNodeQuarantined at hn
  rw [Bool.or_eq_false_iff] at hn
  constructor
  · intro hip
    rw [hip, hq] at hn
    exact absurd hn.1 (by simp)
  · intro hexit
    rw [hexit] at hn
    simp only [hq] at hn
    exact absurd hn.2 (by simp)

/-! ### What a quarantine writes -/

lemma quarantineMap_setQuarantine {domain : String} (h : r.Accepts domain) (ttlSecs : Nat)
    (now : Instant) :
    (r.setQuarantine domain ip ttlSecs now).quarantineMap =
      r.quarantineMap.insert (normalizeDomain domain)
        (((r.quarantineMap.lookup (normalizeDomain domain)).getD ∅).insert ip
          (quarantineExpiry now ttlSecs)) := by
  have hlen : ¬quarantineDomainMaxBytes < byteLen (normalizeDomain domain) := Nat.not_lt.mpr h.1
  have hroom : ¬(quarantineMaxDomains ≤ len r.quarantineMap ∧
      normalizeDomain domain ∉ r.quarantineMap) := by
    rintro ⟨hfull, hnew⟩
    rcases h.2 with hlt | hmem
    · omega
    · exact hnew hmem
  unfold setQuarantine
  dsimp only
  rw [if_neg hlen, if_neg hroom]

/-- What the table does not accept leaves it as it is. -/
lemma setQuarantine_of_not_accepts {domain : String} (h : ¬r.Accepts domain) (ttlSecs : Nat)
    (now : Instant) : r.setQuarantine domain ip ttlSecs now = r := by
  unfold setQuarantine
  dsimp only
  by_cases hlen : quarantineDomainMaxBytes < byteLen (normalizeDomain domain)
  · rw [if_pos hlen]
  · by_cases hfull : quarantineMaxDomains ≤ len r.quarantineMap ∧
        normalizeDomain domain ∉ r.quarantineMap
    · rw [if_neg hlen, if_pos hfull]
    · refine absurd ⟨by omega, ?_⟩ h
      by_cases hmem : normalizeDomain domain ∈ r.quarantineMap
      · exact .inr hmem
      · exact .inl (by
          by_contra hge
          exact hfull ⟨by omega, hmem⟩)

lemma quarantineEntry_setQuarantine {domain : String} (h : r.Accepts domain) (ttlSecs : Nat)
    (now : Instant) :
    (r.setQuarantine domain ip ttlSecs now).quarantineEntry (normalizeDomain domain) ip =
      some (quarantineExpiry now ttlSecs) := by
  unfold quarantineEntry
  rw [quarantineMap_setQuarantine h]
  simp

lemma quarantineEntry_setQuarantine_ne {domain ip' : String}
    (hne : ¬(normalizeDomain domain = key ∧ ip' = ip)) (ttlSecs : Nat) (now : Instant) :
    (r.setQuarantine domain ip' ttlSecs now).quarantineEntry key ip = r.quarantineEntry key ip := by
  by_cases hacc : r.Accepts domain
  · unfold quarantineEntry
    rw [quarantineMap_setQuarantine hacc, lookup_insert_eq]
    by_cases hkey : key = normalizeDomain domain
    · have hip : ip ≠ ip' := fun e => hne ⟨hkey.symm, e.symm⟩
      rw [if_pos hkey, Option.bind_some, lookup_insert_eq, if_neg hip, hkey]
      cases r.quarantineMap.lookup (normalizeDomain domain) with
      | none => simp
      | some inner => rfl
    · rw [if_neg hkey]
  · rw [setQuarantine_of_not_accepts hacc]

/-- A removal takes out the entry that it names and no other. -/
lemma quarantineEntry_removeQuarantine_eq {domain : String} (hdomain : normalizeDomain domain ≠ "")
    (key ip' : String) : (r.removeQuarantine domain ip).2.quarantineEntry key ip' =
      if key = normalizeDomain domain ∧ ip' = ip then none else r.quarantineEntry key ip' := by
  by_cases hkey : key = normalizeDomain domain
  · subst hkey
    -- what is left under the key is the table without the address, be it empty or not
    have hlookup : ∀ inner, r.quarantineMap.lookup (normalizeDomain domain) = some inner →
        (inner.erase ip).lookup ip' =
          if ip' = ip then none else r.quarantineEntry (normalizeDomain domain) ip' := by
      intro inner hinner
      rw [lookup_erase_eq, quarantineEntry, hinner, Option.bind_some]
    simp only [true_and]
    rcases removeQuarantine_cases r domain ip with
      ⟨h, hmiss⟩ | ⟨inner, hinner, -, hempty, h⟩ | ⟨inner, hinner, -, -, h⟩
    · rw [h]
      split
      · next hip =>
        rw [hip]
        exact Option.bind_eq_none_iff.mpr
          (fun inner hinner => AList.lookup_eq_none.mpr (hmiss hdomain inner hinner))
      · rfl
    · rw [h, ← hlookup inner hinner]
      unfold quarantineEntry
      dsimp only
      rw [lookup_erase_eq, if_pos rfl, AList.lookup, hempty]
      rfl
    · rw [h, ← hlookup inner hinner]
      unfold quarantineEntry
      dsimp only
      rw [lookup_insert_eq, if_pos rfl, Option.bind_some]
  · rw [if_neg (fun h => hkey h.1)]
    rcases removeQuarantine_cases r domain ip with
      ⟨h, -⟩ | ⟨inner, -, -, -, h⟩ | ⟨inner, -, -, -, h⟩
    · rw [h]
    · rw [h]
      unfold quarantineEntry
      dsimp only
      rw [lookup_erase_eq, if_neg hkey]
    · rw [h]
      unfold quarantineEntry
      dsimp only
      rw [lookup_insert_eq, if_neg hkey]

lemma quarantineEntry_removeQuarantine_ne {domain ip' : String}
    (hne : ¬(normalizeDomain domain = key ∧ ip' = ip)) :
    (r.removeQuarantine domain ip').2.quarantineEntry key ip = r.quarantineEntry key ip := by
  by_cases hdomain : normalizeDomain domain = ""
  · unfold removeQuarantine
    dsimp only
    rw [if_pos hdomain]
  · rw [quarantineEntry_removeQuarantine_eq hdomain]
    exact if_neg (fun h => hne ⟨h.1.symm, h.2.symm⟩)

lemma quarantineEntry_removeQuarantine {domain : String} (hdomain : normalizeDomain domain ≠ "") :
    (r.removeQuarantine domain ip).2.quarantineEntry (normalizeDomain domain) ip = none := by
  rw [quarantineEntry_removeQuarantine_eq hdomain]
  exact if_pos ⟨rfl, rfl⟩

/-- The quarantines of one domain that are still in force. -/
abbrev unexpired (now : Instant) (inner : Table String Instant) : Table String Instant :=
  retain (fun _ expiry => now < expiry) inner

lemma quarantineMap_sweep (r : RouterEngine) (now : Instant) :
    (r.sweepExpiredAt now).2.quarantineMap = retain (fun _ inner => !inner.entries.isEmpty)
      (mapVal (fun _ inner => unexpired now inner) r.quarantineMap) := rfl

lemma lookup_of_entries_isEmpty {inner : Table String Instant} (h : inner.entries.isEmpty = true)
    (ip : String) : inner.lookup ip = none := by
  simp [AList.lookup, List.isEmpty_iff.mp h]

lemma quarantineEntry_swept (r : RouterEngine) (now : Instant) (key ip : String) :
    (r.sweepExpiredAt now).2.quarantineEntry key ip =
      (r.quarantineEntry key ip).filter (fun expiry => now < expiry) := by
  unfold quarantineEntry
  rw [quarantineMap_sweep, lookup_retain, lookup_mapVal]
  rcases r.quarantineMap.lookup key with _ | inner
  · rfl
  · have hkept : (unexpired now inner).lookup ip = (inner.lookup ip).filter (now < ·) :=
      lookup_retain _ inner ip
    rw [Option.map_some, Option.filter_some, Option.bind_some]
    by_cases hempty : (unexpired now inner).entries.isEmpty = true
    · rw [← hkept, lookup_of_entries_isEmpty hempty, hempty]
      rfl
    · rw [if_pos (by simpa using hempty), Option.bind_some, hkept]

lemma quarantineEntry_sweep (h : r.quarantineEntry key ip = some expiry) {now : Instant}
    (hnow : now < expiry) : (r.sweepExpiredAt now).2.quarantineEntry key ip = some expiry := by
  rw [quarantineEntry_swept, h, Option.filter_some, if_pos (decide_eq_true hnow)]

lemma quarantineEntry_eq {r' : RouterEngine} (h : r'.quarantineMap = r.quarantineMap) :
    r'.quarantineEntry key ip = r.quarantineEntry key ip := by
  unfold quarantineEntry
  rw [h]

lemma quarantineMap_bindSession (spec : RoutingSpec) (selected : Option ProxyNode) (now : Instant) :
    (r.bindSession spec selected now).quarantineMap = r.quarantineMap := by
  unfold bindSession
  split
  · split <;> rfl
  · rfl

lemma quarantineMap_selectNodeExcluding (spec : RoutingSpec) (excluded : List String)
    (now : Instant) (draw : Nat) :
    (r.selectNodeExcluding spec excluded now draw).2.quarantineMap = r.quarantineMap := by
  unfold selectNodeExcluding
  dsimp only
  split
  · rfl
  · exact quarantineMap_bindSession _ _ now

lemma heldUntil_step (op : RouterOp) (h : r.HeldUntil key ip expiry)
    (hop : ¬op.Overrides key ip expiry) : (r.step op).HeldUntil key ip expiry := by
  obtain ⟨t, ht, hle⟩ := h
  by_cases hwrite : op.writesPool = true
  · exact ⟨t, (quarantineEntry_eq (tables_writer r op hwrite).2).trans ht, hle⟩
  · cases op with
    | setQuarantine domain ip' ttlSecs now =>
      change (r.setQuarantine domain ip' ttlSecs now).HeldUntil key ip expiry
      by_cases hsame : normalizeDomain domain = key ∧ ip' = ip
      · by_cases hacc : r.Accepts domain
        · obtain ⟨rfl, rfl⟩ := hsame
          exact ⟨_, quarantineEntry_setQuarantine hacc ttlSecs now,
            Nat.not_lt.mp (fun hlt => hop ⟨rfl, rfl, hlt⟩)⟩
        · rw [setQuarantine_of_not_accepts hacc]
          exact ⟨t, ht, hle⟩
      · exact ⟨t, (quarantineEntry_setQuarantine_ne hsame ttlSecs now).trans ht, hle⟩
    | removeQuarantine domain ip' => exact ⟨t, (quarantineEntry_removeQuarantine_ne hop).trans ht, hle⟩
    | sweepExpired now => exact ⟨t, quarantineEntry_sweep ht ((Nat.not_le.mp hop).trans_le hle), hle⟩
    | select spec excluded now draw =>
      have hsame := quarantineMap_selectNodeExcluding (r := r) spec excluded now draw
      exact ⟨t, (quarantineEntry_eq hsame).trans ht, hle⟩
    | reloadNodes | replaceVendorNodes | addNode | removeNode | adjustVendorWeight
    | setPaidWeightBoost | scaleVendorWeights => exact absurd rfl hwrite

lemma heldUntil_run {ops : List RouterOp} (h : r.quarantineEntry key ip = some expiry)
    (hops : ∀ op ∈ ops, ¬op.Overrides key ip expiry) : (run step r ops).HeldUntil key ip expiry := by
  have hstart : r.HeldUntil key ip expiry := ⟨expiry, h, le_rfl⟩
  exact run_of_along (J := fun r : RouterEngine => r.HeldUntil key ip expiry)
    (fun _ op hr hop => heldUntil_step op hr hop) hstart (along_of_forall hops)

/-! ### What a selection checks -/

variable {spec : RoutingSpec} {excluded : List String} {now : Instant} {draw : Nat}

lemma selectFresh_matches {n : ProxyNode} (h : r.selectFresh spec excluded now draw = some n) :
    r.matchesNode n spec now = true := by
  unfold selectFresh at h
  split at h
  · obtain ⟨l, hl, hpick⟩ := Option.bind_eq_some_iff.mp h
    obtain ⟨bucket, -, rfl⟩ := Option.map_eq_some_iff.mp hl
    have hmem := (List.mem_filter.mp (pickWeightedStreaming_mem hpick)).2
    rw [Bool.and_eq_true] at hmem
    exact hmem.2
  · exact ((mem_scan_iff r spec excluded now n).mp (pickWeightedStreaming_mem h)).2.2

/-- No node that the weighted path returns is quarantined under the normalised domain. -/
lemma selectNodeExcluding_not_quarantined {n : ProxyNode}
    (h : (r.selectNodeExcluding spec excluded now draw).1 = some n) :
    r.isNodeQuarantined n (normalizeDomain spec.targetDomain) now = false := by
  unfold selectNodeExcluding at h
  dsimp only at h
  cases hs : r.stickyNode (canonicalSpec spec) excluded now with
  | some m =>
    rw [hs] at h
    cases h
    obtain ⟨createdAt, -, hacc⟩ := (stickyNode_eq_some_iff n).mp hs
    exact (stickyAccepts_spec hacc).2.2.2
  | none =>
    rw [hs] at h
    exact ((matchesNode_iff r n _ now).mp (selectFresh_matches h)).not_quarantined

lemma selectBandit_not_quarantined {g : SmartProxyGateway} {ucb : BanditArm → VectorD → Nat → ℚ}
    {context : VectorD} {n : ProxyNode}
    (h : (g.selectBanditNodeExcluding ucb spec excluded context now).1 = some n) :
    g.router.isNodeQuarantined n spec.targetDomain now = false := by
  have hscan := (mem_scan_iff _ _ _ _ n).mp (SmartProxyGateway.selectBandit_mem h)
  exact ((matchesNode_iff _ n _ now).mp hscan.2.2).not_quarantined

/-- Two routers hold the same quarantines for requests to a domain at an instant. -/
def SameQuarantines (r r' : RouterEngine) (domain : String) (now : Instant) : Prop :=
  ∀ node, r'.isNodeQuarantined node domain now = r.isNodeQuarantined node domain now

lemma sameQuarantines_of_lookup {r' : RouterEngine} {domain : String}
    (h : r'.quarantineMap.lookup domain = r.quarantineMap.lookup domain) (now : Instant) :
    r.SameQuarantines r' domain now := fun node => isNodeQuarantined_congr h node now

lemma scan_congr {r' : RouterEngine} (hpools : r'.pools = r.pools)
    (hq : r.SameQuarantines r' spec.targetDomain now) :
    r'.scan spec excluded now = r.scan spec excluded now := by
  unfold scan
  rw [hpools]
  congr 1
  funext n
  exact matchesNode_congr (hq n)

lemma selectNodeExcluding_congr {r' : RouterEngine} (hsame : r.SamePool r')
    (hstore : r'.sessionStore = r.sessionStore)
    (hq : r.SameQuarantines r' (normalizeDomain spec.targetDomain) now) :
    (r'.selectNodeExcluding spec excluded now draw).1 =
      (r.selectNodeExcluding spec excluded now draw).1 := by
  have hsticky : r'.stickyNode (canonicalSpec spec) excluded now =
      r.stickyNode (canonicalSpec spec) excluded now := by
    have hbind : r'.sessionBinding (canonicalSpec spec) = r.sessionBinding (canonicalSpec spec) := by
      unfold sessionBinding
      rw [hstore]
    have hacc : ∀ node createdAt, r'.stickyAccepts (canonicalSpec spec) excluded now node createdAt =
        r.stickyAccepts (canonicalSpec spec) excluded now node createdAt := by
      intro node createdAt
      have hnode : r'.isNodeQuarantined node (canonicalSpec spec).targetDomain now =
          r.isNodeQuarantined node (canonicalSpec spec).targetDomain now := hq node
      unfold stickyAccepts
      rw [hsame.pools, hnode]
    unfold stickyNode
    rw [hbind]
    simp only [hacc]
  have hfresh : r'.selectFresh (canonicalSpec spec) excluded now draw =
      r.selectFresh (canonicalSpec spec) excluded now draw := by
    have hmatch : ∀ n, r'.matchesNode n (canonicalSpec spec) now =
        r.matchesNode n (canonicalSpec spec) now := fun n => matchesNode_congr (hq n)
    have hscan : r'.scan (canonicalSpec spec) excluded now =
        r.scan (canonicalSpec spec) excluded now := scan_congr hsame.pools hq
    simp only [selectFresh, selectFromBucket, bucketScan, hsame.buckets, hmatch, hscan]
  unfold selectNodeExcluding
  dsimp only
  rw [hsticky, hfresh]
  cases r.stickyNode (canonicalSpec spec) excluded now <;> rfl

lemma selectBandit_congr {r' : RouterEngine} {arms : Table String BanditArm}
    {window : Window String tierQuotaWindowLen} {selections : Nat}
    {ucb : BanditArm → VectorD → Nat → ℚ} {context : VectorD} (hpools : r'.pools = r.pools)
    (hq : r.SameQuarantines r' spec.targetDomain now) :
    (SmartProxyGateway.selectBanditNodeExcluding ⟨r', arms, window, selections⟩ ucb spec excluded
        context now).1 =
      (SmartProxyGateway.selectBanditNodeExcluding ⟨r, arms, window, selections⟩ ucb spec excluded
        context now).1 := by
  have hscan : r'.scan spec excluded now = r.scan spec excluded now := scan_congr hpools hq
  unfold SmartProxyGateway.selectBanditNodeExcluding SmartProxyGateway.selectBanditOver
  dsimp only
  rw [hscan]

lemma lookup_applyQuarantine_ne {domain : String} (hne : key ≠ normalizeDomain domain)
    (ttlSecs : Nat) (t0 : Instant) :
    (r.applyQuarantine domain ip ttlSecs t0).quarantineMap.lookup key =
      r.quarantineMap.lookup key := by
  unfold applyQuarantine
  split
  · unfold setQuarantine
    dsimp only
    split
    · rfl
    · split
      · rfl
      · rw [lookup_insert_eq, if_neg hne]
  · rfl

lemma samePool_applyQuarantine (domain : String) (ttlSecs : Nat) (t0 : Instant) :
    r.SamePool (r.applyQuarantine domain ip ttlSecs t0) := by
  unfold applyQuarantine
  split
  · exact samePool_setQuarantine r domain ip ttlSecs t0
  · exact samePool_refl r

lemma sessionStore_applyQuarantine (domain : String) (ttlSecs : Nat) (t0 : Instant) :
    (r.applyQuarantine domain ip ttlSecs t0).sessionStore = r.sessionStore := by
  unfold applyQuarantine
  split
  · exact sessionStore_setQuarantine r domain ip ttlSecs t0
  · rfl

end RouterEngine

/-! ### The two halves of the guarantee -/

/-- From the quarantine that the breaker takes for a host until its expiry, through all
operations that do not shorten or lift it, neither path returns a node with that address or exit to a
request for the host. -/
def TakesEffect (host : String) : Prop :=
  ∀ (r : RouterEngine) (ip : String) (ttlSecs : Nat) (t0 : Instant) (ops : List RouterOp),
    0 < ttlSecs → validQuarantineTarget (normalizeDomain host) ip →
    r.Accepts (normalizeDomain host) →
    (∀ op ∈ ops, ¬op.Overrides (normalizeDomain (normalizeDomain host)) ip
      (RouterEngine.quarantineExpiry t0 ttlSecs)) →
    let r' := run RouterEngine.step (r.applyQuarantine (normalizeDomain host) ip ttlSecs t0) ops
    ∀ (spec : RoutingSpec) (excluded : List String) (now : Instant),
      spec.targetDomain = normalizeDomain host → now < RouterEngine.quarantineExpiry t0 ttlSecs →
      (∀ draw n, (r'.selectNodeExcluding spec excluded now draw).1 = some n →
        n.ip ≠ ip ∧ n.exitIp ≠ some ip) ∧
      ∀ arms window selections ucb context n,
        (SmartProxyGateway.selectBanditNodeExcluding ⟨r', arms, window, selections⟩ ucb spec
          excluded context now).1 = some n → n.ip ≠ ip ∧ n.exitIp ≠ some ip

/-- A quarantine taken for one host changes no selection for a host of another domain. -/
def HidesNothing (host host' : String) : Prop :=
  normalizeDomain host' ≠ normalizeDomain host →
    ∀ (r : RouterEngine) (ip : String) (ttlSecs : Nat) (t0 : Instant),
    let r' := r.applyQuarantine (normalizeDomain host) ip ttlSecs t0
    ∀ (spec : RoutingSpec) (excluded : List String) (now : Instant),
      spec.targetDomain = normalizeDomain host' →
      (∀ draw, (r'.selectNodeExcluding spec excluded now draw).1 =
        (r.selectNodeExcluding spec excluded now draw).1) ∧
      ∀ arms window selections ucb context,
        (SmartProxyGateway.selectBanditNodeExcluding ⟨r', arms, window, selections⟩ ucb spec
            excluded context now).1 =
          (SmartProxyGateway.selectBanditNodeExcluding ⟨r, arms, window, selections⟩ ucb spec
            excluded context now).1

lemma takesEffect_of_stable {host : String} (hstable : StableDomain (normalizeDomain host)) :
    TakesEffect host := by
  have hkey : normalizeDomain (normalizeDomain host) = normalizeDomain host := hstable
  intro r ip ttlSecs t0 ops _ hvalid hacc hops r' spec excluded now hspec hnow
  have hstart : (r.applyQuarantine (normalizeDomain host) ip ttlSecs t0).quarantineEntry
      (normalizeDomain (normalizeDomain host)) ip = some (RouterEngine.quarantineExpiry t0 ttlSecs) := by
    rw [RouterEngine.applyQuarantine, if_pos hvalid]
    exact RouterEngine.quarantineEntry_setQuarantine hacc ttlSecs t0
  have hentry : r'.HeldUntil (normalizeDomain host) ip
      (RouterEngine.quarantineExpiry t0 ttlSecs) := by
    have hrun := RouterEngine.heldUntil_run hstart hops
    rwa [hkey] at hrun
  constructor
  · intro draw n hn
    have hq := RouterEngine.selectNodeExcluding_not_quarantined hn
    rw [hspec, hkey] at hq
    exact RouterEngine.ne_of_not_quarantined hentry hnow hq
  · intro arms window selections ucb context n hn
    have hq := RouterEngine.selectBandit_not_quarantined hn
    rw [hspec] at hq
    exact RouterEngine.ne_of_not_quarantined hentry hnow hq

lemma hidesNothing_of_stable {host host' : String} (hstable : StableDomain (normalizeDomain host))
    (hdiff : normalizeDomain host' ≠ normalizeDomain host →
      normalizeDomain (normalizeDomain host') ≠ normalizeDomain host) :
    HidesNothing host host' := by
  have hkey : normalizeDomain (normalizeDomain host) = normalizeDomain host := hstable
  intro hne r ip ttlSecs t0 r' spec excluded now hspec
  constructor
  · intro draw
    apply RouterEngine.selectNodeExcluding_congr
    · exact RouterEngine.samePool_applyQuarantine _ ttlSecs t0
    · exact RouterEngine.sessionStore_applyQuarantine _ ttlSecs t0
    · apply RouterEngine.sameQuarantines_of_lookup
      apply RouterEngine.lookup_applyQuarantine_ne
      rw [hspec, hkey]
      exact hdiff hne
  · intro arms window selections ucb context
    apply RouterEngine.selectBandit_congr
    · exact (RouterEngine.samePool_applyQuarantine _ ttlSecs t0).pools
    · apply RouterEngine.sameQuarantines_of_lookup
      apply RouterEngine.lookup_applyQuarantine_ne
      rw [hspec, hkey]
      exact hne

/-! ### Hosts on which it fails -/

def loneNode : ProxyNode := .new "203.0.113.1" 8080 none none "us" "res" "mock-a" 100

/-- The only node of a pool is a candidate of the plain request to a domain that holds no
quarantines. -/
lemma lone_mem_scan {r : RouterEngine} {n : ProxyNode} (hr : r.pools = [n]) (hweight : 0 < n.weight)
    (hproto : n.proto = .http) {domain : String} (hq : r.quarantineMap.lookup domain = none)
    (now : Instant) : n ∈ r.scan { targetDomain := domain } [] now := by
  have hfree : r.isNodeQuarantined n domain now = false := by
    unfold RouterEngine.isNodeQuarantined RouterEngine.isQuarantinedNormalized
    rw [hq]
    cases n.exitIp <;> rfl
  rw [RouterEngine.mem_scan_iff, RouterEngine.matchesNode_iff]
  exact ⟨by simp [hr], by simp, hweight, hproto, by simp, by simp, hfree⟩

/-- Where the only node of a pool is a candidate, both paths return it. -/
lemma lone_selected {r : RouterEngine} {n : ProxyNode} (hr : r.pools = [n]) {domain : String}
    {now : Instant} (hscan : n ∈ r.scan { targetDomain := domain } [] now) :
    ∃ m, (SmartProxyGateway.selectBanditNodeExcluding ⟨r, ∅, .empty, 0⟩ (fun _ _ _ => 0)
      { targetDomain := domain } [] 0 now).1 = some m ∧ m = n := by
  have hpicked : (SmartProxyGateway.selectBanditNodeExcluding ⟨r, ∅, .empty, 0⟩ (fun _ _ _ => 0)
      { targetDomain := domain } [] 0 now).1.isSome :=
    SmartProxyGateway.selectBandit_isSome_iff.mpr (List.ne_nil_of_mem hscan)
  obtain ⟨m, hm⟩ := Option.isSome_iff_exists.mp hpicked
  have hmem := ((RouterEngine.mem_scan_iff _ _ _ _ m).mp (SmartProxyGateway.selectBandit_mem hm)).1
  dsimp only at hmem
  rw [hr] at hmem
  exact ⟨m, hm, List.mem_singleton.mp hmem⟩

lemma lone_selected_weighted {r : RouterEngine} {n : ProxyNode} (hr : r.pools = [n])
    {domain : String} {now : Instant}
    (hscan : n ∈ r.scan (canonicalSpec { targetDomain := domain }) [] now) (draw : Nat) :
    ∃ m, (r.selectNodeExcluding { targetDomain := domain } [] now draw).1 = some m ∧ m = n := by
  obtain ⟨m, hm⟩ := Option.isSome_iff_exists.mp
    ((pickWeightedStreaming_isSome_iff _ draw).mpr (List.ne_nil_of_mem hscan))
  have hmem := ((RouterEngine.mem_scan_iff _ _ _ _ m).mp (pickWeightedStreaming_mem hm)).1
  rw [hr] at hmem
  exact ⟨m, hm, List.mem_singleton.mp hmem⟩

lemma loneNode_accepts {domain : String}
    (hlen : byteLen (normalizeDomain domain) ≤ quarantineDomainMaxBytes) :
    (RouterEngine.new [loneNode]).Accepts domain :=
  ⟨hlen, .inl (by decide)⟩

lemma loneNode_valid {domain : String} (hdomain : domain ≠ "") :
    validQuarantineTarget domain loneNode.ip = true := by
  have hip : loneNode.ip ≠ "" ∧ loneNode.ip ≠ "none" := by decide
  simp [validQuarantineTarget, hdomain, hip]

lemma stable_of_takesEffect {host : String} (hdomain : normalizeDomain host ≠ "")
    (hlen : byteLen (normalizeDomain (normalizeDomain host)) ≤ quarantineDomainMaxBytes)
    (h : TakesEffect host) : StableDomain (normalizeDomain host) := by
  by_contra hne
  have hkey : normalizeDomain host ≠ normalizeDomain (normalizeDomain host) := fun e => hne e.symm
  -- the stateless path does not find the quarantine of the lone node
  have hbandit := (h (.new [loneNode]) loneNode.ip 1 0 [] Nat.one_pos (loneNode_valid hdomain)
    (loneNode_accepts hlen) (by simp) { targetDomain := normalizeDomain host } [] 0 rfl
    (by decide)).2
  have hpools : ((RouterEngine.new [loneNode]).applyQuarantine (normalizeDomain host) loneNode.ip
      1 0).pools = [loneNode] := (RouterEngine.samePool_applyQuarantine (normalizeDomain host) 1 0).pools
  have hscan : loneNode ∈ ((RouterEngine.new [loneNode]).applyQuarantine (normalizeDomain host)
      loneNode.ip 1 0).scan { targetDomain := normalizeDomain host } [] 0 :=
    lone_mem_scan hpools (by decide) rfl (RouterEngine.lookup_applyQuarantine_ne hkey 1 0) 0
  obtain ⟨n, hn, hsame⟩ := lone_selected hpools hscan
  exact (hbandit ∅ .empty 0 (fun _ _ _ => 0) 0 n hn).1 (congrArg ProxyNode.ip hsame)

lemma diff_of_hidesNothing {host host' : String} (hdomain : normalizeDomain host ≠ "")
    (hlen : byteLen (normalizeDomain (normalizeDomain host)) ≤ quarantineDomainMaxBytes)
    (h : HidesNothing host host') (hne : normalizeDomain host' ≠ normalizeDomain host) :
    normalizeDomain (normalizeDomain host') ≠ normalizeDomain (normalizeDomain host) := by
  intro hkey
  have hsame := (h hne (.new [loneNode]) loneNode.ip 1 0 { targetDomain := normalizeDomain host' }
    [] 0 rfl).1 0
  have hscan : loneNode ∈ (RouterEngine.new [loneNode]).scan
      (canonicalSpec { targetDomain := normalizeDomain host' }) [] 0 :=
    lone_mem_scan rfl (by decide) rfl rfl 0
  obtain ⟨n, hn, hlone⟩ := lone_selected_weighted rfl hscan 0
  -- with the quarantine in place the weighted path must not return it
  have hpicked := hsame.trans hn
  have hq := RouterEngine.selectNodeExcluding_not_quarantined hpicked
  have hentry : ((RouterEngine.new [loneNode]).applyQuarantine (normalizeDomain host) loneNode.ip
      1 0).quarantineEntry (normalizeDomain (normalizeDomain host)) loneNode.ip =
      some (RouterEngine.quarantineExpiry 0 1) := by
    rw [RouterEngine.applyQuarantine, if_pos (loneNode_valid hdomain)]
    exact RouterEngine.quarantineEntry_setQuarantine (loneNode_accepts hlen) 1 0
  have hdom : normalizeDomain (RoutingSpec.targetDomain { targetDomain := normalizeDomain host' }) =
      normalizeDomain (normalizeDomain host) := hkey
  rw [hdom] at hq
  exact (RouterEngine.ne_of_not_quarantined ⟨_, hentry, le_rfl⟩ (by decide) hq).1
    (congrArg ProxyNode.ip hlone)

/-- For every host whose domain the breaker and the table accept, and every other host, a
quarantine holds on both paths and hides nothing from the other host if and only if the domain
is stable under normalisation and the other domain does not normalise to it. -/
theorem quarantine_key_iff (host host' : String) (hdomain : normalizeDomain host ≠ "")
    (hlen : byteLen (normalizeDomain (normalizeDomain host)) ≤ quarantineDomainMaxBytes) :
    (TakesEffect host ∧ HidesNothing host host') ↔
      StableDomain (normalizeDomain host) ∧
        (normalizeDomain host' ≠ normalizeDomain host →
          normalizeDomain (normalizeDomain host') ≠ normalizeDomain host) := by
  constructor
  · rintro ⟨heffect, hhides⟩
    have hstable := stable_of_takesEffect hdomain hlen heffect
    have hkey : normalizeDomain (normalizeDomain host) = normalizeDomain host := hstable
    refine ⟨hstable, fun hne => ?_⟩
    have hdiff := diff_of_hidesNothing hdomain hlen hhides hne
    rwa [hkey] at hdiff
  · rintro ⟨hstable, hdiff⟩
    exact ⟨takesEffect_of_stable hstable, hidesNothing_of_stable hstable hdiff⟩

/-- On a plain host name both sides hold. -/
theorem quarantine_key_plain_hosts :
    TakesEffect "example.com" ∧ HidesNothing "example.com" "example.org:8080" :=
  (quarantine_key_iff "example.com" "example.org:8080" (by decide) (by decide)).mpr
    ⟨by decide, by decide⟩

/-- The quarantine taken for an IPv6 literal does not reach the stateless path. -/
theorem ipv6_quarantine_ineffective : ¬TakesEffect "[::1]:8080" := by
  intro h
  have hstable := stable_of_takesEffect (by decide) (by decide) h
  revert hstable
  decide

end IPProxyPool
