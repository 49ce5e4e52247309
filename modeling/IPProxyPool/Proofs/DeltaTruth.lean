import IPProxyPool.Proofs.QuarantineMerge

/-!
# What a delta reports

`apply_delta` answers by the parse alone, while `set_quarantine` may refuse the domain and stores
it normalised. The answer is the truth exactly when the table accepts the domain, its normal form
is a domain that can be lifted again, and requests are looked up under that normal form.
-/

namespace IPProxyPool
open RustText AssocTable

/-- The domains under which the stateless and the weighted path look for the quarantines that
concern a request to a host. -/
def lookupDomains (host : String) : List String :=
  [normalizeDomain host, normalizeDomain (normalizeDomain host)]

/-- The host normalises to the domain of a message, taken as it is written or normalised. -/
def AddressedTo (host domain : String) : Prop :=
  normalizeDomain host = domain ∨ normalizeDomain host = normalizeDomain domain

namespace RouterEngine

structure DeltaTruthful (r : RouterEngine) (payload : String) (now : Instant) : Prop where
  returned : (r.applyDelta payload now).1 = true ↔
    ∃ domain ip ttl, parseDeltaMessage payload = some (domain, ip, ttl) ∧
      ∀ host, AddressedTo host domain → ∀ key ∈ lookupDomains host,
        (r.applyDelta payload now).2.isQuarantinedNormalized key ip now = true
  refused : (r.applyDelta payload now).1 = false →
    (r.applyDelta payload now).2.quarantineMap = r.quarantineMap
  no_empty : ∀ ip, r.quarantineEntry "" ip = none →
    (r.applyDelta payload now).2.quarantineEntry "" ip = none
  removable : ∀ domain ip ttl, parseDeltaMessage payload = some (domain, ip, ttl) →
    ∀ key ip', r.quarantineEntry key ip' = none →
      (r.applyDelta payload now).2.quarantineEntry key ip' ≠ none →
      ((r.applyDelta payload now).2.removeQuarantine domain ip).1 = true ∧
        ((r.applyDelta payload now).2.removeQuarantine domain ip).2.quarantineEntry key ip' = none

/-- The state before an accepted delta lets it take effect. -/
structure DeltaApplies (r : RouterEngine) (domain ip : String) (now : Instant) : Prop where
  accepts : r.Accepts domain
  named : normalizeDomain domain ≠ "" ∨ r.quarantineEntry "" ip ≠ none
  reaches : ∀ host, AddressedTo host domain → ∀ key ∈ lookupDomains host,
    key = normalizeDomain domain ∨ r.isQuarantinedNormalized key ip now = true

variable {r : RouterEngine} {payload domain ip key : String} {ttl : Nat} {now : Instant}

lemma applyDelta_none (h : parseDeltaMessage payload = none) :
    r.applyDelta payload now = (false, r) := by
  unfold applyDelta
  rw [h]

lemma applyDelta_some (h : parseDeltaMessage payload = some (domain, ip, ttl)) :
    r.applyDelta payload now = (true, r.setQuarantine domain ip ttl now) := by
  unfold applyDelta
  rw [h]

/-- What a parsed message has been checked for. -/
lemma parseDeltaMessage_checks (h : parseDeltaMessage payload = some (domain, ip, ttl)) :
    0 < ttl ∧ byteLen domain ≤ quarantineDomainMaxBytes := by
  unfold parseDeltaMessage at h
  split at h
  · split at h
    · obtain ⟨t, -, ht⟩ := Option.bind_eq_some_iff.mp h
      split at ht
      · rename_i hchecks
        cases ht
        exact ⟨hchecks.1, hchecks.2.2.2⟩
      · cases ht
    · cases h
  · cases h

lemma lt_quarantineExpiry (now : Instant) (hpos : 0 < ttl) : now < quarantineExpiry now ttl := by
  have hmin : 0 < min ttl quarantineMaxTtlSecs := Nat.lt_min.mpr ⟨hpos, by decide⟩
  exact Nat.lt_add_of_pos_right (Nat.mul_pos hmin (by decide))

lemma isQuarantined_setQuarantine_iff (hacc : r.Accepts domain) (hpos : 0 < ttl) :
    (r.setQuarantine domain ip ttl now).isQuarantinedNormalized key ip now = true ↔
      key = normalizeDomain domain ∨ r.isQuarantinedNormalized key ip now = true := by
  by_cases hkey : key = normalizeDomain domain
  · rw [hkey]
    simp only [true_or, iff_true]
    exact isQuarantinedNormalized_of_entry (quarantineEntry_setQuarantine hacc ttl now)
      (lt_quarantineExpiry now hpos)
  · have hne : ¬(normalizeDomain domain = key ∧ ip = ip) := fun h => hkey h.1.symm
    simp only [isQuarantinedNormalized_eq, quarantineEntry_setQuarantine_ne hne, hkey, false_or]

lemma removeQuarantine_found (hdomain : normalizeDomain domain ≠ "")
    (h : r.quarantineEntry (normalizeDomain domain) ip ≠ none) :
    (r.removeQuarantine domain ip).1 = true := by
  rcases removeQuarantine_cases r domain ip with
    ⟨-, hmiss⟩ | ⟨inner, -, -, -, heq⟩ | ⟨inner, -, -, -, heq⟩
  · refine absurd (Option.bind_eq_none_iff.mpr fun inner hinner => ?_) h
    exact AList.lookup_eq_none.mpr (hmiss hdomain inner hinner)
  · rw [heq]
  · rw [heq]

/-- A domain that the parser lets through and the table knows already is accepted. -/
lemma accepts_of_quarantined (hlen : byteLen domain ≤ quarantineDomainMaxBytes)
    (h : r.isQuarantinedNormalized (normalizeDomain domain) ip now = true) : r.Accepts domain := by
  obtain ⟨inner, -, hinner, -⟩ := (isQuarantinedNormalized_iff r _ ip now).mp h
  exact ⟨(byteLen_normalizeDomain_le domain).trans hlen, .inr (mem_of_lookup hinner)⟩

lemma DeltaTruthful.applies (h : r.DeltaTruthful payload now)
    (hparse : parseDeltaMessage payload = some (domain, ip, ttl)) : r.DeltaApplies domain ip now := by
  obtain ⟨hpos, hlen⟩ := parseDeltaMessage_checks hparse
  rcases h with ⟨hreturned, -, hempty, -⟩
  rw [applyDelta_some hparse] at hreturned hempty
  dsimp only at hreturned hempty
  obtain ⟨domain', ip', ttl', hparse', hreach⟩ := hreturned.mp rfl
  rw [hparse] at hparse'
  cases hparse'
  have hacc : r.Accepts domain := by
    by_contra hrefused
    rw [setQuarantine_of_not_accepts hrefused] at hreach
    exact hrefused (accepts_of_quarantined hlen
      (hreach domain (.inr rfl) (normalizeDomain domain) List.mem_cons_self))
  refine ⟨hacc, ?_, fun host hhost key hkey =>
    (isQuarantined_setQuarantine_iff hacc hpos).mp (hreach host hhost key hkey)⟩
  rw [or_iff_not_imp_left, not_not]
  intro hnil hnone
  have hentry : (r.setQuarantine domain ip ttl now).quarantineEntry (normalizeDomain domain) ip =
      some (quarantineExpiry now ttl) := quarantineEntry_setQuarantine hacc ttl now
  rw [hnil, hempty ip hnone] at hentry
  cases hentry

lemma deltaTruthful_of_applies (hparse : parseDeltaMessage payload = some (domain, ip, ttl))
    (h : r.DeltaApplies domain ip now) : r.DeltaTruthful payload now := by
  obtain ⟨hpos, -⟩ := parseDeltaMessage_checks hparse
  have hwritten : ∀ key ip', r.quarantineEntry key ip' = none →
      (r.setQuarantine domain ip ttl now).quarantineEntry key ip' ≠ none →
      key = normalizeDomain domain ∧ ip' = ip := by
    intro key ip' hnone hsome
    by_contra hne
    rw [quarantineEntry_setQuarantine_ne (fun e => hne ⟨e.1.symm, e.2.symm⟩)] at hsome
    exact hsome hnone
  constructor
  · rw [applyDelta_some hparse]
    dsimp only
    refine ⟨fun _ => ⟨domain, ip, ttl, hparse, fun host hhost key hkey => ?_⟩, fun _ => rfl⟩
    exact (isQuarantined_setQuarantine_iff h.accepts hpos).mpr (h.reaches host hhost key hkey)
  · rw [applyDelta_some hparse]
    intro hfalse
    cases hfalse
  · rw [applyDelta_some hparse]
    dsimp only
    intro ip' hnone
    by_contra hsome
    obtain ⟨hnil, rfl⟩ := hwritten "" ip' hnone hsome
    rcases h.named with hnamed | hold
    · exact hnamed hnil.symm
    · exact hold hnone
  · intro domain' ip' ttl' hparse' key ip'' hnone hsome
    rw [hparse] at hparse'
    cases hparse'
    rw [applyDelta_some hparse] at hsome ⊢
    dsimp only at hsome ⊢
    obtain ⟨rfl, rfl⟩ := hwritten key ip'' hnone hsome
    have hnamed : normalizeDomain domain ≠ "" := by
      rcases h.named with hnamed | hold
      · exact hnamed
      · intro hnil
        rw [hnil] at hnone
        exact hold hnone
    exact ⟨removeQuarantine_found hnamed hsome, quarantineEntry_removeQuarantine hnamed⟩

/-- For every state and payload, the delta reports the truth and can be undone if and only if,
where it parses, the table accepts it, its domain is not empty once normalised (or was listed
before), and the domains that requests are looked up under are the stored one or quarantined
already. -/
theorem deltaTruthful_iff (r : RouterEngine) (payload : String) (now : Instant) :
    r.DeltaTruthful payload now ↔
      ∀ domain ip ttl, parseDeltaMessage payload = some (domain, ip, ttl) →
        r.DeltaApplies domain ip now := by
  constructor
  · exact fun h domain ip ttl hparse => h.applies hparse
  · intro h
    rcases hparse : parseDeltaMessage payload with _ | ⟨domain, ip, ttl⟩
    · constructor
      · simp [applyDelta_none hparse, hparse]
      · exact fun _ => by rw [applyDelta_none hparse]
      · rw [applyDelta_none hparse]
        exact fun _ hnone => hnone
      · intro domain ip ttl hsome
        rw [hparse] at hsome
        cases hsome
    · exact deltaTruthful_of_applies hparse (h domain ip ttl hparse)

/-- The domain of the message is a single dot. Its quarantine is stored under the empty domain,
where it cannot be lifted. -/
theorem dot_domain_not_truthful :
    ¬(RouterEngine.new []).DeltaTruthful "QUARANTINE|.|10.0.0.9|60" 0 := by
  intro h
  have hentry := h.no_empty "10.0.0.9" (by decide)
  revert hentry
  decide

end RouterEngine

end IPProxyPool
