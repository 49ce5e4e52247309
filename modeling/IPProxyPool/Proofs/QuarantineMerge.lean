import IPProxyPool.Lib.Register
import IPProxyPool.Proofs.QuarantineKey

/-!
# Updates of one quarantine

The entry of an address under a domain is overwritten by each update: after any sequence of updates
that the table accepts it holds the expiry of the one processed last. It holds the latest expiry,
and two instances that process the same updates in different orders agree, exactly when the last
update is the latest one.
-/

namespace IPProxyPool
open RustText AssocTable Transition Register

namespace QuarantineUpdate

/-- The domain, address and ttl that reach `set_quarantine`, with the instant. -/
def target : QuarantineUpdate → Option (String × String × Nat × Instant)
  | processEntry event now =>
    (quarantineTtlForStatus event.statusCode).bind (fun ttl =>
      if validQuarantineTarget event.targetDomain event.outIp then
        some (event.targetDomain, event.outIp, ttl, now)
      else none)
  | applyQuarantine domain outIp ttlSecs now =>
    if validQuarantineTarget domain outIp then some (domain, outIp, ttlSecs, now) else none
  | applyDelta payload now =>
    (parseDeltaMessage payload).map (fun p => (p.1, p.2.1, p.2.2, now))

/-- The entry that an update writes, by its key and address, and the expiry. -/
def write (u : QuarantineUpdate) : Option ((String × String) × Instant) :=
  u.target.map (fun t =>
    ((normalizeDomain t.1, t.2.1), RouterEngine.quarantineExpiry t.2.2.2 t.2.2.1))

end QuarantineUpdate

/-- The expiries that the updates carry for one address under one key. -/
def expiriesFor (us : List QuarantineUpdate) (key ip : String) : List Instant :=
  writesTo (key, ip) (us.filterMap QuarantineUpdate.write)

namespace RouterEngine

/-- The table takes the update in, if it is one. -/
def TakesIn (r : RouterEngine) (u : QuarantineUpdate) : Prop :=
  ∀ t ∈ u.target, r.Accepts t.1

instance (r : RouterEngine) (domain : String) : Decidable (r.Accepts domain) :=
  inferInstanceAs (Decidable (_ ∧ _))

instance (r : RouterEngine) (u : QuarantineUpdate) : Decidable (r.TakesIn u) :=
  inferInstanceAs (Decidable (∀ t ∈ u.target, r.Accepts t.1))

/-- No domain of the table is over the length limit. -/
def BoundedDomains (r : RouterEngine) : Prop :=
  ∀ key ∈ r.quarantineMap, byteLen key ≤ quarantineDomainMaxBytes

/-- Each entry that was updated holds the latest of the expiries. -/
def HoldsLatest (r : RouterEngine) (us : List QuarantineUpdate) : Prop :=
  ∀ key ip, expiriesFor us key ip ≠ [] →
    (run updateStep r us).quarantineEntry key ip = (expiriesFor us key ip).max?

/-- The two instances hold the latest expiries, and they agree on each entry that was updated or on
which they agreed before. -/
structure UpdatesCommute (r₁ r₂ : RouterEngine) (us vs : List QuarantineUpdate) : Prop where
  first : r₁.HoldsLatest us
  second : r₂.HoldsLatest vs
  agree : ∀ key ip,
    expiriesFor us key ip ≠ [] ∨ r₁.quarantineEntry key ip = r₂.quarantineEntry key ip →
      (run updateStep r₁ us).quarantineEntry key ip = (run updateStep r₂ vs).quarantineEntry key ip

/-- The table takes in every update, and for each entry the update processed last is the latest. -/
structure LastIsLatest (r : RouterEngine) (us : List QuarantineUpdate) : Prop where
  takesIn : Along updateStep TakesIn r us
  latest : ∀ key ip, LatestLast (expiriesFor us key ip)

variable {r : RouterEngine} {key ip : String}

/-! ### One update -/

lemma updateStep_eq (r : RouterEngine) (u : QuarantineUpdate) :
    r.updateStep u = match u.target with
      | some (domain, ip, ttl, now) => r.setQuarantine domain ip ttl now
      | none => r := by
  cases u with
  | processEntry event now =>
    unfold updateStep processEntry QuarantineUpdate.target
    dsimp only
    rcases quarantineTtlForStatus event.statusCode with _ | ttl
    · rfl
    · dsimp only [Option.bind_some]
      by_cases h : validQuarantineTarget event.targetDomain event.outIp = true
      · rw [if_pos h, if_pos h, RouterEngine.applyQuarantine, if_pos h]
      · rw [if_neg h, if_neg h]
  | applyQuarantine domain outIp ttlSecs now =>
    unfold updateStep RouterEngine.applyQuarantine QuarantineUpdate.target
    dsimp only
    by_cases h : validQuarantineTarget domain outIp = true
    · rw [if_pos h, if_pos h]
    · rw [if_neg h, if_neg h]
  | applyDelta payload now =>
    unfold updateStep RouterEngine.applyDelta QuarantineUpdate.target
    dsimp only
    rcases parseDeltaMessage payload with _ | p
    · rfl
    · rfl

lemma quarantineEntry_updateStep {u : QuarantineUpdate} (h : r.TakesIn u) :
    (r.updateStep u).quarantineEntry key ip =
      (expiriesFor [u] key ip).getLast?.or (r.quarantineEntry key ip) := by
  rw [updateStep_eq]
  unfold expiriesFor QuarantineUpdate.write
  rcases ht : u.target with _ | ⟨domain, ip', ttl, now⟩
  · simp [ht]
  · dsimp only
    rw [List.filterMap_cons, ht]
    dsimp only [Option.map_some]
    rw [List.filterMap_nil, writesTo_cons, writesTo_nil]
    by_cases hkey : (normalizeDomain domain, ip') = (key, ip)
    · obtain ⟨rfl, rfl⟩ := Prod.mk.inj hkey
      rw [if_pos rfl, quarantineEntry_setQuarantine (h _ ht)]
      rfl
    · rw [if_neg hkey]
      exact quarantineEntry_setQuarantine_ne (fun he => hkey (Prod.ext he.1 he.2)) ttl now

lemma expiriesFor_cons (u : QuarantineUpdate) (us : List QuarantineUpdate) (key ip : String) :
    expiriesFor (u :: us) key ip = expiriesFor [u] key ip ++ expiriesFor us key ip := by
  unfold expiriesFor writesTo
  rw [← List.singleton_append, List.filterMap_append, List.filter_append, List.map_append]

/-- The last update wins. -/
theorem quarantineEntry_updates {us : List QuarantineUpdate} (h : Along updateStep TakesIn r us) :
    (run updateStep r us).quarantineEntry key ip =
      (expiriesFor us key ip).getLast?.or (r.quarantineEntry key ip) := by
  induction us generalizing r with
  | nil => rfl
  | cons u us ih =>
    rw [run_cons, ih h.2, quarantineEntry_updateStep h.1, expiriesFor_cons u us,
      List.getLast?_append, Option.or_assoc]

/-! ### Refused domains -/

/-- The table has no entry under the key and takes none in. -/
def Refuses (r : RouterEngine) (key : String) : Prop :=
  key ∉ r.quarantineMap ∧
    (quarantineDomainMaxBytes < byteLen key ∨ quarantineMaxDomains ≤ len r.quarantineMap)

lemma refuses_of_not_accepts {domain : String} (hr : r.BoundedDomains) (h : ¬r.Accepts domain) :
    r.Refuses (normalizeDomain domain) := by
  by_cases hlen : byteLen (normalizeDomain domain) ≤ quarantineDomainMaxBytes
  · refine ⟨fun hmem => h ⟨hlen, .inr hmem⟩, .inr ?_⟩
    by_contra hroom
    exact h ⟨hlen, .inl (Nat.not_le.mp hroom)⟩
  · exact ⟨fun hmem => hlen (hr _ hmem), .inl (Nat.not_le.mp hlen)⟩

lemma refuses_updateStep (r : RouterEngine) (u : QuarantineUpdate) (h : r.Refuses key) :
    (r.updateStep u).Refuses key := by
  rw [updateStep_eq]
  rcases u.target with _ | ⟨domain, ip, ttl, now⟩
  · exact h
  · dsimp only
    by_cases hacc : r.Accepts domain
    · unfold Refuses
      rw [quarantineMap_setQuarantine hacc]
      obtain ⟨hnew, hfull⟩ := h
      refine ⟨fun hmem => ?_, hfull.imp_right (fun hle => hle.trans (len_le_len_insert _ _ _))⟩
      rcases (AList.mem_insert _).mp hmem with rfl | hmem
      · rcases hfull with hlong | hfull
        · exact absurd hacc.1 (Nat.not_le.mpr hlong)
        · rcases hacc.2 with hroom | hmem
          · omega
          · exact hnew hmem
      · exact hnew hmem
    · rw [setQuarantine_of_not_accepts hacc]
      exact h

lemma boundedDomains_setQuarantine (hr : r.BoundedDomains) (domain ip : String) (ttlSecs : Nat)
    (now : Instant) : (r.setQuarantine domain ip ttlSecs now).BoundedDomains := by
  by_cases hacc : r.Accepts domain
  · unfold BoundedDomains
    rw [quarantineMap_setQuarantine hacc]
    intro key hkey
    rcases (AList.mem_insert _).mp hkey with rfl | hkey
    · exact hacc.1
    · exact hr key hkey
  · rw [setQuarantine_of_not_accepts hacc]
    exact hr

lemma boundedDomains_updateStep (r : RouterEngine) (u : QuarantineUpdate) (hr : r.BoundedDomains) :
    (r.updateStep u).BoundedDomains := by
  rw [updateStep_eq]
  rcases u.target with _ | ⟨domain, ip, ttl, now⟩
  · exact hr
  · exact boundedDomains_setQuarantine hr domain ip ttl now

lemma BoundedDomains.mono {r' : RouterEngine} (hr : r.BoundedDomains)
    (hsub : ∀ key ∈ r'.quarantineMap, key ∈ r.quarantineMap) : r'.BoundedDomains :=
  fun key hkey => hr key (hsub key hkey)

lemma mem_quarantineMap_sweep {now : Instant}
    (h : key ∈ (r.sweepExpiredAt now).2.quarantineMap) : key ∈ r.quarantineMap := by
  rw [quarantineMap_sweep] at h
  exact mem_of_mem_mapVal (mem_of_mem_retain h)

lemma mem_quarantineMap_remove {domain : String}
    (h : key ∈ (r.removeQuarantine domain ip).2.quarantineMap) : key ∈ r.quarantineMap := by
  rcases removeQuarantine_cases r domain ip with
    ⟨heq, -⟩ | ⟨inner, -, -, -, heq⟩ | ⟨inner, hinner, -, -, heq⟩
  · rwa [heq] at h
  · rw [heq] at h
    exact (AList.mem_erase.mp h).2
  · rw [heq] at h
    rcases (AList.mem_insert _).mp h with rfl | hold
    · exact mem_of_lookup hinner
    · exact hold

lemma boundedDomains_step (r : RouterEngine) (op : RouterOp) (hr : r.BoundedDomains) :
    (r.step op).BoundedDomains := by
  by_cases hwrite : op.writesPool = true
  · exact hr.mono (fun key hkey => (tables_writer r op hwrite).2 ▸ hkey)
  · cases op with
    | setQuarantine domain ip ttlSecs now =>
      exact boundedDomains_setQuarantine hr domain ip ttlSecs now
    | removeQuarantine domain ip => exact hr.mono (fun _ => mem_quarantineMap_remove)
    | sweepExpired now => exact hr.mono (fun _ => mem_quarantineMap_sweep)
    | select spec excluded now draw =>
      exact hr.mono (fun key hkey =>
        quarantineMap_selectNodeExcluding spec excluded now draw ▸ hkey)
    | reloadNodes | replaceVendorNodes | addNode | removeNode | adjustVendorWeight
    | setPaidWeightBoost | scaleVendorWeights => exact absurd rfl hwrite

/-- Every table that the operations of the router lead to is bounded. -/
theorem boundedDomains_run (nodes : List ProxyNode) (ops : List RouterOp) :
    (run step (.new nodes) ops).BoundedDomains :=
  run_invariant boundedDomains_step (fun key hkey => absurd hkey (AList.notMem_empty key)) ops

/-- A table that holds the latest expiries has refused no update. -/
lemma HoldsLatest.takesIn {us : List QuarantineUpdate} (hr : r.BoundedDomains)
    (h : r.HoldsLatest us) : Along updateStep TakesIn r us := by
  rw [along_iff_positions]
  rintro pre u ⟨post, rfl⟩ ⟨domain, ip, ttl, now⟩ ht
  by_contra hacc
  have hbounded := run_invariant boundedDomains_updateStep hr pre
  have hrefuses : (run updateStep r (pre ++ [u] ++ post)).Refuses (normalizeDomain domain) := by
    rw [List.append_assoc, run_append]
    exact run_invariant refuses_updateStep (refuses_of_not_accepts hbounded hacc) _
  have hmem : ((normalizeDomain domain, ip), quarantineExpiry now ttl) ∈
      (pre ++ [u] ++ post).filterMap QuarantineUpdate.write := by
    rw [List.mem_filterMap]
    exact ⟨u, by simp, by simp [QuarantineUpdate.write, Option.mem_def.mp ht]⟩
  have hexp : quarantineExpiry now ttl ∈
      expiriesFor (pre ++ [u] ++ post) (normalizeDomain domain) ip := by
    exact mem_writesTo hmem
  have hentry := h (normalizeDomain domain) ip (List.ne_nil_of_mem hexp)
  have hnone : (run updateStep r (pre ++ [u] ++ post)).quarantineEntry (normalizeDomain domain) ip =
      none := by
    unfold quarantineEntry
    rw [AList.lookup_eq_none.mpr hrefuses.1]
    rfl
  rw [hnone] at hentry
  exact List.ne_nil_of_mem hexp (List.max?_eq_none_iff.mp hentry.symm)

/-! ### The last and the latest -/

theorem holdsLatest_iff {us : List QuarantineUpdate} (hr : r.BoundedDomains) :
    r.HoldsLatest us ↔ r.LastIsLatest us := by
  constructor
  · intro h
    have htakes := h.takesIn hr
    refine ⟨htakes, fun key ip => ?_⟩
    by_cases hnil : expiriesFor us key ip = []
    · rw [hnil]
      exact fun last hlast => absurd hlast (by simp)
    · have hentry := h key ip hnil
      rw [quarantineEntry_updates htakes] at hentry
      rw [← getLast?_eq_max?_iff, ← hentry]
      rcases hlast : (expiriesFor us key ip).getLast? with _ | last
      · exact absurd (List.getLast?_eq_none_iff.mp hlast) hnil
      · rfl
  · intro h key ip hne
    rw [quarantineEntry_updates h.takesIn, (getLast?_eq_max?_iff _).mpr (h.latest key ip)]
    rcases hmax : (expiriesFor us key ip).max? with _ | m
    · exact absurd (List.max?_eq_none_iff.mp hmax) hne
    · rfl

lemma expiriesFor_perm {us vs : List QuarantineUpdate} (h : us.Perm vs) (key ip : String) :
    (expiriesFor us key ip).Perm (expiriesFor vs key ip) :=
  writesTo_perm _ (h.filterMap _)

end RouterEngine

/-- For every two tables and every collection of updates, processed in any two orders: each entry
holds the latest expiry and the instances agree exactly when, in both orders, every update is taken
in and the last one of each entry is its latest. -/
theorem updates_commute_iff {r₁ r₂ : RouterEngine} {us vs : List QuarantineUpdate}
    (hperm : us.Perm vs) (h₁ : r₁.BoundedDomains) (h₂ : r₂.BoundedDomains) :
    r₁.UpdatesCommute r₂ us vs ↔ r₁.LastIsLatest us ∧ r₂.LastIsLatest vs := by
  constructor
  · intro h
    exact ⟨(RouterEngine.holdsLatest_iff h₁).mp h.first,
      (RouterEngine.holdsLatest_iff h₂).mp h.second⟩
  · rintro ⟨hlast₁, hlast₂⟩
    have hfirst := (RouterEngine.holdsLatest_iff h₁).mpr hlast₁
    have hsecond := (RouterEngine.holdsLatest_iff h₂).mpr hlast₂
    refine ⟨hfirst, hsecond, fun key ip hcase => ?_⟩
    have hexp := RouterEngine.expiriesFor_perm hperm key ip
    by_cases hnil : expiriesFor us key ip = []
    · have hnil' : expiriesFor vs key ip = [] := by
        rw [hnil] at hexp
        exact hexp.nil_eq.symm
      rw [RouterEngine.quarantineEntry_updates hlast₁.takesIn,
        RouterEngine.quarantineEntry_updates hlast₂.takesIn, hnil, hnil']
      exact hcase.resolve_left (fun hne => hne hnil)
    · have hnil' : expiriesFor vs key ip ≠ [] := fun he => hnil (by
        rw [he] at hexp
        exact hexp.eq_nil)
      rw [hfirst key ip hnil, hsecond key ip hnil', max?_perm hexp]

/-- Updates of three domains in the order of their expiries, two of which expire together. -/
theorem updates_commute_in_order :
    (RouterEngine.new []).UpdatesCommute (.new [])
      [.processEntry ⟨"b.com", "10.0.0.9", 502⟩ 0, .applyDelta "QUARANTINE|c.com|10.0.0.9|30" 0,
        .applyQuarantine "a.com" "10.0.0.9" 60 0, .processEntry ⟨"a.com", "10.0.0.9", 403⟩ 0]
      [.applyDelta "QUARANTINE|c.com|10.0.0.9|30" 0, .processEntry ⟨"b.com", "10.0.0.9", 502⟩ 0,
        .applyQuarantine "a.com" "10.0.0.9" 60 0, .processEntry ⟨"a.com", "10.0.0.9", 403⟩ 0] := by
  have hbounded := RouterEngine.boundedDomains_run [] []
  refine (updates_commute_iff (List.Perm.swap _ _ _) hbounded hbounded).mpr ⟨⟨?_, ?_⟩, ⟨?_, ?_⟩⟩
  · decide
  · exact fun key ip => latestLast_writesTo (by decide)
  · decide
  · exact fun key ip => latestLast_writesTo (by decide)

/-- The 60 s of a later 429 replace what is left of the 600 s of a 403. -/
theorem soft_isolation_shortens_deep :
    ¬(RouterEngine.new []).UpdatesCommute (.new [])
      [.processEntry ⟨"a.com", "10.0.0.9", 403⟩ 0,
        .processEntry ⟨"a.com", "10.0.0.9", 429⟩ (fromSecs 10)]
      [.processEntry ⟨"a.com", "10.0.0.9", 429⟩ (fromSecs 10),
        .processEntry ⟨"a.com", "10.0.0.9", 403⟩ 0] := by
  intro h
  have hentry := h.first "a.com" "10.0.0.9" (by decide)
  revert hentry
  decide

end IPProxyPool
