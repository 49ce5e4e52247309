import IPProxyPool.Proofs.QuarantineKey

/-!
# Sweeping expired entries

A sweep drops the sessions and quarantines that no read at its instant or later would honour. Reads
apply the same expiry tests, so a sweep is seen in the returned counts and in the sizes of the
tables only.
-/

namespace IPProxyPool
open RustText AssocTable

namespace RouterEngine

/-- The quarantined addresses of `r` that `r'` holds no entry of, counted over all domains. -/
def removedQuarantines (r r' : RouterEngine) : Nat :=
  (r.quarantineMap.entries.map (fun e =>
    (e.2.keys.filter (fun ip => r'.quarantineEntry e.1 ip = none)).length)).sum

def removedSessions (r r' : RouterEngine) : Nat :=
  (r.sessionStore.keys.filter (fun key => key ∉ r'.sessionStore)).length

/-- Reads at an instant give the same results on both routers. -/
structure SameReads (r r' : RouterEngine) (t : Instant) : Prop where
  sticky : ∀ spec excluded, r'.stickyNode spec excluded t = r.stickyNode spec excluded t
  quarantined : ∀ domain ip,
    r'.isQuarantinedNormalized domain ip t = r.isQuarantinedNormalized domain ip t
  node_quarantined : ∀ node domain,
    r'.isNodeQuarantined node domain t = r.isNodeQuarantined node domain t
  scan : ∀ spec excluded, r'.scan spec excluded t = r.scan spec excluded t
  healthy : ∀ spec excluded, r'.getHealthyCandidatesExcluding spec excluded t =
    r.getHealthyCandidatesExcluding spec excluded t
  bucket : ∀ key spec excluded, r'.bucketScan key spec excluded t = r.bucketScan key spec excluded t

/-- The sweep at `now` changes no read from then on, reports what it removed, leaves no domain
without an address and nothing for a second sweep. -/
structure SweepUnobservable (r : RouterEngine) (now : Instant) : Prop where
  reads : ∀ t, now ≤ t → r.SameReads (r.sweepExpiredAt now).2 t
  counts : (r.sweepExpiredAt now).1 =
    (r.removedSessions (r.sweepExpiredAt now).2, r.removedQuarantines (r.sweepExpiredAt now).2)
  nonempty : ∀ domain inner, (r.sweepExpiredAt now).2.quarantineMap.lookup domain = some inner →
    inner.entries ≠ []
  second : (r.sweepExpiredAt now).2.sweepExpiredAt now = ((0, 0), (r.sweepExpiredAt now).2)

variable {r : RouterEngine} {now t : Instant}

/-! ### Reads after the sweep -/

lemma isQuarantinedNormalized_sweep (ht : now ≤ t) (domain ip : String) :
    (r.sweepExpiredAt now).2.isQuarantinedNormalized domain ip t =
      r.isQuarantinedNormalized domain ip t := by
  rw [isQuarantinedNormalized_eq, isQuarantinedNormalized_eq, quarantineEntry_swept]
  rcases r.quarantineEntry domain ip with _ | expiry
  · rfl
  · by_cases hlive : now < expiry
    · rw [Option.filter_some, if_pos (by simpa using hlive)]
    · have hover : ¬t < expiry := Nat.not_lt.mpr ((Nat.not_lt.mp hlive).trans ht)
      simp [Option.filter_some, hlive, hover]

lemma isNodeQuarantined_sweep (ht : now ≤ t) (node : ProxyNode) (domain : String) :
    (r.sweepExpiredAt now).2.isNodeQuarantined node domain t =
      r.isNodeQuarantined node domain t := by
  unfold isNodeQuarantined
  simp only [isQuarantinedNormalized_sweep ht]

lemma matchesNode_sweep (ht : now ≤ t) (node : ProxyNode) (spec : RoutingSpec) :
    (r.sweepExpiredAt now).2.matchesNode node spec t = r.matchesNode node spec t :=
  matchesNode_congr (isNodeQuarantined_sweep ht node spec.targetDomain)

lemma secsSince_le (ht : now ≤ t) (createdAt : Instant) :
    secsSince now createdAt ≤ secsSince t createdAt :=
  Nat.div_le_div_right (Nat.sub_le_sub_right ht createdAt)

lemma stickyAccepts_sweep (ht : now ≤ t) (spec : RoutingSpec) (excluded : List String)
    (node : ProxyNode) (createdAt : Instant) :
    (r.sweepExpiredAt now).2.stickyAccepts spec excluded t node createdAt =
      r.stickyAccepts spec excluded t node createdAt := by
  have hpools : (r.sweepExpiredAt now).2.pools = r.pools := rfl
  unfold stickyAccepts
  rw [hpools, isNodeQuarantined_sweep ht]

lemma stickyAccepts_unexpired {spec : RoutingSpec} {excluded : List String} {node : ProxyNode}
    {createdAt : Instant} (h : r.stickyAccepts spec excluded t node createdAt = true) :
    secsSince t createdAt < sessionTtlSecs := by
  unfold stickyAccepts at h
  simp only [Bool.and_eq_true, decide_eq_true_eq] at h
  exact h.1.1.1.1.2

lemma stickyNode_sweep (ht : now ≤ t) (spec : RoutingSpec) (excluded : List String) :
    (r.sweepExpiredAt now).2.stickyNode spec excluded t = r.stickyNode spec excluded t := by
  ext n
  simp only [stickyNode_eq_some_iff, stickyAccepts_sweep ht]
  refine exists_congr (fun createdAt => and_congr_left (fun hacc => ?_))
  -- a binding that is honoured at `t` had not expired at `now`
  have hlive : secsSince now createdAt < sessionTtlSecs :=
    (secsSince_le ht createdAt).trans_lt (stickyAccepts_unexpired hacc)
  unfold sessionBinding
  rcases spec.sessionId with _ | sessionId
  · rfl
  · dsimp only
    split
    · rw [sessionStore_sweep, lookup_retain, Option.filter_eq_some_iff]
      exact ⟨And.left, fun h => ⟨h, by simpa using hlive⟩⟩
    · rfl

lemma sameReads_sweep (ht : now ≤ t) : r.SameReads (r.sweepExpiredAt now).2 t := by
  have hpools : (r.sweepExpiredAt now).2.pools = r.pools := rfl
  have hbuckets : (r.sweepExpiredAt now).2.buckets = r.buckets := rfl
  have hscan : ∀ spec excluded,
      (r.sweepExpiredAt now).2.scan spec excluded t = r.scan spec excluded t := by
    intro spec excluded
    simp only [scan, hpools, matchesNode_sweep ht]
  refine ⟨stickyNode_sweep ht, isQuarantinedNormalized_sweep ht, isNodeQuarantined_sweep ht, hscan,
    fun spec excluded => hscan _ _, fun key spec excluded => ?_⟩
  simp only [bucketScan, hbuckets, matchesNode_sweep ht]

/-! ### The returned counts -/

lemma removedSessions_sweep (r : RouterEngine) (now : Instant) :
    r.removedSessions (r.sweepExpiredAt now).2 = (r.sweepExpiredAt now).1.1 :=
  length_removed_keys _ r.sessionStore

lemma length_removed_addresses {e : (_ : String) × Table String Instant}
    (he : e ∈ r.quarantineMap.entries) :
    (e.2.keys.filter (fun ip => (r.sweepExpiredAt now).2.quarantineEntry e.1 ip = none)).length =
      len e.2 - len (unexpired now e.2) := by
  rw [← length_removed_keys]
  congr 1
  apply List.filter_congr
  intro ip _
  have hentry : r.quarantineEntry e.1 ip = e.2.lookup ip := by
    unfold quarantineEntry
    rw [(mem_entries_iff r.quarantineMap e.1 e.2).mp he]
    rfl
  rw [decide_eq_decide, quarantineEntry_swept, hentry, ← AList.lookup_eq_none, lookup_retain]

lemma sum_filter_of_zero {β : Type} (p : β → Bool) (f : β → Nat) (l : List β)
    (h : ∀ b, p b = false → f b = 0) : ((l.filter p).map f).sum = (l.map f).sum := by
  induction l with
  | nil => rfl
  | cons b l ih =>
    rw [List.map_cons, List.sum_cons, ← ih]
    by_cases hp : p b = true
    · rw [List.filter_cons_of_pos hp, List.map_cons, List.sum_cons]
    · rw [List.filter_cons_of_neg hp, h b (by simpa using hp), Nat.zero_add]

lemma quarantineLen_sweep (r : RouterEngine) (now : Instant) :
    (r.sweepExpiredAt now).2.quarantineLen =
      (r.quarantineMap.entries.map (fun e => len (unexpired now e.2))).sum := by
  unfold quarantineLen values
  rw [quarantineMap_sweep, List.map_map]
  change (((r.quarantineMap.entries.map (fun e =>
    (⟨e.1, unexpired now e.2⟩ : (_ : String) × Table String Instant))).filter
      (fun e => !e.2.entries.isEmpty)).map (fun e => len e.2)).sum = _
  rw [sum_filter_of_zero, List.map_map]
  · rfl
  · intro e he
    rw [Bool.not_eq_false', List.isEmpty_iff] at he
    rw [len, he, List.length_nil]

lemma removedQuarantines_sweep (r : RouterEngine) (now : Instant) :
    r.removedQuarantines (r.sweepExpiredAt now).2 = (r.sweepExpiredAt now).1.2 := by
  have hbefore : r.quarantineLen = (r.quarantineMap.entries.map (fun e =>
      (len e.2 - len (unexpired now e.2)) + len (unexpired now e.2))).sum := by
    unfold quarantineLen values
    rw [List.map_map]
    congr 1
    apply List.map_congr_left
    intro e _
    exact (Nat.sub_add_cancel (List.length_filter_le _ _)).symm
  have hremoved : r.removedQuarantines (r.sweepExpiredAt now).2 =
      (r.quarantineMap.entries.map (fun e => len e.2 - len (unexpired now e.2))).sum := by
    unfold removedQuarantines
    congr 1
    exact List.map_congr_left (fun e he => length_removed_addresses he)
  change _ = r.quarantineLen - (r.sweepExpiredAt now).2.quarantineLen
  rw [hremoved, hbefore, quarantineLen_sweep, List.sum_map_add, Nat.add_sub_cancel_right]

/-! ### No empty domain, and a second sweep -/

lemma entries_ne_nil_of_sweep {domain : String} {inner : Table String Instant}
    (h : (r.sweepExpiredAt now).2.quarantineMap.lookup domain = some inner) :
    inner.entries ≠ [] := by
  intro hnil
  rw [quarantineMap_sweep, lookup_retain, Option.filter_eq_some_iff] at h
  simp [hnil] at h

lemma sweepExpiredAt_idem (r : RouterEngine) (now : Instant) :
    (r.sweepExpiredAt now).2.sweepExpiredAt now = ((0, 0), (r.sweepExpiredAt now).2) := by
  have hsessions : ((r.sweepExpiredAt now).2.sweepExpiredAt now).2.sessionStore =
      (r.sweepExpiredAt now).2.sessionStore := by
    rw [sessionStore_sweep, sessionStore_sweep, retain_retain]
  have hmap : mapVal (fun _ inner => unexpired now inner) (r.sweepExpiredAt now).2.quarantineMap =
      (r.sweepExpiredAt now).2.quarantineMap := by
    apply mapVal_eq_self
    intro e he
    rw [quarantineMap_sweep] at he
    obtain ⟨e', -, rfl⟩ := List.mem_map.mp (List.mem_filter.mp he).1
    exact retain_retain _ _
  have hquarantines : ((r.sweepExpiredAt now).2.sweepExpiredAt now).2.quarantineMap =
      (r.sweepExpiredAt now).2.quarantineMap := by
    rw [quarantineMap_sweep, hmap, quarantineMap_sweep, retain_retain]
  have hcounts : ((r.sweepExpiredAt now).2.sweepExpiredAt now).1 = (0, 0) := by
    change (len (r.sweepExpiredAt now).2.sessionStore -
        len ((r.sweepExpiredAt now).2.sweepExpiredAt now).2.sessionStore,
      (r.sweepExpiredAt now).2.quarantineLen -
        ((r.sweepExpiredAt now).2.sweepExpiredAt now).2.quarantineLen) = (0, 0)
    unfold quarantineLen
    rw [hsessions, hquarantines, Nat.sub_self, Nat.sub_self]
  have hscales : ((r.sweepExpiredAt now).2.sweepExpiredAt now).2.freeScale =
      (r.sweepExpiredAt now).2.freeScale :=
    retain_retain (fun k _ => k ∈ r.pools.map (fun n : ProxyNode => scaleKey n.provider n.country))
      r.freeScale
  refine Prod.ext hcounts ?_
  exact (RouterEngine.mk.injEq ..).mpr
    ⟨rfl, hsessions, hquarantines, hscales, rfl, rfl, rfl⟩

end RouterEngine

/-- In every state, a sweep changes no sticky lookup, quarantine query or candidate list from its
instant on, returns the numbers of sessions and addresses it removed, leaves no empty domain, and a
second sweep finds nothing. -/
theorem sweep_unobservable (r : RouterEngine) (now : Instant) : r.SweepUnobservable now := by
  refine ⟨fun t ht => RouterEngine.sameReads_sweep ht, ?_, ?_, RouterEngine.sweepExpiredAt_idem r now⟩
  · rw [RouterEngine.removedSessions_sweep, RouterEngine.removedQuarantines_sweep]
  · exact fun _ _ hlook => RouterEngine.entries_ne_nil_of_sweep hlook

end IPProxyPool
