import IPProxyPool.Proofs.Indexes

/-!
# The bucket fast path and the full scan

A request that fixes tier, country and protocol is served from one bucket of the index, found
under the exact strings of the request; the scan it replaces compares countries without regard
to case. The two draw from the same list exactly when no node in reach spells the country
differently. Before either of them the session of the request may answer, with the node as it was
bound; that answer is right exactly when there is a candidate at all.
-/

namespace IPProxyPool
open RustText AssocTable Transition

def fullSpec (tier country : String) (proto : EgressProto) (sessionId : Option String)
    (targetDomain : String) : RoutingSpec :=
  ⟨some country, sessionId, some tier, targetDomain, some proto⟩

namespace RouterEngine

/-- The list the fast path draws from, looked up under the canonical tier. -/
def fastDraws (r : RouterEngine) (tier country : String) (proto : EgressProto)
    (sessionId : Option String) (targetDomain : String) (excluded : List String)
    (now : Instant) : List ProxyNode :=
  (r.bucketScan ⟨canonicalTier tier, country, some proto⟩
    (canonicalSpec (fullSpec tier country proto sessionId targetDomain)) excluded now).getD []

/-- The fast path draws from the list that the scan would draw from, and a selection succeeds
exactly when there is a healthy candidate. -/
def FastPathIsScan (r : RouterEngine) (tier country : String) (proto : EgressProto)
    (sessionId : Option String) (targetDomain : String) (excluded : List String)
    (now : Instant) : Prop :=
  let spec := fullSpec tier country proto sessionId targetDomain
  r.fastDraws tier country proto sessionId targetDomain excluded now =
      r.scan (canonicalSpec spec) excluded now ∧
    ∀ draw, ((r.selectNodeExcluding spec excluded now draw).1.isSome ↔
      r.getHealthyCandidatesExcluding spec excluded now ≠ [])

/-- Every node the scan finds spells its country as the request does. -/
def CountrySpeltAlike (r : RouterEngine) (tier country : String) (proto : EgressProto)
    (sessionId : Option String) (targetDomain : String) (excluded : List String)
    (now : Instant) : Prop :=
  ∀ n ∈ r.pools, n.addr ∉ excluded →
    r.matchesNode n (canonicalSpec (fullSpec tier country proto sessionId targetDomain)) now →
    n.country = country

/-- A session binding that passes the checks of the sticky path leaves a node to be found. -/
def BoundWithCandidate (r : RouterEngine) (tier country : String) (proto : EgressProto)
    (sessionId : Option String) (targetDomain : String) (excluded : List String)
    (now : Instant) : Prop :=
  let spec := canonicalSpec (fullSpec tier country proto sessionId targetDomain)
  ∀ node createdAt, r.sessionBinding spec = some (node, createdAt) →
    r.stickyAccepts spec excluded now node createdAt →
    ∃ n ∈ r.pools, n.addr ∉ excluded ∧ r.matchesNode n spec now

variable {r : RouterEngine} {tier country : String} {proto : EgressProto}
  {sessionId : Option String} {targetDomain : String} {excluded : List String} {now : Instant}

lemma bucketScan_getD (h : r.WellIndexed) (key : BucketKey) (spec : RoutingSpec) :
    (r.bucketScan key spec excluded now).getD [] =
      (bucketMembers r.pools key).filter
        (fun n => n.addr ∉ excluded && r.matchesNode n spec now) := by
  unfold bucketScan
  rw [h.1, lookup_buildBuckets]
  split
  · rename_i hnil
    simp [hnil]
  · simp

/-- The fast path keeps, of the nodes the scan finds, those with the country spelt exactly. -/
lemma fastDraws_eq_filter (h : r.WellIndexed) :
    r.fastDraws tier country proto sessionId targetDomain excluded now =
      (r.scan (canonicalSpec (fullSpec tier country proto sessionId targetDomain))
        excluded now).filter (fun n => n.country = country) := by
  unfold fastDraws scan
  rw [bucketScan_getD h]
  simp only [bucketMembers, List.filter_filter]
  apply List.filter_congr
  intro n _
  -- on a matching node the bucket key can only differ in the spelling of the country
  cases hm : r.matchesNode n
      (canonicalSpec (fullSpec tier country proto sessionId targetDomain)) now with
  | false => simp
  | true =>
    have hs := (matchesNode_iff r n _ now).mp hm
    have htier : n.tier = canonicalTier tier := hs.tier_eq _ rfl
    have hproto : n.proto = proto := hs.proto_eq
    have hpos := hs.weight_pos
    simp only [bucketKeyOf, BucketKey.mk.injEq, htier, hproto, hpos, decide_true, true_and,
      and_true, Bool.true_and, Bool.and_true]
    exact Bool.and_comm _ _

lemma fastDraws_eq_scan_iff (h : r.WellIndexed) :
    r.fastDraws tier country proto sessionId targetDomain excluded now =
        r.scan (canonicalSpec (fullSpec tier country proto sessionId targetDomain)) excluded now ↔
      r.CountrySpeltAlike tier country proto sessionId targetDomain excluded now := by
  rw [fastDraws_eq_filter h, List.filter_eq_self]
  constructor
  · intro hall n hn hex hm
    simpa using hall n ((mem_scan_iff r _ excluded now n).mpr ⟨hn, hex, hm⟩)
  · intro hall n hn
    obtain ⟨hp, hex, hm⟩ := (mem_scan_iff r _ excluded now n).mp hn
    simpa using hall n hp hex hm

lemma stickyNode_eq_some_iff {spec : RoutingSpec} (n : ProxyNode) :
    r.stickyNode spec excluded now = some n ↔
      ∃ createdAt, r.sessionBinding spec = some (n, createdAt) ∧
        r.stickyAccepts spec excluded now n createdAt = true := by
  unfold stickyNode
  cases r.sessionBinding spec with
  | none => simp
  | some b =>
    obtain ⟨node, createdAt⟩ := b
    by_cases hacc : r.stickyAccepts spec excluded now node createdAt = true
    · simp only [hacc, if_true, Option.some.injEq, Prod.mk.injEq]
      constructor
      · rintro rfl
        exact ⟨createdAt, ⟨rfl, rfl⟩, hacc⟩
      · rintro ⟨_, ⟨rfl, -⟩, -⟩
        rfl
    · simp only [hacc, if_false, reduceCtorEq, Option.some.injEq, Prod.mk.injEq, false_iff,
        not_exists]
      rintro t ⟨⟨rfl, rfl⟩, h⟩
      exact hacc h

lemma scan_ne_nil_iff {spec : RoutingSpec} :
    r.scan spec excluded now ≠ [] ↔
      ∃ n ∈ r.pools, n.addr ∉ excluded ∧ r.matchesNode n spec now := by
  rw [ne_eq, List.eq_nil_iff_forall_not_mem, not_forall]
  simp only [not_not, mem_scan_iff]

lemma selectNodeExcluding_full_isSome_iff
    (hs : r.stickyNode (canonicalSpec (fullSpec tier country proto sessionId targetDomain))
      excluded now = none) (draw : Nat) :
    (r.selectNodeExcluding (fullSpec tier country proto sessionId targetDomain)
        excluded now draw).1.isSome ↔
      r.fastDraws tier country proto sessionId targetDomain excluded now ≠ [] := by
  have hfresh : (r.selectNodeExcluding (fullSpec tier country proto sessionId targetDomain)
      excluded now draw).1 = r.selectFromBucket ⟨canonicalTier tier, country, some proto⟩ excluded
        (canonicalSpec (fullSpec tier country proto sessionId targetDomain)) now draw := by
    unfold selectNodeExcluding
    simp only [hs]
    rfl
  rw [hfresh, selectFromBucket, fastDraws]
  cases r.bucketScan ⟨canonicalTier tier, country, some proto⟩
      (canonicalSpec (fullSpec tier country proto sessionId targetDomain)) excluded now with
  | none => simp
  | some l => simpa using pickWeightedStreaming_isSome_iff l draw

/-- Where the two lists agree, a selection fails to tell whether there is a candidate only by
answering from a binding that has none. -/
lemma selects_iff_candidate_iff
    (hlist : r.fastDraws tier country proto sessionId targetDomain excluded now =
      r.scan (canonicalSpec (fullSpec tier country proto sessionId targetDomain)) excluded now) :
    (∀ draw, ((r.selectNodeExcluding (fullSpec tier country proto sessionId targetDomain)
          excluded now draw).1.isSome ↔
        r.getHealthyCandidatesExcluding (fullSpec tier country proto sessionId targetDomain)
          excluded now ≠ [])) ↔
      r.BoundWithCandidate tier country proto sessionId targetDomain excluded now := by
  constructor
  · intro hall node createdAt hbind hacc
    have hsticky := (stickyNode_eq_some_iff node).mpr ⟨createdAt, hbind, hacc⟩
    have hsome : (r.selectNodeExcluding (fullSpec tier country proto sessionId targetDomain)
        excluded now 0).1.isSome := by
      unfold selectNodeExcluding
      simp only [hsticky, Option.isSome_some]
    exact scan_ne_nil_iff.mp ((hall 0).mp hsome)
  · intro hbound draw
    cases hsticky : r.stickyNode
        (canonicalSpec (fullSpec tier country proto sessionId targetDomain)) excluded now with
    | none =>
      rw [selectNodeExcluding_full_isSome_iff hsticky draw, hlist]
      rfl
    | some node =>
      obtain ⟨createdAt, hbind, hacc⟩ := (stickyNode_eq_some_iff node).mp hsticky
      have hcandidate := scan_ne_nil_iff.mpr (hbound node createdAt hbind hacc)
      unfold selectNodeExcluding
      simp only [hsticky, Option.isSome_some, true_iff]
      exact hcandidate

end RouterEngine

/-- For every pool reached by any sequence of operations and every quarantine and session table,
the fast path of a fully specified request equals the scan if and only if every node in its
reach spells the country exactly as the request does and the session of the request is not
answered without a candidate. -/
theorem fast_path_is_scan_iff (initial : List ProxyNode) (ops : List RouterOp)
    (quarantineMap : Table String (Table String Instant))
    (sessionStore : Table String (ProxyNode × Instant)) (tier country : String)
    (proto : EgressProto) (sessionId : Option String) (targetDomain : String)
    (excluded : List String) (now : Instant) :
    let r := { run RouterEngine.step (.new initial) ops with
      quarantineMap := quarantineMap, sessionStore := sessionStore }
    r.FastPathIsScan tier country proto sessionId targetDomain excluded now ↔
      r.CountrySpeltAlike tier country proto sessionId targetDomain excluded now ∧
        r.BoundWithCandidate tier country proto sessionId targetDomain excluded now := by
  intro r
  have hwell : r.WellIndexed := (RouterEngine.wellIndexed_run initial ops).of_eq rfl rfl rfl
  constructor
  · rintro ⟨hlist, hsome⟩
    exact ⟨(RouterEngine.fastDraws_eq_scan_iff hwell).mp hlist,
      (RouterEngine.selects_iff_candidate_iff hlist).mp hsome⟩
  · rintro ⟨hspelt, hbound⟩
    have hlist := (RouterEngine.fastDraws_eq_scan_iff hwell).mpr hspelt
    exact ⟨hlist, (RouterEngine.selects_iff_candidate_iff hlist).mpr hbound⟩

/-- One node in `US`, requested as `us`: the scan finds it and the bucket lookup does not. -/
def upperCasePool : List ProxyNode :=
  [.new "10.0.0.1" 8080 none none "US" "residential" "mock-a" 100]

theorem fast_path_misses_lower_case_country :
    ¬(RouterEngine.new upperCasePool).FastPathIsScan "res" "us" .http none "example.com" [] 0 := by
  rintro ⟨hlist, -⟩
  revert hlist
  decide

end IPProxyPool
