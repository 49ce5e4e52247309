import IPProxyPool.Model.Bandit
import IPProxyPool.Model.Headers
import IPProxyPool.Proofs.Sticky

/-!
# Agreement of the two selection paths

The weighted path normalises the tier and the domain of a request on entry; the stateless path
matches the request as it was parsed. The two filter the pool alike exactly when normalising
changes nothing.
-/

namespace IPProxyPool
open RustText AssocTable SlidingWindow

/-- A request that the normalisation of the weighted path leaves as it is. -/
def CanonicalRequest (spec : RoutingSpec) : Prop :=
  (∀ t, spec.tier = some t → canonicalTier t = t) ∧ StableDomain spec.targetDomain

/-- A router with the given pool and quarantine table, and no session bound. -/
def RouterEngine.withQuarantines (pool : List ProxyNode)
    (quarantineMap : Table String (Table String Instant)) : RouterEngine :=
  { RouterEngine.new pool with quarantineMap := quarantineMap }

/-- Over every pool and quarantine table, whatever the arms, the window and the scores are, the
stateless path picks a node exactly when the weighted path has a candidate, picks one of these
candidates, and picks a node whenever the weighted path serves a session. -/
def PathsAgree (spec : RoutingSpec) : Prop :=
  ∀ (pool : List ProxyNode) (quarantineMap : Table String (Table String Instant))
    (arms : Table String BanditArm) (window : Window String tierQuotaWindowLen) (selections : Nat)
    (ucb : BanditArm → VectorD → Nat → ℚ) (excluded : List String) (context : VectorD)
    (now : Instant),
    let r := RouterEngine.withQuarantines pool quarantineMap
    let picked := (SmartProxyGateway.selectBanditNodeExcluding ⟨r, arms, window, selections⟩
      ucb spec excluded context now).1
    (picked.isSome ↔ r.getHealthyCandidatesExcluding spec excluded now ≠ []) ∧
      (∀ n, picked = some n → n ∈ r.getHealthyCandidatesExcluding spec excluded now) ∧
      ∀ sessionId draw,
        (r.selectNodeExcluding { spec with sessionId := some sessionId } excluded now draw).1.isSome →
        picked.isSome

lemma canonicalSpec_eq_self {spec : RoutingSpec} (h : CanonicalRequest spec) :
    canonicalSpec spec = spec := by
  rcases spec with ⟨country, sessionId, tier, targetDomain, proto⟩
  have hdom : normalizeDomain targetDomain = targetDomain := h.2
  have htier : tier.map canonicalTier = tier := by
    cases tier with
    | none => rfl
    | some t => exact congrArg some (h.1 t rfl)
  simp only [canonicalSpec, htier, hdom]

namespace RouterEngine

variable {pool : List ProxyNode} {quarantineMap : Table String (Table String Instant)}
  {spec : RoutingSpec} {excluded : List String} {now : Instant}

lemma withQuarantines_serves {sessionId : String} {draw : Nat}
    (h : ((withQuarantines pool quarantineMap).selectNodeExcluding
      { spec with sessionId := some sessionId } excluded now draw).1.isSome) :
    (withQuarantines pool quarantineMap).getHealthyCandidatesExcluding spec excluded now ≠ [] := by
  have hwell : (withQuarantines pool quarantineMap).WellIndexed :=
    (wellIndexed_new pool).of_eq rfl rfl rfl
  obtain ⟨n, hn⟩ := Option.isSome_iff_exists.mp h
  rcases selectNodeExcluding_cases hwell hn with hsticky | ⟨-, hscan⟩
  · obtain ⟨createdAt, hbind, -⟩ := (stickyNode_eq_some_iff n).mp hsticky
    simp [sessionBinding, withQuarantines, new, canonicalSpec] at hbind
  · exact List.ne_nil_of_mem hscan

end RouterEngine

lemma pathsAgree_of_canonical {spec : RoutingSpec} (h : CanonicalRequest spec) :
    PathsAgree spec := by
  intro pool quarantineMap arms window selections ucb excluded context now r picked
  have hscan : r.getHealthyCandidatesExcluding spec excluded now = r.scan spec excluded now := by
    rw [RouterEngine.getHealthyCandidatesExcluding, canonicalSpec_eq_self h]
  have hiff : picked.isSome ↔ r.getHealthyCandidatesExcluding spec excluded now ≠ [] := by
    rw [hscan]
    exact SmartProxyGateway.selectBandit_isSome_iff
  refine ⟨hiff, fun n hn => ?_, fun sessionId draw hserved => ?_⟩
  · rw [hscan]
    exact SmartProxyGateway.selectBandit_mem hn
  · exact hiff.mpr (RouterEngine.withQuarantines_serves hserved)

/-! ### Requests on which the paths differ -/

/-- A node that meets every directive of a request, built as the sources build theirs. -/
def servingNode (spec : RoutingSpec) : ProxyNode :=
  (ProxyNode.new "203.0.113.1" 8080 none none (spec.country.getD "us") (spec.tier.getD "residential")
    "mock-a" 1).withProto (spec.proto.getD .http)

lemma servingNode_serves {r : RouterEngine} {spec : RoutingSpec} {now : Instant}
    (hq : r.isNodeQuarantined (servingNode spec) (canonicalSpec spec).targetDomain now = false) :
    r.matchesNode (servingNode spec) (canonicalSpec spec) now = true := by
  rw [RouterEngine.matchesNode_iff]
  refine ⟨by simp [servingNode, ProxyNode.withProto, ProxyNode.new], rfl, ?_, ?_, hq⟩
  · intro c hc
    have hspec : spec.country = some c := hc
    simp [servingNode, ProxyNode.withProto, ProxyNode.new, hspec]
  · intro t ht
    obtain ⟨raw, hraw, rfl⟩ := Option.map_eq_some_iff.mp ht
    simp [servingNode, ProxyNode.withProto, ProxyNode.new, hraw]

/-- Where the paths agree, a node the weighted path serves is not hidden from the stateless one. -/
lemma PathsAgree.matches_raw {spec : RoutingSpec} (h : PathsAgree spec)
    (quarantineMap : Table String (Table String Instant)) (now : Instant)
    (hq : (RouterEngine.withQuarantines [servingNode spec] quarantineMap).isNodeQuarantined
      (servingNode spec) (canonicalSpec spec).targetDomain now = false) :
    (RouterEngine.withQuarantines [servingNode spec] quarantineMap).matchesNode
      (servingNode spec) spec now = true := by
  have hiff := (h [servingNode spec] quarantineMap ∅ .empty 0 (fun _ _ _ => 0) [] 0 now).1
  have hmem : servingNode spec ∈ (RouterEngine.withQuarantines [servingNode spec]
      quarantineMap).getHealthyCandidatesExcluding spec [] now := by
    refine (RouterEngine.mem_scan_iff _ _ _ _ _).mpr ⟨List.mem_cons_self, by simp, ?_⟩
    exact servingNode_serves hq
  have hpicked := hiff.mpr (List.ne_nil_of_mem hmem)
  have hscan := SmartProxyGateway.selectBandit_isSome_iff.mp hpicked
  obtain ⟨n, hn⟩ := List.exists_mem_of_ne_nil _ hscan
  obtain ⟨hpool, -, hmatch⟩ := (RouterEngine.mem_scan_iff _ _ _ _ _).mp hn
  have hsame : n = servingNode spec := List.mem_singleton.mp hpool
  rwa [hsame] at hmatch

lemma PathsAgree.tier_canonical {spec : RoutingSpec} (h : PathsAgree spec) {t : String}
    (ht : spec.tier = some t) : canonicalTier t = t := by
  have hmatch := h.matches_raw ∅ 0 rfl
  have htier := ((RouterEngine.matchesNode_iff _ _ _ _).mp hmatch).tier_eq t ht
  simpa [servingNode, ProxyNode.withProto, ProxyNode.new, ht] using htier

def singleQuarantine (domain ip : String) (expiry : Instant) : Table String (Table String Instant) :=
  AList.singleton domain (AList.singleton ip expiry)

lemma PathsAgree.domain_stable {spec : RoutingSpec} (h : PathsAgree spec) :
    StableDomain spec.targetDomain := by
  by_contra hne
  -- a quarantine under the parsed domain is seen by the stateless path only
  have hmatch := h.matches_raw (singleQuarantine spec.targetDomain "203.0.113.1" 1) 0 (by
    have hkey : normalizeDomain spec.targetDomain ≠ spec.targetDomain := hne
    simp [RouterEngine.isNodeQuarantined, RouterEngine.isQuarantinedNormalized,
      RouterEngine.withQuarantines, singleQuarantine, canonicalSpec, servingNode,
      ProxyNode.withProto, ProxyNode.new, lookup_singleton_eq, hkey])
  have hq := ((RouterEngine.matchesNode_iff _ _ _ _).mp hmatch).not_quarantined
  simp [RouterEngine.isNodeQuarantined, RouterEngine.isQuarantinedNormalized,
    RouterEngine.withQuarantines, singleQuarantine, servingNode, ProxyNode.withProto,
    ProxyNode.new, lookup_singleton_eq] at hq

/-- For every header map, the two paths agree on the parsed request if and only if its tier is
spelt canonically and normalising its domain once more changes nothing. -/
theorem paths_agree_iff (b64Decode : String → Option (List UInt8)) (header : HeaderMap) :
    PathsAgree (parseRoutingSpec b64Decode header) ↔
      CanonicalRequest (parseRoutingSpec b64Decode header) := by
  constructor
  · intro h
    exact ⟨fun t ht => h.tier_canonical ht, h.domain_stable⟩
  · exact pathsAgree_of_canonical

def shortTierHeader : HeaderMap := [("x-proxy-tier", [114, 101, 115])]

/-- The only residential node is a candidate of that request, and the stateless path picks none. -/
theorem short_tier_not_served : ¬PathsAgree (parseRoutingSpec (fun _ => none) shortTierHeader) := by
  intro h
  have hiff := (h [.new "203.0.113.1" 8080 none none "us" "res" "mock-a" 100] ∅ ∅ .empty 0
    (fun _ _ _ => 0) [] 0 0).1
  revert hiff
  decide

end IPProxyPool
