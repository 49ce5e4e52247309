import IPProxyPool.Model.Admin
import IPProxyPool.Proofs.QuarantineKey

/-!
# Quarantine through the admin API

The handlers write and remove the entry of a node under its country. A selection looks under the
domain of the request, so the quarantine is in force for the requests whose domain is the
normalised country, and for no others.
-/

namespace IPProxyPool
open RustText AssocTable Transition SlidingWindow

namespace RouterEngine

variable {r : RouterEngine} {addr : String} {target : ProxyNode} {key ip : String}

/-- Routers whose entries under a key have the same effect at an instant quarantine the same
nodes. -/
lemma sameQuarantines_of_ips {r' : RouterEngine} {now : Instant}
    (h : ∀ ip, r'.isQuarantinedNormalized key ip now = r.isQuarantinedNormalized key ip now) :
    r.SameQuarantines r' key now := by
  intro node
  unfold isNodeQuarantined
  rw [h]
  cases node.exitIp with
  | none => rfl
  | some exit =>
    dsimp only
    rw [h]

lemma postNodeQuarantineHandler_snd (htarget : r.getNodeByAddr addr = some target) (ttlSecs : Nat)
    (now : Instant) : (postNodeQuarantineHandler r addr (.ok ttlSecs) now).2 =
      r.setQuarantine target.country target.ip ttlSecs now := by
  unfold postNodeQuarantineHandler
  dsimp only
  rw [htarget]

lemma deleteNodeQuarantineHandler_eq (htarget : r.getNodeByAddr addr = some target) :
    deleteNodeQuarantineHandler r addr =
      (.ok (nodeView target), (r.removeQuarantine target.country target.ip).2) := by
  unfold deleteNodeQuarantineHandler
  rw [htarget]

/-- Setting a quarantine and lifting it again changes no answer from then on, if the address was
free. -/
lemma isQuarantinedNormalized_undone {domain : String} (hdomain : normalizeDomain domain ≠ "")
    {t0 now : Instant} (hfree : r.isQuarantinedNormalized (normalizeDomain domain) ip t0 = false)
    (hnow : t0 ≤ now) (ttlSecs : Nat) (key' ip' : String) :
    ((r.setQuarantine domain ip ttlSecs t0).removeQuarantine domain ip).2.isQuarantinedNormalized
      key' ip' now = r.isQuarantinedNormalized key' ip' now := by
  rw [isQuarantinedNormalized_eq, isQuarantinedNormalized_eq]
  by_cases hsame : normalizeDomain domain = key' ∧ ip = ip'
  · obtain ⟨rfl, rfl⟩ := hsame
    rw [quarantineEntry_removeQuarantine hdomain]
    rw [isQuarantinedNormalized_eq] at hfree
    cases hentry : r.quarantineEntry (normalizeDomain domain) ip with
    | none => rfl
    | some expiry =>
      rw [hentry] at hfree
      have hold : expiry ≤ t0 := Nat.not_lt.mp (of_decide_eq_false hfree)
      simp [Nat.not_lt.mpr (le_trans hold hnow)]
  · rw [quarantineEntry_removeQuarantine_ne hsame, quarantineEntry_setQuarantine_ne hsame]

end RouterEngine

/-! ### The two halves of the guarantee -/

/-- The answer of a selection is the given node. -/
def IsAnswer (target : ProxyNode) (answer : Option ProxyNode) : Prop :=
  ∃ n, answer = some n ∧ n.ip = target.ip ∧ n.port = target.port

/-- A posted quarantine of a node of a country, with room in the table, is in force for requests
to a domain on both paths: until it expires, through all operations that do not shorten or lift
it. -/
def PostTakesEffect (country domain : String) : Prop :=
  ∀ (r : RouterEngine) (addr : String) (target : ProxyNode) (ttlSecs : Nat) (t0 : Instant)
    (ops : List RouterOp), r.getNodeByAddr addr = some target → target.country = country →
    1 ≤ ttlSecs → ttlSecs ≤ quarantineMaxTtlSecs → len r.quarantineMap < quarantineMaxDomains →
    (∀ op ∈ ops, ¬op.Overrides (normalizeDomain country) target.ip
      (RouterEngine.quarantineExpiry t0 ttlSecs)) →
    let r' := run RouterEngine.step (postNodeQuarantineHandler r addr (.ok ttlSecs) t0).2 ops
    ∀ (spec : RoutingSpec) (excluded : List String) (now : Instant), spec.targetDomain = domain →
      now < RouterEngine.quarantineExpiry t0 ttlSecs →
      (∀ draw, ¬IsAnswer target (r'.selectNodeExcluding spec excluded now draw).1) ∧
      ∀ arms window selections ucb context, ¬IsAnswer target
        (SmartProxyGateway.selectBanditNodeExcluding ⟨r', arms, window, selections⟩ ucb spec
          excluded context now).1

/-- A quarantine that is posted for a node under none and deleted again leaves every later
selection for the domain as it was. -/
def DeleteUndoes (country domain : String) : Prop :=
  ∀ (r : RouterEngine) (addr : String) (target : ProxyNode) (ttlSecs : Nat) (t0 : Instant),
    r.getNodeByAddr addr = some target → target.country = country →
    1 ≤ ttlSecs → ttlSecs ≤ quarantineMaxTtlSecs → len r.quarantineMap < quarantineMaxDomains →
    (∀ d, r.isNodeQuarantined target d t0 = false) →
    let r' := (deleteNodeQuarantineHandler (postNodeQuarantineHandler r addr (.ok ttlSecs) t0).2
      addr).2
    ∀ (spec : RoutingSpec) (excluded : List String) (now : Instant), spec.targetDomain = domain →
      t0 ≤ now →
      (∀ draw, (r'.selectNodeExcluding spec excluded now draw).1 =
        (r.selectNodeExcluding spec excluded now draw).1) ∧
      ∀ arms window selections ucb context,
        (SmartProxyGateway.selectBanditNodeExcluding ⟨r', arms, window, selections⟩ ucb spec
            excluded context now).1 =
          (SmartProxyGateway.selectBanditNodeExcluding ⟨r, arms, window, selections⟩ ucb spec
            excluded context now).1

lemma postTakesEffect_of_stable {country domain : String} (hdomain : domain = normalizeDomain country)
    (hstable : StableDomain domain) (hlen : byteLen domain ≤ quarantineDomainMaxBytes) :
    PostTakesEffect country domain := by
  intro r addr target ttlSecs t0 ops htarget hcountry _ _ hroom hops r' spec excluded now hspec hnow
  have hkey : normalizeDomain domain = domain := hstable
  have hacc : r.Accepts target.country := by
    refine ⟨?_, .inl hroom⟩
    rw [hcountry, ← hdomain]
    exact hlen
  have hstart : (postNodeQuarantineHandler r addr (.ok ttlSecs) t0).2.quarantineEntry
      (normalizeDomain country) target.ip = some (RouterEngine.quarantineExpiry t0 ttlSecs) := by
    rw [RouterEngine.postNodeQuarantineHandler_snd htarget, ← hcountry]
    exact RouterEngine.quarantineEntry_setQuarantine hacc ttlSecs t0
  have hentry : r'.HeldUntil domain target.ip (RouterEngine.quarantineExpiry t0 ttlSecs) := by
    rw [hdomain]
    exact RouterEngine.heldUntil_run hstart hops
  constructor
  · rintro draw ⟨n, hn, hip, -⟩
    have hq := RouterEngine.selectNodeExcluding_not_quarantined hn
    rw [hspec, hkey] at hq
    exact (RouterEngine.ne_of_not_quarantined hentry hnow hq).1 hip
  · rintro arms window selections ucb context ⟨n, hn, hip, -⟩
    have hq := RouterEngine.selectBandit_not_quarantined hn
    rw [hspec] at hq
    exact (RouterEngine.ne_of_not_quarantined hentry hnow hq).1 hip

lemma deleteUndoes_of_nonempty {country domain : String} (hcountry : normalizeDomain country ≠ "") :
    DeleteUndoes country domain := by
  intro r addr target ttlSecs t0 htarget htc _ _ _ hfree r' spec excluded now _ hnow
  have hsamePosted := RouterEngine.samePool_setQuarantine r target.country target.ip ttlSecs t0
  have htarget' : (r.setQuarantine target.country target.ip ttlSecs t0).getNodeByAddr addr =
      some target := by
    unfold RouterEngine.getNodeByAddr
    rw [hsamePosted.pools]
    exact htarget
  have hr' : r' = ((r.setQuarantine target.country target.ip ttlSecs t0).removeQuarantine
      target.country target.ip).2 := by
    change (deleteNodeQuarantineHandler (postNodeQuarantineHandler r addr (.ok ttlSecs) t0).2
      addr).2 = _
    rw [RouterEngine.postNodeQuarantineHandler_snd htarget,
      RouterEngine.deleteNodeQuarantineHandler_eq htarget']
  have hsame : r.SamePool r' := by
    have hremoved := RouterEngine.samePool_removeQuarantine
      (r.setQuarantine target.country target.ip ttlSecs t0) target.country target.ip
    rw [hr']
    exact ⟨hremoved.pools.trans hsamePosted.pools, hremoved.buckets.trans hsamePosted.buckets,
      hremoved.hotNodes.trans hsamePosted.hotNodes,
      hremoved.paidBaseWeight.trans hsamePosted.paidBaseWeight⟩
  have hstore : r'.sessionStore = r.sessionStore := by
    rw [hr', RouterEngine.sessionStore_removeQuarantine, RouterEngine.sessionStore_setQuarantine]
  have hquarantines : ∀ key, r.SameQuarantines r' key now := by
    intro key
    apply RouterEngine.sameQuarantines_of_ips
    intro ip
    have hip : r.isQuarantinedNormalized (normalizeDomain target.country) target.ip t0 = false := by
      have hnode := hfree (normalizeDomain target.country)
      unfold RouterEngine.isNodeQuarantined at hnode
      exact (Bool.or_eq_false_iff.mp hnode).1
    rw [hr']
    exact RouterEngine.isQuarantinedNormalized_undone (by rw [htc]; exact hcountry) hip hnow ttlSecs
      key ip
  constructor
  · intro draw
    exact RouterEngine.selectNodeExcluding_congr hsame hstore (hquarantines _)
  · intro arms window selections ucb context
    exact RouterEngine.selectBandit_congr hsame.pools (hquarantines _)

/-! ### Countries and domains on which it fails -/

/-- The router whose only node is in a country. -/
def soleNode (country : String) : ProxyNode :=
  .new "203.0.113.1" 8080 none none country "residential" "mock-a" 100

def soleRouter (country : String) : RouterEngine := .new [soleNode country]

lemma getNodeByAddr_soleRouter (country : String) :
    (soleRouter country).getNodeByAddr (soleNode country).addr = some (soleNode country) := by
  simp [soleRouter, RouterEngine.getNodeByAddr, RouterEngine.new]

lemma room_soleRouter (country : String) :
    len (soleRouter country).quarantineMap < quarantineMaxDomains := by
  change 0 < quarantineMaxDomains
  decide

def postedSole (country : String) : RouterEngine :=
  (postNodeQuarantineHandler (soleRouter country) (soleNode country).addr (.ok 1) 0).2

lemma postedSole_eq (country : String) : postedSole country =
    (soleRouter country).setQuarantine country "203.0.113.1" 1 0 :=
  RouterEngine.postNodeQuarantineHandler_snd (getNodeByAddr_soleRouter country) 1 0

lemma pools_postedSole (country : String) : (postedSole country).pools = [soleNode country] := by
  rw [postedSole_eq]
  exact (RouterEngine.samePool_setQuarantine (soleRouter country) country "203.0.113.1" 1 0).pools

/-- The posted quarantine fills no key but the normalised country, and not even that one where it
is too long. -/
lemma lookup_postedSole {country key : String} (hkey : key ≠ normalizeDomain country ∨
    quarantineDomainMaxBytes < byteLen (normalizeDomain country)) :
    (postedSole country).quarantineMap.lookup key = none := by
  rw [postedSole_eq]
  unfold RouterEngine.setQuarantine
  dsimp only
  split
  · rfl
  · rename_i hlen
    split
    · rfl
    · rw [lookup_insert_eq, if_neg (hkey.resolve_right hlen)]
      rfl

lemma stable_of_postTakesEffect {country domain : String} (h : PostTakesEffect country domain) :
    domain = normalizeDomain country ∧ StableDomain domain ∧
      byteLen domain ≤ quarantineDomainMaxBytes := by
  have heffect := h (soleRouter country) (soleNode country).addr (soleNode country) 1 0 []
    (getNodeByAddr_soleRouter country) rfl le_rfl (by decide) (room_soleRouter country) (by simp)
    { targetDomain := domain } [] 0 rfl (by decide)
  have hbandit : ¬(domain ≠ normalizeDomain country ∨
      quarantineDomainMaxBytes < byteLen (normalizeDomain country)) := by
    intro hkey
    obtain ⟨n, hn, hsame⟩ := lone_selected (pools_postedSole country)
      (lone_mem_scan (pools_postedSole country) (Nat.succ_pos _) rfl (lookup_postedSole hkey) 0)
    apply heffect.2 ∅ .empty 0 (fun _ _ _ => 0) 0
    exact ⟨n, hn, by rw [hsame], by rw [hsame]⟩
  have hdomain : domain = normalizeDomain country := by
    by_contra hne
    exact hbandit (.inl hne)
  refine ⟨hdomain, ?_, ?_⟩
  · by_contra hunstable
    have hkey : normalizeDomain domain ≠ normalizeDomain country := fun e =>
      hunstable (e.trans hdomain.symm)
    obtain ⟨n, hn, hsame⟩ := lone_selected_weighted (pools_postedSole country)
      (lone_mem_scan (pools_postedSole country) (Nat.succ_pos _) rfl
        (lookup_postedSole (.inl hkey)) 0) 0
    apply heffect.1 0
    exact ⟨n, hn, by rw [hsame], by rw [hsame]⟩
  · rw [hdomain]
    by_contra hlong
    exact hbandit (.inr (Nat.not_le.mp hlong))

/-- The empty domain cannot be lifted, so the quarantine stays. -/
lemma nonempty_of_deleteUndoes {country : String} (h : DeleteUndoes country "") :
    normalizeDomain country ≠ "" := by
  intro hempty
  have hsole := getNodeByAddr_soleRouter country
  have hfree : ∀ d, (soleRouter country).isNodeQuarantined (soleNode country) d 0 = false := by
    intro d
    rfl
  have hundone := (h (soleRouter country) (soleNode country).addr (soleNode country) 1 0 hsole rfl
    le_rfl (by decide) (room_soleRouter country) hfree { targetDomain := "" } [] 0 rfl le_rfl).2
    ∅ .empty 0 (fun _ _ _ => 0) 0
  have hkept : (deleteNodeQuarantineHandler (postedSole country) (soleNode country).addr).2 =
      postedSole country := by
    have htarget : (postedSole country).getNodeByAddr (soleNode country).addr =
        some (soleNode country) := by
      unfold RouterEngine.getNodeByAddr
      rw [pools_postedSole]
      exact hsole
    rw [RouterEngine.deleteNodeQuarantineHandler_eq htarget]
    unfold RouterEngine.removeQuarantine
    dsimp only
    rw [if_pos (show normalizeDomain (soleNode country).country = "" from hempty)]
  have hscan : soleNode country ∈ (soleRouter country).scan { targetDomain := "" } [] 0 :=
    lone_mem_scan rfl (Nat.succ_pos _) rfl rfl 0
  obtain ⟨n, hn, hsame⟩ := lone_selected (r := soleRouter country) rfl hscan
  rw [hn] at hundone
  have hq := RouterEngine.selectBandit_not_quarantined hundone
  dsimp only at hq
  change RouterEngine.isNodeQuarantined
    (deleteNodeQuarantineHandler (postedSole country) (soleNode country).addr).2 n "" 0 = false at hq
  have hentry : (postedSole country).quarantineEntry "" "203.0.113.1" =
      some (RouterEngine.quarantineExpiry 0 1) := by
    rw [postedSole_eq, ← hempty]
    apply RouterEngine.quarantineEntry_setQuarantine
    refine ⟨?_, .inl (room_soleRouter country)⟩
    rw [hempty]
    decide
  rw [hkept] at hq
  exact (RouterEngine.ne_of_not_quarantined ⟨_, hentry, le_rfl⟩ (by decide) hq).1
    (by rw [hsame]; rfl)

/-- For every country and every domain, quarantining a node of the country takes effect for the
domain and is undone by deletion exactly when the domain is the normalised country, is stable
under normalisation, non-empty and within the length limit. -/
theorem admin_quarantine_iff (country domain : String) :
    (PostTakesEffect country domain ∧ DeleteUndoes country domain) ↔
      domain = normalizeDomain country ∧ StableDomain domain ∧ domain ≠ "" ∧
        byteLen domain ≤ quarantineDomainMaxBytes := by
  constructor
  · rintro ⟨hpost, hdelete⟩
    obtain ⟨hdomain, hstable, hlen⟩ := stable_of_postTakesEffect hpost
    refine ⟨hdomain, hstable, ?_, hlen⟩
    rintro rfl
    exact nonempty_of_deleteUndoes hdelete hdomain.symm
  · rintro ⟨hdomain, hstable, hne, hlen⟩
    exact ⟨postTakesEffect_of_stable hdomain hstable hlen,
      deleteUndoes_of_nonempty (hdomain ▸ hne)⟩

/-- A quarantined node in the US is still returned to requests for an ordinary host. -/
theorem us_quarantine_ineffective : ¬PostTakesEffect "US" "example.com" := by
  intro h
  have hdomain := (stable_of_postTakesEffect h).1
  revert hdomain
  decide

end IPProxyPool
