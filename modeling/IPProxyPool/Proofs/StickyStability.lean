import IPProxyPool.Proofs.AddressUnique
import IPProxyPool.Proofs.BoundedTables

/-!
# Sticky stability

A binding is rewritten by a selection for its own key only, and such a selection keeps it while the
fast path accepts the bound node. So a client that keeps asking for what its node offers stays on
that node until the binding expires, whatever other clients, writers and sweeps do meanwhile.
-/

namespace IPProxyPool
open RustText AssocTable Transition

/-- The instant at which an operation reads the clock. -/
def RouterOp.instant : RouterOp → Option Instant
  | .setQuarantine _ _ _ now => some now
  | .sweepExpired now => some now
  | .select _ _ now _ => some now
  | _ => none

/-- The clock does not go back during the run. -/
def ClockOrdered (ops : List RouterOp) : Prop :=
  (ops.filterMap RouterOp.instant).Pairwise (· ≤ ·)

instance (ops : List RouterOp) : Decidable (ClockOrdered ops) :=
  inferInstanceAs (Decidable (List.Pairwise _ _))

def sessionExpiry (createdAt : Instant) : Instant := createdAt + fromSecs sessionTtlSecs

/-- The node meets the constraints of a request, its tier taken canonically. -/
structure RoutingSpec.SatisfiedBy (spec : RoutingSpec) (n : ProxyNode) : Prop where
  proto : n.proto = spec.proto.getD .http
  country : ∀ c, spec.country = some c → eqIgnoreAsciiCase n.country c = true
  tier : ∀ t, spec.tier = some t → n.tier = canonicalTier t

/-- A request of the key asks for constraints that the node satisfies, does not exclude its address,
and the node is not quarantined for the requested domain. -/
def RouterOp.RequestsFit (key : String) (n : ProxyNode) (r : RouterEngine) : RouterOp → Prop
  | .select spec excluded now _ => spec.sessionId = some key →
    spec.SatisfiedBy n ∧ n.addr ∉ excluded ∧
      r.isNodeQuarantined n (normalizeDomain spec.targetDomain) now = false
  | _ => True

/-- The entry of the node is in the pool as it was bound, and no other entry has its address. -/
structure RouterEngine.Undisturbed (key : String) (n : ProxyNode) (r : RouterEngine)
    (op : RouterOp) : Prop where
  pool : n ∈ r.pools
  distinct : r.DistinctAddrs
  request : op.RequestsFit key n r

/-- A selection for the key before the expiry returns the bound node, and no operation on another
key, nor a sweep before the expiry, changes the binding. -/
def RouterOp.Sticks (key : String) (n : ProxyNode) (createdAt : Instant) (r : RouterEngine) :
    RouterOp → Prop
  | .select spec excluded now draw =>
    (spec.sessionId = some key → now < sessionExpiry createdAt →
        (r.selectNodeExcluding spec excluded now draw).1 = some n) ∧
      (spec.sessionId ≠ some key →
        (r.selectNodeExcluding spec excluded now draw).2.sessionStore.lookup key =
          r.sessionStore.lookup key)
  | .sweepExpired now => now < sessionExpiry createdAt →
    (r.sweepExpiredAt now).2.sessionStore.lookup key = r.sessionStore.lookup key
  | op => (r.step op).sessionStore.lookup key = r.sessionStore.lookup key

/-- No operation reads the clock before the expiry. -/
def RouterOp.Late (createdAt : Instant) (op : RouterOp) : Prop :=
  ∀ now ∈ op.instant, sessionExpiry createdAt ≤ now

namespace RouterEngine

variable {r : RouterEngine} {key : String} {n : ProxyNode} {createdAt now : Instant}

lemma secsSince_lt (h : now < sessionExpiry createdAt) :
    secsSince now createdAt < sessionTtlSecs := by
  have hdiv : ∀ a b : Nat, a < b + 600 * 1000000000 → (a - b) / 1000000000 < 600 := by
    intro a b hab
    omega
  exact hdiv now createdAt h

lemma stickyAccepts_of_fits (hpos : 0 < n.weight) (hpool : n ∈ r.pools) (hdistinct : r.DistinctAddrs)
    {spec : RoutingSpec} {excluded : List String} (hfits : spec.SatisfiedBy n)
    (hexcl : n.addr ∉ excluded)
    (hfree : r.isNodeQuarantined n (normalizeDomain spec.targetDomain) now = false)
    (hlive : now < sessionExpiry createdAt) :
    r.stickyAccepts (canonicalSpec spec) excluded now n createdAt = true := by
  have hfind := find?_addr_of_nodup hdistinct hpool
  have hsecs := secsSince_lt hlive
  rcases spec with ⟨country, sessionId, tier, targetDomain, proto⟩
  rcases hfits with ⟨hproto, hcountry, htier⟩
  unfold stickyAccepts
  rw [hfind]
  cases country <;> cases tier <;>
    simp_all [canonicalSpec]

lemma selectNodeExcluding_of_fits (hpos : 0 < n.weight)
    (hbound : r.sessionStore.lookup key = some (n, createdAt))
    (hlen : byteLen key ≤ sessionIdMaxBytes) {spec : RoutingSpec} {excluded : List String}
    (hsession : spec.sessionId = some key) {draw : Nat}
    (h : r.Undisturbed key n (.select spec excluded now draw)) (hlive : now < sessionExpiry createdAt) :
    r.selectNodeExcluding spec excluded now draw = (some n, r) := by
  obtain ⟨hfits, hexcl, hfree⟩ := h.request hsession
  have hbinding : r.sessionBinding (canonicalSpec spec) = some (n, createdAt) := by
    unfold sessionBinding
    rw [show (canonicalSpec spec).sessionId = some key from hsession]
    dsimp only
    rw [if_pos hlen, hbound]
  have hsticky : r.stickyNode (canonicalSpec spec) excluded now = some n :=
    (stickyNode_eq_some_iff n).mpr ⟨createdAt, hbinding,
      stickyAccepts_of_fits hpos h.pool h.distinct hfits hexcl hfree hlive⟩
  unfold selectNodeExcluding
  dsimp only
  rw [hsticky]

/-- Only selections and sweeps write the session table. -/
lemma sessionStore_step {op : RouterOp}
    (hselect : ∀ spec excluded now draw, op ≠ .select spec excluded now draw)
    (hsweep : ∀ now, op ≠ .sweepExpired now) : (r.step op).sessionStore = r.sessionStore := by
  by_cases hwrite : op.writesPool = true
  · exact (tables_writer r op hwrite).1
  · cases op with
    | setQuarantine domain ip ttlSecs now => exact sessionStore_setQuarantine r domain ip ttlSecs now
    | removeQuarantine domain ip => exact sessionStore_removeQuarantine r domain ip
    | sweepExpired now => exact absurd rfl (hsweep now)
    | select spec excluded now draw => exact absurd rfl (hselect spec excluded now draw)
    | reloadNodes | replaceVendorNodes | addNode | removeNode | adjustVendorWeight
    | setPaidWeightBoost | scaleVendorWeights => exact absurd rfl hwrite

lemma lookup_sweep_of_live (hbound : r.sessionStore.lookup key = some (n, createdAt))
    (hlive : now < sessionExpiry createdAt) :
    (r.sweepExpiredAt now).2.sessionStore.lookup key = some (n, createdAt) := by
  rw [sessionStore_sweep, lookup_retain, hbound, Option.filter_some, if_pos]
  exact decide_eq_true (secsSince_lt hlive)

lemma sticks_of_bound (hpos : 0 < n.weight) (hlen : byteLen key ≤ sessionIdMaxBytes)
    (hbound : r.sessionStore.lookup key = some (n, createdAt)) {op : RouterOp}
    (h : r.Undisturbed key n op) : op.Sticks key n createdAt r := by
  cases op with
  | select spec excluded now draw =>
    refine ⟨fun hsession hlive => ?_, fun hne => lookup_selectNodeExcluding_ne hne⟩
    rw [selectNodeExcluding_of_fits hpos hbound hlen hsession h hlive]
  | sweepExpired now => exact fun hlive => (lookup_sweep_of_live hbound hlive).trans hbound.symm
  | reloadNodes | replaceVendorNodes | addNode | removeNode | adjustVendorWeight
  | setPaidWeightBoost | scaleVendorWeights | setQuarantine | removeQuarantine =>
    exact congrArg _ (sessionStore_step (by simp) (by simp))

lemma sticks_of_late {op : RouterOp} (h : op.Late createdAt) (r : RouterEngine) :
    op.Sticks key n createdAt r := by
  cases op with
  | select spec excluded now draw =>
    exact ⟨fun _ hlive => absurd (h now rfl) (Nat.not_le.mpr hlive),
      fun hne => lookup_selectNodeExcluding_ne hne⟩
  | sweepExpired now => exact fun hlive => absurd (h now rfl) (Nat.not_le.mpr hlive)
  | reloadNodes | replaceVendorNodes | addNode | removeNode | adjustVendorWeight
  | setPaidWeightBoost | scaleVendorWeights | setQuarantine | removeQuarantine =>
    exact congrArg _ (sessionStore_step (by simp) (by simp))

lemma along_of_late (ops : List RouterOp) (h : ∀ op ∈ ops, op.Late createdAt) (r : RouterEngine) :
    Along step (fun r op => op.Sticks key n createdAt r) r ops := by
  induction ops generalizing r with
  | nil => trivial
  | cons op ops ih =>
    exact ⟨sticks_of_late (h op List.mem_cons_self) r,
      ih (fun op' hop' => h op' (List.mem_cons_of_mem _ hop')) _⟩

lemma lookup_step_of_live (hpos : 0 < n.weight) (hlen : byteLen key ≤ sessionIdMaxBytes)
    (hbound : r.sessionStore.lookup key = some (n, createdAt)) {op : RouterOp}
    (h : r.Undisturbed key n op) (hlive : ∀ now ∈ op.instant, now < sessionExpiry createdAt) :
    (r.step op).sessionStore.lookup key = some (n, createdAt) := by
  cases op with
  | select spec excluded now draw =>
    by_cases hsession : spec.sessionId = some key
    · unfold step
      dsimp only
      rw [selectNodeExcluding_of_fits hpos hbound hlen hsession h (hlive now rfl)]
      exact hbound
    · exact (lookup_selectNodeExcluding_ne hsession).trans hbound
  | sweepExpired now => exact lookup_sweep_of_live hbound (hlive now rfl)
  | reloadNodes | replaceVendorNodes | addNode | removeNode | adjustVendorWeight
  | setPaidWeightBoost | scaleVendorWeights | setQuarantine | removeQuarantine =>
    exact (congrArg _ (sessionStore_step (by simp) (by simp))).trans hbound

lemma sticks_run (hpos : 0 < n.weight) (hlen : byteLen key ≤ sessionIdMaxBytes)
    (hbound : r.sessionStore.lookup key = some (n, createdAt)) {ops : List RouterOp}
    (h : Along step (Undisturbed key n) r ops) (hclock : ClockOrdered ops) :
    Along step (fun r op => op.Sticks key n createdAt r) r ops := by
  induction ops generalizing r with
  | nil => trivial
  | cons op ops ih =>
    obtain ⟨hhere, hrest⟩ := h
    refine ⟨sticks_of_bound hpos hlen hbound hhere, ?_⟩
    unfold ClockOrdered at hclock
    rw [List.filterMap_cons] at hclock
    by_cases hexpired : ∃ now ∈ op.instant, sessionExpiry createdAt ≤ now
    · -- the binding may be gone, and no later operation comes before its expiry
      obtain ⟨now, hnow, hle⟩ := hexpired
      rw [Option.mem_def.mp hnow] at hclock
      have hlater := (List.pairwise_cons.mp hclock).1
      refine along_of_late ops (fun op' hop' now' hnow' => ?_) _
      exact hle.trans (hlater now' (List.mem_filterMap.mpr ⟨op', hop', hnow'⟩))
    · have hlive : ∀ now ∈ op.instant, now < sessionExpiry createdAt := fun now hnow =>
        Nat.not_le.mp (fun hle => hexpired ⟨now, hnow, hle⟩)
      refine ih (lookup_step_of_live hpos hlen hbound hhere hlive) hrest ?_
      split at hclock
      · exact hclock
      · exact (List.pairwise_cons.mp hclock).2

end RouterEngine

/-- In every run, from the state in which a key is bound to a node: as long as the entry of the
node stays in the pool as the only one at its address and the requests of the key ask for what the
node offers, all selections of the key before the expiry return the node, and nothing that is done
for other keys touches the binding. -/
theorem sticky_stable (initial : List ProxyNode) (pre ops : List RouterOp) (key : String)
    (n : ProxyNode) (createdAt : Instant)
    (hbound : (run RouterEngine.step (.new initial) pre).sessionStore.lookup key =
      some (n, createdAt))
    (h : Along RouterEngine.step (RouterEngine.Undisturbed key n)
      (run RouterEngine.step (.new initial) pre) ops)
    (hclock : ClockOrdered ops) :
    Along RouterEngine.step (fun r op => op.Sticks key n createdAt r)
      (run RouterEngine.step (.new initial) pre) ops := by
  have hinv := run_invariant RouterEngine.stickyInv_step
    (⟨RouterEngine.wellIndexed_new initial, RouterEngine.boundPositive_new initial⟩ :
      (RouterEngine.new initial).StickyInv) pre
  have htables := RouterEngine.boundedTables_run initial pre
  have hmem : key ∈ (run RouterEngine.step (.new initial) pre).sessionStore :=
    mem_of_lookup hbound
  exact RouterEngine.sticks_run (hinv.2 key _ hbound) (htables.session_ids key hmem) hbound h hclock

/-- Another session, a quarantine of another address and a sweep between two requests of a key. -/
theorem sticky_stable_sample :
    let node := ProxyNode.new "10.0.0.1" 8080 none none "US" "datacenter" "p" 1
    let request : RoutingSpec := { sessionId := some "t:s", country := some "us" }
    let bound := run RouterEngine.step (.new [node]) [.select request [] 0 0]
    Along RouterEngine.step (fun r op => op.Sticks "t:s" node 0 r) bound
      [.select { sessionId := some "t:u" } [] 5 0, .setQuarantine "a.com" "10.0.0.9" 60 7,
        .sweepExpired (fromSecs 60), .select request [] (fromSecs 599) 0] := by
  intro node request bound
  refine sticky_stable [node] [.select request [] 0 0] _ "t:s" node 0 (by decide) ?_ (by decide)
  refine ⟨⟨by decide, by decide, fun hkey => absurd hkey (by decide)⟩,
    ⟨by decide, by decide, trivial⟩, ⟨by decide, by decide, trivial⟩,
    ⟨by decide, by decide, fun _ => ⟨⟨rfl, ?_, ?_⟩, by decide, by decide⟩⟩, trivial⟩
  · intro c hc
    cases hc
    decide
  · intro t ht
    cases ht

end IPProxyPool
