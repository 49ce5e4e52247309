import IPProxyPool.Model.Router

/-!
# Weighted and sticky selection

The read paths of `router.rs`. A selection takes one instant `now` and one value `draw` of the
random generator; `gen_range(0..n)` is `draw % n`, so that every value below `n` occurs.
-/

namespace IPProxyPool
open RustText AssocTable

def genRange (draw n : Nat) : Nat := draw % n

/-- The second pass of the weighted pick: consume the roll in list order. -/
def pickByRoll : List ProxyNode → Nat → Option ProxyNode
  | [], _ => none
  | n :: ns, roll => if roll < n.weight then some n else pickByRoll ns (roll - n.weight)

/-- `makeIter i` is the sequence the `i`-th traversal sees: the code builds a new iterator for
each of its two passes. -/
def pickWeightedStreaming (makeIter : Nat → List ProxyNode) (draw : Nat) : Option ProxyNode :=
  let total := ((makeIter 0).map ProxyNode.weight).sum
  let count := (makeIter 0).length
  if count = 0 then none
  else if total = 0 then (makeIter 1)[genRange draw count]?
  else pickByRoll (makeIter 1) (genRange draw total)

/-- `pick_weighted`, the version on a materialised list that the tests of the source compare with.
`choose` is one `gen_range` over the length, and the last candidate stands in where the loop ends
without a hit. -/
def pickWeighted (candidates : List ProxyNode) (draw : Nat) : Option ProxyNode :=
  if candidates.isEmpty then none
  else
    let total := (candidates.map ProxyNode.weight).sum
    if total = 0 then candidates[genRange draw candidates.length]?
    else (pickByRoll candidates (genRange draw total)).or candidates.getLast?

/-- The request side of a selection on the router: tier and target domain are normalised once,
on entry. -/
def canonicalSpec (spec : RoutingSpec) : RoutingSpec :=
  { spec with tier := spec.tier.map canonicalTier, targetDomain := normalizeDomain spec.targetDomain }

namespace RouterEngine

/-- `matches`, and its public wrapper `matches_node`. The tier and the domain of the spec are
compared as they stand; normalising them is left to the caller. -/
def matchesNode (r : RouterEngine) (node : ProxyNode) (spec : RoutingSpec) (now : Instant) : Bool :=
  let protoOk : Bool := match spec.proto with
    | some want => decide (node.proto = want)
    | none => decide (node.proto = .http)
  let countryOk : Bool := match spec.country with
    | some c => eqIgnoreAsciiCase node.country c
    | none => true
  let tierOk : Bool := match spec.tier with
    | some t => decide (node.tier = t)
    | none => true
  if node.weight = 0 then false
  else if !protoOk then false
  else if !countryOk then false
  else if !tierOk then false
  else if r.isNodeQuarantined node spec.targetDomain now then false
  else true

/-- The nodes of the pool that are not excluded and match, in pool order. -/
def scan (r : RouterEngine) (spec : RoutingSpec) (excluded : List String) (now : Instant) :
    List ProxyNode :=
  (r.pools.filter (fun n => n.addr ∉ excluded)).filter (fun n => r.matchesNode n spec now)

def getHealthyCandidatesExcluding (r : RouterEngine) (spec : RoutingSpec)
    (excluded : List String) (now : Instant) : List ProxyNode :=
  r.scan (canonicalSpec spec) excluded now

/-- What `select_from_bucket` draws from; `none` when the bucket does not exist. -/
def bucketScan (r : RouterEngine) (key : BucketKey) (spec : RoutingSpec) (excluded : List String)
    (now : Instant) : Option (List ProxyNode) :=
  (r.buckets.lookup key).map (fun bucket =>
    bucket.filter (fun n => n.addr ∉ excluded && r.matchesNode n spec now))

def selectFromBucket (r : RouterEngine) (key : BucketKey) (excluded : List String)
    (spec : RoutingSpec) (now : Instant) (draw : Nat) : Option ProxyNode :=
  (r.bucketScan key spec excluded now).bind (fun l => pickWeightedStreaming (fun _ => l) draw)

/-- The checks of the sticky fast path on a binding. Weight and protocol are read from the pool
entry at the bound address, every other field from the bound snapshot. -/
def stickyAccepts (r : RouterEngine) (spec : RoutingSpec) (excluded : List String) (now : Instant)
    (node : ProxyNode) (createdAt : Instant) : Bool :=
  let wantProto := spec.proto.getD .http
  let stillLive : Bool := match r.pools.find? (fun n => n.addr = node.addr) with
    | some n => 0 < n.weight && n.proto = wantProto
    | none => false
  let excludedHit : Bool := node.addr ∈ excluded
  let countryOk : Bool := match spec.country with
    | some c => eqIgnoreAsciiCase node.country c
    | none => true
  let tierOk : Bool := match spec.tier with
    | some t => node.tier = t
    | none => true
  !excludedHit && secsSince now createdAt < sessionTtlSecs && stillLive && countryOk && tierOk &&
    !r.isNodeQuarantined node spec.targetDomain now

/-- The binding the sticky fast path finds. An overlong session id is not looked up. -/
def sessionBinding (r : RouterEngine) (spec : RoutingSpec) : Option (ProxyNode × Instant) :=
  match spec.sessionId with
  | none => none
  | some sessionId =>
    if byteLen sessionId ≤ sessionIdMaxBytes then r.sessionStore.lookup sessionId else none

def stickyNode (r : RouterEngine) (spec : RoutingSpec) (excluded : List String) (now : Instant) :
    Option ProxyNode :=
  match r.sessionBinding spec with
  | some (node, createdAt) =>
    if r.stickyAccepts spec excluded now node createdAt then some node else none
  | none => none

/-- The fresh selection: the bucket when tier, country and protocol are all given, else a scan of
the whole pool. -/
def selectFresh (r : RouterEngine) (spec : RoutingSpec) (excluded : List String) (now : Instant)
    (draw : Nat) : Option ProxyNode :=
  match spec.tier, spec.country, spec.proto with
  | some tier, some country, some proto =>
    r.selectFromBucket ⟨tier, country, some proto⟩ excluded spec now draw
  | _, _, _ => pickWeightedStreaming (fun _ => r.scan spec excluded now) draw

def sessionStickyAllowed (store : Table String (ProxyNode × Instant)) (sessionId : String) : Bool :=
  if sessionIdMaxBytes < byteLen sessionId then false
  else if sessionMaxEntries ≤ len store ∧ sessionId ∉ store then false
  else true

/-- Binds the session of a fresh selection, where admission allows it. -/
def bindSession (r : RouterEngine) (spec : RoutingSpec) (selected : Option ProxyNode)
    (now : Instant) : RouterEngine :=
  match spec.sessionId, selected with
  | some sessionId, some node =>
    if sessionStickyAllowed r.sessionStore sessionId then
      { r with sessionStore := r.sessionStore.insert sessionId (node, now) }
    else r
  | _, _ => r

def selectNodeExcluding (r : RouterEngine) (spec : RoutingSpec) (excluded : List String)
    (now : Instant) (draw : Nat) : Option ProxyNode × RouterEngine :=
  let spec := canonicalSpec spec
  match r.stickyNode spec excluded now with
  | some node => (some node, r)
  | none =>
    let selected := r.selectFresh spec excluded now draw
    (selected, r.bindSession spec selected now)

end RouterEngine

/-! ### The weighted pick -/

lemma pickByRoll_isSome (l : List ProxyNode) (roll : Nat)
    (h : roll < (l.map ProxyNode.weight).sum) : (pickByRoll l roll).isSome := by
  induction l generalizing roll with
  | nil => simp at h
  | cons n ns ih =>
    unfold pickByRoll
    by_cases hlt : roll < n.weight
    · simp [hlt]
    · rw [if_neg hlt]
      apply ih
      simp only [List.map_cons, List.sum_cons] at h
      omega

lemma pickByRoll_mem {l : List ProxyNode} {roll : Nat} {n : ProxyNode}
    (h : pickByRoll l roll = some n) : n ∈ l := by
  induction l generalizing roll with
  | nil => simp [pickByRoll] at h
  | cons m ms ih =>
    unfold pickByRoll at h
    split at h
    · cases h
      exact List.mem_cons_self
    · exact List.mem_cons_of_mem _ (ih h)

/-- On an unchanging list the weighted pick succeeds exactly when the list is non-empty. -/
theorem pickWeightedStreaming_isSome_iff (l : List ProxyNode) (draw : Nat) :
    (pickWeightedStreaming (fun _ => l) draw).isSome ↔ l ≠ [] := by
  unfold pickWeightedStreaming
  by_cases hl : l = []
  · simp [hl]
  · have hlen : 0 < l.length := List.length_pos_iff.mpr hl
    simp only [List.length_eq_zero_iff, hl, if_false, ne_eq, not_false_eq_true, iff_true]
    by_cases htot : (l.map ProxyNode.weight).sum = 0
    · rw [if_pos htot, genRange, List.getElem?_eq_getElem (Nat.mod_lt draw hlen)]
      rfl
    · rw [if_neg htot]
      exact pickByRoll_isSome l _ (Nat.mod_lt draw (Nat.pos_of_ne_zero htot))

/-- What the weighted pick returns is an entry that its second pass sees. -/
lemma pickWeightedStreaming_mem_second {makeIter : Nat → List ProxyNode} {draw : Nat}
    {n : ProxyNode} (h : pickWeightedStreaming makeIter draw = some n) : n ∈ makeIter 1 := by
  unfold pickWeightedStreaming at h
  simp only at h
  split at h
  · cases h
  · split at h
    · exact List.mem_of_getElem? h
    · exact pickByRoll_mem h

lemma pickWeightedStreaming_mem {l : List ProxyNode} {draw : Nat} {n : ProxyNode}
    (h : pickWeightedStreaming (fun _ => l) draw = some n) : n ∈ l :=
  pickWeightedStreaming_mem_second h

/-! ### Matching -/

namespace RouterEngine

structure Serves (r : RouterEngine) (node : ProxyNode) (spec : RoutingSpec) (now : Instant) :
    Prop where
  weight_pos : 0 < node.weight
  proto_eq : node.proto = spec.proto.getD .http
  country_ok : ∀ c, spec.country = some c → eqIgnoreAsciiCase node.country c = true
  tier_eq : ∀ t, spec.tier = some t → node.tier = t
  not_quarantined : r.isNodeQuarantined node spec.targetDomain now = false

lemma matchesNode_iff (r : RouterEngine) (node : ProxyNode) (spec : RoutingSpec) (now : Instant) :
    r.matchesNode node spec now = true ↔ r.Serves node spec now := by
  have hsplit : r.Serves node spec now ↔ 0 < node.weight ∧ node.proto = spec.proto.getD .http ∧
      (∀ c, spec.country = some c → eqIgnoreAsciiCase node.country c = true) ∧
      (∀ t, spec.tier = some t → node.tier = t) ∧
      r.isNodeQuarantined node spec.targetDomain now = false :=
    ⟨fun h => ⟨h.1, h.2, h.3, h.4, h.5⟩, fun h => ⟨h.1, h.2.1, h.2.2.1, h.2.2.2.1, h.2.2.2.2⟩⟩
  rw [hsplit]
  unfold matchesNode
  rcases spec with ⟨country, sessionId, tier, targetDomain, proto⟩
  cases country <;> cases tier <;> cases proto <;>
    simp [Nat.pos_iff_ne_zero]

lemma matchesNode_congr {r r' : RouterEngine} {spec : RoutingSpec} {node : ProxyNode}
    {now : Instant} (h : r'.isNodeQuarantined node spec.targetDomain now =
      r.isNodeQuarantined node spec.targetDomain now) :
    r'.matchesNode node spec now = r.matchesNode node spec now := by
  simp only [matchesNode, h]

lemma mem_scan_iff (r : RouterEngine) (spec : RoutingSpec) (excluded : List String)
    (now : Instant) (n : ProxyNode) :
    n ∈ r.scan spec excluded now ↔
      n ∈ r.pools ∧ n.addr ∉ excluded ∧ r.matchesNode n spec now = true := by
  simp only [scan, List.mem_filter, decide_eq_true_eq, and_assoc]

end RouterEngine

end IPProxyPool
