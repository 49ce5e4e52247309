import IPProxyPool.Lib.Table
import IPProxyPool.Model.Node
import IPProxyPool.Model.Domain

/-!
# Router state

The state of `RouterEngine`: the pool snapshot, the indexes derived from it, the session and
quarantine tables and the tables of the weight policies. Instants and durations count
nanoseconds on the process clock. Every function here is one atomic step of the source: the
pool writers run under `write_lock`, the readers on one snapshot.
-/

namespace IPProxyPool
open RustText AssocTable

/-- A point of the monotonic clock, in nanoseconds. -/
abbrev Instant := Nat

def fromSecs (secs : Nat) : Nat := secs * 1000000000

/-- `now.saturating_duration_since(earlier).as_secs()`. -/
def secsSince (now earlier : Instant) : Nat := (now - earlier) / 1000000000

def sessionTtlSecs : Nat := 600
def sessionIdMaxBytes : Nat := 64
def sessionMaxEntries : Nat := 8192
def quarantineMaxTtlSecs : Nat := 86400
def quarantineDomainMaxBytes : Nat := 253
def quarantineMaxDomains : Nat := 8192
def hotNodesK : Nat := 64

structure BucketKey where
  tier : String
  country : String
  proto : Option EgressProto
  deriving DecidableEq, Repr

/-- Key of the free-arbitrage factors: exact provider, lower-case country. -/
def scaleKey (vendor country : String) : String × String := (vendor, toAsciiLowercase country)

/-- The router. Factors are finite `f64` values, hence rationals. -/
structure RouterEngine where
  pools : List ProxyNode
  sessionStore : Table String (ProxyNode × Instant)
  quarantineMap : Table String (Table String Instant)
  freeScale : Table (String × String) ℚ
  buckets : Table BucketKey (List ProxyNode)
  hotNodes : List ProxyNode
  paidBaseWeight : Table String Nat

def bucketKeyOf (n : ProxyNode) : BucketKey := ⟨n.tier, n.country, some n.proto⟩

/-- `build_buckets`: nodes of weight zero enter no bucket. -/
def buildBuckets (pools : List ProxyNode) : Table BucketKey (List ProxyNode) :=
  pools.foldl (fun map n => if n.weight = 0 then map else push bucketKeyOf map n) ∅

/-- `build_hot_nodes`: a stable sort by descending weight, truncated. -/
def buildHotNodes (pools : List ProxyNode) : List ProxyNode :=
  ((pools.filter (fun n => 0 < n.weight)).insertionSort (fun a b => b.weight ≤ a.weight)).take
    hotNodesK

namespace RouterEngine

def new (initialNodes : List ProxyNode) : RouterEngine where
  pools := initialNodes
  sessionStore := ∅
  quarantineMap := ∅
  freeScale := ∅
  buckets := buildBuckets initialNodes
  hotNodes := buildHotNodes initialNodes
  paidBaseWeight := ∅

/-- `store_nodes`: the pool and both derived indexes are replaced together. -/
def storeNodes (r : RouterEngine) (next : List ProxyNode) : RouterEngine :=
  { r with pools := next, buckets := buildBuckets next, hotNodes := buildHotNodes next }

/-- `free_factor`; a missing entry means no scaling. -/
def freeFactor (r : RouterEngine) (vendor country : String) : ℚ :=
  (r.freeScale.lookup (scaleKey vendor country)).getD 1

/-- `prune_free_scales`: factors of pairs the pool no longer holds are dropped. -/
def pruneFreeScales (r : RouterEngine) : RouterEngine :=
  let live := r.pools.map (fun n => scaleKey n.provider n.country)
  { r with freeScale := retain (fun k _ => k ∈ live) r.freeScale }

/-- The instant at which a quarantine of `ttlSecs` taken at `now` ends. -/
def quarantineExpiry (now : Instant) (ttlSecs : Nat) : Instant :=
  now + fromSecs (min ttlSecs quarantineMaxTtlSecs)

/-- `set_quarantine`. An overlong domain, or a new one above the watermark, is refused. -/
def setQuarantine (r : RouterEngine) (domain ip : String) (ttlSecs : Nat) (now : Instant) :
    RouterEngine :=
  let domain := normalizeDomain domain
  if quarantineDomainMaxBytes < byteLen domain then r
  else if quarantineMaxDomains ≤ len r.quarantineMap ∧ domain ∉ r.quarantineMap then r
  else
    let inner := (r.quarantineMap.lookup domain).getD ∅
    { r with quarantineMap :=
        r.quarantineMap.insert domain (inner.insert ip (quarantineExpiry now ttlSecs)) }

/-- `remove_quarantine`; the returned flag says whether an entry was deleted. -/
def removeQuarantine (r : RouterEngine) (domain ip : String) : Bool × RouterEngine :=
  let domain := normalizeDomain domain
  if domain = "" then (false, r)
  else
    match r.quarantineMap.lookup domain with
    | none => (false, r)
    | some inner =>
      if ip ∈ inner then
        let rest := inner.erase ip
        -- an emptied inner table takes its domain with it
        if rest.entries.isEmpty then
          (true, { r with quarantineMap := r.quarantineMap.erase domain })
        else (true, { r with quarantineMap := r.quarantineMap.insert domain rest })
      else (false, r)

def quarantineLen (r : RouterEngine) : Nat := ((values r.quarantineMap).map len).sum

/-- `sweep_expired_at`: the numbers of removed sessions and quarantines, and the swept router. -/
def sweepExpiredAt (r : RouterEngine) (now : Instant) : (Nat × Nat) × RouterEngine :=
  let sessions := retain (fun _ b => secsSince now b.2 < sessionTtlSecs) r.sessionStore
  let quarantines := retain (fun _ inner => !inner.entries.isEmpty)
    (mapVal (fun _ inner => retain (fun _ expiry => now < expiry) inner) r.quarantineMap)
  let r' := { r with sessionStore := sessions, quarantineMap := quarantines }
  ((len r.sessionStore - len sessions, r.quarantineLen - r'.quarantineLen), r'.pruneFreeScales)

/-- `is_quarantined_normalized`; the domain is used as it is given. -/
def isQuarantinedNormalized (r : RouterEngine) (normalizedDomain ip : String) (now : Instant) :
    Bool :=
  match r.quarantineMap.lookup normalizedDomain with
  | none => false
  | some inner =>
    match inner.lookup ip with
    | none => false
    | some expiry => decide (now < expiry)

/-- `is_node_quarantined`: the entry address and the measured exit address are both checked. -/
def isNodeQuarantined (r : RouterEngine) (node : ProxyNode) (normalizedDomain : String)
    (now : Instant) : Bool :=
  r.isQuarantinedNormalized normalizedDomain node.ip now ||
    match node.exitIp with
    | none => false
    | some e => r.isQuarantinedNormalized normalizedDomain e now

/-- A removal finds nothing, takes out the last address of a domain, or one of several. -/
lemma removeQuarantine_cases (r : RouterEngine) (domain ip : String) :
    (r.removeQuarantine domain ip = (false, r) ∧ (normalizeDomain domain ≠ "" →
      ∀ inner, r.quarantineMap.lookup (normalizeDomain domain) = some inner → ip ∉ inner)) ∨
    (∃ inner, r.quarantineMap.lookup (normalizeDomain domain) = some inner ∧ ip ∈ inner ∧
      (inner.erase ip).entries = [] ∧ r.removeQuarantine domain ip =
        (true, { r with quarantineMap := r.quarantineMap.erase (normalizeDomain domain) })) ∨
    ∃ inner, r.quarantineMap.lookup (normalizeDomain domain) = some inner ∧ ip ∈ inner ∧
      (inner.erase ip).entries ≠ [] ∧ r.removeQuarantine domain ip =
        (true, { r with quarantineMap :=
          r.quarantineMap.insert (normalizeDomain domain) (inner.erase ip) }) := by
  unfold removeQuarantine
  dsimp only
  by_cases hdomain : normalizeDomain domain = ""
  · rw [if_pos hdomain]
    exact .inl ⟨rfl, fun hne => absurd hdomain hne⟩
  · rw [if_neg hdomain]
    cases hinner : r.quarantineMap.lookup (normalizeDomain domain) with
    | none => exact .inl ⟨rfl, fun _ _ h => nomatch h⟩
    | some inner =>
      dsimp only
      by_cases hmem : ip ∈ inner
      · right
        rw [if_pos hmem]
        by_cases hempty : (inner.erase ip).entries = []
        · rw [if_pos (List.isEmpty_iff.mpr hempty)]
          exact .inl ⟨inner, rfl, hmem, hempty, rfl⟩
        · rw [if_neg (mt List.isEmpty_iff.mp hempty)]
          exact .inr ⟨inner, rfl, hmem, hempty, rfl⟩
      · rw [if_neg hmem]
        refine .inl ⟨rfl, fun _ inner' h => ?_⟩
        cases h
        exact hmem

@[simp] lemma storeNodes_pools (r : RouterEngine) (next : List ProxyNode) :
    (r.storeNodes next).pools = next := rfl

@[simp] lemma pruneFreeScales_pools (r : RouterEngine) : r.pruneFreeScales.pools = r.pools := rfl

lemma isNodeQuarantined_congr {r r' : RouterEngine} {d : String}
    (h : r'.quarantineMap.lookup d = r.quarantineMap.lookup d) (node : ProxyNode)
    (now : Instant) : r'.isNodeQuarantined node d now = r.isNodeQuarantined node d now := by
  simp only [isNodeQuarantined, isQuarantinedNormalized, h]

lemma isQuarantinedNormalized_iff (r : RouterEngine) (d ip : String) (now : Instant) :
    r.isQuarantinedNormalized d ip now = true ↔
      ∃ inner expiry, r.quarantineMap.lookup d = some inner ∧ inner.lookup ip = some expiry ∧
        now < expiry := by
  unfold isQuarantinedNormalized
  cases hd : r.quarantineMap.lookup d with
  | none => simp
  | some inner =>
    cases hip : inner.lookup ip with
    | none => simp [hip]
    | some expiry => simp [hip]

end RouterEngine

end IPProxyPool
