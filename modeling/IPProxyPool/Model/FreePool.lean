import Mathlib.Data.List.MinMax
import Mathlib.Data.Prod.Lex
import Mathlib.Data.String.Basic
import IPProxyPool.Model.Writers

/-!
# The free pool

The registry of verified free nodes and their health, and the merge of a registry snapshot into
the router. The moving averages are `f64` in the source and exact rationals here. A registry
carries the proof that each entry sits under its own address and has the shape `upsert_full`
gives it.
-/

namespace IPProxyPool
open RustText AssocTable

def freePoolWeight : Nat := 10
def freePoolWeightTrustedMax : Nat := 20
def freeUnknownCountry : String := "ZZ"
def healthEwmaAlpha : ℚ := 3 / 10
def healthNeutralLatencyMs : ℚ := 3000
def trustedMinStreak : Nat := 3
def trustedMaxLatencyMs : ℚ := 1500
def backoffBaseSecs : Nat := 60
def backoffMaxSecs : Nat := 3600
def failMarksCap : Nat := 8192

inductive FreeProto where
  | http
  | https
  | socks4
  | socks5
  deriving DecidableEq, Repr

inductive AnonLevel where
  | elite
  | anonymous
  | transparent
  | unknown
  deriving DecidableEq, Repr

def egressOf : FreeProto → EgressProto
  | .http => .http
  | .https => .http
  | .socks5 => .socks5
  | .socks4 => .socks4

structure RawNode where
  ip : String
  port : UInt16
  proto : FreeProto
  country : Option String
  source : String
  deriving DecidableEq

structure Health where
  ewmaSuccess : ℚ
  ewmaLatencyMs : ℚ
  streak : Nat
  failStreak : Nat
  backoffUntil : Option Instant
  anon : AnonLevel
  exitIp : Option String

namespace Health

def fresh : Health where
  ewmaSuccess := 1 / 2
  ewmaLatencyMs := healthNeutralLatencyMs
  streak := 0
  failStreak := 0
  backoffUntil := none
  anon := .unknown
  exitIp := none

def noteSuccess (h : Health) (fwdLatencyMs : Nat) : Health :=
  { h with
    ewmaSuccess := h.ewmaSuccess + healthEwmaAlpha * (1 - h.ewmaSuccess)
    ewmaLatencyMs := h.ewmaLatencyMs + healthEwmaAlpha * (fwdLatencyMs - h.ewmaLatencyMs)
    streak := h.streak + 1
    failStreak := 0
    backoffUntil := none }

def noteFailure (h : Health) (now : Instant) : Health :=
  let failStreak := h.failStreak + 1
  let secs := min (backoffBaseSecs * 2 ^ (min failStreak 7 - 1)) backoffMaxSecs
  { h with
    ewmaSuccess := h.ewmaSuccess + healthEwmaAlpha * (0 - h.ewmaSuccess)
    streak := 0
    failStreak := failStreak
    backoffUntil := some (now + fromSecs secs) }

def score (h : Health) : ℚ :=
  let excess := max (h.ewmaLatencyMs - healthNeutralLatencyMs) 0
  h.ewmaSuccess * (healthNeutralLatencyMs / (healthNeutralLatencyMs + excess))

def composite (h : Health) : ℚ :=
  let retention := 1 / 2 + 1 / 2 * min (h.streak / trustedMinStreak : ℚ) 1
  h.score * retention

def trusted (h : Health) : Bool :=
  h.anon = .elite && trustedMinStreak ≤ h.streak && h.ewmaLatencyMs < trustedMaxLatencyMs

def weight (h : Health) : Nat :=
  let cap := if h.trusted then freePoolWeightTrustedMax else freePoolWeight
  max 1 (min cap (roundU32 (h.composite * cap)))

def backedOff (h : Health) (now : Instant) : Bool :=
  match h.backoffUntil with
  | some t => now < t
  | none => false

lemma one_le_weight (h : Health) : 1 ≤ h.weight := le_max_left _ _

lemma weight_le (h : Health) : h.weight ≤ freePoolWeightTrustedMax := by
  have hcap : (if h.trusted then freePoolWeightTrustedMax else freePoolWeight) ≤
      freePoolWeightTrustedMax := by
    split <;> decide
  exact max_le (by decide) ((min_le_left _ _).trans hcap)

end Health

structure Entry where
  node : ProxyNode
  health : Health
  expiresAt : Instant

/-- An entry as the registry keeps it under an address. -/
structure EntryOk (addr : String) (e : Entry) : Prop where
  addr_eq : e.node.addr = addr
  provider_free : startsWith e.node.provider "free-" = true
  tier_eq : e.node.tier = "free"
  weight_eq : e.node.weight = e.health.weight

structure Registry where
  ttl : Nat
  maxNodes : Nat
  entries : Table String Entry
  failMarks : Table String Instant
  entries_ok : ∀ addr e, entries.lookup addr = some e → EntryOk addr e

namespace Registry

def withCapacity (ttl maxNodes : Nat) : Registry where
  ttl := ttl
  maxNodes := maxNodes
  entries := ∅
  failMarks := ∅
  entries_ok := by simp

def put (reg : Registry) (addr : String) (e : Entry) (he : EntryOk addr e) : Registry where
  ttl := reg.ttl
  maxNodes := reg.maxNodes
  entries := reg.entries.insert addr e
  failMarks := reg.failMarks
  entries_ok := by
    intro k e' h
    rw [lookup_insert_eq] at h
    split at h
    · rename_i hk
      cases h
      rw [hk]
      exact he
    · exact reg.entries_ok k e' h

def remove (reg : Registry) (addr : String) : Registry where
  ttl := reg.ttl
  maxNodes := reg.maxNodes
  entries := reg.entries.erase addr
  failMarks := reg.failMarks
  entries_ok := by
    intro k e h
    rw [lookup_erase_eq] at h
    split at h
    · cases h
    · exact reg.entries_ok k e h

section Eviction

universe u

variable {κ : Type u} [LinearOrder κ]

/-- The entry that evicts first: least composite score, then least address; `backed` restricts
the choice to entries in back-off. The source compares the scores as doubles: `composite` may be
any function into a linear order. -/
def victim (composite : String → Entry → κ) (reg : Registry) (backed : Entry → Bool) :
    Option String :=
  ((reg.entries.entries.filter (fun e => backed e.2)).argmin
    (fun e => toLex (composite e.1 e.2, e.1))).map Sigma.fst

/-- The eviction loop, with the number of entries as its fuel. -/
def evictLoop (composite : String → Entry → κ) (now : Instant) :
    Nat → Nat → Registry → Nat × Registry
  | 0, removed, reg => (removed, reg)
  | fuel + 1, removed, reg =>
    if reg.maxNodes < len reg.entries then
      match (reg.victim composite (fun e => e.health.backedOff now)).or
          (reg.victim composite (fun _ => true)) with
      | some addr => evictLoop composite now fuel (removed + 1) (reg.remove addr)
      | none => (removed, reg)
    else (removed, reg)

def evictIfOverCapacity (composite : String → Entry → κ) (reg : Registry) (now : Instant) :
    Nat × Registry :=
  evictLoop composite now (len reg.entries) 0 reg

end Eviction

/-- The node that `upsert_full` builds for a new address. -/
def freeNode (raw : RawNode) (health : Health) (exitIp : Option String) : ProxyNode :=
  ((ProxyNode.new raw.ip raw.port none none (raw.country.getD freeUnknownCountry) "free"
    ("free-" ++ raw.source) health.weight).withProto (egressOf raw.proto)).withExitIp exitIp

lemma entryOk_freeNode (raw : RawNode) (health : Health) (exitIp : Option String)
    (expiresAt : Instant) :
    EntryOk (addrOf raw.ip raw.port) ⟨freeNode raw health exitIp, health, expiresAt⟩ where
  addr_eq := rfl
  provider_free := by
    simp [freeNode, ProxyNode.withProto, ProxyNode.withExitIp, ProxyNode.new, startsWith]
  tier_eq := by
    have htier : canonicalTier "free" = "free" := by decide
    exact htier
  weight_eq := rfl

/-- `upsert_full`. `now` dates the check and `clock` the eviction. Returns the number of evicted
entries, which `composite` ranks. -/
def upsertFullBy {κ : Type*} [LinearOrder κ] (composite : String → Entry → κ) (reg : Registry)
    (raw : RawNode) (fwdLatencyMs : Nat) (anon : AnonLevel) (exitIp : Option String)
    (now clock : Instant) : Nat × Registry :=
  let addr := addrOf raw.ip raw.port
  match h : reg.entries.lookup addr with
  | some e =>
    -- an address seen before keeps its node, with a new exit and weight
    let health := { e.health.noteSuccess fwdLatencyMs with anon := anon, exitIp := exitIp }
    let node := { e.node with exitIp := exitIp, weight := health.weight }
    (0, reg.put addr ⟨node, health, now + reg.ttl⟩
      ⟨(reg.entries_ok addr e h).addr_eq, (reg.entries_ok addr e h).provider_free,
        (reg.entries_ok addr e h).tier_eq, rfl⟩)
  | none =>
    let health := { Health.fresh.noteSuccess fwdLatencyMs with anon := anon, exitIp := exitIp }
    (reg.put addr ⟨freeNode raw health exitIp, health, now + reg.ttl⟩
      (entryOk_freeNode raw health exitIp _)).evictIfOverCapacity composite clock

/-- `upsert_full` with composite scores that are not rounded. -/
def upsertFull (reg : Registry) (raw : RawNode) (fwdLatencyMs : Nat) (anon : AnonLevel)
    (exitIp : Option String) (now clock : Instant) : Nat × Registry :=
  reg.upsertFullBy (fun _ e => e.health.composite) raw fwdLatencyMs anon exitIp now clock

def renewTtl (reg : Registry) (addr : String) (now : Instant) : Registry :=
  match h : reg.entries.lookup addr with
  | some e => reg.put addr { e with expiresAt := now + reg.ttl }
      ⟨(reg.entries_ok addr e h).addr_eq, (reg.entries_ok addr e h).provider_free,
        (reg.entries_ok addr e h).tier_eq, (reg.entries_ok addr e h).weight_eq⟩
  | none => reg

/-- `note_verify_failed`. The failure marks are cleared when their cap is reached. -/
def noteVerifyFailed (reg : Registry) (addr : String) (now : Instant) : Registry :=
  let reg' := match h : reg.entries.lookup addr with
    | some e =>
      let health := e.health.noteFailure now
      reg.put addr { e with health := health, node := { e.node with weight := health.weight } }
        ⟨(reg.entries_ok addr e h).addr_eq, (reg.entries_ok addr e h).provider_free,
          (reg.entries_ok addr e h).tier_eq, rfl⟩
    | none => reg
  let marks := if failMarksCap ≤ len reg'.failMarks then ∅ else reg'.failMarks
  { reg' with failMarks := marks.insert addr now }

def failedRecently (reg : Registry) (addr : String) (now : Instant) (window : Nat) : Bool :=
  match reg.failMarks.lookup addr with
  | some t => now - t < window
  | none => false

def reverify (reg : Registry) (addr : String) (passed : Bool) (now : Instant) : Registry :=
  if passed then reg.renewTtl addr now else reg.noteVerifyFailed addr now

/-- `snapshot`: entries neither expired nor in back-off, and elite if so required. The hash map
yields them in no particular order. -/
def snapshot (reg : Registry) (now : Instant) (requireElite : Bool) : List ProxyNode :=
  ((values reg.entries).filter (fun e => now < e.expiresAt && !e.health.backedOff now &&
    (!requireElite || e.health.anon = .elite))).map Entry.node

end Registry

/-- A snapshot of some registry, in the order in which its hash map happens to yield it. -/
structure RegistrySnapshot where
  registry : Registry
  now : Instant
  requireElite : Bool
  nodes : List ProxyNode
  perm : nodes.Perm (registry.snapshot now requireElite)

namespace RouterEngine

/-- `f64::EPSILON`. -/
def epsilon : ℚ := 1 / 4503599627370496

def mergedWeight (w : Nat) (factor : ℚ) : Nat :=
  if epsilon < |factor - 1| then scaledWeight w factor else w

def applyFactor (factor : ℚ) (n : ProxyNode) : ProxyNode :=
  { n with weight := mergedWeight n.weight factor }

/-- `merge_once` without interference: every factor is read, then the vendor group is replaced. -/
def mergeOnce (r : RouterEngine) (snap : RegistrySnapshot) : RouterEngine :=
  r.replaceVendorNodes "free-"
    (snap.nodes.map (fun n => applyFactor (r.freeFactor n.provider n.country) n))

end RouterEngine

/-! ### What a snapshot holds -/

namespace RegistrySnapshot

variable (snap : RegistrySnapshot)

lemma mem_nodes {n : ProxyNode} (h : n ∈ snap.nodes) :
    ∃ e, snap.registry.entries.lookup n.addr = some e ∧ EntryOk n.addr e ∧ e.node = n := by
  have hsnap := snap.perm.mem_iff.mp h
  obtain ⟨e, he, rfl⟩ := List.mem_map.mp hsnap
  obtain ⟨addr, haddr⟩ := (mem_values_iff _ e).mp (List.mem_of_mem_filter he)
  have hok := snap.registry.entries_ok addr e haddr
  have heq : e.node.addr = addr := hok.addr_eq
  rw [heq]
  exact ⟨e, haddr, hok, rfl⟩

lemma provider_free {n : ProxyNode} (h : n ∈ snap.nodes) :
    startsWith n.provider "free-" = true := by
  obtain ⟨e, -, hok, rfl⟩ := snap.mem_nodes h
  exact hok.provider_free

lemma weight_range {n : ProxyNode} (h : n ∈ snap.nodes) :
    1 ≤ n.weight ∧ n.weight ≤ freePoolWeightTrustedMax := by
  obtain ⟨e, -, hok, rfl⟩ := snap.mem_nodes h
  rw [hok.weight_eq]
  exact ⟨e.health.one_le_weight, e.health.weight_le⟩

lemma addr_nodup : (snap.nodes.map ProxyNode.addr).Nodup := by
  have hkeys : (snap.registry.entries.entries.map (fun e => e.2.node.addr)).Nodup := by
    have haddr : ∀ e ∈ snap.registry.entries.entries, e.2.node.addr = e.1 := by
      intro e he
      exact (snap.registry.entries_ok e.1 e.2 ((mem_entries_iff _ _ _).mp he)).addr_eq
    rw [List.map_congr_left haddr]
    exact snap.registry.entries.keys_nodup
  have hsub : (((values snap.registry.entries).filter (fun e => snap.now < e.expiresAt &&
      !e.health.backedOff snap.now && (!snap.requireElite || e.health.anon = .elite))).map
        (fun e => e.node.addr)).Sublist (snap.registry.entries.entries.map (fun e => e.2.node.addr)) := by
    have hmap : snap.registry.entries.entries.map (fun e => e.2.node.addr) =
        (values snap.registry.entries).map (fun e => e.node.addr) := by
      simp [values, Function.comp_def]
    rw [hmap]
    exact List.filter_sublist.map _
  have hsnap : ((snap.registry.snapshot snap.now snap.requireElite).map ProxyNode.addr).Nodup := by
    rw [Registry.snapshot, List.map_map]
    exact hkeys.sublist hsub
  exact (snap.perm.map ProxyNode.addr).nodup_iff.mpr hsnap

end RegistrySnapshot

end IPProxyPool
