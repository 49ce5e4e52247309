import IPProxyPool.Lib.AtomicHistogram
import IPProxyPool.Model.FreePool
import IPProxyPool.Model.Node
import IPProxyPool.Model.Telemetry

/-!
# Metrics

`MetricsRegistry` and the calls that change it. The labels that callers choose from a fixed set are
enumerations here; providers and exit addresses are the strings that nodes and check services bring
along.
-/

namespace IPProxyPool
open AssocTable AtomicHistogram

/-! ### Histograms -/

/-- `DURATION_BUCKETS_MS`. -/
def durationBucketsMs : List Nat :=
  [1, 5, 10, 25, 50, 100, 250, 500, 1000, 2500, 5000, 10000, 30000, 60000]

/-- All histograms have these buckets and cut their values at 60 s. -/
def latencyLayout : Layout := ⟨durationBucketsMs, 60000, 60000, by decide, le_rfl⟩

inductive HistogramName where
  | duration
  | connect
  | ttfb
  | transfer
  | freeFwd
  deriving DecidableEq

/-- The order in which `render` loads them. -/
def renderOrder : List HistogramName := [.duration, .connect, .ttfb, .transfer, .freeFwd]

/-- The histogram that `observe_stage` adds to; other stages are ignored. -/
def stageHistogram (stage : String) : Option HistogramName :=
  if stage = "connect" then some .connect
  else if stage = "ttfb" then some .ttfb
  else if stage = "transfer" then some .transfer
  else none

/-! ### Labels -/

inductive StatusClass where
  | ok
  | clientError
  | serverError
  | other
  deriving DecidableEq

def StatusClass.text : StatusClass → String
  | .ok => "2xx"
  | .clientError => "4xx"
  | .serverError => "5xx"
  | .other => "other"

def statusClass (status : Nat) : StatusClass :=
  if 200 ≤ status ∧ status ≤ 299 then .ok
  else if 400 ≤ status ∧ status ≤ 499 then .clientError
  else if 500 ≤ status ∧ status ≤ 599 then .serverError
  else .other

/-- The workers that `supervise_until` restarts, and the one that restarts itself. -/
inductive Worker where
  | metrics
  | prewarmer
  | freePool
  | circuitBreaker
  | pubsubDelta
  | prober
  | arbitrage
  | chSink
  | sweep
  | telemetry
  deriving DecidableEq

def Worker.text : Worker → String
  | .metrics => "metrics"
  | .prewarmer => "prewarmer"
  | .freePool => "free_pool"
  | .circuitBreaker => "circuit_breaker"
  | .pubsubDelta => "pubsub_delta"
  | .prober => "prober"
  | .arbitrage => "arbitrage"
  | .chSink => "ch_sink"
  | .sweep => "sweep"
  | .telemetry => "telemetry"

/-- The names that `build_sources` gives to the sources. -/
inductive SourceName where
  | api (i : Nat)
  | html (i : Nat)
  | gh (i : Nat)
  deriving DecidableEq

def SourceName.text : SourceName → String
  | .api i => "api" ++ toString i
  | .html i => "html" ++ toString i
  | .gh i => "gh" ++ toString i

inductive VerifyResult where
  | pass
  | tcpFail
  | fullFail
  | geoFail
  deriving DecidableEq

def VerifyResult.text : VerifyResult → String
  | .pass => "pass"
  | .tcpFail => "tcp_fail"
  | .fullFail => "full_fail"
  | .geoFail => "geo_fail"

def AnonLevel.text : AnonLevel → String
  | .elite => "elite"
  | .anonymous => "anonymous"
  | .transparent => "transparent"
  | .unknown => "unknown"

inductive GeoLookup where
  | hit
  | miss
  deriving DecidableEq

def GeoLookup.text : GeoLookup → String
  | .hit => "hit"
  | .miss => "miss"

/-! ### The registry -/

/-- `entry(key).or_insert(0)` with `n` added. -/
def addTo {κ : Type*} [DecidableEq κ] (t : Table κ Nat) (key : κ) (n : Nat) : Table κ Nat :=
  t.insert key ((t.lookup key).getD 0 + n)

/-- What the series of a key shows. -/
def countOf {κ : Type*} [DecidableEq κ] (t : Table κ Nat) (key : κ) : Nat := (t.lookup key).getD 0

section
variable {κ : Type*} [DecidableEq κ] (t : Table κ Nat) (key : κ) (n : Nat)

lemma countOf_addTo (k : κ) :
    countOf (addTo t key n) k = countOf t k + if k = key then n else 0 := by
  unfold countOf addTo
  rw [lookup_insert_eq]
  by_cases h : k = key
  · subst h
    simp
  · simp [h]

lemma mem_addTo (k : κ) : k ∈ addTo t key n ↔ k = key ∨ k ∈ t := AList.mem_insert t

lemma sum_addTo : (values (addTo t key n)).sum = (values t).sum + n := by
  by_cases h : key ∈ t
  · obtain ⟨a, l₁, l₂, -, hentries, herase⟩ := List.exists_of_kerase (AList.mem_keys.mp h)
    have hlookup : t.lookup key = some a := by
      rw [← mem_entries_iff, hentries]
      simp
    unfold values addTo
    rw [hlookup, AList.entries_insert, herase, hentries]
    simp
    omega
  · have hlookup : t.lookup key = none := AList.lookup_eq_none.mpr h
    unfold values addTo
    rw [hlookup, AList.entries_insert_of_notMem h]
    simp [Nat.add_comm]

lemma keys_addTo_of_mem (h : key ∈ t) : (addTo t key n).keys.Perm t.keys := by
  unfold addTo
  rw [AList.keys_insert]
  exact (List.perm_cons_erase (AList.mem_keys.mp h)).symm

lemma keys_addTo_of_notMem (h : key ∉ t) : (addTo t key n).keys = key :: t.keys := by
  unfold addTo
  rw [AList.keys_insert, List.erase_of_not_mem (fun hk => h (AList.mem_keys.mpr hk))]

end

structure MetricsRegistry where
  req2xx : Nat := 0
  req4xx : Nat := 0
  req5xx : Nat := 0
  reqOther : Nat := 0
  req402 : Nat := 0
  req429 : Nat := 0
  bridgeErrors : Nat := 0
  quarantineNodes : Nat := 0
  forbiddenByProvider : Table String Nat := ∅
  reqByProvider : Table (StatusClass × String) Nat := ∅
  bytesTotal : Nat := 0
  histograms : HistogramName → Cells :=
    fun _ => ⟨List.replicate durationBucketsMs.length 0, 0, 0⟩
  telemetryDropped : Nat := 0
  channelDropped : Nat := 0
  redis : SinkHealth := {}
  clickhouse : SinkHealth := {}
  supervisorRestarts : Table Worker Nat := ∅
  logSampleSeq : Nat := 0
  logsSampled : Nat := 0
  freePoolNodes : Nat := 0
  freeSourceYield : Table SourceName Nat := ∅
  freeSourceElite : Table SourceName Nat := ∅
  freeVerify : Table VerifyResult Nat := ∅
  freeAnonymity : Table AnonLevel Nat := ∅
  freeSuspended : Table SourceName Nat := ∅
  freeNodesByProto : Table EgressProto Nat := ∅
  geoLookups : Table GeoLookup Nat := ∅
  geoMismatch : Nat := 0
  freeIntakeCapped : Nat := 0
  freeBaselineFail : Nat := 0
  freeEvicted : Nat := 0
  freeFetchMsSum : Table SourceName Nat := ∅
  freeFetchCount : Table SourceName Nat := ∅
  freeExitTotal : Table String Nat := ∅
  breakerTrigger : Table Nat Nat := ∅
  banditExploration : Nat := 0
  quarantineDomains : Nat := 0

def exitLabelCap : Nat := 512

def exitOverflowLabel : String := "__overflow__"

def logSampleEvery : Nat := 1000

/-- The table that `note_free_exit` leaves. A series that exists counts on at the cap. -/
def noteExit (t : Table String Nat) (exitIp : String) : Table String Nat :=
  if exitIp = "" then t
  else if exitIp ∈ t then addTo t exitIp 1
  else if exitLabelCap ≤ len t then addTo t exitOverflowLabel 1
  else addTo t exitIp 1

namespace MetricsRegistry

variable (m : MetricsRegistry)

def observeHistogram (h : HistogramName) (ms : Nat) : MetricsRegistry :=
  { m with
    histograms := Function.update m.histograms h ((m.histograms h).observe latencyLayout ms) }

/-- The counters of the status; 402 and 429 are counted on their own as well. -/
def countStatus (status : Nat) : MetricsRegistry :=
  match statusClass status with
  | .ok => { m with req2xx := m.req2xx + 1 }
  | .clientError =>
    { m with
      req4xx := m.req4xx + 1
      req402 := if status = 402 then m.req402 + 1 else m.req402
      req429 := if status = 429 then m.req429 + 1 else m.req429 }
  | .serverError => { m with req5xx := m.req5xx + 1 }
  | .other => { m with reqOther := m.reqOther + 1 }

/-- The counters of the provider, `none` where there is no node. -/
def countProvider (status : Nat) (provider : Option String) : MetricsRegistry :=
  { m with
    reqByProvider := addTo m.reqByProvider (statusClass status, provider.getD "none") 1
    forbiddenByProvider :=
      match provider with
      | some p => if status = 403 then addTo m.forbiddenByProvider p 1 else m.forbiddenByProvider
      | none => m.forbiddenByProvider }

def observe (status : Nat) (provider : Option String) (bytes ms : Nat) : MetricsRegistry :=
  let counted := (m.countStatus status).countProvider status provider
  { counted with bytesTotal := counted.bytesTotal + bytes }.observeHistogram .duration ms

def observeStage (stage : String) (ms : Nat) : MetricsRegistry :=
  (stageHistogram stage).elim m (fun h => m.observeHistogram h ms)

def noteFreeExit (exitIp : String) : MetricsRegistry :=
  { m with freeExitTotal := noteExit m.freeExitTotal exitIp }

def noteBreakerTrigger (status : Nat) : MetricsRegistry :=
  if status = 429 ∨ status = 403 ∨ status = 502 ∨ status = 504 then
    { m with breakerTrigger := addTo m.breakerTrigger status 1 }
  else m

/-- Every thousandth line below status 500 is logged in full; the others are counted. -/
def sampleFullLog (status : Nat) : MetricsRegistry :=
  if 500 ≤ status then m
  else
    { m with
      logSampleSeq := m.logSampleSeq + 1
      logsSampled :=
        if m.logSampleSeq % logSampleEvery = 0 then m.logsSampled else m.logsSampled + 1 }

def noteFreeSourceFetch (source : SourceName) (ms : Nat) : MetricsRegistry :=
  { m with
    freeFetchCount := addTo m.freeFetchCount source 1
    freeFetchMsSum := m.freeFetchMsSum.insert source
      (AtomicHistogram.saturatingAdd ((m.freeFetchMsSum.lookup source).getD 0) (min ms 60000)) }

end MetricsRegistry

inductive SinkBackend where
  | redis
  | clickhouse

/-- A call that changes the registry; the two counters of dropped events are shared with the
workers that drop them. -/
inductive MetricsCall where
  | observe (status : Nat) (provider : Option String) (bytes ms : Nat)
  | observeStage (stage : String) (ms : Nat)
  | noteFreeFwdLatency (ms : Nat)
  | noteFreeExit (exitIp : String)
  | noteBridgeError
  | setQuarantineNodes (n : Nat)
  | telemetryDropped (n : Nat)
  | channelDropped (n : Nat)
  | markSinkOk (backend : SinkBackend) (now : Nat)
  | markSinkFailed (backend : SinkBackend)
  | noteSupervisorRestart (worker : Worker)
  | sampleFullLog (status : Nat)
  | setFreePoolNodes (n : Nat)
  | noteFreeSourceYield (source : SourceName) (n : Nat)
  | noteFreeSourceElite (source : SourceName)
  | noteFreeVerify (result : VerifyResult)
  | noteFreeAnonymity (level : AnonLevel)
  | setFreeSourceSuspended (source : SourceName) (suspended : Bool)
  | setFreePoolNodesProto (proto : EgressProto) (n : Nat)
  | noteGeoLookup (result : GeoLookup)
  | noteGeoMismatch
  | noteFreeIntakeCapped (n : Nat)
  | noteFreeBaselineFail
  | noteFreeEvicted (n : Nat)
  | noteFreeSourceFetch (source : SourceName) (ms : Nat)
  | noteBreakerTrigger (status : Nat)
  | noteBanditExploration
  | setQuarantineDomains (n : Nat)

namespace MetricsRegistry

def step (m : MetricsRegistry) : MetricsCall → MetricsRegistry
  | .observe status provider bytes ms => m.observe status provider bytes ms
  | .observeStage stage ms => m.observeStage stage ms
  | .noteFreeFwdLatency ms => m.observeHistogram .freeFwd ms
  | .noteFreeExit exitIp => m.noteFreeExit exitIp
  | .noteBridgeError => { m with bridgeErrors := m.bridgeErrors + 1 }
  | .setQuarantineNodes n => { m with quarantineNodes := n }
  | .telemetryDropped n => { m with telemetryDropped := m.telemetryDropped + n }
  | .channelDropped n => { m with channelDropped := m.channelDropped + n }
  | .markSinkOk .redis now => { m with redis := m.redis.markSinkOk now }
  | .markSinkOk .clickhouse now => { m with clickhouse := m.clickhouse.markSinkOk now }
  | .markSinkFailed .redis => { m with redis := m.redis.markSinkFailed }
  | .markSinkFailed .clickhouse => { m with clickhouse := m.clickhouse.markSinkFailed }
  | .noteSupervisorRestart worker =>
    { m with supervisorRestarts := addTo m.supervisorRestarts worker 1 }
  | .sampleFullLog status => m.sampleFullLog status
  | .setFreePoolNodes n => { m with freePoolNodes := n }
  | .noteFreeSourceYield source n =>
    { m with freeSourceYield := addTo m.freeSourceYield source n }
  | .noteFreeSourceElite source =>
    { m with freeSourceElite := addTo m.freeSourceElite source 1 }
  | .noteFreeVerify result => { m with freeVerify := addTo m.freeVerify result 1 }
  | .noteFreeAnonymity level => { m with freeAnonymity := addTo m.freeAnonymity level 1 }
  | .setFreeSourceSuspended source suspended =>
    { m with freeSuspended := m.freeSuspended.insert source (if suspended then 1 else 0) }
  | .setFreePoolNodesProto proto n =>
    { m with freeNodesByProto := m.freeNodesByProto.insert proto n }
  | .noteGeoLookup result => { m with geoLookups := addTo m.geoLookups result 1 }
  | .noteGeoMismatch => { m with geoMismatch := m.geoMismatch + 1 }
  | .noteFreeIntakeCapped n => { m with freeIntakeCapped := m.freeIntakeCapped + n }
  | .noteFreeBaselineFail => { m with freeBaselineFail := m.freeBaselineFail + 1 }
  | .noteFreeEvicted n => { m with freeEvicted := m.freeEvicted + n }
  | .noteFreeSourceFetch source ms => m.noteFreeSourceFetch source ms
  | .noteBreakerTrigger status => m.noteBreakerTrigger status
  | .noteBanditExploration => { m with banditExploration := m.banditExploration + 1 }
  | .setQuarantineDomains n => { m with quarantineDomains := n }

end MetricsRegistry

/-! ### Concurrent calls -/

/-- The histogram that a call adds its value to. -/
def MetricsCall.latency : MetricsCall → Option (HistogramName × Nat)
  | .observe _ _ _ ms => some (.duration, ms)
  | .observeStage stage ms => (stageHistogram stage).map (fun h => (h, ms))
  | .noteFreeFwdLatency ms => some (.freeFwd, ms)
  | _ => none

/-- Threads `ι` call the registry and threads `κ` render it, one atomic operation at a time. -/
inductive HistogramOp (ι κ : Type*) where
  | call (i : ι) (c : MetricsCall)
  | advance (i : ι) (spurious : Bool)
  | render (j : κ)
  | load (j : κ)

def HistogramOp.atomic {ι κ : Type*} : HistogramOp ι κ → Option (Op HistogramName ι κ)
  | .call i c => c.latency.map (fun p => .observe i p.1 p.2)
  | .advance i spurious => some (.advance i spurious)
  | .render j => some (.render j)
  | .load j => some (.load j)

/-- What the operations do to the histograms. -/
def histogramStep {ι κ : Type*} [DecidableEq ι] [DecidableEq κ]
    (s : State HistogramName ι κ) (op : HistogramOp ι κ) : State HistogramName ι κ :=
  stepEvent latencyLayout renderOrder HistogramOp.atomic s op

end IPProxyPool
