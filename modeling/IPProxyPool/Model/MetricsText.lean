import IPProxyPool.Lib.RawExposition
import IPProxyPool.Model.Metrics
import IPProxyPool.Model.NodeFile

/-!
# The text of the metrics

`MetricsRegistry::render`. The order of the families and of their lines is that of the source.
-/

namespace IPProxyPool
open AssocTable AtomicHistogram Exposition

def metric (name : String)
    (h : isMetricName name.toList = true := by exact check_toList _ rfl (by decide +kernel)) :
    MetricName := ⟨name.toList, h⟩

def label (name : String)
    (h : isName isLabelStart isLabelChar name.toList = true := by
      exact check_toList _ rfl (by decide +kernel)) : LabelName :=
  ⟨name.toList, h⟩

def header (name doc kind : String)
    (hname : isMetricName name.toList = true := by exact check_toList _ rfl (by decide +kernel))
    (h : isHeader name.toList doc.toList kind.toList = true := by
      exact isHeader_toList _ _ _ rfl rfl rfl (by decide +kernel)) : Header :=
  ⟨⟨name.toList, hname⟩, doc.toList, kind.toList, h⟩

lemma label_ne {a b : String} {ha : isName isLabelStart isLabelChar a.toList = true}
    {hb : isName isLabelStart isLabelChar b.toList = true} (h : a ≠ b) : label a ha ≠ label b hb :=
  fun heq => h (String.toList_injective (congrArg Subtype.val heq))

lemma metric_ne {a b : String} {ha : isMetricName a.toList = true}
    {hb : isMetricName b.toList = true} (h : a ≠ b) : metric a ha ≠ metric b hb :=
  fun heq => h (String.toList_injective (congrArg Subtype.val heq))

def statusLabel : LabelName := label "status"

def providerLabel : LabelName := label "provider"

def exitLabel : LabelName := label "exit_ip"

def requestsTotal : MetricName := metric "proxy_requests_total"

def forbiddenTotal : MetricName := metric "proxy_requests_forbidden_total"

def exitTotal : MetricName := metric "free_pool_exit_total"

/-- The entries of a table under their texts, sorted. -/
def sortedRows {κ : Type*} (text : κ → String) (t : Table κ Nat) : List (String × Nat) :=
  (t.entries.map (fun e => (text e.1, e.2))).insertionSort (fun a b => a.1 ≤ b.1)

/-- A metric without labels. -/
def single (h : Header) (value : Nat) : Family := ⟨h, [⟨h.name, [], false, value⟩]⟩

/-- A series for each row, told apart by one label. -/
def labelled (name : MetricName) (key : LabelName) (rows : List (String × Nat)) : List Sample :=
  rows.map (fun r => ⟨name, [(key, r.1.toList)], false, r.2⟩)

def vector (h : Header) (key : LabelName) (rows : List (String × Nat)) : Family :=
  ⟨h, labelled h.name key rows⟩

/-- The lines of one histogram: cumulative buckets, `+Inf`, count and sum. -/
def histogramSamples (bucket count sum : MetricName) (fixed : List (LabelName × List Char))
    (c : Cells) : List Sample :=
  (durationBucketsMs.zip c.lines.buckets).map (fun p =>
      ⟨bucket, fixed ++ [(label "le", Nat.toDigits 10 p.1)], false, p.2⟩) ++
    [⟨bucket, fixed ++ [(label "le", "+Inf".toList)], false, c.lines.inf⟩,
      ⟨count, fixed, false, c.lines.count⟩, ⟨sum, fixed, false, c.sum⟩]

/-- The stages share their metric, so its header is written for each of them. -/
def stageFamily (stage : String) (c : Cells) : Family :=
  ⟨header "proxy_stage_duration_ms" "Per-stage gateway overhead histogram (ms)." "histogram",
    histogramSamples (metric "proxy_stage_duration_ms_bucket")
      (metric "proxy_stage_duration_ms_count") (metric "proxy_stage_duration_ms_sum")
      [(label "stage", stage.toList)] c⟩

namespace MetricsRegistry

variable (m : MetricsRegistry)

/-- The sinks that have been reported, in the order of their names. -/
def sinkRows (value : SinkHealth → Option Nat) : List (String × Nat) :=
  ((value m.clickhouse).map (fun v => ("clickhouse", v))).toList ++
    ((value m.redis).map (fun v => ("redis", v))).toList

/-- The per-provider series, sorted by class and provider. -/
def providerSamples : List Sample :=
  let rows := (m.reqByProvider.entries.map (fun e => (e.1.1.text, e.1.2, e.2))).insertionSort
    (fun a b => a.1 < b.1 ∨ (a.1 = b.1 ∧ a.2.1 ≤ b.2.1))
  rows.map (fun r => ⟨requestsTotal,
    [(statusLabel, r.1.toList), (providerLabel, r.2.1.toList)], true, r.2.2⟩)

def statusSample (c : StatusClass) (value : Nat) : Sample :=
  ⟨requestsTotal, [(statusLabel, c.text.toList)], false, value⟩

/-- The series of the exits. That of the overflow comes last, with 0 if there is none. -/
def exitSamples : List Sample :=
  let exits := sortedRows id m.freeExitTotal
  let name := exitTotal
  match m.freeExitTotal.lookup exitOverflowLabel with
  | some v =>
    labelled name exitLabel (exits.filter (fun r => r.1 ≠ exitOverflowLabel)) ++
      labelled name exitLabel [(exitOverflowLabel, v)]
  | none =>
    labelled name exitLabel exits ++
      labelled name exitLabel [(exitOverflowLabel, 0)]

def requestsFamily : Family :=
  ⟨header "proxy_requests_total" "Proxied responses by status class." "counter",
    [statusSample .ok m.req2xx, statusSample .clientError m.req4xx,
      statusSample .serverError m.req5xx, statusSample .other m.reqOther] ++ m.providerSamples⟩

def forbiddenFamily : Family :=
  vector (header "proxy_requests_forbidden_total" "403 responses by provider." "counter")
    providerLabel (sortedRows id m.forbiddenByProvider)

def exitFamily : Family :=
  ⟨header "free_exit_total" "FreePool forward passes by exit ip." "counter", m.exitSamples⟩

def requestFamilies : List Family :=
  [single (header "proxy_requests_unpaid_total" "Tenant out-of-balance (402) responses."
      "counter") m.req402,
    single (header "proxy_requests_limited_total" "Rate/concurrency limited (429) responses."
      "counter") m.req429,
    single (header "socks_bridge_errors_total" "SOCKS bridge egress failures." "counter")
      m.bridgeErrors,
    single (header "quarantine_nodes" "Quarantined domain:ip entries in memory." "gauge")
      m.quarantineNodes,
    single (header "gateway_transferred_bytes_total" "Egress bytes metered." "counter")
      m.bytesTotal,
    ⟨header "gateway_processing_duration_ms" "Gateway overhead histogram." "histogram",
      histogramSamples (metric "gateway_processing_duration_ms_bucket")
        (metric "gateway_processing_duration_ms_count")
        (metric "gateway_processing_duration_ms_sum") [] (m.histograms .duration)⟩,
    stageFamily "connect" (m.histograms .connect),
    stageFamily "ttfb" (m.histograms .ttfb),
    stageFamily "transfer" (m.histograms .transfer)]

def workerFamilies : List Family :=
  [vector (header "breaker_trigger_total" "Circuit breaker trigger count by status." "counter")
      statusLabel (sortedRows toString m.breakerTrigger),
    single (header "bandit_exploration_total" "LinUCB forced tier exploration count." "counter")
      m.banditExploration,
    single (header "quarantine_domains_total" "Quarantined domain count (outer level)." "gauge")
      m.quarantineDomains,
    single (header "telemetry_dropped_total" "Telemetry events dropped after one retry."
      "counter") m.telemetryDropped,
    single (header "telemetry_channel_dropped_total"
      "Telemetry events dropped on a full/closed channel." "counter") m.channelDropped,
    vector (header "telemetry_sink_up"
      "Telemetry sink reachable (1) or failing (0), last attempt." "gauge")
      (label "backend") (m.sinkRows SinkHealth.up),
    vector (header "telemetry_sink_failures_total"
      "Telemetry sink write attempts that failed." "counter")
      (label "backend") (m.sinkRows SinkHealth.failures),
    vector (header "telemetry_sink_last_ok_unixtime_seconds"
      "Unix time of last successful sink write (0 = never)." "gauge")
      (label "backend") (m.sinkRows SinkHealth.lastOk),
    vector (header "supervisor_restarts_total" "Background worker restarts by worker." "counter")
      (label "worker") (sortedRows Worker.text m.supervisorRestarts),
    single (header "gateway_logs_sampled_total" "Data-plane log lines sampled to debug."
      "counter") m.logsSampled]

def freePoolFamilies : List Family :=
  [single (header "free_pool_nodes_total" "Free-tier nodes currently merged into the pool."
      "gauge") m.freePoolNodes,
    vector (header "free_pool_source_yield_total" "FreePool fetched nodes by source." "counter")
      (label "source") (sortedRows SourceName.text m.freeSourceYield)] ++
  (if m.freeSourceElite.entries.isEmpty then []
    else [vector (header "free_pool_source_elite_total" "FreePool Elite nodes by source."
      "counter") (label "source") (sortedRows SourceName.text m.freeSourceElite)]) ++
  [vector (header "free_pool_verify_total" "FreePool verify outcomes by result." "counter")
      (label "result") (sortedRows VerifyResult.text m.freeVerify),
    vector (header "free_pool_anonymity_total" "FreePool anonymity levels by level." "counter")
      (label "level") (sortedRows AnonLevel.text m.freeAnonymity),
    vector (header "free_pool_source_suspended" "FreePool source suspended flag by source."
      "gauge") (label "source") (sortedRows SourceName.text m.freeSuspended),
    vector (header "free_pool_nodes_by_proto" "FreePool merged nodes by egress proto." "gauge")
      (label "proto") (sortedRows protoStr m.freeNodesByProto),
    vector (header "geoip_lookups_total" "GeoIP exit-country lookups by result." "counter")
      (label "result") (sortedRows GeoLookup.text m.geoLookups),
    single (header "geoip_mismatch_total" "GeoIP exit-country hard mismatches." "counter")
      m.geoMismatch,
    single (header "free_pool_intake_capped_total" "FreePool intake nodes dropped by cap."
      "counter") m.freeIntakeCapped,
    single (header "free_pool_baseline_fail_total"
      "FreePool ticks degraded on baseline unreachable." "counter") m.freeBaselineFail,
    single (header "free_pool_evicted_total" "FreePool nodes evicted over capacity." "counter")
      m.freeEvicted,
    vector (header "free_pool_source_fetch_ms_sum"
      "FreePool per-source fetch latency sum in ms." "counter")
      (label "source") (sortedRows SourceName.text m.freeFetchMsSum),
    vector (header "free_pool_source_fetch_ms_count" "FreePool per-source fetch rounds."
      "counter") (label "source") (sortedRows SourceName.text m.freeFetchCount),
    ⟨header "free_pool_fwd_latency_ms" "FreePool single-node forward latency in ms."
        "histogram",
      histogramSamples (metric "free_pool_fwd_latency_ms_bucket")
        (metric "free_pool_fwd_latency_ms_count") (metric "free_pool_fwd_latency_ms_sum") []
        (m.histograms .freeFwd)⟩]

/-- All but those with labels of foreign origin. -/
def fixedFamilies : List Family := m.requestFamilies ++ m.workerFamilies ++ m.freePoolFamilies

def families : List Family :=
  [m.requestsFamily, m.forbiddenFamily] ++ m.fixedFamilies ++ [m.exitFamily]

/-- The text that `render` writes: label values are put between quotes as they are. -/
def render : List Char := Exposition.raw m.families

end MetricsRegistry

end IPProxyPool
