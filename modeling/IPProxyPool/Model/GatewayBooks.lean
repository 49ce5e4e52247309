import IPProxyPool.Lib.TextSearch
import IPProxyPool.Model.Metrics
import IPProxyPool.Model.Request
import IPProxyPool.Model.Tenant

/-!
# The gateway and its books

A request from `request_filter`, which authenticates it, to `logging`, which releases its slot and
writes it into the account of its tenant, the metrics and the telemetry. Requests overlap, but each
of the two phases is one step here: other requests fall between the phases of a request and not
between the calls of one phase. What happens between the two is an input, and so are the answer of
the rate limiter and the clock.
-/

namespace IPProxyPool
open RustText AssocTable

/-! ### Keys -/

def defaultApiKey : String := "default_key"

/-- `TENANT_SENTINEL_QUOTA`, both for the rate and for the concurrency. -/
def tenantSentinelQuota : Nat := 10000

def resolveApiKey (raw : Option String) : Except String (Option String) :=
  match raw with
  | none => .ok none
  | some s =>
    let t := trimString s
    if t = "" then
      .error ("API_KEY is set but empty/whitespace; " ++
        "refusing to fall back to the public default key")
    else if t = defaultApiKey then
      .error ("API_KEY is set to the public default value; " ++
        "refusing — set a strong random value instead")
    else .ok (some t)

/-- The key that `main` registers; the empty text stands for none. -/
def effectiveKey (apiKeyEnv : Option String) : String :=
  match resolveApiKey apiKeyEnv with
  | .ok (some k) => k
  | .ok none => defaultApiKey
  | .error _ => ""

def registerTenant (tenants : Table String TenantAccount) (tenantId apiKey : String)
    (qps maxConcurrency : Nat) : Table String TenantAccount :=
  tenants.insert apiKey (newTenantAccount tenantId qps maxConcurrency)

/-- The tenants that `main` starts with. -/
def startTenants (apiKeyEnv : Option String) : Table String TenantAccount :=
  if effectiveKey apiKeyEnv = "" then ∅
  else registerTenant ∅ "default" (effectiveKey apiKeyEnv) tenantSentinelQuota tenantSentinelQuota

/-- `REQUIRE_API_KEY` as `main` reads it. -/
def requireApiKeyEnv (var : Option String) : Bool := var ≠ some "0"

def shouldRejectMissingApiKey (requireApiKey hasApiKeyHeader : Bool) : Bool :=
  requireApiKey && !hasApiKeyHeader

def statusForAuthError (msg : String) : Nat :=
  if contains msg "Rate limit" || contains msg "concurrency" then 429
  else if contains msg "balance" then 402
  else 403

/-! ### The tenant manager -/

/-- A request that is over the limit undoes its increment. -/
def authenticateAndThrottle (tenants : Table String TenantAccount) (apiKey : String)
    (limiterOk : Bool) : Except String TenantAccount × Table String TenantAccount :=
  match tenants.lookup apiKey with
  | none => (.error "Invalid API Key", tenants)
  | some tenant =>
    match tenantChecks tenant limiterOk with
    | .error msg => (.error msg, tenants)
    | .ok _ =>
      let added := wrappingAdd tenant.inFlight 1
      if tenant.maxConcurrency ≤ tenant.inFlight then
        (.error "Max concurrency limit reached",
          tenants.insert apiKey { tenant with inFlight := wrappingSub added 1 })
      else (.ok tenant, tenants.insert apiKey { tenant with inFlight := added })

/-- A release without a slot is dropped. -/
def releaseAndMeter (tenant : TenantAccount) (bytes : Nat) (tier : String) : TenantAccount :=
  if tenant.inFlight = 0 then tenant
  else
    { tenant with
      inFlight := tenant.inFlight - 1
      totalBytes := wrappingAdd tenant.totalBytes bytes
      balanceUsd := tenant.balanceUsd - bytes / bytesPerGb * pricePerGb tier }

/-! ### Requests -/

/-- A request between `request_filter` and `logging`. `responded` is the status of an answer that
`request_filter` gave itself. -/
structure OpenRequest where
  clientIp : String
  apiKey : Option String := none
  tenantId : Option String := none
  routingSpec : RoutingSpec := {}
  traceId : String := ""
  responded : Option Nat := none

/-- What the phases between `request_filter` and `logging` leave behind. -/
structure RequestOutcome where
  status : Nat
  node : Option ProxyNode
  transferredBytes : Nat
  retryCount : Nat
  errorType : Option String

/-- An answer of `request_filter` itself. -/
def RequestOutcome.answered (status : Nat) : RequestOutcome := ⟨status, none, 0, 0, none⟩

/-- The clocks that `logging` reads, in milliseconds: the age of the request, the ages of its
connection and of its first byte, and the time between the two. -/
structure LoggingClocks where
  nowMs : Nat
  connectedMs : Option Nat
  firstByteMs : Option Nat
  betweenMs : Nat
  unixMs : Nat

structure Gateway where
  requireApiKey : Bool
  hasTelemetry : Bool
  tenants : Table String TenantAccount
  requests : Table Nat OpenRequest := ∅
  metrics : MetricsRegistry := {}
  emitted : List TelemetryMessage := []

/-- `main` for the variables `API_KEY` and `REQUIRE_API_KEY`. -/
def Gateway.start (apiKeyEnv requireEnv : Option String) (hasTelemetry : Bool) : Gateway where
  requireApiKey := requireApiKeyEnv requireEnv
  hasTelemetry := hasTelemetry
  tenants := startTenants apiKeyEnv

/-- A request arrives or ends, the admin interface changes an account, or something else is reported
to the registry. -/
inductive GatewayEvent where
  | arrive (i : Nat) (clientIp : String) (header : HeaderMap) (limiterOk : Bool)
      (freshTrace : String)
  | finish (i : Nat) (outcome : RequestOutcome) (clocks : LoggingClocks)
  | setActive (apiKey : String) (active : Bool)
  | setBalance (apiKey : String) (balanceUsd : ℚ)
  | report (call : MetricsCall)

namespace Gateway

variable (b64Decode : String → Option (List UInt8))

/-- `request_filter` without the rewriting of the header. -/
def requestFilter (g : Gateway) (clientIp : String) (header : HeaderMap) (limiterOk : Bool)
    (freshTrace : String) : OpenRequest × Table String TenantAccount :=
  let ctx : OpenRequest := { clientIp := clientIp }
  if ((header.getStr "Host").map trimString).getD "" = "" then
    ({ ctx with responded := some 400 }, g.tenants)
  else
    let apiKeyHeader := header.getStr "X-API-Key"
    if shouldRejectMissingApiKey g.requireApiKey apiKeyHeader.isSome then
      ({ ctx with responded := some 403 }, g.tenants)
    else
      let apiKey := apiKeyHeader.getD defaultApiKey
      match authenticateAndThrottle g.tenants apiKey limiterOk with
      | (.error msg, tenants) => ({ ctx with responded := some (statusForAuthError msg) }, tenants)
      | (.ok account, tenants) =>
        let spec := applyTenantNamespace (parseRoutingSpec b64Decode header)
          (some account.tenantId)
        ({ ctx with
          apiKey := some apiKey
          tenantId := some account.tenantId
          routingSpec := spec
          traceId := ((header.getStr "X-Trace-Id").filter (fun v => v ≠ "")).getD freshTrace
          responded :=
            if freeTierWithCredentials spec.tier (hasAuthorization header) (hasCookie header)
            then some 403 else none }, tenants)

/-- The message that `logging` emits; its id is given by `emit`. -/
def telemetryOf (ctx : OpenRequest) (o : RequestOutcome) (clocks : LoggingClocks) :
    TelemetryMessage where
  eventId := ""
  traceId := ctx.traceId
  clientIp := ctx.clientIp
  targetDomain := ctx.routingSpec.targetDomain
  outIp := outIpOf o.node
  provider := (o.node.map ProxyNode.provider).getD "none"
  tier := (o.node.map ProxyNode.tier).getD "none"
  country := (o.node.map ProxyNode.country).getD "none"
  statusCode := o.status
  latencyMs := clocks.nowMs
  transferredBytes := o.transferredBytes
  retryCount := min o.retryCount 255
  tenantId := ctx.tenantId
  errorType := o.errorType
  timestamp := clocks.unixMs

/-- The calls of the registry in `logging`, in their order. -/
def loggingCalls (o : RequestOutcome) (clocks : LoggingClocks) : List MetricsCall :=
  let connectMs := min (clocks.connectedMs.getD 0) clocks.nowMs
  let ttfbOffsetMs := clocks.firstByteMs.getD clocks.nowMs
  let ttfbMs :=
    if clocks.connectedMs.isSome ∧ clocks.firstByteMs.isSome then min clocks.betweenMs clocks.nowMs
    else 0
  [.observeStage "connect" connectMs, .observeStage "ttfb" ttfbMs,
    .observeStage "transfer" (clocks.nowMs - ttfbOffsetMs),
    .observe o.status (o.node.map ProxyNode.provider) o.transferredBytes clocks.nowMs,
    .sampleFullLog o.status]

/-- The account table after the release in `logging`. -/
def released (tenants : Table String TenantAccount) (apiKey : Option String) (o : RequestOutcome) :
    Table String TenantAccount :=
  match apiKey with
  | none => tenants
  | some key =>
    match tenants.lookup key with
    | none => tenants
    | some account =>
      tenants.insert key (releaseAndMeter account o.transferredBytes
        ((o.node.map ProxyNode.tier).getD "datacenter"))

/-- `logging`, but for the reward of the bandit arm. -/
def logging (g : Gateway) (ctx : OpenRequest) (o : RequestOutcome) (clocks : LoggingClocks) :
    Gateway :=
  { g with
    tenants := released g.tenants ctx.apiKey o
    metrics := (loggingCalls o clocks).foldl MetricsRegistry.step g.metrics
    emitted := if g.hasTelemetry then g.emitted ++ [telemetryOf ctx o clocks] else g.emitted }

/-- An arrival under the number of an open request and an end of a request that is not open leave
the gateway as it is. Only `logging` observes requests. -/
def step (g : Gateway) : GatewayEvent → Gateway
  | .arrive i clientIp header limiterOk freshTrace =>
    if i ∈ g.requests then g
    else
      let p := g.requestFilter b64Decode clientIp header limiterOk freshTrace
      { g with tenants := p.2, requests := g.requests.insert i p.1 }
  | .finish i outcome clocks =>
    match g.requests.lookup i with
    | none => g
    | some ctx =>
      let o := (ctx.responded.map RequestOutcome.answered).getD outcome
      { g.logging ctx o clocks with requests := g.requests.erase i }
  | .setActive apiKey active =>
    match g.tenants.lookup apiKey with
    | none => g
    | some account =>
      { g with tenants := g.tenants.insert apiKey { account with isActive := active } }
  | .setBalance apiKey balanceUsd =>
    match g.tenants.lookup apiKey with
    | none => g
    | some account =>
      { g with tenants := g.tenants.insert apiKey { account with balanceUsd := balanceUsd } }
  | .report (.observe ..) => g
  | .report call => { g with metrics := g.metrics.step call }

end Gateway

end IPProxyPool
