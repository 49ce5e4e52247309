import IPProxyPool.Model.Arbitrage
import IPProxyPool.Model.Request
import IPProxyPool.Model.Sink

/-!
# The telemetry warehouse

The way of a request into a row of the warehouse, and the query that asks the warehouse for the
success rate of a provider in a country. Whether the columns of a row meet the condition of a
query is for the database to say.
-/

namespace IPProxyPool
open RustText

/-! ### Rows -/

/-- What `logging` reads beside the record of the request. -/
structure LoggingInputs where
  traceId : String
  clientIp : String
  tenantId : Option String
  errorType : Option String
  durationMs : Nat
  nowUnixMs : Nat

/-- Provider, tier and country of the node that served. -/
def nodeLabels (node : Option ProxyNode) : String × String × String :=
  match node with
  | some n => (n.provider, n.tier, n.country)
  | none => ("none", "none", "none")

/-- The event that `logging` hands to `emit`, which gives it its id. -/
def loggedEvent (rec : RequestRecord) (i : LoggingInputs) : TelemetryMessage :=
  let (provider, tier, country) := nodeLabels rec.ctx.currentNode
  { (logging rec).event with
    eventId := ""
    traceId := i.traceId
    clientIp := i.clientIp
    provider := provider
    tier := tier
    country := country
    latencyMs := i.durationMs
    transferredBytes := rec.ctx.transferredBytes
    retryCount := min rec.ctx.retryCount 255
    tenantId := i.tenantId
    errorType := i.errorType
    timestamp := i.nowUnixMs }

/-- The row of a logged request whose event was given the id `eventId`. -/
def loggedRow (w : WireFormat) (rec : RequestRecord) (i : LoggingInputs) (eventId : String) :
    TelemetryRow :=
  .ofMessage w { loggedEvent rec i with eventId := eventId }

/-! ### The query -/

def slaWindowMinutes : Nat := 5

def isSafeLiteral (s : String) : Bool :=
  s ≠ "" && byteLen s ≤ 64 &&
    s.toList.all (fun c => c.isAlphanum || c = '-' || c = '_' || c = '.')

def singleQuote : Char := Char.ofNat 39

def sqlQuote (s : String) : String :=
  String.singleton singleQuote ++
    String.ofList (s.toList.flatMap (fun c => if c = singleQuote then ['\\', c] else [c])) ++
    String.singleton singleQuote

def slaSelect : String :=
  "SELECT countIf(status_code >= 200 AND status_code < 400) / count() * 100.0 " ++
    "FROM proxy.proxy_telemetry_log WHERE "

/-- The part of the condition that is about the columns. -/
def slaPair (provider country : String) : String :=
  "provider = " ++ sqlQuote provider ++ " AND country = " ++ sqlQuote (toAsciiUppercase country)

def slaWindow : String :=
  " AND event_time >= now64(3, 'UTC') - INTERVAL " ++ toString slaWindowMinutes ++ " MINUTE"

def slaSql (debug : String → String) (provider country : String) : Except String String :=
  if !isSafeLiteral provider then .error ("unsafe provider literal: " ++ debug provider)
  else if !isSafeLiteral country then .error ("unsafe country literal: " ++ debug country)
  else .ok (slaSelect ++ slaPair provider country ++ slaWindow)

/-- The rate over the rows that a query selects; without any, a division of zero by zero. -/
def successRate (rows : List TelemetryRow) : SlaValue :=
  if rows.isEmpty then .nan
  else .finite ((rows.filter (fun row => 200 ≤ row.statusCode && row.statusCode < 400)).length /
    rows.length * 100)

section Query

-- whether the columns of a row meet a condition, as the database reads it
variable (satisfies : String → TelemetryRow → Bool)

/-- The condition of `sla_sql` on the columns holds of the row. -/
def SlaSelects (debug : String → String) (provider country : String) (row : TelemetryRow) : Prop :=
  ∃ condition, slaSql debug provider country = .ok (slaSelect ++ condition ++ slaWindow) ∧
    satisfies condition row = true

/-- `query_provider_sla` over the rows of the window. -/
def queryProviderSla (debug : String → String) (window : List TelemetryRow)
    (provider country : String) : Except String ℚ :=
  match slaSql debug provider country with
  | .error e => .error e
  | .ok _ =>
    let selected := window.filter (satisfies (slaPair provider country))
    .ok (normalizeSlaRate (successRate selected))

end Query

end IPProxyPool
