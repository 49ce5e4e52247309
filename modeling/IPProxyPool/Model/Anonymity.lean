import IPProxyPool.Lib.TextSearch
import IPProxyPool.Model.FreePool
import IPProxyPool.Model.JsonValue

/-!
# The grade of an exit

`classify_anonymity` and the way in which `check_one` comes to it: the exit that the check service
reports, the headers that it echoes, and a canary. The answers of the service are inputs.
-/

namespace IPProxyPool
open RustText AssocTable

def disclosureHeaders : List String :=
  ["forwarded", "x-forwarded-for", "x-real-ip", "client-ip", "via", "proxy-connection",
    "x-proxy-id"]

def classifyAnonymity (baselineIp : String) (exitIp : Option String)
    (echoedHeaders : Table String String) : AnonLevel :=
  match exitIp with
  | none => .unknown
  | some exit =>
    if trimString exit = trimString baselineIp then .transparent
    else
      let base := trimString baselineIp
      let disclosed := echoedHeaders.entries.any (fun h =>
        disclosureHeaders.contains (toAsciiLowercase h.1) && contains h.2 base)
      if disclosed then .anonymous else .elite

def fullCheckMarker : String := "freepool-canary"

structure FullCheckResult where
  anon : AnonLevel
  exitIp : Option String
  fwdLatencyMs : Nat

/-- The headers with a text value. -/
def echoedHeaders (body : Json) : Table String String :=
  match (body.get "headers").bind Json.fields with
  | some map => map.entries.foldl (fun t h =>
      match h.2.asStr with
      | some s => t.insert h.1 s
      | none => t) ∅
  | none => ∅

/-- `check_one`. Each answer is `none` where the request fails or its body is no JSON; `elapsedMs`
is the time that the checks of the node took. -/
def checkOne (ipBody headersBody canaryBody : Option Json) (baselineIp : String)
    (elapsedMs : Nat) : Option FullCheckResult := do
  let ipBody ← ipBody
  let exit := (ipBody.get "origin").bind Json.asStr
  let headersBody ← headersBody
  let echoed := echoedHeaders headersBody
  let canaryBody ← canaryBody
  let canaryOk := ((canaryBody.get "url").bind Json.asStr).any (fun u => contains u fullCheckMarker)
  if canaryOk then
    some
      { anon := classifyAnonymity baselineIp exit echoed
        exitIp := exit
        fwdLatencyMs := elapsedMs }
  else none

end IPProxyPool
