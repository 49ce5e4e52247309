import IPProxyPool.Model.Router

/-!
# Circuit breaker

The reaction of `circuit_breaker.rs` to one telemetry event: some statuses quarantine the
address they were seen from, for a time that depends on the status. A quarantine is also sent to
the other instances, each of which applies the delta that it receives.
-/

namespace IPProxyPool
open RustText

/-- The fields of a telemetry event that the breaker reads. -/
structure TelemetryEvent where
  targetDomain : String
  outIp : String
  statusCode : Nat
  deriving DecidableEq, Repr

def quarantineTtlForStatus (status : Nat) : Option Nat :=
  match status with
  | 429 => some 60
  | 403 => some 600
  | 502 => some 30
  | 504 => some 30
  | _ => none

/-- An empty domain or address and the placeholder `none` are refused. -/
def validQuarantineTarget (domain ip : String) : Bool := domain ≠ "" && ip ≠ "" && ip ≠ "none"

namespace RouterEngine

/-- `apply_quarantine`, on the memory of this process. -/
def applyQuarantine (r : RouterEngine) (domain outIp : String) (ttlSecs : Nat) (now : Instant) :
    RouterEngine :=
  if validQuarantineTarget domain outIp then r.setQuarantine domain outIp ttlSecs now else r

/-- `process_entry`, for an entry whose fields all parse. -/
def processEntry (r : RouterEngine) (event : TelemetryEvent) (now : Instant) : RouterEngine :=
  match quarantineTtlForStatus event.statusCode with
  | some ttl =>
    if validQuarantineTarget event.targetDomain event.outIp then
      r.applyQuarantine event.targetDomain event.outIp ttl now
    else r
  | none => r

lemma processEntry_none (r : RouterEngine) (domain : String) (status : Nat) (now : Instant) :
    r.processEntry ⟨domain, "none", status⟩ now = r := by
  unfold processEntry
  dsimp only
  split
  · simp [validQuarantineTarget]
  · rfl

end RouterEngine

/-! ### Deltas -/

/-- `quarantine_delta_message`, the text that `apply_quarantine` publishes. -/
def quarantineDeltaMessage (domain outIp : String) (ttlSecs : Nat) : String :=
  "QUARANTINE|" ++ domain ++ "|" ++ outIp ++ "|" ++ toString ttlSecs

/-- `parse_delta_message`: exactly four parts, a ttl within its bounds and an acceptable target. -/
def parseDeltaMessage (payload : String) : Option (String × String × Nat) :=
  match split '|' payload with
  | [kind, domain, ip, ttl] =>
    if kind = "QUARANTINE" then
      (parseUnsigned (2 ^ 64) ttl).bind (fun t =>
        if 0 < t ∧ t ≤ quarantineMaxTtlSecs ∧ validQuarantineTarget domain ip ∧
            byteLen domain ≤ quarantineDomainMaxBytes then some (domain, ip, t)
        else none)
    else none
  | _ => none

namespace RouterEngine

/-- `apply_delta`; the returned flag says whether the delta was applied. -/
def applyDelta (r : RouterEngine) (payload : String) (now : Instant) : Bool × RouterEngine :=
  match parseDeltaMessage payload with
  | some (domain, ip, ttl) => (true, r.setQuarantine domain ip ttl now)
  | none => (false, r)

end RouterEngine

/-- The ways in which a quarantine reaches the table, each at an instant. -/
inductive QuarantineUpdate where
  | processEntry (event : TelemetryEvent) (now : Instant)
  | applyQuarantine (domain outIp : String) (ttlSecs : Nat) (now : Instant)
  | applyDelta (payload : String) (now : Instant)

namespace RouterEngine

def updateStep (r : RouterEngine) : QuarantineUpdate → RouterEngine
  | .processEntry event now => r.processEntry event now
  | .applyQuarantine domain outIp ttlSecs now => r.applyQuarantine domain outIp ttlSecs now
  | .applyDelta payload now => (r.applyDelta payload now).2

end RouterEngine

end IPProxyPool
